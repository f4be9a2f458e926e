import TestScenario.Pattern.Bulk
import TestScenario.Pattern.Program
import TestScenario.Pattern.Reader

/-!
Searching a text for a pattern.

All ways to match are followed side by side, in order of preference, one character at a time. Of two ways that meet at
one step between the same characters only the preferred one is followed further. Thus every character costs at most as
much as the program has steps and connections.
-/

namespace TestScenario.Pattern

/-- Where the groups that have been met begin and end, latest first, by slot. -/
abbrev Marks := List (Nat × Nat)

/-- A way that has reached a step. -/
structure Way where
  step : Nat
  marks : Marks

/-- A way that waits for a character. -/
structure Waiting where
  set : Unicode.ScalarSet
  way : Way

/-- A place in the text: its number, and the characters on both sides. -/
structure Spot where
  index : Nat
  before : Option Char
  after : Option Char

/-- What the ways at one place have come to. -/
structure Frontier where
  /-- For every step the number, counted from one, of the last place where a way has reached it. -/
  seen : Array Nat
  /-- The ways that wait, latest first. -/
  waiting : List Waiting
  /-- The groups of the way that has matched. -/
  found : Option Marks

namespace Frontier

/-- Whether a way has reached a step at a place. -/
def hasSeen (f : Frontier) (spot : Spot) (step : Nat) : Bool := f.seen[step]? == some (spot.index + 1)

/-- A step reached. -/
def see (f : Frontier) (spot : Spot) (step : Nat) : Frontier :=
  { f with seen := f.seen.setIfInBounds step (spot.index + 1) }

/-- One more way that waits. -/
def wait (f : Frontier) (set : Unicode.ScalarSet) (way : Way) : Frontier :=
  { f with waiting := ⟨set, way⟩ :: f.waiting }

end Frontier

/-- The ways on a stack followed up to the next character, the first one first. A way that has matched ends the search
    among the less preferred ones. -/
def explore (p : Program) (spot : Spot) : (fuel : Nat) → List Way → Frontier → Frontier
  | 0, _, f => f
  | _, [], f => f
  | fuel + 1, way :: stack, f =>
    if f.hasSeen spot way.step then explore p spot fuel stack f
    else
      let f := f.see spot way.step
      match p.steps[way.step]? with
      | none => explore p spot fuel stack f
      | some (.read set next) => explore p spot fuel stack (f.wait set ⟨next, way.marks⟩)
      | some (.look a next) =>
        if a.holds spot.before spot.after then explore p spot fuel (⟨next, way.marks⟩ :: stack) f
        else explore p spot fuel stack f
      | some (.mark slot next) => explore p spot fuel (⟨next, (slot, spot.index) :: way.marks⟩ :: stack) f
      | some (.fork branches) => explore p spot fuel (branches.map (⟨·, way.marks⟩) ++ stack) f
      | some .accept => { f with found := some way.marks }

/-- The ways that go on over a character, the preferred ones first. -/
def advance (waiting : List Waiting) (c : Char) : List Way :=
  waiting.foldl (fun ways w => if w.set.contains c then w.way :: ways else ways) []

/-- One place of the text. The ways that have arrived are followed, and then a new one, unless there is a match that
    began earlier. -/
def visit (p : Program) (spot : Spot) (ways : List Way) (f : Frontier) : Frontier :=
  let stack := if f.found.isNone then ways ++ [⟨p.entry, []⟩] else ways
  explore p spot (p.edges + stack.length + 1) stack f

/-- The search from a place on. -/
def searchFrom (p : Program) (index : Nat) (before : Option Char) (ways : List Way) (f : Frontier) :
    List Char → Frontier
  | [] => visit p ⟨index, before, none⟩ ways f
  | c :: rest =>
    let f := visit p ⟨index, before, some c⟩ ways f
    if f.found.isSome && f.waiting.isEmpty then f
    else searchFrom p (index + 1) (some c) (advance f.waiting c) { f with waiting := [] } rest

end Pattern

/-- A pattern to search for. -/
structure Pattern where
  groups : Nat
  program : Pattern.Program

namespace Pattern

/-- The pattern of a text, if it is well-formed and not too bulky. -/
def ofText (text : String) : Option Pattern := do
  let (tree, groups) ← Tree.ofText text
  if Bulk.fits tree then some ⟨groups, Program.ofTree tree⟩ else none

/-- Where the groups of the first match are; group 0 is the whole match. -/
def find (p : Pattern) (text : String) : Option Marks :=
  (searchFrom p.program 0 none [] ⟨.replicate p.program.steps.size 0, [], none⟩ text.toList).found

/-- Whether the pattern occurs in a text. -/
def isIn (p : Pattern) (text : String) : Bool := (p.find text).isSome

/-- The text of a group in the first match. -/
def group? (p : Pattern) (text : String) (index : Nat) : Option String := do
  let marks ← p.find text
  let stop ← marks.lookup (2 * index + 1)
  let start ← marks.lookup (2 * index)
  some (String.ofList ((text.toList.drop start).take (stop - start)))

end Pattern
end TestScenario
