import TestScenario.Pattern.Tree

/-!
Patterns as steps.

A program is a list of numbered steps. A way through the pattern goes from step to step; where it forks, the branch that
comes first is preferred. Every step stands before the step that it leads to is reached, so that a program is assembled
from its end: a tree is laid out before a step that is known already.
-/

namespace TestScenario.Pattern

/-- One step of a way through a pattern. -/
inductive Step where
  /-- A character of a set is read. -/
  | read (set : Unicode.ScalarSet) (next : Nat)
  /-- A condition on the place in the text. -/
  | look (anchor : Anchor) (next : Nat)
  /-- A group begins or ends: even slots begin and odd ones end a group. -/
  | mark (slot next : Nat)
  /-- Earlier branches are preferred. -/
  | fork (branches : List Nat)
  /-- The pattern has matched. -/
  | accept
deriving Repr

instance : Inhabited Step := ⟨.accept⟩

/-- How many steps can follow directly. -/
def Step.degree : Step → Nat
  | .fork branches => branches.length
  | .accept => 0
  | _ => 1

namespace Program

/-- Steps laid out so far. -/
abbrev Steps := Array Step

/-- One more step, and its number. -/
def add (s : Step) (steps : Steps) : Nat × Steps := (steps.size, steps.push s)

/-- A fork between one more round and what follows. -/
def choose (eager : Bool) (round next : Nat) : Step := .fork (if eager then [round, next] else [next, round])

/-- A text before a step. -/
def addText : List Char → (next : Nat) → Steps → Nat × Steps
  | [], next, steps => (next, steps)
  | c :: cs, next, steps =>
    let (next, steps) := addText cs next steps
    add (.read (.single c) next) steps

/-- Some rounds before a step. -/
def addRounds (body : Nat → Steps → Nat × Steps) : (count : Nat) → (next : Nat) → Steps → Nat × Steps
  | 0, next, steps => (next, steps)
  | count + 1, next, steps =>
    let (next, steps) := body next steps
    addRounds body count next steps

/-- Rounds before `next` of which each may be the last: any round that is left out leads to `stop`. -/
def addOptional (body : Nat → Steps → Nat × Steps) (eager : Bool) (stop : Nat) :
    (count : Nat) → (next : Nat) → Steps → Nat × Steps
  | 0, next, steps => (next, steps)
  | count + 1, next, steps =>
    let (round, steps) := body next steps
    let (next, steps) := add (choose eager round stop) steps
    addOptional body eager stop count next steps

/-- At least one round before a step; the fork behind a round leads to the next one. Returned are the first round and
    the fork. -/
def addLoop (body : Nat → Steps → Nat × Steps) (eager : Bool) (next : Nat) (steps : Steps) : (Nat × Nat) × Steps :=
  let (fork, steps) := add .accept steps
  let (round, steps) := body fork steps
  ((round, fork), steps.setIfInBounds fork (choose eager round next))

mutual
/-- A tree before a step. A loop over what can match nothing is entered by a fork of its own, so that a round that
    reads nothing ends the loop. -/
def addTree : Tree → (next : Nat) → Steps → Nat × Steps
  | .nothing, next, steps => (next, steps)
  | .text cs, next, steps => addText cs next steps
  | .one set, next, steps => add (.read set next) steps
  | .at a, next, steps => add (.look a next) steps
  | .group index t, next, steps =>
    let (next, steps) := add (.mark (2 * index + 1) next) steps
    let (next, steps) := addTree t next steps
    add (.mark (2 * index) next) steps
  | .seq ts, next, steps => addSeq ts next steps
  | .either ts, next, steps =>
    let (branches, steps) := addBranches ts next steps
    add (.fork branches) steps
  | .repeated t least (some most) eager, next, steps =>
    let (first, steps) := addOptional (addTree t) eager next (most - least) next steps
    addRounds (addTree t) least first steps
  | .repeated t 0 none eager, next, steps =>
    let ((round, fork), steps) := addLoop (addTree t) eager next steps
    if t.least.getD 0 > 0 then (fork, steps) else add (choose eager round next) steps
  | .repeated t (least + 1) none eager, next, steps =>
    let ((round, _), steps) := addLoop (addTree t) eager next steps
    addRounds (addTree t) least round steps
/-- Trees one after the other before a step. -/
def addSeq : List Tree → (next : Nat) → Steps → Nat × Steps
  | [], next, steps => (next, steps)
  | t :: ts, next, steps =>
    let (next, steps) := addSeq ts next steps
    addTree t next steps
/-- Trees side by side before a step. -/
def addBranches : List Tree → (next : Nat) → Steps → List Nat × Steps
  | [], _, steps => ([], steps)
  | t :: ts, next, steps =>
    let (first, steps) := addTree t next steps
    let (others, steps) := addBranches ts next steps
    (first :: others, steps)
end

end Program

/-- A pattern as steps. -/
structure Program where
  steps : Array Step
  /-- The step that every way begins with. -/
  entry : Nat
  /-- How many connections there are between the steps. -/
  edges : Nat

/-- The program of a tree; the match as a whole is group 0. -/
def Program.ofTree (t : Tree) : Program :=
  let (stop, steps) := add .accept #[]
  let (entry, steps) := addTree (.group 0 t) stop steps
  ⟨steps, entry, steps.foldl (fun n s => n + s.degree) 0⟩

end TestScenario.Pattern
