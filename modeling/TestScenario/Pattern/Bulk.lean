import Std.Data.HashMap
import TestScenario.Pattern.ByteTree
import TestScenario.Pattern.Tree

/-!
How bulky a pattern is.

A pattern is followed byte by byte by an automaton whose size is bounded: forwards, to find where a match ends, and
backwards, to find where it begins. What is counted here is how much room the states of both take. Repetitions count
as often as they are written out. Within one set of characters equal states are shared as far as a table of fixed size
remembers them: of two states that fall into one slot of the table it keeps the later.
-/

namespace TestScenario.Pattern.Bulk

/-- The room that is allowed, in bytes. -/
def limit : Nat := 10 * 1024 * 1024

/-- The room of a state. -/
def stateSize : Nat := 32

/-- The additional room of a state for each range of bytes that it leads on with. -/
def rangeSize : Nat := 8

/-- The additional room of a state for each branch. -/
def branchSize : Nat := 4

/-- The states so far: how many, and their additional room. States are numbered in the order in which they are made. -/
structure Tally where
  states : Nat
  extra : Nat

namespace Tally

/-- The room of all states. -/
def size (t : Tally) : Nat := stateSize * t.states + t.extra

/-- More states. -/
def addStates (t : Tally) (n : Nat) : Tally := { t with states := t.states + n }

/-- A state that leads on with some ranges of bytes. -/
def addRanges (t : Tally) (n : Nat) : Tally := ⟨t.states + 1, t.extra + rangeSize * n⟩

/-- More branches of states. -/
def addBranches (t : Tally) (n : Nat) : Tally := { t with extra := t.extra + branchSize * n }

end Tally

/-- A part of an automaton: what it adds to the states, and whether it ends in a state with branches, so that going on
    from there takes one branch more. Nothing is added once there is no room left. -/
structure Part where
  add : Tally → Option Tally
  forks : Bool

namespace Part

/-- A fixed number of states. -/
def ofStates (n : Nat) : Part := ⟨fun t => some (t.addStates n), false⟩

/-- Going on from a part. -/
def joined (p : Part) (t : Tally) : Tally := if p.forks then t.addBranches 1 else t

/-- More is added if there is room. -/
def guard (t : Tally) : Option Tally := if t.size ≤ limit then some t else none

/-- A part after a part. -/
def followedBy (p q : Part) : Part :=
  ⟨fun t => do q.add (p.joined (← p.add t)), q.forks⟩

/-- Parts one after the other. -/
def inOrder : List Part → Part
  | [] => ofStates 1
  | [p] => p
  | p :: ps => p.followedBy (inOrder ps)

/-- Some rounds of a part, each joined to the next one. -/
def rounds (p : Part) : Nat → Tally → Option Tally
  | 0, t => some t
  | n + 1, t => do rounds p n (p.joined (← guard (← p.add t)))

/-- A fixed number of rounds. -/
def exactly (p : Part) : Nat → Part
  | 0 => ofStates 1
  | n + 1 => ⟨fun t => do p.add (← rounds p n t), p.forks⟩

/-- Rounds without a bound; `canBeEmpty` says whether a round can match nothing. -/
def atLeast (p : Part) (canBeEmpty : Bool) : Nat → Part
  | 0 =>
    if canBeEmpty then
      ⟨fun t => do
        let t ← p.add t
        some ((p.joined (t.addStates 3)).addBranches 4), false⟩
    else ⟨fun t => do some ((p.joined (← p.add (t.addStates 1))).addBranches 1), true⟩
  | 1 => ⟨fun t => do some ((p.joined ((← p.add t).addStates 1)).addBranches 1), true⟩
  | n + 2 =>
    ⟨fun t => do
      let first := p.exactly (n + 1)
      let t ← p.add (← first.add t)
      some ((p.joined (first.joined (t.addStates 1))).addBranches 1), true⟩

/-- Rounds each of which may be the last. -/
def upTo (p : Part) : Nat → Tally → Option Tally
  | 0, t => some t
  | n + 1, t => do
    let t ← p.add (t.addStates 1)
    upTo p n (p.joined (← guard (t.addBranches 2)))

/-- Rounds between two bounds. -/
def between (p : Part) (least most : Nat) : Part :=
  if least == 0 && most == 1 then
    ⟨fun t => do some ((p.joined ((← p.add (t.addStates 1)).addStates 1)).addBranches 2), false⟩
  else if least == most then p.exactly least
  else
    ⟨fun t => do
      let first := p.exactly least
      upTo p (most - least) (first.joined ((← first.add t).addStates 1)), false⟩

/-- The branches after the first two of a choice. -/
def moreBranches : List Part → Tally → Option Tally
  | [], t => some t
  | p :: ps, t => do moreBranches ps (p.joined ((← guard (← p.add t)).addBranches 1))

/-- A choice between parts. -/
def oneOf : List Part → Part
  | [] => ofStates 1
  | [p] => p
  | p :: q :: ps =>
    ⟨fun t => do
      let t ← q.add (← p.add t)
      moreBranches ps (q.joined (p.joined ((t.addStates 2).addBranches 2))), false⟩

end Part

/-- A number mixed into another one, by the method of Fowler, Noll and Vo. -/
def mix (h n : UInt64) : UInt64 := (h ^^^ n) * 1099511628211

/-- What mixing begins with. -/
def mixStart : UInt64 := 14695981039346656037

/-- A range of bytes and the state that it leads to. -/
structure Transition where
  range : ByteRange
  next : Nat
deriving DecidableEq

/-- States made so far, and those that a table remembers by what they lead to. -/
structure Shared (α : Type) where
  tally : Tally
  table : Std.HashMap UInt64 (α × Nat) := {}

namespace Shared

/-- The state remembered in a slot, or a new one that the slot remembers from now on. -/
def state {α : Type} [BEq α] (s : Shared α) (slot : UInt64) (key : α) (make : Tally → Tally) : Nat × Shared α :=
  let fresh : Nat × Shared α := (s.tally.states, ⟨make s.tally, s.table.insert slot (key, s.tally.states)⟩)
  match s.table[slot]? with
  | some (known, id) => if known == key then (id, s) else fresh
  | none => fresh

end Shared

/-- The slot of a state with some transitions. -/
def slotOf (ts : List Transition) : UInt64 :=
  ts.foldl (fun h t => mix (mix (mix h t.range.first.toUInt64) t.range.last.toUInt64) t.next.toUInt64) mixStart % 10000

mutual
/-- The states of a tree of bytes before a state. -/
def shareTree (target : Nat) : ByteTree → Shared (List Transition) → Nat × Shared (List Transition)
  | .stop, s => (target, s)
  | .branch edges, s =>
    let (ts, s) := shareEdges target edges s
    s.state (slotOf ts) ts (·.addRanges ts.length)
/-- The transitions of a state of a tree of bytes. -/
def shareEdges (target : Nat) : List (ByteRange × ByteTree) → Shared (List Transition) →
    List Transition × Shared (List Transition)
  | [], s => ([], s)
  | (range, inner) :: edges, s =>
    let (next, s) := shareTree target inner s
    let (ts, s) := shareEdges target edges s
    (⟨range, next⟩ :: ts, s)
end

/-- The states of one sequence of bytes, read from its last byte, and the state that it is entered by. -/
def shareBytes : List ByteRange → (next : Nat) → Shared Transition → Nat × Shared Transition
  | [], next, s => (next, s)
  | range :: rest, next, s =>
    let slot := mix (mix (mix mixStart next.toUInt64) range.first.toUInt64) range.last.toUInt64 % 1000
    let (next, s) := s.state slot ⟨range, next⟩ (·.addStates 1)
    shareBytes rest next s

/-- The part of a set of characters. -/
def ofSet (backwards : Bool) (s : Unicode.ScalarSet) : Part :=
  if s.isAscii then ⟨fun t => some ((t.addStates 1).addRanges s.ranges.length), false⟩
  else if backwards then
    let seqs := ByteRange.ofSet s
    let branches := seqs.length
    ⟨fun t =>
      let start : Shared Transition := { tally := t.addStates 2 }
      some ((seqs.foldl (fun shared seq => (shareBytes seq (t.states + 1) shared).2) start).tally.addBranches branches),
      false⟩
  else
    let tree := ByteTree.ofSet s
    ⟨fun t => some (shareTree t.states tree { tally := t.addStates 1 }).2.tally, false⟩

/-- The bytes of a text. -/
def bytesOf (cs : List Char) : List UInt8 := cs.flatMap String.utf8EncodeChar

/-- What follows the same byte in some texts that begin with it. -/
abbrev Following := List (UInt8 × List (List UInt8))

/-- A text entered among those that begin with its first byte. -/
def Following.enter (b : UInt8) (rest : List UInt8) : Following → Following
  | [] => [(b, [rest])]
  | (c, rests) :: more => if b == c then (c, rest :: rests) :: more else (c, rests) :: Following.enter b rest more

/-- Texts up to each one that ends here: what follows each byte in them, latest text first. A text that ends here
    again counts only if some text goes on: `ended` says whether a text has ended, `bare` whether none has gone on. -/
def stretches (current : Following) (ended bare : Bool) : List (List UInt8) → List Following
  | [] => [current]
  | [] :: texts => if ended && bare then stretches current ended bare texts else current :: stretches [] true bare texts
  | (b :: rest) :: texts => stretches (Following.enter b rest current) ended false texts

/-- The states of a tree of texts, given in order of preference: texts that begin alike share their beginnings, unless
    a shorter one of them ends in between. -/
def addTexts : (fuel : Nat) → List (List UInt8) → Tally → Tally
  | 0, _, t => t
  | fuel + 1, texts, t =>
    let parts := stretches [] false true texts
    let used := parts.filter (!·.isEmpty)
    if used.isEmpty then t
    else
      let t := used.foldl (fun t part =>
        let t := part.foldl (fun t (_, rests) => addTexts fuel rests.reverse t) t
        if part.length == 1 then t.addStates 1 else t.addRanges part.length) t
      (t.addStates 1).addBranches (used.length + parts.length - 1)

/-- The part of a choice between texts. -/
def ofTexts (backwards : Bool) (texts : List (List Char)) : Part :=
  let bytes := texts.map fun cs => if backwards then (bytesOf cs).reverse else bytesOf cs
  let fuel := (bytes.map List.length).foldl max 0 + 1
  ⟨fun t => some (addTexts fuel bytes (t.addStates 1)), false⟩

/-- The text of a tree that is a text. -/
def text? : Tree → Option (List Char)
  | .text cs => some cs
  | _ => none

mutual
/-- The part of a tree. -/
def ofTree (backwards : Bool) : Tree → Part
  | .nothing => .ofStates 1
  | .text cs => .ofStates (bytesOf cs).length
  | .one s => ofSet backwards s
  | .at _ => .ofStates 1
  | .group _ t =>
    let p := ofTree backwards t
    if backwards then p else ⟨fun t => do some ((p.joined (← p.add (t.addStates 1))).addStates 1), false⟩
  | .seq ts =>
    let parts := ofTrees backwards ts
    .inOrder (if backwards then parts.reverse else parts)
  | .either ts =>
    match ts.mapM text? with
    | some texts => ofTexts backwards texts
    | none => .oneOf (ofTrees backwards ts)
  | .repeated t least none _ => (ofTree backwards t).atLeast (t.least.getD 0 == 0) least
  | .repeated t least (some most) _ => (ofTree backwards t).between least most
/-- The parts of some trees. -/
def ofTrees (backwards : Bool) : List Tree → List Part
  | [] => []
  | t :: ts => ofTree backwards t :: ofTrees backwards ts
end

/-- The automaton of a tree. Before the tree it skips any bytes, unless every match begins, or backwards ends, at the
    end of the text where reading begins. Forwards the match as a whole is a group. -/
def whole (backwards : Bool) (tree : Tree) : Option Tally := do
  let anchored := if backwards then tree.back.contains .textEnd else tree.front.contains .textStart
  let start : Tally := ⟨0, 0⟩
  let t := if anchored then start.addStates 1 else ((start.addStates 2).addRanges 1).addBranches 2
  let p := ofTree backwards (.group 0 tree)
  Part.guard (p.joined ((← p.add t).addStates 1))

/-- Whether there is room for a pattern. -/
def fits (tree : Tree) : Bool := (whole false tree).isSome && (whole true tree).isSome

end TestScenario.Pattern.Bulk
