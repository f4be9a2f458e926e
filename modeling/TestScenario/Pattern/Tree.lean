import TestScenario.Pattern.Class

/-!
The structure of a pattern.

Trees are built in a simple form: sequences and alternatives do not contain sequences and alternatives directly, texts
next to each other are joined, a choice between single characters is a set, and what all alternatives begin with stands
before them.
-/

namespace TestScenario.Pattern
open TestScenario.Unicode

/-- A condition on a place between two characters. -/
inductive Anchor where
  | textStart
  | textEnd
  | lineStart
  | lineEnd
  /-- Like `lineStart`, where a carriage return and a newline end a line together. -/
  | returnLineStart
  | returnLineEnd
  | wordEdge (ascii : Bool)
  | noWordEdge (ascii : Bool)
  | wordStart (ascii : Bool)
  | wordEnd (ascii : Bool)
  | wordStartHalf (ascii : Bool)
  | wordEndHalf (ascii : Bool)
deriving DecidableEq, Repr

namespace Anchor

/-- Whether there is a word character. -/
def onWord (ascii : Bool) : Option Char → Bool
  | none => false
  | some c => if ascii then Class.asciiWord.contains c else Class.isWord c

/-- Whether the condition holds between two neighbours, either of which may be missing. -/
def holds (a : Anchor) (before after : Option Char) : Bool :=
  match a with
  | .textStart => before.isNone
  | .textEnd => after.isNone
  | .lineStart => before.isNone || before == some '\n'
  | .lineEnd => after.isNone || after == some '\n'
  | .returnLineStart => before.isNone || before == some '\n' || (before == some '\r' && after != some '\n')
  | .returnLineEnd => after.isNone || after == some '\r' || (after == some '\n' && before != some '\r')
  | .wordEdge ascii => onWord ascii before != onWord ascii after
  | .noWordEdge ascii => onWord ascii before == onWord ascii after
  | .wordStart ascii => !onWord ascii before && onWord ascii after
  | .wordEnd ascii => onWord ascii before && !onWord ascii after
  | .wordStartHalf ascii => !onWord ascii before
  | .wordEndHalf ascii => !onWord ascii after

end Anchor

/-- A pattern. -/
inductive Tree where
  | nothing
  | text (chars : List Char)
  | one (set : ScalarSet)
  | at (anchor : Anchor)
  /-- `eager` repetitions prefer one more round. -/
  | repeated (inner : Tree) (least : Nat) (most : Option Nat) (eager : Bool)
  | group (index : Nat) (inner : Tree)
  | seq (items : List Tree)
  /-- Earlier alternatives are preferred. -/
  | either (alternatives : List Tree)
deriving BEq, Repr

instance : Inhabited Tree := ⟨.nothing⟩

namespace Tree

/-- How many bytes a character takes. -/
def width (c : Char) : Nat := c.utf8Size

/-- The least of two lengths, if both are known. -/
def lesser : Option Nat → Option Nat → Option Nat
  | some a, some b => some (min a b)
  | _, _ => none

/-- The greatest of two lengths, if both are known. -/
def greater : Option Nat → Option Nat → Option Nat
  | some a, some b => some (max a b)
  | _, _ => none

/-- The sum of two lengths, if both are known. -/
def plus : Option Nat → Option Nat → Option Nat
  | some a, some b => some (a + b)
  | _, _ => none

mutual
/-- How many bytes a match has at least; `none` if there can be no match. -/
def least : Tree → Option Nat
  | .nothing => some 0
  | .text cs => some (cs.map width).sum
  | .one s => s.first?.map width
  | .at _ => some 0
  | .repeated t n _ _ => t.least.map (· * n)
  | .group _ t => t.least
  | .seq ts => leastOfAll ts
  | .either ts => leastOfAny ts
/-- The sum of the least lengths. -/
def leastOfAll : List Tree → Option Nat
  | [] => some 0
  | t :: ts => plus t.least (leastOfAll ts)
/-- The least of the least lengths. -/
def leastOfAny : List Tree → Option Nat
  | [] => none
  | [t] => t.least
  | t :: ts => lesser t.least (leastOfAny ts)
end

mutual
/-- How many bytes a match has at most; `none` if there is no bound. -/
def most : Tree → Option Nat
  | .nothing => some 0
  | .text cs => some (cs.map width).sum
  | .one s => s.last?.map width
  | .at _ => some 0
  | .repeated t _ n _ => n.bind fun n => t.most.map (· * n)
  | .group _ t => t.most
  | .seq ts => mostOfAll ts
  | .either ts => mostOfAny ts
/-- The sum of the greatest lengths. -/
def mostOfAll : List Tree → Option Nat
  | [] => some 0
  | t :: ts => plus t.most (mostOfAll ts)
/-- The greatest of the greatest lengths. -/
def mostOfAny : List Tree → Option Nat
  | [] => none
  | [t] => t.most
  | t :: ts => greater t.most (mostOfAny ts)
end

/-- The pattern of one character of a set. -/
def ofSet (s : ScalarSet) : Tree :=
  match s.only? with
  | some c => .text [c]
  | none => .one s

/-- A repeated pattern. Of a pattern that only matches nothing a second round says nothing new. -/
def ofRounds (t : Tree) (least : Nat) (most : Option Nat) (eager : Bool) : Tree :=
  let (least, most) := if t.most == some 0 then (min least 1, some (min (most.getD 1) 1)) else (least, most)
  if least == 0 && most == some 0 then .nothing
  else if least == 1 && most == some 1 then t
  else .repeated t least most eager

/-- An item put before the items after it; two texts are joined. -/
def consItem : Tree → List Tree → List Tree
  | .nothing, ts => ts
  | .text cs, .text ds :: ts => .text (cs ++ ds) :: ts
  | t, ts => t :: ts

/-- The items of a sequence with all sequences in it opened. -/
def flatItems : List Tree → List Tree
  | [] => []
  | .seq inner :: ts => inner.foldr consItem (flatItems ts)
  | t :: ts => consItem t (flatItems ts)

/-- The sequence of some patterns. -/
def ofItems (ts : List Tree) : Tree :=
  match flatItems ts with
  | [] => .nothing
  | [t] => t
  | items => .seq items

/-- Some alternatives with all alternatives in them opened. -/
def flatAlternatives : List Tree → List Tree
  | [] => []
  | .either inner :: ts => inner ++ flatAlternatives ts
  | t :: ts => t :: flatAlternatives ts

/-- The set of characters that a pattern of one character stands for. -/
def oneOf? : Tree → Option ScalarSet
  | .one s => some s
  | .text [c] => some (.single c)
  | _ => none

/-- The items of a sequence. -/
def items? : Tree → Option (List Tree)
  | .seq ts => some ts
  | _ => none

/-- What two lists begin with alike. -/
def commonStart : List Tree → List Tree → List Tree
  | a :: as, b :: bs => if a == b then a :: commonStart as bs else []
  | _, _ => []

/-- The choice between some alternatives. `fuel` bounds how often a common start is taken out. -/
def ofAlternatives : (fuel : Nat) → List Tree → Tree
  | fuel, ts =>
    match flatAlternatives ts with
    | [] => .one .empty
    | [t] => t
    | first :: others =>
      match (first :: others).mapM oneOf? with
      | some sets => ofSet (ScalarSet.unions sets)
      | none =>
        match fuel, (first :: others).mapM items? with
        | fuel + 1, some (items :: more) =>
          let start := more.foldl commonStart items
          if start.isEmpty then .either (first :: others)
          else
            let ends := (items :: more).map fun ts => ofItems (ts.drop start.length)
            ofItems (start ++ [ofAlternatives fuel ends])
        | _, _ => .either (first :: others)

/-- How often a common start can be taken out of some alternatives. -/
def startsIn (ts : List Tree) : Nat := ts.foldl (fun n t => n + (t.items?.map List.length).getD 1) 0

/-- The choice between some alternatives. -/
def choice (ts : List Tree) : Tree := ofAlternatives (startsIn ts + 1) ts

mutual
/-- The anchors that every match begins with, as far as they stand in front. -/
def front : Tree → List Anchor
  | .at a => [a]
  | .repeated t n _ _ => if n == 0 then [] else t.front
  | .group _ t => t.front
  | .seq ts => frontOfAll ts
  | .either ts => frontOfAny ts
  | _ => []
/-- The anchors in front of a sequence, up to its first item that can match a character. -/
def frontOfAll : List Tree → List Anchor
  | [] => []
  | t :: ts => if t.most == some 0 then t.front ++ frontOfAll ts else t.front
/-- The anchors in front of all alternatives. -/
def frontOfAny : List Tree → List Anchor
  | [] => []
  | [t] => t.front
  | t :: ts => t.front.filter (frontOfAny ts).contains
end

mutual
/-- The anchors that every match ends with, as far as they stand at the back. -/
def back : Tree → List Anchor
  | .at a => [a]
  | .repeated t n _ _ => if n == 0 then [] else t.back
  | .group _ t => t.back
  | .seq ts => (backOfAll ts).1
  | .either ts => backOfAny ts
  | _ => []
/-- The anchors at the back of a sequence after its last item that can match a character, and whether there is none. -/
def backOfAll : List Tree → List Anchor × Bool
  | [] => ([], true)
  | t :: ts =>
    let (anchors, isOpen) := backOfAll ts
    if isOpen then (t.back ++ anchors, t.most == some 0) else (anchors, false)
/-- The anchors at the back of all alternatives. -/
def backOfAny : List Tree → List Anchor
  | [] => []
  | [t] => t.back
  | t :: ts => t.back.filter (backOfAny ts).contains
end

end Tree
end TestScenario.Pattern
