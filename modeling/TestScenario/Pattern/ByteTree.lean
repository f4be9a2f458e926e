import TestScenario.Unicode.ScalarSet

/-!
Sets of characters as bytes.

The characters of a set are encoded by sequences of one to four bytes. A stretch of characters is cut until each part is
encoded by all sequences of bytes from given ranges; the parts share their beginnings in a tree.
-/

namespace TestScenario.Pattern
open TestScenario.Unicode

/-- The bytes from one to another, both included. -/
structure ByteRange where
  first : UInt8
  last : UInt8
deriving DecidableEq, Repr

namespace ByteRange

/-- Where a stretch of code points is cut for its parts to be encoded alike: the end of the first part and the start
    of the second one. Cuts are made at the gap of the surrogates, where encodings grow longer, and where only a part
    of the bytes that may follow a byte do follow it. -/
def cut? (a b : Nat) : Option (Nat × Nat) :=
  if a < 0xE000 && 0xD7FF < b then some (0xD7FF, 0xE000)
  else
    match [0x7F, 0x7FF, 0xFFFF].find? fun limit => a ≤ limit && limit < b with
    | some limit => some (limit, limit + 1)
    | none =>
      if b ≤ 0x7F then none
      else [0x40, 0x1000, 0x40000].findSome? fun block =>
        if a / block == b / block then none
        else if a % block != 0 then some (a / block * block + block - 1, a / block * block + block)
        else if b % block != block - 1 then some (b / block * block - 1, b / block * block)
        else none

/-- The ranges of the bytes from the first encoding to the last one. -/
def ofEncodings (a b : Nat) : List ByteRange :=
  (String.utf8EncodeChar (Char.ofNat a)).zipWith ByteRange.mk (String.utf8EncodeChar (Char.ofNat b))

/-- The sequences of ranges that encode a stretch of code points. `fuel` bounds how often a part is cut again. -/
def sequences : (fuel : Nat) → (a b : Nat) → List (List ByteRange)
  | 0, a, b => [ofEncodings a b]
  | fuel + 1, a, b =>
    match cut? a b with
    | none => [ofEncodings a b]
    | some (stop, start) => sequences fuel a stop ++ sequences fuel start b

/-- How often a part of a stretch can be cut again. -/
def deepestCut : Nat := 32

/-- The sequences of ranges that encode a set. -/
def ofSet (s : ScalarSet) : List (List ByteRange) :=
  s.ranges.flatMap fun (a, b) => sequences deepestCut (codeAt a) (codeAt b)

end ByteRange

/-- Sequences of ranges that share their beginnings. -/
inductive ByteTree where
  | stop
  | branch (edges : List (ByteRange × ByteTree))

namespace ByteTree

instance : Inhabited ByteTree := ⟨.stop⟩

/-- The tree of some sequences in order: neighbours that begin with one range share it. -/
def ofSequences : (depth : Nat) → List (List ByteRange) → ByteTree
  | 0, _ => .stop
  | depth + 1, seqs =>
    let runs := (seqs.filterMap fun
      | [] => none
      | r :: rest => some (r, rest)).splitBy fun a b => a.1 == b.1
    match runs with
    | [] => .stop
    | _ => .branch (runs.filterMap fun
      | [] => none
      | (r, rest) :: more => some (r, ofSequences depth (rest :: more.map Prod.snd)))

/-- The tree of a set. -/
def ofSet (s : ScalarSet) : ByteTree := ofSequences 5 (ByteRange.ofSet s)

end ByteTree
end TestScenario.Pattern
