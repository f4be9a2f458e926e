import TestScenario.Decimal.Bounds

/-!
Labels of domain names outside ASCII, written in ASCII and read again by the bootstring algorithm.
-/

namespace TestScenario.Url.Punycode

/-- A digit in base 36, letters first. -/
def digit (d : Nat) : Char := Char.ofNat (if d < 26 then 0x61 + d else 0x30 + d - 26)

/-- The threshold of the digit at a position. -/
def threshold (k bias : Nat) : Nat := if k ≤ bias then 1 else if bias + 26 ≤ k then 26 else k - bias

/-- The part of the bias that shrinks a large difference. -/
def shrink (delta k : Nat) : Nat × Nat := if 455 < delta then shrink (delta / 35) (k + 36) else (delta, k)
termination_by delta
decreasing_by exact Nat.div_lt_self (by omega) (by omega)

/-- The bias after a difference has been written. -/
def adapt (delta count : Nat) (first : Bool) : Nat :=
  let delta := if first then delta / 700 else delta / 2
  let (delta, k) := shrink (delta + delta / count) 0
  k + 36 * delta / (delta + 38)

/-- A difference as digits. -/
def digits (bias k q : Nat) : List Char :=
  let t := threshold k bias
  if q < t then [digit q] else digit (t + (q - t) % (36 - t)) :: digits bias (k + 36) ((q - t) / (36 - t))
termination_by q
decreasing_by
  have h : 1 ≤ threshold k bias := by
    unfold threshold
    split
    · omega
    · split <;> omega
  exact Nat.lt_of_le_of_lt (Nat.div_le_self _ _) (by omega)

/-- How far the writing has come. -/
structure Progress where
  written : List Char
  delta : Nat := 0
  bias : Nat := 72
  handled : Nat

/-- One character of the label, when the characters of code point `point` are due. -/
def visit (basic point : Nat) (p : Progress) (c : Char) : Progress :=
  if c.toNat < point then { p with delta := p.delta + 1 }
  else if c.toNat == point then
    { written := p.written ++ digits p.bias 36 p.delta
      delta := 0
      bias := adapt p.delta (p.handled + 1) (p.handled == basic)
      handled := p.handled + 1 }
  else p

/-- The characters outside ASCII, one code point after the other in ascending order. -/
def rounds (label : List Char) (basic : Nat) : List Nat → Nat → Progress → Progress
  | [], _, p => p
  | point :: rest, earlier, p =>
    let p := { p with delta := p.delta + (point - earlier) * (p.handled + 1) }
    let p := label.foldl (visit basic point) p
    rounds label basic rest (point + 1) { p with delta := p.delta + 1 }

/-- A label in ASCII. -/
def encode (label : List Char) : List Char :=
  let basic := label.filter (·.toNat < 0x80)
  let points := ((label.map Char.toNat).filter (0x80 ≤ ·)).mergeSort.eraseDups
  let start := if basic.isEmpty then [] else basic ++ ['-']
  (rounds label basic.length points 0x80 { written := start, handled := basic.length }).written

/-- The value of a digit in base 36. -/
def digitValue (c : Char) : Option Nat :=
  if 'a' ≤ c && c ≤ 'z' then some (c.toNat - 0x61)
  else if 'A' ≤ c && c ≤ 'Z' then some (c.toNat - 0x41)
  else if '0' ≤ c && c ≤ '9' then some (c.toNat - 0x30 + 26)
  else none

/-- How far the reading has come: the characters that are there, the code point that is due, the place where the
    character before was put, the bias, and of the difference that is being read the sum, the weight of its next digit
    and that digit's position. -/
structure Insertion where
  written : List Char
  point : Nat := 0x80
  place : Nat := 0
  bias : Nat := 72
  sum : Nat := 0
  weight : Nat := 1
  position : Nat := 36

namespace Insertion

/-- Whether no difference has been begun. -/
def isBetween (s : Insertion) : Bool := s.position == 36

/-- A character inserted where the difference that has been read tells. -/
def insert (s : Insertion) : Option Insertion :=
  let count := s.written.length + 1
  let point := s.point + s.sum / count
  let index := s.sum % count
  if point.isValidChar then
    some { written := s.written.insertIdx index (Char.ofNat point)
           point
           place := index + 1
           bias := adapt (s.sum - s.place) count (s.place == 0)
           sum := index + 1 }
  else none

/-- One more digit. Numbers are bounded by 32 bits. -/
def read (s : Insertion) (c : Char) : Option Insertion := do
  let d ← digitValue c
  let t := threshold s.position s.bias
  let sum := s.sum + d * s.weight
  let weight := s.weight * (36 - t)
  if Decimal.uint32Size ≤ sum then none
  else if d < t then insert { s with sum }
  else if Decimal.uint32Size ≤ weight then none
  else some { s with sum, weight, position := s.position + 36 }

end Insertion

/-- The characters of ASCII in front of the last hyphen, and the digits behind it. A hyphen in front of all is no such
    hyphen. -/
def splitBasic (text : List Char) : List Char × List Char :=
  let digits := (text.reverse.takeWhile (· != '-')).reverse
  let basic := text.take (text.length - digits.length - 1)
  if basic.isEmpty then ([], text) else (basic, digits)

/-- The label that a text in ASCII stands for. -/
def decode (text : List Char) : Option (List Char) := do
  let (basic, digits) := splitBasic text
  let s ← digits.foldlM Insertion.read { written := basic }
  if s.isBetween then some s.written else none

end TestScenario.Url.Punycode
