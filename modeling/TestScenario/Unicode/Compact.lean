import TestScenario.Unicode.ScalarSet

/-!
Tables of character data as text.

A number is written in base 26: capital letters are its leading digits, a small letter is its last one. A set is
written as the distances between its bounds, a partition of all characters as the lengths and the labels of its
stretches, and what code points stand for as entries of single code points and of runs of them.
-/

namespace TestScenario.Unicode.Compact

/-- The numbers of a text, latest first; `done` has been read of the next one. -/
def readNumbers (read : List Nat) (done : Nat) : List Char → List Nat
  | [] => read
  | c :: rest =>
    if 'a' ≤ c && c ≤ 'z' then readNumbers ((26 * done + (c.toNat - 97)) :: read) 0 rest
    else if 'A' ≤ c && c ≤ 'Z' then readNumbers read (26 * done + (c.toNat - 65)) rest
    else readNumbers read done rest

/-- The numbers of a text; other characters than letters only separate lines. -/
def numbers (text : String) : List Nat := (readNumbers [] 0 text.toList).reverse

/-- The sums of ever more of the numbers. -/
def sums (sum : Nat) : List Nat → List Nat
  | [] => []
  | n :: rest => (sum + n) :: sums (sum + n) rest

/-- A set from its text. -/
def set (text : String) : ScalarSet := ⟨sums 0 (numbers text)⟩

/-- A stretch of characters with one label: its first place, the place after it, and the label. -/
structure Stretch where
  start : Nat
  stop : Nat
  label : Nat
deriving DecidableEq, Repr

/-- The stretches of a partition from a place on. -/
def stretches (start : Nat) : List Nat → List Stretch
  | length :: label :: rest => ⟨start, start + length, label⟩ :: stretches (start + length) rest
  | _ => []

/-- A partition from its text. -/
def partition (text : String) : List Stretch := stretches 0 (numbers text)

/-- The bounds of the stretches that pass, given ascending stretches. -/
def passingBounds (test : Nat → Bool) : List Stretch → List Nat
  | [] => []
  | s :: rest =>
    let others := passingBounds test rest
    if test s.label then
      match others with
      | [] => [s.start, s.stop]
      | b :: bs => if b == s.stop then s.start :: bs else s.start :: s.stop :: b :: bs
    else others

/-- The characters whose label passes. -/
def labelled (parts : List Stretch) (test : Nat → Bool) : ScalarSet := ⟨passingBounds test parts⟩

/-- The label of a place. -/
def labelAt (parts : List Stretch) (n : Nat) : Nat :=
  match parts.find? (n < ·.stop) with
  | some s => if s.start ≤ n then s.label else 0
  | none => 0

/-- Code points at a fixed step from each other, and what they stand for: a single one for some targets, or each of
    several for one target, a fixed step behind that of the code point before. -/
structure Entry where
  first : Nat
  count : Nat
  step : Nat
  targets : List Nat
  targetStep : Nat
deriving DecidableEq, Repr

/-- Entries from the numbers that write them: the distance from the first code point of the entry before, and then how
    many targets there are and the targets, or a zero, the count, both steps, and the first target. -/
def readEntries (last : Nat) : (fuel : Nat) → List Nat → List Entry
  | fuel + 1, d :: 0 :: count :: step :: targetStep :: target :: rest =>
    ⟨last + d, count, step, [target], targetStep⟩ :: readEntries (last + d) fuel rest
  | fuel + 1, d :: size :: rest => ⟨last + d, 1, 1, rest.take size, 0⟩ :: readEntries (last + d) fuel (rest.drop size)
  | _, _ => []

/-- Entries from their text. -/
def entries (text : String) : List Entry :=
  let ns := numbers text
  readEntries 0 ns.length ns

/-- What a code point stands for, if an entry says so. -/
def lookup (es : List Entry) (n : Nat) : Option (List Nat) :=
  (es.find? fun e => e.first ≤ n && n < e.first + e.count * e.step && (n - e.first) % e.step == 0).map fun e =>
    e.targets.map (· + (n - e.first) / e.step * e.targetStep)

end TestScenario.Unicode.Compact
