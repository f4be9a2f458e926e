/-!
Sets of characters.

Characters are counted without the gap of the surrogates, so that the places of all characters are consecutive. A set
is the ascending list of the places where membership changes: the first bound begins a stretch inside the set, the
second ends it, and so on. Every operation on sets is one walk along two such lists.
-/

namespace TestScenario.Unicode

/-- How many characters there are. -/
def count : Nat := 0x10F800

/-- The place of a code point among the characters. -/
def placeOf (n : Nat) : Nat := if n < 0xE000 then n else n - 0x800

/-- The code point at a place. -/
def codeAt (n : Nat) : Nat := if n < 0xD800 then n else n + 0x800

/-- The place of a character. -/
def place (c : Char) : Nat := placeOf c.toNat

/-- A set of characters. -/
structure ScalarSet where
  bounds : List Nat
deriving DecidableEq, Repr

namespace ScalarSet

/-- The set of no character. -/
def empty : ScalarSet := ⟨[]⟩

/-- The set of all characters. -/
def all : ScalarSet := ⟨[0, count]⟩

/-- The characters from one place to another, both included. -/
def range (first last : Nat) : ScalarSet := if first ≤ last then ⟨[first, last + 1]⟩ else empty

/-- The set of one character. -/
def single (c : Char) : ScalarSet := range (place c) (place c)

/-- The characters from one to another, both included. -/
def between (first last : Char) : ScalarSet := range (place first) (place last)

/-- Whether a place is in the set whose remaining bounds are given; `inside` says whether the place before them is. -/
def holds (inside : Bool) (n : Nat) : List Nat → Bool
  | [] => inside
  | b :: bs => if b ≤ n then holds (!inside) n bs else inside

/-- Whether a character is in a set. -/
def contains (s : ScalarSet) (c : Char) : Bool := holds false (place c) s.bounds

/-- The bounds of what `f` makes of two sets, given their remaining bounds and whether the place before is in each. -/
def mergeBounds (f : Bool → Bool → Bool) (inA inB : Bool) : List Nat → List Nat → List Nat
  | [], [] => []
  | a :: as, [] =>
    let rest := mergeBounds f (!inA) inB as []
    if f inA inB == f (!inA) inB then rest else a :: rest
  | [], b :: bs =>
    let rest := mergeBounds f inA (!inB) [] bs
    if f inA inB == f inA (!inB) then rest else b :: rest
  | a :: as, b :: bs =>
    if a < b then
      let rest := mergeBounds f (!inA) inB as (b :: bs)
      if f inA inB == f (!inA) inB then rest else a :: rest
    else if b < a then
      let rest := mergeBounds f inA (!inB) (a :: as) bs
      if f inA inB == f inA (!inB) then rest else b :: rest
    else
      let rest := mergeBounds f (!inA) (!inB) as bs
      if f inA inB == f (!inA) (!inB) then rest else a :: rest
termination_by as bs => as.length + bs.length

/-- The characters in either set. -/
def union (s t : ScalarSet) : ScalarSet := ⟨mergeBounds (· || ·) false false s.bounds t.bounds⟩

/-- The characters in both sets. -/
def inter (s t : ScalarSet) : ScalarSet := ⟨mergeBounds (· && ·) false false s.bounds t.bounds⟩

/-- The characters in the first set and not in the second. -/
def diff (s t : ScalarSet) : ScalarSet := ⟨mergeBounds (fun a b => a && !b) false false s.bounds t.bounds⟩

/-- The characters in exactly one of the sets. -/
def either (s t : ScalarSet) : ScalarSet := ⟨mergeBounds (fun a b => a != b) false false s.bounds t.bounds⟩

/-- The characters that are not in a set. -/
def compl (s : ScalarSet) : ScalarSet := all.diff s

/-- The union of several sets. -/
def unions (sets : List ScalarSet) : ScalarSet := sets.foldl union empty

/-- The bounds of the set of ascending places. -/
def pointBounds : List Nat → List Nat
  | [] => []
  | n :: rest =>
    match pointBounds rest with
    | [] => [n, n + 1]
    | b :: bs => if b == n then b :: bs else if b == n + 1 then n :: bs else n :: (n + 1) :: b :: bs

/-- The set of the characters at some places. -/
def ofPlaces (places : List Nat) : ScalarSet := ⟨pointBounds (places.mergeSort fun a b => a ≤ b)⟩

/-- The set of some characters. -/
def ofChars (cs : List Char) : ScalarSet := ofPlaces (cs.map place)

/-- The stretches of a list of bounds: first and last place of each. -/
def pairs : List Nat → List (Nat × Nat)
  | a :: b :: rest => (a, b - 1) :: pairs rest
  | _ => []

/-- The stretches of a set. -/
def ranges (s : ScalarSet) : List (Nat × Nat) := pairs s.bounds

/-- Whether no character is in a set. -/
def isEmpty (s : ScalarSet) : Bool := s.bounds.isEmpty

/-- The only character of a set, if there is exactly one. -/
def only? (s : ScalarSet) : Option Char :=
  match s.bounds with
  | [a, b] => if b == a + 1 then some (Char.ofNat (codeAt a)) else none
  | _ => none

/-- Whether all characters of a set are in ASCII. -/
def isAscii (s : ScalarSet) : Bool := s.bounds.all (· ≤ 128)

/-- The first character of a set. -/
def first? (s : ScalarSet) : Option Char := s.bounds.head?.map fun n => Char.ofNat (codeAt n)

/-- The last character of a set. -/
def last? (s : ScalarSet) : Option Char := s.bounds.getLast?.map fun n => Char.ofNat (codeAt (n - 1))

end ScalarSet
end TestScenario.Unicode
