import TestScenario.Text.Dict

/-!
JSON values.

Whole numbers and doubles stay different kinds. The members of an object are a list of pairs in the order of their
names' code points, each name once; text that has just been read may still hold them in any order and repeat them,
`Json.canonical` puts that right.
-/

namespace TestScenario

/-- A number: whole numbers lie between `-2^63` and `2^64 - 1`. -/
inductive Json.Number where
  | int (value : Int)
  | float (value : Float)

/-- A JSON value. -/
inductive Json where
  | null
  | bool (value : Bool)
  | num (value : Json.Number)
  | str (value : String)
  | arr (items : List Json)
  | obj (members : List (String × Json))

instance : Inhabited Json := ⟨.null⟩

/-- Members with distinct names in ascending order. -/
abbrev Members := Dict Json

namespace Json

/-- A whole number. -/
def ofInt (n : Int) : Json := .num (.int n)

/-- A natural number. -/
def ofNat (n : Nat) : Json := .num (.int (Int.ofNat n))

/-- A double, and null for one that is not finite. -/
def ofFloat (x : Float) : Json := if x.isFinite then .num (.float x) else .null

/-- An object of the members given. -/
def object (pairs : List (String × Json)) : Json := .obj (Dict.ofList pairs)

/-- A value or null. -/
def ofOption {α : Type} (f : α → Json) : Option α → Json
  | none => .null
  | some a => f a

mutual
/-- The value with every object's members in order and without repetitions, the last of a repeated name kept. -/
def canonical : Json → Json
  | .arr items => .arr (canonicalItems items)
  | .obj members => .obj (Dict.ofList (canonicalMembers members))
  | other => other
/-- `canonical` for each item. -/
def canonicalItems : List Json → List Json
  | [] => []
  | x :: xs => canonical x :: canonicalItems xs
/-- `canonical` for the value of each member. -/
def canonicalMembers : List (String × Json) → List (String × Json)
  | [] => []
  | (n, v) :: rest => (n, canonical v) :: canonicalMembers rest
end

/-- Equality of numbers: kinds differ, and the two zeros among doubles are equal. -/
def Number.same : Number → Number → Bool
  | .int a, .int b => a == b
  | .float a, .float b => a == b
  | _, _ => false

mutual
/-- Equality of values, with numbers compared by `Number.same`. -/
def same : Json → Json → Bool
  | .null, .null => true
  | .bool a, .bool b => a == b
  | .num a, .num b => a.same b
  | .str a, .str b => a == b
  | .arr a, .arr b => sameItems a b
  | .obj a, .obj b => sameMembers a b
  | _, _ => false
/-- `same` item by item. -/
def sameItems : List Json → List Json → Bool
  | [], [] => true
  | x :: xs, y :: ys => same x y && sameItems xs ys
  | _, _ => false
/-- `same` member by member. -/
def sameMembers : List (String × Json) → List (String × Json) → Bool
  | [], [] => true
  | (n, v) :: xs, (m, w) :: ys => n == m && same v w && sameMembers xs ys
  | _, _ => false
end

end Json
end TestScenario
