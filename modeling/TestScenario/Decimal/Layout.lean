import TestScenario.Decimal.Binary

/-!
The text of a double: where positional notation ends and how an exponent is written are choices of a `Layout`,
the digits are always the shortest ones.
-/

namespace TestScenario.Decimal

/-- How the shortest digits of a double become text. -/
structure Layout where
  /-- Whether a number is written without an exponent, given how many digits stand before its point (zero or less:
      that many zeros follow the point). -/
  positional : Int → Bool
  /-- Whether a whole number keeps a point and a zero. -/
  wholePoint : Bool
  /-- Whether a positive exponent has a plus sign. -/
  plus : Bool
  notANumber : String
  infinity : String

/-- The layout of numbers in JSON text. -/
def Layout.json : Layout := ⟨fun n => -5 < n && n ≤ 16, true, true, "null", "null"⟩

/-- The layout of numbers in messages that show a value with its type. -/
def Layout.shown : Layout := ⟨fun n => -4 < n && n ≤ 16, true, false, "NaN", "inf"⟩

/-- The layout of numbers turned into strings by a script. -/
def Layout.plain : Layout := ⟨fun _ => true, false, false, "NaN", "inf"⟩

/-- A decimal in positional notation. -/
def Layout.positionalText (l : Layout) (digits : List Char) (point : Int) : List Char :=
  if Int.ofNat digits.length ≤ point then
    digits ++ List.replicate (point - Int.ofNat digits.length).toNat '0'
      ++ (if l.wholePoint then ['.', '0'] else [])
  else if 0 < point then digits.take point.toNat ++ ['.'] ++ digits.drop point.toNat
  else ['0', '.'] ++ List.replicate (-point).toNat '0' ++ digits

/-- A decimal in exponent notation. -/
def Layout.exponentText (l : Layout) (digits : List Char) (point : Int) : List Char :=
  let e := point - 1
  let mantissa := match digits with
    | [] => []
    | [d] => [d]
    | d :: ds => d :: '.' :: ds
  mantissa ++ ['e'] ++ (if e < 0 then ['-'] else if l.plus then ['+'] else []) ++ digitsOf e.natAbs

/-- The text of a magnitude. -/
def Layout.magnitude (l : Layout) : Magnitude → List Char
  | .notANumber => l.notANumber.toList
  | .infinite => l.infinity.toList
  | .finite m e =>
    if m == 0 then (if l.wholePoint then ['0', '.', '0'] else ['0'])
    else
      let s := shortest m e
      let digits := digitsOf s.digits
      let point := Int.ofNat digits.length + s.exponent
      if l.positional point then l.positionalText digits point else l.exponentText digits point

/-- The text of a double; one that is not a number has no sign. -/
def Layout.text (l : Layout) (x : Float) : String :=
  let (negative, m) := decompose x
  String.ofList ((if negative && m != .notANumber then ['-'] else []) ++ l.magnitude m)

end TestScenario.Decimal
