import TestScenario.Decimal.Binary

/-!
Numbers read from text: whole numbers with their failures told apart, and doubles rounded to nearest.
-/

namespace TestScenario.Decimal

/-- The value of an ASCII digit. -/
def digitValue (c : Char) : Option Nat := if c.isDigit then some (c.toNat - 48) else none

/-- The value of an ASCII hexadecimal digit. -/
def hexValue (c : Char) : Option Nat :=
  if c.isDigit then some (c.toNat - 48)
  else if 'a' ≤ c ∧ c ≤ 'f' then some (c.toNat - 87)
  else if 'A' ≤ c ∧ c ≤ 'F' then some (c.toNat - 55)
  else none

/-- The number that a list of digits writes in a base. -/
def ofDigits (base : Nat) (digits : List Nat) : Nat := digits.foldl (fun n d => n * base + d) 0

/-- A non-empty run of digits as a number. -/
def readDigits (base : Nat) (value : Char → Option Nat) : List Char → Option Nat
  | [] => none
  | cs => (cs.mapM value).map (ofDigits base)

/-- `readDigits` for decimal digits. -/
def readNat (cs : List Char) : Option Nat := readDigits 10 digitValue cs

/-- Why a text is no whole number of the range asked for. -/
inductive WholeError where
  | empty
  | invalidDigit
  | tooLarge
  | tooSmall
deriving DecidableEq, Repr

/-- What is wrong, in words. -/
def WholeError.message : WholeError → String
  | .empty => "cannot parse integer from empty string"
  | .invalidDigit => "invalid digit found in string"
  | .tooLarge => "number too large to fit in target type"
  | .tooSmall => "number too small to fit in target type"

/-- The whole number between `low` and `high` that digits behind a sign write. -/
def ofSigned (low high : Int) (negative : Bool) (digits : List Char) : Except WholeError Int :=
  match readNat digits with
  | none => .error .invalidDigit
  | some n =>
    let value : Int := if negative then -Int.ofNat n else Int.ofNat n
    if high < value then .error .tooLarge
    else if value < low then .error .tooSmall
    else .ok value

/-- A whole number between `low` and `high`. A plus sign is allowed, a minus sign only if `low` is negative, and a
    sign needs a digit. -/
def readWhole (low high : Int) : List Char → Except WholeError Int
  | [] => .error .empty
  | '+' :: ds => ofSigned low high false ds
  | '-' :: ds => if low < 0 then ofSigned low high true ds else ofSigned low high false ('-' :: ds)
  | ds => ofSigned low high false ds

/-- Signed 64-bit numbers. -/
def readInt64 : List Char → Except WholeError Int := readWhole minInt64 maxInt64

/-- Unsigned 64-bit numbers. -/
def readUInt64 : List Char → Except WholeError Int := readWhole 0 maxUInt64

/-- The double nearest to `digits * 10 ^ exponent`. -/
def nearest (digits : Nat) (exponent : Int) : Float :=
  let size := Int.ofNat (digitsOf digits).length + exponent
  if digits == 0 then 0.0
  else if size > 310 then 1.0 / 0.0
  else if size < -330 then 0.0
  else Float.ofScientific digits (exponent < 0) exponent.natAbs

/-- The double nearest to a natural number. -/
def toFloat (n : Nat) : Float := nearest n 0

/-- An exponent mark with its number, or nothing. -/
def readExponent : List Char → Option Int
  | [] => some 0
  | c :: rest =>
    if c != 'e' && c != 'E' then none
    else match rest with
      | '+' :: ds => (readNat ds).map Int.ofNat
      | '-' :: ds => (readNat ds).map fun n => -Int.ofNat n
      | ds => (readNat ds).map Int.ofNat

/-- A decimal without a sign: digits with at most one point, at least one digit, and possibly an exponent. -/
def readUnsigned (cs : List Char) : Option Float :=
  let whole := cs.takeWhile Char.isDigit
  let afterWhole := cs.dropWhile Char.isDigit
  let (fraction, rest) : List Char × List Char := match afterWhole with
    | '.' :: ds => (ds.takeWhile Char.isDigit, ds.dropWhile Char.isDigit)
    | ds => ([], ds)
  if whole.isEmpty && fraction.isEmpty then none
  else do
    let e ← readExponent rest
    let digits ← readNat (whole ++ fraction)
    some (nearest digits (e - Int.ofNat fraction.length))

/-- A double: a decimal, an infinity or a text for "not a number", with or without a sign. -/
def readFloat (cs : List Char) : Option Float :=
  let (negative, body) : Bool × List Char := match cs with
    | '+' :: ds => (false, ds)
    | '-' :: ds => (true, ds)
    | ds => (false, ds)
  let word := String.ofList (body.map Char.toLower)
  let magnitude : Option Float :=
    if word == "inf" || word == "infinity" then some (1.0 / 0.0)
    else if word == "nan" then some (0.0 / 0.0)
    else readUnsigned body
  magnitude.map fun x => if negative then -x else x

end TestScenario.Decimal
