import TestScenario.Decimal.Bounds

/-!
Binary floating-point numbers as exact rationals, and the shortest decimal that reads back as a given one.

A finite number is `mantissa * 2 ^ exponent`. The reals that round to it form an interval whose ends belong to it
exactly if the mantissa is even. For one digit, two digits and so on, the two neighbours of the number among the
decimals with that many digits are tried: the first count with a neighbour inside the interval wins.
-/

namespace TestScenario.Decimal

/-- A double without its sign. -/
inductive Magnitude where
  | finite (mantissa : Nat) (exponent : Int)
  | infinite
  | notANumber
deriving DecidableEq, Repr

/-- The sign and the magnitude of a double, read off its bits. -/
def decompose (x : Float) : Bool × Magnitude :=
  let bits := x.toBits.toNat
  let negative := bits / pow2 63 == 1
  let field := bits / pow2 52 % pow2 11
  let fraction := bits % pow2 52
  let magnitude :=
    if field == 2047 then (if fraction == 0 then .infinite else .notANumber)
    else if field == 0 then .finite fraction (-1074)
    else .finite (pow2 52 + fraction) (Int.ofNat field - 1075)
  (negative, magnitude)

/-- A number `digits * 10 ^ exponent`. -/
structure Scaled where
  digits : Nat
  exponent : Int
deriving DecidableEq, Repr

/-- The decimal digits of a number, most significant first. -/
def digitsOf (n : Nat) : List Char := Nat.toDigits 10 n

/-- The reals, in quarters of a unit of the last place times a power of two, that round to a double. -/
structure Rounding where
  low : Nat
  value : Nat
  high : Nat
  /-- Whether the ends round to the double too. -/
  closed : Bool
  den : Nat
deriving Repr

/-- The rounding interval of a positive finite double, as numerators over one denominator. -/
def Rounding.of (mantissa : Nat) (exponent : Int) : Rounding :=
  let below := if mantissa == pow2 52 && exponent > -1074 then 1 else 2
  let up := pow2 (exponent - 2).toNat
  { low := (4 * mantissa - below) * up
    value := 4 * mantissa * up
    high := (4 * mantissa + 2) * up
    closed := mantissa % 2 == 0
    den := pow2 (2 - exponent).toNat }

/-- Whether `n * 10 ^ e` lies in the interval. -/
def Rounding.holds (r : Rounding) (n : Nat) (e : Int) : Bool :=
  let here := n * pow10 e.toNat * r.den
  let scale := pow10 (-e).toNat
  if r.closed then decide (r.low * scale ≤ here ∧ here ≤ r.high * scale)
  else decide (r.low * scale < here ∧ here < r.high * scale)

/-- The largest `n` with `n * 10 ^ e` at most the value. -/
def Rounding.floorAt (r : Rounding) (e : Int) : Nat :=
  r.value * pow10 (-e).toNat / (r.den * pow10 e.toNat)

/-- The neighbour of the value on the grid of multiples of `10 ^ e` that lies in the interval: the nearer of two, of
    two equally near ones the even one. -/
def Rounding.neighbour (r : Rounding) (e : Int) : Option Nat :=
  let down := r.floorAt e
  let up := down + 1
  match r.holds down e, r.holds up e with
  | true, false => some down
  | false, true => some up
  | false, false => none
  | true, true =>
    let twice := 2 * r.value * pow10 (-e).toNat
    let middle := (down + up) * (r.den * pow10 e.toNat)
    if twice < middle then some down
    else if middle < twice then some up
    else if down % 2 == 0 then some down else some up

/-- The exponent of the leading decimal digit of the value, looked for from `guess` upwards. -/
def Rounding.leading (r : Rounding) (guess : Int) : Nat → Int
  | 0 => guess
  | tries + 1 => if r.floorAt (guess + 1) == 0 then guess else r.leading (guess + 1) tries

/-- The first of the grids for `count` digits, `count + 1` digits and so on that has a hit. -/
def Rounding.search (r : Rounding) (leading : Int) (count : Nat) : Nat → Scaled
  | 0 => ⟨r.floorAt (leading - 16), leading - 16⟩
  | tries + 1 =>
    let e := leading - Int.ofNat count + 1
    match r.neighbour e with
    | some n => ⟨n, e⟩
    | none => r.search leading (count + 1) tries

/-- A scaled number without trailing zero digits. -/
def Scaled.normal (s : Scaled) : Scaled :=
  let zeros := ((digitsOf s.digits).reverse.takeWhile (· == '0')).length
  if s.digits == 0 then s else ⟨s.digits / pow10 zeros, s.exponent + Int.ofNat zeros⟩

/-- The shortest decimal that rounds to `mantissa * 2 ^ exponent`, and of those the nearest. -/
def shortest (mantissa : Nat) (exponent : Int) : Scaled :=
  if mantissa == 0 then ⟨0, 0⟩
  else
    let r := Rounding.of mantissa exponent
    let guess := (Int.ofNat (Nat.log2 mantissa) + exponent) * 30103 / 100000 - 1
    (r.search (r.leading guess 4) 1 17).normal

end TestScenario.Decimal
