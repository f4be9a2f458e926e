import TestScenario.Decimal.Reading

/-!
Spans of time in nanoseconds: their notation, such as `1h30m`, and the two ways they are shown.
-/

namespace TestScenario.Calendar

/-- A span of time, possibly negative. -/
structure Span where
  nanos : Int
deriving DecidableEq, Repr

/-- Why a text is no span: the part that a number or a unit was expected in. -/
inductive SpanError where
  | number (rest : String)
  | unit (rest : String)
  | exponent (rest : String)
deriving DecidableEq, Repr

namespace Span

/-- Spans reach to the largest signed 64-bit number of milliseconds. -/
def limit : Int := Decimal.maxInt64 * 1000000

/-- A span of a number of nanoseconds, if spans reach that far. -/
def ofNanos? (n : Int) : Option Span := if n.natAbs ≤ limit.natAbs then some ⟨n⟩ else none

/-- The double as a signed 64-bit number, cut to a whole number and to that range. -/
def truncate (x : Float) : Int :=
  if x.isNaN then 0
  else if x ≥ 9223372036854775808.0 then Decimal.maxInt64
  else if x ≤ -9223372036854775808.0 then Decimal.minInt64
  else if x < 0.0 then -Int.ofNat (-x).toUInt64.toNat
  else Int.ofNat x.toUInt64.toNat

/-- A unit and the text after it. -/
def unit : List Char → Option (Float × List Char)
  | 'm' :: 's' :: rest => some (1000000.0, rest)
  | 'u' :: 's' :: rest => some (1000.0, rest)
  | 'n' :: 's' :: rest => some (1.0, rest)
  | 'h' :: rest => some (3600000000000.0, rest)
  | 'm' :: rest => some (60000000000.0, rest)
  | 's' :: rest => some (1000000000.0, rest)
  | _ => none

/-- The words that stand for numbers that no digits write. -/
def specialNumber (cs : List Char) : Option (Float × List Char) :=
  let lower := cs.map Char.toLower
  if ['n', 'a', 'n'].isPrefixOf lower then some (0.0 / 0.0, cs.drop 3)
  else if ['i', 'n', 'f'].isPrefixOf lower then some (1.0 / 0.0, cs.drop 3)
  else none

/-- A number and the text after it. -/
def number (cs : List Char) : Except SpanError (Float × List Char) :=
  let (negative, body) : Bool × List Char := match cs with
    | '+' :: ds => (false, ds)
    | '-' :: ds => (true, ds)
    | ds => (false, ds)
  let whole := body.takeWhile Char.isDigit
  let afterWhole := body.dropWhile Char.isDigit
  let (fraction, rest) : List Char × List Char := match afterWhole with
    | '.' :: ds => if whole.isEmpty && (ds.takeWhile Char.isDigit).isEmpty then ([], afterWhole)
      else (ds.takeWhile Char.isDigit, ds.dropWhile Char.isDigit)
    | ds => ([], ds)
  if whole.isEmpty && fraction.isEmpty then
    match specialNumber cs with
    | some found => .ok found
    | none => .error (.number (String.ofList cs))
  else
    let digits := (Decimal.readNat (whole ++ fraction)).getD 0
    let finish (e : Int) (rest : List Char) : Float × List Char :=
      let x := Decimal.nearest digits (e - Int.ofNat fraction.length)
      (if negative then -x else x, rest)
    match rest with
    | c :: more =>
      if c != 'e' && c != 'E' then .ok (finish 0 rest)
      else
        let (down, ds) : Bool × List Char := match more with
          | '-' :: ds => (true, ds)
          | '+' :: ds => (false, ds)
          | ds => (false, ds)
        match Decimal.readNat (ds.takeWhile Char.isDigit) with
        | none => .error (.exponent (String.ofList ds))
        | some e => .ok (finish (if down then -Int.ofNat e else Int.ofNat e) (ds.dropWhile Char.isDigit))
    | [] => .ok (finish 0 [])

/-- One number with its unit in nanoseconds, and the text after it. -/
def part (cs : List Char) : Except SpanError (Int × List Char) :=
  match number cs with
  | .error e => .error e
  | .ok (x, rest) =>
    match unit rest with
    | none => .error (.unit (String.ofList rest))
    | some (scale, rest) => .ok (truncate (x * scale), rest)

/-- The sum of the parts at the start of a text; what follows the last part is ignored, except for a broken exponent. -/
def parts (sum : Int) : (fuel : Nat) → List Char → Except SpanError Int
  | 0, _ => .ok sum
  | fuel + 1, cs =>
    match part cs with
    | .ok (n, rest) => parts (sum + n) fuel rest
    | .error (.exponent r) => .error (.exponent r)
    | .error _ => .ok sum

/-- A span from its notation: a possible minus sign, and zero or numbers with units. -/
def parse (text : String) : Except SpanError Span :=
  let (negative, body) : Bool × List Char := match text.toList with
    | '-' :: rest => (true, rest)
    | cs => (false, cs)
  if body == ['0'] then .ok ⟨0⟩
  else match part body with
    | .error e => .error e
    | .ok (n, rest) =>
      match parts n rest.length rest with
      | .error e => .error e
      | .ok sum => .ok ⟨if negative then -sum else sum⟩

/-- The digits of a fraction of `places` places, without the zeros at its end, behind a point if any are left. -/
def fractionText (n places : Nat) : String :=
  let digits := (Decimal.digitsOf n)
  let padded := List.replicate (places - digits.length) '0' ++ digits
  let kept := (padded.reverse.dropWhile (· == '0')).reverse
  if kept.isEmpty then "" else "." ++ String.ofList kept

/-- A number of nanoseconds below one second, in the largest unit that leaves a whole part. -/
def belowSecond (n : Nat) : String :=
  if n == 0 then "0s"
  else if n < 1000 then toString n ++ "ns"
  else if n < 1000000 then toString (n / 1000) ++ fractionText (n % 1000) 3 ++ "µs"
  else toString (n / 1000000) ++ fractionText (n % 1000000) 6 ++ "ms"

/-- The nanoseconds that the text of a span writes out: of a negative span that 64 bits hold, those above the least
    number that no longer fits into them. -/
def writtenNanos (s : Span) : Nat :=
  if s.nanos < 0 && Decimal.minInt64 ≤ s.nanos then (Int.ofNat Decimal.uint64Size + s.nanos).toNat else s.nanos.natAbs

/-- A span in hours, minutes and seconds, behind a minus sign if it is negative. -/
def text (s : Span) : String :=
  let n := s.writtenNanos
  let seconds := n / 1000000000
  let body :=
    if seconds == 0 then belowSecond n
    else
      let tail := toString (seconds % 60) ++ fractionText (n % 1000000000) 9 ++ "s"
      if seconds < 60 then tail
      else if seconds < 3600 then toString (seconds / 60) ++ "m" ++ tail
      else toString (seconds / 3600) ++ "h" ++ toString (seconds / 60 % 60) ++ "m" ++ tail
  if s.nanos < 0 then "-" ++ body else body

/-- A span as whole seconds, rounded down, and the nanoseconds above them. -/
def shown (s : Span) : String :=
  "TimeDelta \x7b secs: " ++ toString (s.nanos / 1000000000) ++ ", nanos: " ++ toString (s.nanos % 1000000000) ++ " \x7d"

/-- The whole units of so many nanoseconds in a span, rounded toward zero. -/
def whole (s : Span) (unitNanos : Int) : Int := s.nanos.tdiv unitNanos

end Span
end TestScenario.Calendar
