import TestScenario.Calendar.Date
import TestScenario.Calendar.Span

/-!
Points in time with an offset from UTC, and their notation by RFC 3339.
-/

namespace TestScenario.Calendar

/-- A point in time: seconds since 1970-01-01T00:00:00Z, nanoseconds above them (a billion and more within a leap
    second), and the offset of the local clock in seconds. -/
structure Instant where
  seconds : Int
  nanos : Nat
  offset : Int
deriving DecidableEq, Repr

/-- Why a text is no point in time. -/
inductive InstantError where
  | tooShort
  | invalid
  | outOfRange
  | trailing
deriving DecidableEq, Repr

/-- The error in words. -/
def InstantError.message : InstantError → String
  | .tooShort => "premature end of input"
  | .invalid => "input contains invalid characters"
  | .outOfRange => "input is out of range"
  | .trailing => "trailing input"

namespace Instant

/-- A number of exactly `count` digits between `low` and `high`, and the text after it. -/
def field (count low high : Nat) (cs : List Char) : Except InstantError (Nat × List Char) :=
  if (String.ofList cs).utf8ByteSize < count then .error .tooShort
  else match Decimal.readNat (cs.take count) with
    | none => .error .invalid
    | some n => if low ≤ n ∧ n ≤ high then .ok (n, cs.drop count) else .error .outOfRange

/-- A fixed character and the text after it. -/
def mark (c : Char) : List Char → Except InstantError (List Char)
  | [] => .error .tooShort
  | d :: rest => if d == c then .ok rest else .error .invalid

/-- A fraction of a second in nanoseconds, if there is one; digits after the ninth are dropped. -/
def fraction : List Char → Except InstantError (Nat × List Char)
  | '.' :: rest =>
    let digits := (rest.takeWhile Char.isDigit).take 9
    if rest.isEmpty then .error .tooShort
    else match Decimal.readNat digits with
      | none => .error .invalid
      | some n => .ok (n * Decimal.pow10 (9 - digits.length), rest.dropWhile Char.isDigit)
  | cs => .ok (0, cs)

/-- Two digits and the text after them; a text of less than two bytes is too short. -/
def twoDigits (tens : Nat) (cs : List Char) : Except InstantError (Nat × List Char) :=
  if (String.ofList cs).utf8ByteSize < 2 then .error .tooShort
  else match cs with
    | a :: b :: rest =>
      match Decimal.digitValue a, Decimal.digitValue b with
      | some x, some y => if x ≤ tens then .ok (10 * x + y, rest) else .error .outOfRange
      | _, _ => .error .invalid
    | _ => .error .invalid

/-- An offset in seconds and the text after it. -/
def offsetField (cs : List Char) : Except InstantError (Int × List Char) :=
  let signed (negative : Bool) (rest : List Char) : Except InstantError (Int × List Char) := do
    let (h, rest) ← twoDigits 9 rest
    let rest ← mark ':' rest
    let (m, rest) ← twoDigits 5 rest
    let n : Int := Int.ofNat (h * 3600 + m * 60)
    .ok (if negative then -n else n, rest)
  match cs with
  | 'Z' :: rest => .ok (0, rest)
  | 'z' :: rest => .ok (0, rest)
  | '+' :: rest => signed false rest
  | '-' :: rest => signed true rest
  | '−' :: rest => signed true rest
  | [] => .error .tooShort
  | _ => .error .invalid

/-- The separator between date and time, and the text after it. -/
def separator : List Char → Except InstantError (List Char)
  | [] => .error .tooShort
  | c :: rest => if c == 'T' || c == 't' || c == ' ' then .ok rest else .error .invalid

/-- A point in time from its notation. -/
def parse (text : String) : Except InstantError Instant := do
  let (year, cs) ← field 4 0 9999 text.toList
  let cs ← mark '-' cs
  let (month, cs) ← field 2 1 12 cs
  let cs ← mark '-' cs
  let (day, cs) ← field 2 1 31 cs
  let cs ← separator cs
  let (hour, cs) ← field 2 0 23 cs
  let cs ← mark ':' cs
  let (minute, cs) ← field 2 0 59 cs
  let cs ← mark ':' cs
  let (second, cs) ← field 2 0 60 cs
  let (nanos, cs) ← fraction cs
  let (offset, cs) ← offsetField cs
  if offset.natAbs > 86340 then .error .outOfRange
  else if !cs.isEmpty then .error .trailing
  else
    let date : Date := ⟨Int.ofNat year, month, day⟩
    if !date.isValid then .error .outOfRange
    else
      let leap := second == 60
      let ofDay := hour * 3600 + minute * 60 + (if leap then 59 else second)
      .ok ⟨date.toDays * 86400 + Int.ofNat ofDay - offset, nanos + (if leap then 1000000000 else 0), offset⟩

/-- The date on the local clock. -/
def date (t : Instant) : Date := Date.ofDays ((t.seconds + t.offset) / 86400)

/-- The seconds since midnight on the local clock. -/
def secondOfDay (t : Instant) : Int := (t.seconds + t.offset) % 86400

/-- The nanoseconds since 1970-01-01T00:00:00Z. -/
def totalNanos (t : Instant) : Int := t.seconds * 1000000000 + Int.ofNat t.nanos

/-- Whether this is inside a leap second. -/
def isLeap (t : Instant) : Bool := t.nanos ≥ 1000000000

/-- A point in time by seconds and any number of nanoseconds on top of them. -/
def ofParts (seconds nanos offset : Int) : Instant :=
  ⟨seconds + nanos / 1000000000, (nanos % 1000000000).toNat, offset⟩

/-- The point in time a span later, with the same offset. A leap second is left behind by a span of whole seconds:
    forward from the second before it, backward from the second after it. A smaller span may stay inside. -/
def add (t : Instant) (s : Span) : Instant :=
  let whole := s.nanos.tdiv 1000000000
  let part := Int.ofNat t.nanos + s.nanos.tmod 1000000000
  if t.isLeap then
    if whole > 0 || part ≥ 2000000000 then ofParts (t.seconds + whole) (part - 1000000000) t.offset
    else if whole < 0 then ofParts (t.seconds + 1 + whole) (part - 1000000000) t.offset
    else { t with nanos := part.toNat }
  else ofParts (t.seconds + whole) part t.offset

/-- The span from `u` to `t`. A leap second between the times of day of both counts. -/
def since (t u : Instant) : Span :=
  let leapBetween (x y : Instant) : Int := if x.seconds % 86400 > y.seconds % 86400 && y.isLeap then 1000000000 else 0
  ⟨t.totalNanos - u.totalNanos + leapBetween t u - leapBetween u t⟩

/-- Earlier, at the same time, or later. -/
def compare (t u : Instant) : Ordering := (Ord.compare t.seconds u.seconds).then (Ord.compare t.nanos u.nanos)

/-- The first point in time of a year in UTC. -/
def startOfYear (y : Int) : Instant := ⟨(Date.mk y 1 1).toDays * 86400, 0, 0⟩

/-- The last point in time of a year in UTC. -/
def endOfYear (y : Int) : Instant := ⟨(Date.mk (y + 1) 1 1).toDays * 86400 - 1, 999999999, 0⟩

/-- Whether this is one of the points in time that a year of four digits, not all zero, can name. -/
def isCommon (t : Instant) : Bool :=
  t.compare (startOfYear 1) != .lt && t.compare (endOfYear 9999) != .gt

/-- Whether the calendar reaches this point in time. -/
def isReached (t : Instant) : Bool :=
  (startOfYear (-262143)).seconds ≤ t.seconds && t.seconds ≤ (endOfYear 262142).seconds

/-- A number with at least `width` digits. -/
def pad (width n : Nat) : String :=
  let digits := Decimal.digitsOf n
  String.ofList (List.replicate (width - digits.length) '0' ++ digits)

/-- A fraction of a second in three, six or nine digits, or nothing. -/
def fractionText (nanos : Nat) : String :=
  let n := nanos % 1000000000
  if n == 0 then ""
  else if n % 1000000 == 0 then "." ++ pad 3 (n / 1000000)
  else if n % 1000 == 0 then "." ++ pad 6 (n / 1000)
  else "." ++ pad 9 n

/-- A year in at least four digits, with a sign beyond them. -/
def yearText (y : Int) : String :=
  if 0 ≤ y ∧ y ≤ 9999 then pad 4 y.toNat
  else if y < 0 then "-" ++ pad 4 y.natAbs
  else "+" ++ pad 5 y.toNat

/-- An offset as hours and minutes. -/
def offsetText (offset : Int) : String :=
  let n := offset.natAbs
  (if offset < 0 then "-" else "+") ++ pad 2 (n / 3600) ++ ":" ++ pad 2 (n / 60 % 60)

/-- Date and time of the local clock. -/
def clockText (t : Instant) : String :=
  let d := t.date
  let s := t.secondOfDay.toNat
  let second := s % 60 + (if t.nanos ≥ 1000000000 then 1 else 0)
  yearText d.year ++ "-" ++ pad 2 d.month ++ "-" ++ pad 2 d.day ++ "T" ++ pad 2 (s / 3600) ++ ":" ++ pad 2 (s / 60 % 60)
    ++ ":" ++ pad 2 second ++ fractionText t.nanos

/-- The notation of a point in time. -/
def text (t : Instant) : String := t.clockText ++ offsetText t.offset

/-- The notation of a point in time on the clock of UTC. -/
def utcText (t : Instant) : String := { t with offset := 0 }.clockText ++ "Z"

/-- The point in time some milliseconds after 1970-01-01T00:00:00Z. -/
def ofMillis (ms : Int) : Instant := ⟨ms / 1000, (ms % 1000).toNat * 1000000, 0⟩

end Instant
end TestScenario.Calendar
