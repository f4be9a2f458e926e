import TestScenario.Script.Arithmetic
import TestScenario.Text.Utf8
import TestScenario.Pattern.Search

/-!
The functions that expressions may call.

A function takes its arguments one by one, so that the first wrong one decides how a call fails. The functions on a
subject take it from before the dot, or as first argument; the others take no notice of what stands before the dot.
Surplus arguments are ignored.
-/

namespace TestScenario.Script

/-- A call: what stands before the dot, and what the arguments evaluate to. -/
structure Call where
  target : Option Value
  args : List (Except EvalError Value)
  /-- How many arguments have been taken. -/
  taken : Nat := 0

/-- A computation that takes arguments of a call. -/
abbrev Taking := StateT Call (Except EvalError)

namespace Call

/-- The next argument. -/
def next : Taking Value := fun c =>
  match c.args with
  | [] => .error (.argumentCount (c.taken + 1) c.taken)
  | a :: rest => a.map fun v => (v, { c with args := rest, taken := c.taken + 1 })

/-- What the function is about: the value before the dot, or else the first argument. -/
def subject : Taking Value := fun c =>
  match c.target, c.args with
  | some v, _ => .ok (v, c)
  | none, .ok v :: rest => .ok (v, { c with args := rest, taken := c.taken + 1 })
  | none, _ => .error .missingTarget

/-- All arguments. -/
def all : Taking (List Value) := fun c => (c.args.mapM id).map fun vs => (vs, c)

/-- A value as a string. -/
def asString : Value → Taking String
  | .str s => pure s
  | v => throw (.unexpectedType v.shown "Arc<String>")

/-- A value as a point in time. -/
def asInstant : Value → Taking Calendar.Instant
  | .instant t => pure t
  | v => throw (.unexpectedType v.shown "chrono::DateTime<chrono::FixedOffset>")

/-- An optional value as what it holds. -/
def asOptional : Value → Taking (Option Value)
  | .absent => pure none
  | .present v => pure (some v)
  | v => throw (.unexpectedType v.typeName "optional_type")

end Call

namespace Function
open Call

/-- A failure with an explanation. -/
def refuse {α : Type} (function explanation : String) : Taking α := throw (.inFunction function explanation)

/-- Whether a text, a list, a map or bytes contain something. -/
def contains : Taking Value := do
  let whole ← subject
  let part ← next
  match whole with
  | .list items => pure (.bool (items.any (·.same part)))
  | .map entries =>
    match part.toKey? with
    | some k => pure (.bool (Value.valueAt? entries k).isSome)
    | none => throw (.unusableKey part)
  | .str s =>
    match part with
    | .str p => pure (.bool (Text.contains s p))
    | _ => pure (.bool false)
  | .bytes bs =>
    match part with
    | .bytes [] => throw .undefined
    | .bytes p => pure (.bool ((Text.splitOnce p bs).isSome))
    | _ => pure (.bool false)
  | _ => pure (.bool false)

/-- How many items, entries or bytes a value has. -/
def size : Taking Value := do
  let v ← subject
  match v with
  | .list items => pure (.int items.length)
  | .map entries => pure (.int entries.length)
  | .str s => pure (.int s.utf8ByteSize)
  | .bytes bs => pure (.int bs.length)
  | _ => refuse "size" ("cannot determine the size of " ++ v.shown)

/-- Of the arguments, or of the items of a single list, the first that comes before all later ones by `wins`. -/
def extreme (wins : Ordering) : Taking Value := do
  let args ← all
  let pick (items : List Value) : Taking Value :=
    match items with
    | [] => pure .null
    | first :: others => others.foldlM (fun best v =>
        match best.order? v with
        | some o => pure (if o == wins then best else v)
        | none => throw (.notComparable best v)) first
  match args with
  | [.list items] => pick items
  | [v] => pure v
  | _ => pick args

/-- Whether one text stands at an end of another. -/
def atEnd (test : List Char → List Char → Bool) : Taking Value := do
  let s ← asString (← subject)
  let part ← asString (← next)
  pure (.bool (test part.toList s.toList))

/-- A value as text. -/
def string : Taking Value := do
  let v ← subject
  match v with
  | .str s => pure (.str s)
  | .instant t => pure (.str t.text)
  | .span s => pure (.str s.text)
  | .int n => pure (.str (toString n))
  | .uint n => pure (.str (toString n))
  | .float x => pure (.str (Decimal.Layout.plain.text x))
  | .bytes bs => pure (.str (Text.ofUtf8Lossy bs))
  | _ => refuse "string" ("cannot convert " ++ v.shown ++ " to string")

/-- The bytes of a text. -/
def bytes : Taking Value := do
  let s ← asString (← next)
  pure (.bytes (Text.utf8 s))

/-- A value as a double. -/
def double : Taking Value := do
  let v ← subject
  match v with
  | .str s =>
    match Decimal.readFloat s.toList with
    | some x => pure (.float x)
    | none => refuse "double" ("string parse error: "
        ++ if s.isEmpty then "cannot parse float from empty string" else "invalid float literal")
  | .float x => pure (.float x)
  | .int n => pure (.float (Value.floatOfInt n))
  | .uint n => pure (.float (Decimal.toFloat n))
  | _ => refuse "double" ("cannot convert " ++ v.shown ++ " to double")

/-- A value as an unsigned number. -/
def uint : Taking Value := do
  let v ← subject
  match v with
  | .str s =>
    match Decimal.readUInt64 s.toList with
    | .ok n => pure (.uint n.toNat)
    | .error e => refuse "uint" ("string parse error: " ++ e.message)
  | .float x =>
    if x > 18446744073709551615.0 || x < 0.0 then refuse "uint" "unsigned integer overflow"
    else pure (.uint x.toUInt64.toNat)
  | .int n => if n < 0 then refuse "uint" "unsigned integer overflow" else pure (.uint n.toNat)
  | .uint n => pure (.uint n)
  | _ => refuse "uint" ("cannot convert " ++ v.shown ++ " to uint")

/-- A value as a signed number. -/
def int : Taking Value := do
  let v ← subject
  match v with
  | .str s =>
    match Decimal.readInt64 s.toList with
    | .ok n => pure (.int n)
    | .error e => refuse "int" ("string parse error: " ++ e.message)
  | .float x =>
    if x > 9223372036854775807.0 || x < -9223372036854775808.0 then refuse "int" "integer overflow"
    else pure (.int (Calendar.Span.truncate x))
  | .int n => pure (.int n)
  | .uint n => if fitsInt n then pure (.int n) else refuse "int" "integer overflow"
  | _ => refuse "int" ("cannot convert " ++ v.shown ++ " to int")

/-- Whether a pattern occurs in a text. -/
def isMatch : Taking Value := do
  let s ← asString (← subject)
  let written ← asString (← next)
  match Pattern.ofText written with
  | some p => pure (.bool (p.isIn s))
  | none => refuse "matches" ("'" ++ written ++ "' not a valid regex:")

/-- A span from its notation. -/
def duration : Taking Value := do
  let s ← asString (← next)
  match Calendar.Span.parse s with
  | .ok d => pure (.span d)
  | .error e => refuse "duration" (spanText e)
where
  /-- What is wrong with the notation, and where. -/
  spanText : Calendar.SpanError → String
    | .number rest => wrong "Parsing Error: Error" rest "Float"
    | .unit rest => wrong "Parsing Error: Error" rest "Char"
    | .exponent rest => wrong "Parsing Failure: Error" rest "Digit"
  /-- A place in the notation and what was expected there. -/
  wrong (kind rest expected : String) : String :=
    kind ++ " \x7b input: " ++ Value.shownString rest ++ ", code: " ++ expected ++ " \x7d"

/-- A point in time from its notation. -/
def timestamp : Taking Value := do
  let s ← asString (← next)
  match Calendar.Instant.parse s with
  | .ok t => pure (.instant t)
  | .error e => refuse "timestamp" e.message

/-- A number that a point in time shows. -/
def ofInstant (part : Calendar.Instant → Int) : Taking Value := do
  let t ← asInstant (← subject)
  pure (.int (part t))

/-- A number that the clock of a point in time shows, or the whole units in a span, of which the lowest 32 bits are
    kept as a signed number. -/
def ofClock (function : String) (part : Calendar.Instant → Int) (unitNanos : Int) : Taking Value := do
  match ← subject with
  | .span s => pure (.int ((s.whole unitNanos).bmod Decimal.uint32Size))
  | .instant t => pure (.int (part t))
  | _ => refuse function "expected timestamp or duration"

/-- Equality of two values. -/
def compare : Taking Value := do
  let a ← next
  let b ← next
  pure (.bool (a.same b))

/-- Nothing if two values are equal, otherwise what was expected and what was found. -/
def diff : Taking Value := do
  let a ← next
  let b ← next
  pure (.str (if a.same b then "" else "expected " ++ b.shown ++ ", got " ++ a.shown))

/-- The name of a value's type; spans, points in time and optional values have none. -/
def typeOf : Taking Value := do
  match ← next with
  | .float _ => pure (.str "double")
  | .span _ => pure (.str "unknown")
  | .instant _ => pure (.str "unknown")
  | .absent => pure (.str "unknown")
  | .present _ => pure (.str "unknown")
  | v => pure (.str v.typeName)

/-- A text as the value of a form field. -/
def urlencode : Taking Value := do
  let s ← asString (← next)
  pure (.str (Text.formEncode s))

/-- What an optional value holds. -/
def held : Taking Value := do
  match ← asOptional (← subject) with
  | some v => pure v
  | none => refuse "value" "optional.none() dereference"

/-- Whether an optional value holds something. -/
def hasHeld : Taking Value := do
  let o ← asOptional (← subject)
  pure (.bool o.isSome)

/-- An optional value, or another one if it holds nothing. -/
def orOptional : Taking Value := do
  let v ← subject
  let other ← next
  match ← asOptional v with
  | some _ => pure v
  | none =>
    let _ ← asOptional other
    pure other

/-- What an optional value holds, or another value. -/
def orHeld : Taking Value := do
  let v ← subject
  let other ← next
  let o ← asOptional v
  pure (o.getD other)

/-- The functions by name. -/
def named? : String → Option (Taking Value)
  | "contains" => some contains
  | "size" => some size
  | "max" => some (extreme .gt)
  | "min" => some (extreme .lt)
  | "startsWith" => some (atEnd fun part s => part.isPrefixOf s)
  | "endsWith" => some (atEnd fun part s => part.isSuffixOf s)
  | "string" => some string
  | "bytes" => some bytes
  | "double" => some double
  | "int" => some int
  | "uint" => some uint
  | "matches" => some isMatch
  | "duration" => some duration
  | "timestamp" => some timestamp
  | "value" => some held
  | "hasValue" => some hasHeld
  | "or" => some orOptional
  | "orValue" => some orHeld
  | "getFullYear" => some (ofInstant fun t => t.date.year)
  | "getMonth" => some (ofInstant fun t => Int.ofNat t.date.month - 1)
  | "getDayOfYear" => some (ofInstant fun t => t.date.dayOfYear)
  | "getDayOfMonth" => some (ofInstant fun t => Int.ofNat t.date.day - 1)
  | "getDate" => some (ofInstant fun t => Int.ofNat t.date.day)
  | "getDayOfWeek" => some (ofInstant fun t => t.date.weekday)
  | "getHours" => some (ofClock "getHours" (fun t => t.secondOfDay / 3600) 3600000000000)
  | "getMinutes" => some (ofClock "getMinutes" (fun t => t.secondOfDay / 60 % 60) 60000000000)
  | "getSeconds" => some (ofClock "getSeconds" (fun t => t.secondOfDay % 60) 1000000000)
  | "getMilliseconds" => some (ofClock "getMilliseconds" (fun t => Int.ofNat (t.nanos / 1000000)) 1000000)
  | "compare" => some compare
  | "diff" => some diff
  | "type_of" => some typeOf
  | "urlencode" => some urlencode
  | _ => none

/-- The functions that belong to a name before the dot. -/
def qualified? (owner function : String) : Option (Taking Value) :=
  match owner, function with
  | "optional", "none" => some do
      if (← get).args.isEmpty then pure .absent else refuse "none" "unsupported function"
  | "optional", "of" => some (do pure (.present (← next)))
  | "optional", "ofNonZeroValue" => some do
      let v ← next
      pure (if v.isZero then .absent else .present v)
  | _, _ => none

/-- The answer of a call. -/
def apply (f : Taking Value) (target : Option Value) (args : List (Except EvalError Value)) : Except EvalError Value :=
  (f.run { target, args }).map (·.1)

end Function
end TestScenario.Script
