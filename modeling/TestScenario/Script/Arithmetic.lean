import TestScenario.Script.Failure

/-!
The operators between two values.

Numbers are added, subtracted, multiplied and divided only with numbers of the same type, and whole numbers within
their 64 bits.
-/

namespace TestScenario.Script.Value

/-- A signed number if it fits its bits. -/
def int? (op : String) (a b n : Int) : Except EvalError Value :=
  if fitsInt n then .ok (.int n) else .error (.overflow op (.int a) (.int b))

/-- An unsigned number if it fits its bits. -/
def uint? (op : String) (a b : Nat) (n : Int) : Except EvalError Value :=
  if fitsUInt n then .ok (.uint n.toNat) else .error (.overflow op (.uint a) (.uint b))

/-- A span if spans reach that far. -/
def span? (op : String) (a b : Calendar.Span) (n : Int) : Except EvalError Value :=
  match Calendar.Span.ofNanos? n with
  | some s => .ok (.span s)
  | none => .error (.overflow op (.span a) (.span b))

/-- A point in time if arithmetic may yield it. -/
def instant? (op : String) (t : Calendar.Instant) (s : Calendar.Span) (u : Calendar.Instant) : Except EvalError Value :=
  if u.isCommon then .ok (.instant u) else .error (.overflow op (.instant t) (.span s))

/-- The sum of two values: of numbers, texts, lists, spans, or a point in time and a span. -/
def add : Value → Value → Except EvalError Value
  | .int a, .int b => int? "add" a b (a + b)
  | .uint a, .uint b => uint? "add" a b (Int.ofNat (a + b))
  | .float a, .float b => .ok (.float (a + b))
  | .str a, .str b => .ok (.str (a ++ b))
  | .list a, .list b => .ok (.list (a ++ b))
  | .span a, .span b => span? "add" a b (a.nanos + b.nanos)
  | .instant t, .span s => instant? "add" t s (t.add s)
  | .span s, .instant t =>
    let u := t.add s
    if u.isReached then .ok (.instant u) else .error (.overflow "add" (.span s) (.instant t))
  | a, b => .error (.unsupportedBinary "add" a b)

/-- The difference of two values: of numbers, spans, points in time, or a point in time and a span. -/
def sub : Value → Value → Except EvalError Value
  | .int a, .int b => int? "sub" a b (a - b)
  | .uint a, .uint b => uint? "sub" a b (Int.ofNat a - Int.ofNat b)
  | .float a, .float b => .ok (.float (a - b))
  | .span a, .span b => span? "sub" a b (a.nanos - b.nanos)
  | .instant t, .span s => instant? "sub" t s (t.add ⟨-s.nanos⟩)
  | .instant t, .instant u => .ok (.span (t.since u))
  | a, b => .error (.unsupportedBinary "sub" a b)

/-- The product of two numbers. -/
def mul : Value → Value → Except EvalError Value
  | .int a, .int b => int? "mul" a b (a * b)
  | .uint a, .uint b => uint? "mul" a b (Int.ofNat (a * b))
  | .float a, .float b => .ok (.float (a * b))
  | a, b => .error (.unsupportedBinary "mul" a b)

/-- The quotient of two numbers; whole ones are rounded toward zero. -/
def div : Value → Value → Except EvalError Value
  | .int a, .int b => if b == 0 then .error (.divisionByZero (.int a)) else int? "div" a b (a.tdiv b)
  | .uint a, .uint b => if b == 0 then .error (.divisionByZero (.uint a)) else .ok (.uint (a / b))
  | .float a, .float b => .ok (.float (a / b))
  | a, b => .error (.unsupportedBinary "div" a b)

/-- The remainder of two whole numbers, with the sign of the first. -/
def rem : Value → Value → Except EvalError Value
  | .int a, .int b =>
    if b == 0 then .error (.remainderByZero (.int a))
    else if a == Decimal.minInt64 && b == -1 then .error (.overflow "rem" (.int a) (.int b))
    else .ok (.int (a.tmod b))
  | .uint a, .uint b => if b == 0 then .error (.remainderByZero (.uint a)) else .ok (.uint (a % b))
  | a, b => .error (.unsupportedBinary "rem" a b)

/-- Whether two values are in one of the orders that `test` accepts. -/
def ordered (test : Ordering → Bool) (a b : Value) : Except EvalError Value :=
  match a.order? b with
  | some o => .ok (.bool (test o))
  | none => .error (.notComparable a b)

/-- Whether `part` occurs in `whole`: a text in a text, an item in a list, or a key in a map. -/
def isIn (part whole : Value) : Except EvalError Value :=
  match part, whole with
  | .str p, .str w => .ok (.bool (Text.contains w p))
  | p, .list items => .ok (.bool (items.any (·.same p)))
  | p, .map entries => .ok (.bool ((p.toKey?.bind (valueAt? entries)).isSome))
  | p, w => .error (.notComparable p w)

/-- The item of a list or the entry of a map at an index. -/
def at? (value index : Value) : Except EvalError Value :=
  match value, index with
  | .list items, .int n =>
    match if n < 0 then none else items[n.toNat]? with
    | some v => .ok v
    | none => .error (.outOfBounds (.int n))
  | .list items, .uint n =>
    match items[n]? with
    | some v => .ok v
    | none => .error (.outOfBounds (.uint n))
  | .str _, .int n => .error (.noSuchKey (toString n))
  | .map entries, k =>
    match k.toKey? with
    | none => .error (.mapIndex k)
    | some key =>
      match valueAcross? entries key with
      | some v => .ok v
      | none => .error (.noSuchKey key.text)
  | .list _, i => .error (.listIndex i)
  | v, i => .error (.unsupportedIndex v i)

/-- What stands at an index; inside an optional value the answer is optional too. -/
def index (value i : Value) : Except EvalError Value :=
  match value with
  | .absent => .ok .absent
  | .present v =>
    match at? v i with
    | .ok w => .ok (.present w)
    | .error _ => .ok .absent
  | v => at? v i

/-- The entry of a map under a field's name. -/
def field (value : Value) (name : String) : Except EvalError Value :=
  match value with
  | .map entries =>
    match valueAt? entries (.str name) with
    | some v => .ok v
    | none => .error (.noSuchKey name)
  | _ => .error (.noSuchKey name)

/-- Whether a map has a key that reads as a field's name. -/
def hasField (value : Value) (name : String) : Bool :=
  match value with
  | .map entries => entries.any (·.1.text == name)
  | _ => false

/-- A truth value. -/
def truth : Value → Except EvalError Bool
  | .bool b => .ok b
  | _ => .error .noOverload

/-- The number with the other sign; the least signed number stays as it is. -/
def negate : Value → Except EvalError Value
  | .int n => .ok (.int (if n == Decimal.minInt64 then n else -n))
  | .float x => .ok (.float (-x))
  | v => .error (.unsupportedUnary "minus" v)

end TestScenario.Script.Value
