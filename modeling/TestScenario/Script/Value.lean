import TestScenario.Json.Value
import TestScenario.Json.Writer
import TestScenario.Decimal.Layout
import TestScenario.Decimal.Reading
import TestScenario.Calendar.Instant
import TestScenario.Text.Base64
import TestScenario.Text.Hidden
import TestScenario.Text.Blank

/-!
The values that expressions work on, how they are compared, how they are shown in messages, and how they become JSON.
-/

namespace TestScenario.Script

/-- The key of a map entry. -/
inductive Key where
  | int (value : Int)
  | uint (value : Nat)
  | bool (value : Bool)
  | str (value : String)
deriving DecidableEq, Repr

/-- A value of an expression. Signed and unsigned numbers have 64 bits. -/
inductive Value where
  | null
  | bool (value : Bool)
  | int (value : Int)
  | uint (value : Nat)
  | float (value : Float)
  | str (value : String)
  | bytes (value : List UInt8)
  | list (items : List Value)
  | map (entries : List (Key × Value))
  | span (value : Calendar.Span)
  | instant (value : Calendar.Instant)
  | absent
  | present (value : Value)

instance : Inhabited Value := ⟨.null⟩

/-- Whether a whole number fits signed 64 bits. -/
def fitsInt (n : Int) : Bool := Decimal.minInt64 ≤ n && n ≤ Decimal.maxInt64

/-- Whether a whole number fits unsigned 64 bits. -/
def fitsUInt (n : Int) : Bool := 0 ≤ n && n ≤ Decimal.maxUInt64

namespace Key

/-- The key as a value. -/
def toValue : Key → Value
  | .int n => .int n
  | .uint n => .uint n
  | .bool b => .bool b
  | .str s => .str s

/-- The key as text. -/
def text : Key → String
  | .int n => toString n
  | .uint n => toString n
  | .bool b => if b then "true" else "false"
  | .str s => s

/-- The key of the same number with the other signedness. -/
def counterpart? : Key → Option Key
  | .int n => if 0 ≤ n then some (.uint n.toNat) else none
  | .uint n => if fitsInt (Int.ofNat n) then some (.int (Int.ofNat n)) else none
  | _ => none

end Key

namespace Value

/-- The value as a key of a map. -/
def toKey? : Value → Option Key
  | .int n => some (.int n)
  | .uint n => some (.uint n)
  | .bool b => some (.bool b)
  | .str s => some (.str s)
  | _ => none

/-- The entry under a key. -/
def valueAt? (entries : List (Key × Value)) (k : Key) : Option Value := entries.lookup k

/-- The entry under a key, or under the same number with the other signedness. -/
def valueAcross? (entries : List (Key × Value)) (k : Key) : Option Value :=
  valueAt? entries k <|> k.counterpart?.bind (valueAt? entries)

/-- Entries with one more; a key that is there already gets the new value. -/
def putEntry (k : Key) (v : Value) : List (Key × Value) → List (Key × Value)
  | [] => [(k, v)]
  | (j, w) :: rest => if j = k then (k, v) :: rest else (j, w) :: putEntry k v rest

/-- A signed number as a double. -/
def floatOfInt (n : Int) : Float := if n < 0 then -(Decimal.toFloat n.natAbs) else Decimal.toFloat n.toNat

mutual
/-- Equality: numbers of different types are compared by value, other values of different types differ. -/
def same : Value → Value → Bool
  | .null, .null => true
  | .bool a, .bool b => a == b
  | .int a, .int b => a == b
  | .uint a, .uint b => a == b
  | .int a, .uint b => a == Int.ofNat b
  | .uint a, .int b => Int.ofNat a == b
  | .float a, .float b => a == b
  | .int a, .float b => floatOfInt a == b
  | .uint a, .float b => Decimal.toFloat a == b
  | .float a, .int b => a == floatOfInt b
  | .float a, .uint b => a == Decimal.toFloat b
  | .str a, .str b => a == b
  | .bytes a, .bytes b => a == b
  | .list a, .list b => sameItems a b
  | .map a, .map b => a.length == b.length && sameEntries a b
  | .span a, .span b => a == b
  | .instant a, .instant b => a.compare b == .eq
  | .absent, .absent => true
  | .present a, .present b => same a b
  | _, _ => false
/-- `same` item by item. -/
def sameItems : List Value → List Value → Bool
  | [], [] => true
  | x :: xs, y :: ys => same x y && sameItems xs ys
  | _, _ => false
/-- Whether each of the first entries has the same value under its key in `others`. -/
def sameEntries : List (Key × Value) → List (Key × Value) → Bool
  | [], _ => true
  | (k, v) :: rest, others =>
    (match valueAt? others k with
      | some w => same v w
      | none => false) && sameEntries rest others
end

/-- The order of two doubles, if neither is a NaN. -/
def orderFloats (a b : Float) : Option Ordering :=
  if a < b then some .lt else if a == b then some .eq else if b < a then some .gt else none

/-- The order of two values, if they can be ordered. -/
def order? : Value → Value → Option Ordering
  | .null, .null => some .eq
  | .bool a, .bool b => some (compare a b)
  | .int a, .int b => some (compare a b)
  | .uint a, .uint b => some (compare a b)
  | .int a, .uint b => some (compare a (Int.ofNat b))
  | .uint a, .int b => some (compare (Int.ofNat a) b)
  | .float a, .float b => orderFloats a b
  | .int a, .float b => orderFloats (floatOfInt a) b
  | .uint a, .float b => orderFloats (Decimal.toFloat a) b
  | .float a, .int b => orderFloats a (floatOfInt b)
  | .float a, .uint b => orderFloats a (Decimal.toFloat b)
  | .str a, .str b => some (compare a b)
  | .span a, .span b => some (compare a.nanos b.nanos)
  | .instant a, .instant b => some (a.compare b)
  | _, _ => none

/-- The name of a value's type. -/
def typeName : Value → String
  | .null => "null"
  | .bool _ => "bool"
  | .int _ => "int"
  | .uint _ => "uint"
  | .float _ => "float"
  | .str _ => "string"
  | .bytes _ => "bytes"
  | .list _ => "list"
  | .map _ => "map"
  | .span _ => "duration"
  | .instant _ => "timestamp"
  | .absent => "opaque"
  | .present _ => "opaque"

/-- A number in hexadecimal. -/
def hexText (n : Nat) : List Char := Nat.toDigits 16 n

/-- A character inside a shown string. -/
def shownChar (c : Char) : List Char :=
  if c == '"' then ['\\', '"']
  else if c == '\\' then ['\\', '\\']
  else if c == '\n' then ['\\', 'n']
  else if c == '\r' then ['\\', 'r']
  else if c == '\t' then ['\\', 't']
  else if c.toNat == 0 then ['\\', '0']
  else if Text.isHidden c then ['\\', 'u', '\x7b'] ++ hexText c.toNat ++ ['\x7d']
  else [c]

/-- A string in quotes, with characters that have no picture shown by their code. -/
def shownString (s : String) : String := "\"" ++ String.ofList (s.toList.flatMap shownChar) ++ "\""

/-- A truth value in words. -/
def shownBool (b : Bool) : String := if b then "true" else "false"

/-- A key with its type. -/
def shownKey : Key → String
  | .int n => "Int(" ++ toString n ++ ")"
  | .uint n => "Uint(" ++ toString n ++ ")"
  | .bool b => "Bool(" ++ shownBool b ++ ")"
  | .str s => "String(" ++ shownString s ++ ")"

mutual
/-- A value with its type, as messages show it. -/
def shown : Value → String
  | .null => "Null"
  | .bool b => "Bool(" ++ shownBool b ++ ")"
  | .int n => "Int(" ++ toString n ++ ")"
  | .uint n => "UInt(" ++ toString n ++ ")"
  | .float x => "Float(" ++ Decimal.Layout.shown.text x ++ ")"
  | .str s => "String(" ++ shownString s ++ ")"
  | .bytes bs => "Bytes([" ++ Text.join ", " (bs.map fun b => toString b.toNat) ++ "])"
  | .list items => "List([" ++ Text.join ", " (shownItems items) ++ "])"
  | .map entries =>
    if entries.isEmpty then "Map(Map \x7b map: \x7b\x7d \x7d)"
    else "Map(Map \x7b map: \x7b" ++ Text.join ", " (shownEntries entries) ++ "\x7d \x7d)"
  | .span s => "Duration(" ++ s.shown ++ ")"
  | .instant t => "Timestamp(" ++ t.text ++ ")"
  | .absent => "Opaque<optional_type>(OptionalValue \x7b value: None \x7d)"
  | .present v => "Opaque<optional_type>(OptionalValue \x7b value: Some(" ++ shown v ++ ") \x7d)"
/-- `shown` for each item. -/
def shownItems : List Value → List String
  | [] => []
  | v :: vs => shown v :: shownItems vs
/-- Each entry as a key and a value. -/
def shownEntries : List (Key × Value) → List String
  | [] => []
  | (k, v) :: rest => (shownKey k ++ ": " ++ shown v) :: shownEntries rest
end

mutual
/-- A JSON value as a value: a whole number is unsigned unless it is negative. -/
def ofJson : Json → Value
  | .null => .null
  | .bool b => .bool b
  | .num (.int n) => if 0 ≤ n then .uint n.toNat else .int n
  | .num (.float x) => .float x
  | .str s => .str s
  | .arr items => .list (ofJsonItems items)
  | .obj members => .map (ofJsonMembers members)
/-- `ofJson` for each item. -/
def ofJsonItems : List Json → List Value
  | [] => []
  | x :: xs => ofJson x :: ofJsonItems xs
/-- `ofJson` for each member, with its name as key. -/
def ofJsonMembers : List (String × Json) → List (Key × Value)
  | [] => []
  | (n, v) :: rest => (.str n, ofJson v) :: ofJsonMembers rest
end

mutual
/-- A value as JSON, or else the span in it that is too long for a 64-bit number of nanoseconds. -/
def toJson : Value → Except Calendar.Span Json
  | .null => .ok .null
  | .bool b => .ok (.bool b)
  | .int n => .ok (.ofInt n)
  | .uint n => .ok (.ofNat n)
  | .float x => .ok (.ofFloat x)
  | .str s => .ok (.str s)
  | .bytes bs => .ok (.str (String.ofList (Text.base64 bs)))
  | .list items => (toJsonItems items).map .arr
  | .map entries => (toJsonEntries entries).map Json.object
  | .span s => if fitsInt s.nanos then .ok (.ofInt s.nanos) else .error s
  | .instant t => .ok (.str t.text)
  | .absent => .ok .null
  | .present _ => .ok .null
/-- `toJson` for each item. -/
def toJsonItems : List Value → Except Calendar.Span (List Json)
  | [] => .ok []
  | v :: vs => do
    let x ← toJson v
    let xs ← toJsonItems vs
    .ok (x :: xs)
/-- `toJson` for each entry, with its key as name. -/
def toJsonEntries : List (Key × Value) → Except Calendar.Span (List (String × Json))
  | [] => .ok []
  | (k, v) :: rest => do
    let x ← toJson v
    let xs ← toJsonEntries rest
    .ok ((k.text, x) :: xs)
end

/-- Whether a value counts as empty: zero, false, null, or nothing inside. -/
def isZero : Value → Bool
  | .null => true
  | .bool b => !b
  | .int n => n == 0
  | .uint n => n == 0
  | .float x => x == 0.0
  | .str s => s.isEmpty
  | .bytes bs => bs.isEmpty
  | .list items => items.isEmpty
  | .map entries => entries.isEmpty
  | .span s => s.nanos == 0
  | _ => false

/-- Whether a value passes as a test: bytes, spans, points in time and optional values always do. -/
def isTruthy : Value → Bool
  | .bytes _ => true
  | .span _ => true
  | v => !v.isZero

end Value
end TestScenario.Script
