import TestScenario.Json.Value
import TestScenario.Decimal.Reading
import TestScenario.Document.Style

/-!
The nodes of YAML documents, and what a plain scalar means where any value may stand.

A plain scalar is null, a truth value, a number or else a string; a scalar that is written in quotes or as a block is
always a string.
-/

namespace TestScenario.Document

/-- A node of a document whose aliases are resolved. -/
inductive Node where
  | scalar (tag : Option String) (style : Style) (text : String)
  | sequence (tag : Option String) (items : List Node)
  | mapping (tag : Option String) (entries : List (Node × Node))
  /-- What lies inside itself, or too deep inside others or behind too many aliases to be read. -/
  | endless

instance : Inhabited Node := ⟨.scalar none .plain ""⟩

/-- The tags of scalars that say of which type they are. -/
def tagPrefix : String := "tag:yaml.org,2002:"

namespace Scalar

/-- Whether a text means null. -/
def isNull (s : String) : Bool := s == "null" || s == "Null" || s == "NULL" || s == "~"

/-- The truth value that a text means. -/
def bool? (s : String) : Option Bool :=
  if s == "true" || s == "True" || s == "TRUE" then some true
  else if s == "false" || s == "False" || s == "FALSE" then some false
  else none

/-- A digit in octal. -/
def octalValue (c : Char) : Option Nat := if '0' ≤ c ∧ c ≤ '7' then some (c.toNat - 48) else none

/-- A digit in binary. -/
def binaryValue (c : Char) : Option Nat := if c == '0' then some 0 else if c == '1' then some 1 else none

/-- Digits behind the mark of their base. -/
def marked? : List Char → Option Nat
  | '0' :: 'x' :: ds => Decimal.readDigits 16 Decimal.hexValue ds
  | '0' :: 'o' :: ds => Decimal.readDigits 8 octalValue ds
  | '0' :: 'b' :: ds => Decimal.readDigits 2 binaryValue ds
  | _ => none

/-- A sign, and the text after it. -/
def sign : List Char → Option Bool × List Char
  | '+' :: rest => (some false, rest)
  | '-' :: rest => (some true, rest)
  | cs => (none, cs)

/-- Several digits that begin with a zero: a string although it looks like a number. -/
def isPaddedDigits (cs : List Char) : Bool :=
  match (sign cs).2 with
  | '0' :: d :: ds => (d :: ds).all Char.isDigit
  | _ => false

/-- The whole number that a text means. -/
def int? (s : String) : Option Int :=
  let cs := s.toList
  let (negative, digits) := sign cs
  let magnitude := marked? digits <|> (if isPaddedDigits cs then none else Decimal.readNat digits)
  magnitude.map fun n => if negative == some true then -Int.ofNat n else Int.ofNat n

/-- The double that a text means. -/
def float? (s : String) : Option Float :=
  let cs := s.toList
  let (negative, body) := sign cs
  let word := String.ofList body
  if word == ".inf" || word == ".Inf" || word == ".INF" then
    some (if negative == some true then -1.0 / 0.0 else 1.0 / 0.0)
  else if s == ".nan" || s == ".NaN" || s == ".NAN" then some (0.0 / 0.0)
  else if isPaddedDigits cs || (negative == some false && (sign body).1.isSome) then none
  else (Decimal.readFloat cs).bind fun x => if x.isFinite then some x else none

/-- The value of a plain scalar; whole numbers beyond 64 bits are refused up to 128 bits. -/
def plain (s : String) : Option Json :=
  if s.isEmpty || isNull s then some .null
  else match bool? s with
    | some b => some (.bool b)
    | none =>
      match int? s with
      | some n =>
        if Decimal.minInt64 ≤ n && n ≤ Decimal.maxUInt64 then some (.ofInt n)
        else if Decimal.minInt128 ≤ n && n ≤ Decimal.maxUInt128 then none
        else some (((float? s).map Json.ofFloat).getD (.str s))
      | none =>
        match float? s with
        | some x => some (.ofFloat x)
        | none => some (.str s)

/-- The name in a tag that belongs to one document alone. -/
def local? (tag : String) : Option String :=
  match tag.toList with
  | '!' :: c :: cs => some (String.ofList (c :: cs))
  | _ => none

/-- The value of a scalar with a tag; a tag of one document has none in JSON. -/
def tagged (tag : String) (style : Style) (s : String) : Option Json :=
  if tag == tagPrefix ++ "null" then (if isNull s then some .null else none)
  else if tag == tagPrefix ++ "bool" then (bool? s).map .bool
  else if tag == tagPrefix ++ "int" then
    (int? s).bind fun n => if Decimal.minInt64 ≤ n && n ≤ Decimal.maxUInt64 then some (.ofInt n) else none
  else if tag == tagPrefix ++ "float" then (float? s).map .ofFloat
  else if (local? tag).isSome then none
  else if tag == "!" && style == .plain then plain s
  else some (.str s)

end Scalar

namespace Node

/-- The text of a scalar. -/
def text? : Node → Option String
  | .scalar _ _ s => some s
  | _ => none

/-- The word that a scalar stands for: a tag of one document with nothing behind it, or else its text. -/
def word? : Node → Option String
  | .scalar tag style s =>
    match tag.bind Scalar.local? with
    | some name => if style == .plain && (s.isEmpty || Scalar.isNull s) then some name else none
    | none => some s
  | _ => none

/-- Whether nothing is written at all. -/
def isVoid : Node → Bool
  | .scalar _ .plain s => s.isEmpty
  | _ => false

/-- Whether the node means that there is no value; `none` if its tag says so, but not its text. -/
def isNull? : Node → Option Bool
  | .scalar none .plain s => some (s.isEmpty || Scalar.isNull s)
  | .scalar (some tag) .plain s =>
    if tag == tagPrefix ++ "null" then (if Scalar.isNull s then some true else none) else some false
  | _ => some false

/-- The whole number of a scalar that is plain, or a literal block with the tag of whole numbers. -/
def int? : Node → Option Int
  | .scalar _ .plain s => Scalar.int? s
  | .scalar (some tag) .literal s => if tag == tagPrefix ++ "int" then Scalar.int? s else none
  | _ => none

mutual
/-- The node as JSON; of a repeated key the last one counts. -/
def toJson? : Node → Option Json
  | .scalar none style s => if style == .plain then Scalar.plain s else some (.str s)
  | .scalar (some tag) style s => Scalar.tagged tag style s
  | .sequence tag items => if (tag.bind Scalar.local?).isSome then none else (itemsToJson? items).map .arr
  | .mapping tag entries => if (tag.bind Scalar.local?).isSome then none else (entriesToJson? entries).map .object
  | .endless => none
/-- `toJson?` for each item. -/
def itemsToJson? : List Node → Option (List Json)
  | [] => some []
  | x :: xs => do
    let v ← toJson? x
    let vs ← itemsToJson? xs
    some (v :: vs)
/-- `toJson?` for the value of each entry, with the text of its key as name. -/
def entriesToJson? : List (Node × Node) → Option (List (String × Json))
  | [] => some []
  | (k, x) :: rest => do
    let name ← k.text?
    let v ← toJson? x
    let vs ← entriesToJson? rest
    some ((name, v) :: vs)
end

end Node
end TestScenario.Document
