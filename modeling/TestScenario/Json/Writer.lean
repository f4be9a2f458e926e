import TestScenario.Json.Value
import TestScenario.Decimal.Layout

/-!
The compact text of JSON values, their text with a line for every part, and the text that stands for a value inside
other text.
-/

namespace TestScenario.Json

/-- A hexadecimal digit in lower case. -/
def hexDigit (n : Nat) : Char := if n < 10 then Char.ofNat (48 + n) else Char.ofNat (87 + n)

/-- A character inside a string: quotes, backslashes and control characters are escaped. -/
def escape (c : Char) : List Char :=
  if c == '"' then ['\\', '"']
  else if c == '\\' then ['\\', '\\']
  else if c.toNat == 8 then ['\\', 'b']
  else if c.toNat == 9 then ['\\', 't']
  else if c.toNat == 10 then ['\\', 'n']
  else if c.toNat == 12 then ['\\', 'f']
  else if c.toNat == 13 then ['\\', 'r']
  else if c.toNat < 32 then ['\\', 'u', '0', '0', hexDigit (c.toNat / 16), hexDigit (c.toNat % 16)]
  else [c]

/-- A string in quotes. -/
def quote (s : String) : List Char := '"' :: s.toList.flatMap escape ++ ['"']

/-- A number: whole numbers in decimal, doubles by the layout `Layout.json`. -/
def Number.text : Number → List Char
  | .int n => (toString n).toList
  | .float x => (Decimal.Layout.json.text x).toList

mutual
/-- The characters of the compact text. -/
def chars : Json → List Char
  | .null => "null".toList
  | .bool true => "true".toList
  | .bool false => "false".toList
  | .num n => n.text
  | .str s => quote s
  | .arr items => '[' :: itemChars true items ++ [']']
  | .obj members => '{' :: memberChars true members ++ ['}']
/-- Items between commas; `first` says that no comma is due before the next. -/
def itemChars (first : Bool) : List Json → List Char
  | [] => []
  | x :: xs => (if first then [] else [',']) ++ chars x ++ itemChars false xs
/-- Members between commas. -/
def memberChars (first : Bool) : List (String × Json) → List Char
  | [] => []
  | (n, v) :: rest => (if first then [] else [',']) ++ quote n ++ ':' :: chars v ++ memberChars false rest
end

/-- The compact text of a value. -/
def compact (v : Json) : String := String.ofList v.chars

/-- A line break and the blanks that a line begins with. -/
def newLine (indent : Nat) : List Char := '\n' :: List.replicate indent ' '

mutual
/-- The characters of the text with a line for every part, of which `indent` blanks begin each line. -/
def lineChars (indent : Nat) : Json → List Char
  | .arr (x :: xs) => '[' :: lineItems (indent + 2) true (x :: xs) ++ newLine indent ++ [']']
  | .obj (m :: ms) => '\x7b' :: lineMembers (indent + 2) true (m :: ms) ++ newLine indent ++ ['\x7d']
  | v => chars v
/-- Items on lines of their own. -/
def lineItems (indent : Nat) (first : Bool) : List Json → List Char
  | [] => []
  | x :: xs => (if first then [] else [',']) ++ newLine indent ++ lineChars indent x ++ lineItems indent false xs
/-- Members on lines of their own. -/
def lineMembers (indent : Nat) (first : Bool) : List (String × Json) → List Char
  | [] => []
  | (n, v) :: rest =>
    (if first then [] else [',']) ++ newLine indent ++ quote n ++ [':', ' '] ++ lineChars indent v
      ++ lineMembers indent false rest
end

/-- The text of a value with a line for every part. -/
def pretty (v : Json) : String := String.ofList (v.lineChars 0)

/-- What a value reads as inside text: a string is its own characters, any other value its compact text. -/
def text : Json → String
  | .str s => s
  | v => v.compact

end TestScenario.Json
