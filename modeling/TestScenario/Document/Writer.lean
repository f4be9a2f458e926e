import TestScenario.Json.Writer

/-!
JSON values as YAML text.

Every value stands in brackets, and every string in double quotes with whatever is not printable ASCII escaped, so that
the text means the same wherever it is read.
-/

namespace TestScenario.Document.Writer

/-- A number in hexadecimal digits, with zeros in front. -/
def hex : (width : Nat) → Nat → List Char
  | 0, _ => []
  | width + 1, n => hex width (n / 16) ++ [Json.hexDigit (n % 16)]

/-- A character of a string. -/
def escape (c : Char) : List Char :=
  if c == '"' || c == '\\' then ['\\', c]
  else if ' ' ≤ c && c ≤ '~' then [c]
  else if c.toNat < 0x100 then '\\' :: 'x' :: hex 2 c.toNat
  else if c.toNat < 0x10000 then '\\' :: 'u' :: hex 4 c.toNat
  else '\\' :: 'U' :: hex 8 c.toNat

/-- A string in quotes. -/
def quote (s : String) : List Char := '"' :: s.toList.flatMap escape ++ ['"']

mutual
/-- A value. -/
def chars : Json → List Char
  | .null => "null".toList
  | .bool true => "true".toList
  | .bool false => "false".toList
  | .num n => n.text
  | .str s => quote s
  | .arr items => '[' :: itemChars items ++ [']']
  | .obj members => '\x7b' :: memberChars members ++ ['\x7d']
/-- The items of a list, each with a comma and a line break behind it. -/
def itemChars : List Json → List Char
  | [] => []
  | v :: rest => chars v ++ [',', '\n'] ++ itemChars rest
/-- The members of an object, each with a mark before its name, so that the name may be of any length. -/
def memberChars : List (String × Json) → List Char
  | [] => []
  | (n, v) :: rest => ['?', ' '] ++ quote n ++ [' ', ':', ' '] ++ chars v ++ [',', '\n'] ++ memberChars rest
end

/-- The text of a document with one value. -/
def text (v : Json) : String := String.ofList (chars v ++ ['\n'])

end TestScenario.Document.Writer
