/-!
The characters of a YAML document, each with its place.

Every way to end a line counts as one line feed, except for the separators of lines and of paragraphs, which stay
what they are.
-/

namespace TestScenario.Document

/-- A character and where it stands: its line, its column in that line, and its index in the text, all from zero. -/
structure Mark where
  char : Char
  line : Nat
  column : Nat
  index : Nat
deriving DecidableEq, Repr

namespace Mark

/-- Whether a character may stand in a document. -/
def isAllowed (c : Char) : Bool :=
  let n := c.toNat
  n == 0x09 || n == 0x0A || n == 0x0D || (0x20 ≤ n && n ≤ 0x7E) || n == 0x85 || (0xA0 ≤ n && n ≤ 0xD7FF)
    || (0xE000 ≤ n && n ≤ 0xFFFD) || 0x10000 ≤ n

/-- The mark that may stand in front of the first line, and of others. -/
def orderMark : Char := '\uFEFF'

/-- A space or a tab. -/
def isBlank (c : Char) : Bool := c == ' ' || c == '\t'

/-- The end of a line. -/
def isBreak (c : Char) : Bool := c == '\n' || c == '\u2028' || c == '\u2029'

/-- Whether a character may stand in the name of an anchor. -/
def isNameChar (c : Char) : Bool := c.isAlphanum || c == '_' || c == '-'

/-- Whether the text ends, or a blank or the end of a line follows. -/
def endsWord : List Mark → Bool
  | [] => true
  | m :: _ => isBlank m.char || isBreak m.char

/-- Whether the next character is the one given. -/
def startsWith (c : Char) : List Mark → Bool
  | [] => false
  | m :: _ => m.char == c

/-- Whether three dashes, or three dots, stand at the beginning of a line. -/
def isTriple (c : Char) : List Mark → Bool
  | a :: b :: d :: rest => a.column == 0 && a.char == c && b.char == c && d.char == c && endsWord rest
  | _ => false

/-- Whether a line separates documents. -/
def isBoundary (ms : List Mark) : Bool := isTriple '-' ms || isTriple '.' ms

/-- The characters with their places, the first one at a place given. -/
def ofChars (line column index : Nat) : List Char → List Mark
  | [] => []
  | '\r' :: '\n' :: rest => ⟨'\n', line, column, index⟩ :: ofChars (line + 1) 0 (index + 2) rest
  | c :: rest =>
    if c == '\r' || c == '\n' || c == '\u0085' then ⟨'\n', line, column, index⟩ :: ofChars (line + 1) 0 (index + 1) rest
    else if isBreak c then ⟨c, line, column, index⟩ :: ofChars (line + 1) 0 (index + 1) rest
    else ⟨c, line, column, index⟩ :: ofChars line (column + 1) (index + 1) rest

/-- The characters of a text, unless one may not stand there; an order mark in front does not count. -/
def ofText (text : String) : Option (List Mark) :=
  let cs := if text.toList.head? == some orderMark then text.toList.drop 1 else text.toList
  if cs.all isAllowed then some (ofChars 0 0 0 cs) else none

end Mark
end TestScenario.Document
