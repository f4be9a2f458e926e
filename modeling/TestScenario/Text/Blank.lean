/-!
Blank characters and trimming: the Unicode White_Space property, and a text without its blank ends.
-/

namespace TestScenario.Text

/-- The characters with the Unicode property White_Space. -/
def isBlank (c : Char) : Bool :=
  let n := c.toNat
  (9 ≤ n && n ≤ 13) || n == 32 || n == 0x85 || n == 0xA0 || n == 0x1680 || (0x2000 ≤ n && n ≤ 0x200A)
    || n == 0x2028 || n == 0x2029 || n == 0x202F || n == 0x205F || n == 0x3000

/-- A text without the blanks at its end. -/
def trimEnd (cs : List Char) : List Char := (cs.reverse.dropWhile isBlank).reverse

/-- A text without the blanks at its start and at its end. -/
def trim (cs : List Char) : List Char := trimEnd (cs.dropWhile isBlank)

/-- `trim` on strings. -/
def trimmed (s : String) : String := String.ofList (trim s.toList)

/-- Nothing but blanks. -/
def isBlankText (s : String) : Bool := s.toList.all isBlank

/-- A text with its ASCII letters in lower case. -/
def lowerAscii (s : String) : String := s.map Char.toLower

/-- Equality up to the case of ASCII letters. -/
def sameIgnoringCase (s t : String) : Bool := lowerAscii s == lowerAscii t

/-- The first place where `part` occurs, as what stands before and after it. -/
def splitOnce {α : Type} [BEq α] (part : List α) : List α → Option (List α × List α)
  | [] => if part.isEmpty then some ([], []) else none
  | c :: rest =>
    if part.isPrefixOf (c :: rest) then some ([], (c :: rest).drop part.length)
    else (splitOnce part rest).map fun (before, after) => (c :: before, after)

/-- Whether `part` occurs in `s`. -/
def contains (s part : String) : Bool := (splitOnce part.toList s.toList).isSome

/-- The texts of a list with a separator between neighbours. -/
def join (sep : String) (parts : List String) : String := sep.intercalate parts

end TestScenario.Text
