import TestScenario.Unicode.Folding
import TestScenario.Unicode.Query
import TestScenario.Text.Blank

/-!
The classes of characters that a pattern may ask for by letter or by name.
-/

namespace TestScenario.Pattern.Class
open TestScenario.Unicode

/-- The version of the character set whose classes patterns use: 16.0. -/
def version : Query.Version := (Age.number? (16, 0)).getD 0

/-- The decimal digits of all scripts. -/
def digit : ScalarSet := Query.categories version ["Nd"]

/-- The characters that separate words or lines. -/
def blank : ScalarSet := Property.whiteSpace

/-- The characters of words: letters and marks, decimal digits, connectors such as the low line, and joiners. -/
def word : ScalarSet :=
  ScalarSet.unions [Property.alphabetic.diff (Query.newer version), Query.categories version ["Mn", "Me", "Mc", "Nd", "Pc"],
    Property.joinControl]

/-- Whether a character belongs to words. In ASCII these are the letters, the digits and the low line. -/
def isWord (c : Char) : Bool := if c.toNat < 128 then c.isAlphanum || c == '_' else word.contains c

/-- The characters that fold to another one with that one, by their places. -/
def casePairs : List (Nat × Nat) :=
  let newer := Query.newer version
  Folding.pairs.filter fun (a, b) => !(ScalarSet.holds false a newer.bounds || ScalarSet.holds false b newer.bounds)

/-- The digits of ASCII. -/
def asciiDigit : ScalarSet := .between '0' '9'

/-- The small letters of ASCII. -/
def asciiLower : ScalarSet := .between 'a' 'z'

/-- The capital letters of ASCII. -/
def asciiUpper : ScalarSet := .between 'A' 'Z'

/-- The letters of ASCII. -/
def asciiAlpha : ScalarSet := asciiLower.union asciiUpper

/-- The letters and digits of ASCII. -/
def asciiAlnum : ScalarSet := asciiAlpha.union asciiDigit

/-- The letters and digits of ASCII and the low line. -/
def asciiWord : ScalarSet := asciiAlnum.union (.single '_')

/-- The blank characters of ASCII. -/
def asciiBlank : ScalarSet := .ofChars ['\t', '\n', '\x0b', '\x0c', '\r', ' ']

/-- A class of ASCII characters by its name. -/
def named? : String → Option ScalarSet
  | "alnum" => some asciiAlnum
  | "alpha" => some asciiAlpha
  | "ascii" => some (.range 0 127)
  | "blank" => some (.ofChars ['\t', ' '])
  | "cntrl" => some ((ScalarSet.range 0 31).union (.range 127 127))
  | "digit" => some asciiDigit
  | "graph" => some (.between '!' '~')
  | "lower" => some asciiLower
  | "print" => some (.between ' ' '~')
  | "punct" => some ((ScalarSet.between '!' '~').diff asciiAlnum)
  | "space" => some asciiBlank
  | "upper" => some asciiUpper
  | "word" => some asciiWord
  | "xdigit" => some (asciiDigit.union ((ScalarSet.between 'a' 'f').union (.between 'A' 'F')))
  | _ => none

/-- A class of characters with a property, from what names the property: after `!=`, `:` or `=` stands a value. -/
def property? (name : List Char) : Option ScalarSet :=
  let valued (mark : List Char) : Option (List Char × List Char) := Text.splitOnce mark name
  match valued ['!', '='] <|> valued [':'] <|> valued ['='] with
  | some (before, after) => Query.ofValue? version before after
  | none => Query.ofName? version name

end TestScenario.Pattern.Class
