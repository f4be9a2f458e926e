import TestScenario.Decimal.Reading
import TestScenario.Unicode.Category
import TestScenario.Unicode.Composition
import TestScenario.Unicode.Direction
import TestScenario.Unicode.DomainMapping
import TestScenario.Unicode.Joining
import TestScenario.Url.Basic
import TestScenario.Url.Punycode

/-!
Domain names in ASCII.

A domain name is first brought into its usual form. Then each label between its dots is checked, also one that was
written in ASCII but stands for other characters, and labels outside ASCII are written in ASCII. As soon as a label has
characters that are written from right to left, no label may mix directions.
-/

namespace TestScenario.Url
open TestScenario.Unicode

/-- The bytes that a text with percent signs stands for. -/
def percentDecode : List Char → List UInt8
  | [] => []
  | '%' :: a :: b :: rest =>
    match Decimal.readDigits 16 Decimal.hexValue [a, b] with
    | some n => n.toUInt8 :: percentDecode rest
    | none => 0x25 :: percentDecode (a :: b :: rest)
  | c :: rest => Text.utf8 (String.singleton c) ++ percentDecode rest

/-- Whether a character may not stand in a domain. -/
def isForbidden (c : Char) : Bool := isControl c || " #/:<>?@[\\]^|%".toList.contains c

/-- Whether a text is in ASCII. -/
def isAscii (cs : List Char) : Bool := cs.all (·.toNat < 0x80)

namespace Domain

/-- The usual form of a text in a domain name, if all its characters may stand there. -/
def usualForm? (cs : List Char) : Option (List Char) := do
  let cs := Composition.normalize (← DomainMapping.formsOf? cs)
  if cs.any isForbidden then none else some cs

/-- The marks of all scripts. -/
def marks : ScalarSet := Category.set ["Mn", "Me", "Mc"]

/-- A joiner may stand behind the sign that a vowel is missing; the one that forbids joining may also stand between
    letters that would be joined. `before` are the characters before it, latest first. -/
def joinerFits (before : List Char) (joiner : Char) (after : List Char) : Bool :=
  match before with
  | [] => false
  | c :: _ =>
    Composition.combiningClass c.toNat == Composition.missingVowel
      || (joiner == '\u200c' && Joining.reaches .left .both before && Joining.reaches .right .both after)

/-- Whether all joiners of a label may stand where they do. -/
def joinersFit (before : List Char) : List Char → Bool
  | [] => true
  | c :: rest => (!(c == '\u200c' || c == '\u200d') || joinerFits before c rest) && joinersFit (c :: before) rest

/-- How long a label outside ASCII may be. -/
def longestLabel : Nat := 1000

/-- How long what stands behind the mark of a label in ASCII that stands for others may be. -/
def longestCode : Nat := 2000

/-- Whether a label in its usual form may stand in a domain name: it does not begin with a mark, and its joiners are
    in place. -/
def isLabel (label : List Char) : Bool :=
  !label.head?.any marks.contains && joinersFit [] label && (isAscii label || label.length ≤ longestLabel)

/-- What a label begins with that is written in ASCII but stands for other characters. -/
def codeMark : List Char := ['x', 'n', '-', '-']

/-- A label: as it is shown, and as it is written in ASCII. -/
structure Label where
  shown : List Char
  written : List Char

/-- The label that a text in its usual form stands for. A code has to stand for a label outside ASCII in its usual
    form. -/
def Label.ofText (text : List Char) : Option Label :=
  if codeMark.isPrefixOf text then do
    let code := text.drop codeMark.length
    if !isAscii code || code.isEmpty || code.getLast? == some '-' || longestCode < code.length then none
    else
      let shown ← Punycode.decode code
      if usualForm? shown == some shown && !shown.contains '.' && isLabel shown then some ⟨shown, text⟩ else none
  else if isLabel text then some ⟨text, if isAscii text then text else codeMark ++ Punycode.encode text⟩
  else none

/-- Whether a character makes a domain name one with directions. -/
def turns (k : Direction.Kind) : Bool := k == .rightToLeft || k == .arabicLetter || k == .arabicNumber

/-- The kinds that may stand in labels of both directions. -/
def common : List Direction.Kind :=
  [.europeanNumber, .numberSeparator, .commonSeparator, .numberTerminator, .neutral, .boundary, .mark]

/-- Whether a label keeps to one direction: the one of its first character. Marks at its end do not count; what is
    left ends with a letter or a number, and there are not both kinds of numbers in a label from right to left. -/
def keepsDirection (label : List Char) : Bool :=
  match label.map Direction.kind with
  | [] => true
  | first :: rest =>
    match (rest.reverse.dropWhile (· == .mark)) with
    | [] => first == .leftToRight || first == .rightToLeft || first == .arabicLetter
    | last :: before =>
      if first == .leftToRight then
        (last == .leftToRight || last == .europeanNumber) && before.all fun k => k == .leftToRight || common.contains k
      else if first == .rightToLeft || first == .arabicLetter then
        (turns last || last == .europeanNumber) && (before.all fun k => turns k || common.contains k)
          && !((last :: before).contains .arabicNumber && (last :: before).contains .europeanNumber)
      else false

/-- A domain name in ASCII, if it is one. -/
def ascii? (cs : List Char) : Option (List Char) := do
  let text ← String.fromUTF8? (ByteArray.mk (percentDecode cs).toArray)
  let labels ← ((← usualForm? text.toList).splitOn '.').mapM Label.ofText
  let turned := labels.any fun l => l.shown.any fun c => turns (Direction.kind c)
  if turned && !labels.all (keepsDirection ·.shown) then none
  else some (['.'].intercalate (labels.map Label.written))

end Domain
end TestScenario.Url
