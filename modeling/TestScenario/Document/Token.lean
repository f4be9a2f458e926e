import TestScenario.Document.ScalarText
import TestScenario.Document.Style

/-!
The tokens of a YAML document.

Indentation becomes tokens that open and close block collections. That something is a key shows only at the colon
after it, so that the place of everything that may turn out to be a key is remembered; a key has to stand on one line
and within 1024 characters before its colon.
-/

namespace TestScenario.Document
open Mark

/-- A token; the end of the text is the end of the list of tokens. -/
inductive Token where
  | version (major minor : Nat)
  | tagHandle (handle uri : String)
  | documentStart
  | documentEnd
  | blockSequenceStart
  | blockMappingStart
  | blockEnd
  | flowSequenceStart
  | flowSequenceEnd
  | flowMappingStart
  | flowMappingEnd
  | blockEntry
  | flowEntry
  | key
  | value
  | alias (name : String)
  | anchor (name : String)
  | tag (handle suffix : String)
  | scalar (style : Style) (text : String)
deriving DecidableEq, Repr

/-- Something that may turn out to be a key: where it stands in the text and among the tokens, and whether nothing
    else may stand there. -/
structure PossibleKey where
  mark : Mark
  position : Nat
  required : Bool

/-- What has been read so far. -/
structure Scan where
  tokens : Array Token := #[]
  /-- The columns of the open block collections, innermost first. -/
  indents : List Nat := []
  keyAllowed : Bool := true
  key : Option PossibleKey := none
  /-- The possible keys around each open bracket, innermost first. -/
  outer : List (Option PossibleKey) := []

namespace Scan

/-- Whether brackets are open. -/
def inFlow (s : Scan) : Bool := !s.outer.isEmpty

/-- One more token. -/
def put (t : Token) (s : Scan) : Scan := { s with tokens := s.tokens.push t }

/-- Collections closed that are indented by more than a column, or all of them. -/
def unroll (column : Option Nat) (s : Scan) : Scan :=
  if s.inFlow then s
  else
    let isDeeper (indent : Nat) : Bool := column.all (· < indent)
    { s with
      tokens := (s.indents.takeWhile isDeeper).foldl (fun ts _ => ts.push .blockEnd) s.tokens
      indents := s.indents.dropWhile isDeeper }

/-- A collection opened at a column, unless it is open already; its token goes to a position. -/
def roll (column position : Nat) (t : Token) (s : Scan) : Scan :=
  if !s.inFlow && s.indents.head?.all (· < column) then
    { s with tokens := s.tokens.insertIdxIfInBounds position t, indents := column :: s.indents }
  else s

/-- The possible key given up; `none` if it was required. -/
def dropKey (s : Scan) : Option Scan := if s.key.any (·.required) then none else some { s with key := none }

/-- A possible key at a place, if keys are allowed. -/
def saveKey (m : Mark) (s : Scan) : Option Scan :=
  if s.keyAllowed then do
    let s ← s.dropKey
    let required := !s.inFlow && s.indents.head? == some m.column
    some { s with key := some ⟨m, s.tokens.size, required⟩ }
  else some s

/-- A possible key that is left at a place; `none` if it was required and is not left. -/
def freshKey (m : Mark) : Option PossibleKey → Option (Option PossibleKey)
  | none => some none
  | some k =>
    if k.mark.line < m.line || k.mark.index + 1024 < m.index then (if k.required then none else some none)
    else some (some k)

/-- Possible keys given up that are too far from a place. -/
def forgetKeys (m : Mark) (s : Scan) : Option Scan := do
  let key ← freshKey m s.key
  let outer ← s.outer.mapM (freshKey m)
  some { s with key, outer }

/-- The text after blanks, comments, line breaks and order marks at the beginning of lines, and whether a key may
    stand there. -/
def toNext (inFlow keyAllowed inComment : Bool) : List Mark → Bool × List Mark
  | [] => (keyAllowed, [])
  | m :: rest =>
    if isBreak m.char then toNext inFlow (keyAllowed || !inFlow) false rest
    else if inComment then toNext inFlow keyAllowed true rest
    else if m.char == orderMark && m.column == 0 then toNext inFlow keyAllowed false rest
    else if m.char == ' ' || (m.char == '\t' && (inFlow || !keyAllowed)) then toNext inFlow keyAllowed false rest
    else if m.char == '#' then toNext inFlow keyAllowed true rest
    else (keyAllowed, m :: rest)

/-- The characters up to the first that may not stand in a name. -/
def name (ms : List Mark) : List Char × List Mark :=
  ((ms.takeWhile (isNameChar ·.char)).map (·.char), ms.dropWhile (isNameChar ·.char))

/-- Whether a character may stand in a tag; in angle brackets there are more. -/
def isTagChar (extended : Bool) (c : Char) : Bool :=
  isNameChar c || ";/?:@&=+$.!~*'()".toList.contains c || (extended && ",[]".toList.contains c)

/-- How many bytes follow the first one of a character in UTF-8. -/
def trailing? (byte : Nat) : Option Nat :=
  if byte < 0x80 then some 0
  else if byte < 0xC0 then none
  else if byte < 0xE0 then some 1
  else if byte < 0xF0 then some 2
  else if byte < 0xF8 then some 3
  else none

/-- The rest of a tag, with percent signs before the bytes of characters; `pending` of them are still to come for the
    character that was begun, whose bits so far are `code`. -/
def tagUri (extended : Bool) (pending code : Nat) (seen : List Char) : List Mark → Option (List Char × List Mark)
  | a :: b :: c :: rest =>
    if a.char == '%' then do
      let byte ← Decimal.readDigits 16 Decimal.hexValue [b.char, c.char]
      if pending == 0 then
        let trailing ← trailing? byte
        let code := if trailing == 0 then byte else byte % 2 ^ (6 - trailing)
        tagUri extended trailing code (if trailing == 0 then Char.ofNat code :: seen else seen) rest
      else if byte / 0x40 != 2 then none
      else
        let code := code * 0x40 + byte % 0x40
        tagUri extended (pending - 1) code (if pending == 1 then Char.ofNat code :: seen else seen) rest
    else if pending != 0 then none
    else if isTagChar extended a.char then tagUri extended 0 0 (a.char :: seen) (b :: c :: rest)
    else some (seen.reverse, a :: b :: c :: rest)
  | a :: rest =>
    if a.char == '%' || pending != 0 then none
    else if isTagChar extended a.char then tagUri extended 0 0 (a.char :: seen) rest
    else some (seen.reverse, a :: rest)
  | [] => if pending == 0 then some (seen.reverse, []) else none

/-- A tag behind its exclamation mark. -/
def tag (ms : List Mark) : Option (Token × List Mark) :=
  if startsWith '<' ms then do
    let (uri, ms) ← tagUri true 0 0 [] (ms.drop 1)
    if !uri.isEmpty && startsWith '>' ms then some (.tag "" (String.ofList uri), ms.drop 1) else none
  else
    let (handle, after) := name ms
    if startsWith '!' after then do
      let (suffix, ms) ← tagUri false 0 0 [] (after.drop 1)
      if suffix.isEmpty then none
      else some (.tag (String.ofList ('!' :: handle ++ ['!'])) (String.ofList suffix), ms)
    else do
      let (suffix, ms) ← tagUri false 0 0 handle.reverse after
      if suffix.isEmpty then some (.tag "" "!", ms) else some (.tag "!" (String.ofList suffix), ms)

/-- A number of at most nine digits. -/
def versionNumber (ms : List Mark) : Option (Nat × List Mark) := do
  let digits := (ms.takeWhile (·.char.isDigit)).map (·.char)
  let n ← Decimal.readNat digits
  if digits.length ≤ 9 then some (n, ms.dropWhile (·.char.isDigit)) else none

/-- A directive behind its percent sign. -/
def directive (ms : List Mark) : Option (Token × List Mark) := do
  let (word, ms) := name ms
  if !endsWord ms then none
  else
    let ms := ms.dropWhile (isBlank ·.char)
    if word == "YAML".toList then do
      let (major, ms) ← versionNumber ms
      if !startsWith '.' ms then none
      else
        let (minor, ms) ← versionNumber (ms.drop 1)
        some (.version major minor, ← ScalarText.lineEnd ms)
    else if word == "TAG".toList && startsWith '!' ms then do
      let (handle, after) := name (ms.drop 1)
      let closed := startsWith '!' after
      if !closed && !handle.isEmpty then none
      else
        let after := if closed then after.drop 1 else after
        if !after.head?.any (isBlank ·.char) then none
        else
          let (uri, ms) ← tagUri true 0 0 [] (after.dropWhile (isBlank ·.char))
          if uri.isEmpty || !endsWord ms then none
          else
            let handle := '!' :: handle ++ (if closed then ['!'] else [])
            some (.tagHandle (String.ofList handle) (String.ofList uri), ← ScalarText.lineEnd ms)
    else none

/-- All open block collections closed, for the end of a document. -/
def closeAll (s : Scan) : Option Scan := do
  let s ← (s.unroll none).dropKey
  some { s with keyAllowed := false }

/-- An opening bracket. -/
def openFlow (m : Mark) (t : Token) (s : Scan) : Option Scan := do
  let s ← s.saveKey m
  let outer := s.key :: s.outer
  some { s.put t with key := none, outer, keyAllowed := true }

/-- A closing bracket. -/
def closeFlow (t : Token) (s : Scan) : Option Scan := do
  let s ← s.dropKey
  let key := s.outer.headD none
  let outer := s.outer.drop 1
  some { s.put t with key, outer, keyAllowed := false }

/-- A dash before an item. -/
def blockEntry (m : Mark) (s : Scan) : Option Scan := do
  if !s.inFlow && !s.keyAllowed then none
  else
    let s ← (s.roll m.column s.tokens.size .blockSequenceStart).dropKey
    some { s.put .blockEntry with keyAllowed := true }

/-- A question mark before a key. -/
def explicitKey (m : Mark) (s : Scan) : Option Scan := do
  if !s.inFlow && !s.keyAllowed then none
  else
    let s ← (s.roll m.column s.tokens.size .blockMappingStart).dropKey
    let keyAllowed := !s.inFlow
    some { s.put .key with keyAllowed }

/-- A colon before a value: what may have been a key before it now is one. -/
def value (m : Mark) (s : Scan) : Option Scan :=
  match s.key with
  | some k =>
    let s := { s with tokens := s.tokens.insertIdxIfInBounds k.position .key }
    let s := s.roll k.mark.column k.position .blockMappingStart
    some { s.put .value with key := none, keyAllowed := false }
  | none =>
    if !s.inFlow && !s.keyAllowed then none
    else
      let s := s.roll m.column s.tokens.size .blockMappingStart
      let keyAllowed := !s.inFlow
      some { s.put .value with keyAllowed }

/-- Something that may be a key. -/
def keyed (m : Mark) (t : Token) (s : Scan) : Option Scan := do
  let s ← s.saveKey m
  some { s.put t with keyAllowed := false }

/-- Whether the name of an anchor or alias may end before a text. -/
def endsName (ms : List Mark) : Bool := endsWord ms || ms.head?.any fun m => "?:,]\x7d%@`".toList.contains m.char

/-- Whether a plain scalar may begin with a character, once all other uses of it are ruled out. -/
def startsPlain (c : Char) : Bool :=
  !(isBlank c || isBreak c || ",[]\x7b\x7d#&*!|>'\"%@`".toList.contains c)

/-- The token that begins at a mark, and the text after it. -/
def next (m : Mark) (rest : List Mark) (s : Scan) : Option (Scan × List Mark) := do
  let c := m.char
  if c == '%' && m.column == 0 then
    let (t, after) ← directive rest
    some ((← s.closeAll).put t, after)
  else if isTriple '-' (m :: rest) then some ((← s.closeAll).put .documentStart, rest.drop 2)
  else if isTriple '.' (m :: rest) then some ((← s.closeAll).put .documentEnd, rest.drop 2)
  else if c == '[' then some (← s.openFlow m .flowSequenceStart, rest)
  else if c == '\x7b' then some (← s.openFlow m .flowMappingStart, rest)
  else if c == ']' then some (← s.closeFlow .flowSequenceEnd, rest)
  else if c == '\x7d' then some (← s.closeFlow .flowMappingEnd, rest)
  else if c == ',' then
    let s ← s.dropKey
    some ({ s.put .flowEntry with keyAllowed := true }, rest)
  else if c == '-' && endsWord rest then some (← s.blockEntry m, rest)
  else if c == '?' && (s.inFlow || endsWord rest) then some (← s.explicitKey m, rest)
  else if c == ':' && (s.inFlow || endsWord rest) then some (← s.value m, rest)
  else if c == '*' || c == '&' then
    let (word, after) := name rest
    if word.isEmpty || !endsName after then none
    else
      let word := String.ofList word
      some (← s.keyed m (if c == '*' then .alias word else .anchor word), after)
  else if c == '!' then
    let (t, after) ← tag rest
    if endsWord after || (s.inFlow && startsWith ',' after) then some (← s.keyed m t, after) else none
  else if (c == '|' || c == '>') && !s.inFlow then
    let (text, after) ← ScalarText.block (c == '>') s.indents.head? rest
    let s ← s.dropKey
    let style := if c == '>' then Style.folded else .literal
    some ({ s.put (.scalar style (String.ofList text)) with keyAllowed := true }, after)
  else if c == '\'' || c == '"' then
    let (text, after) ← if c == '"' then ScalarText.double [] {} rest else ScalarText.single [] {} rest
    some (← s.keyed m (.scalar .quoted (String.ofList text)), after)
  else if startsPlain c then
    let (text, broken, after) ← ScalarText.plain s.inFlow ((s.indents.head?.map (· + 1)).getD 0) [c] {} rest
    let s ← s.keyed m (.scalar .plain (String.ofList text))
    some ({ s with keyAllowed := broken }, after)
  else none

/-- All tokens of a text; every token takes at least one character, so that `fuel` need not exceed their number. -/
def all : (fuel : Nat) → Scan → List Mark → Option (Array Token)
  | 0, _, _ => none
  | fuel + 1, s, ms =>
    match toNext s.inFlow s.keyAllowed false ms with
    | (_, []) => s.closeAll.map (·.tokens)
    | (keyAllowed, m :: rest) => do
      let s ← { s with keyAllowed }.forgetKeys m
      let (s, after) ← (s.unroll (some m.column)).next m rest
      all fuel s after

end Scan

/-- The tokens of a text. -/
def Token.ofText (text : String) : Option (List Token) := do
  let ms ← Mark.ofText text
  (← Scan.all (ms.length + 1) {} ms).toList

end TestScenario.Document
