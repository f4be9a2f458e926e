import TestScenario.Decimal.Reading
import TestScenario.Pattern.Tree

/-!
Patterns from their notation.

Refused are conditions on what stands around a match, references to earlier groups, unknown escapes, repetitions of
nothing, counts out of order, groups of one name, classes that are not sets of characters, and patterns that are nested
too deep. Groups, classes in brackets, repetitions, sequences and alternatives each make one level of nesting.
-/

namespace TestScenario.Pattern
open TestScenario.Unicode

/-- What the letters of a flag group switch on and off. -/
structure Flags where
  ignoreCase : Bool := false
  lines : Bool := false
  dotAll : Bool := false
  lazyFirst : Bool := false
  unicode : Bool := true
  spaced : Bool := false
  returns : Bool := false
deriving DecidableEq, Repr

namespace Reading

/-- How deep patterns may be nested. -/
def nestingLimit : Nat := 250

/-- The text without its first line. -/
def afterLine (cs : List Char) : List Char := (cs.dropWhile (· != '\n')).drop 1

/-- The text without blanks and comments at its start. -/
def skip : (fuel : Nat) → List Char → List Char
  | 0, cs => cs
  | _, [] => []
  | fuel + 1, c :: rest =>
    if Text.isBlank c then skip fuel rest
    else if c == '#' then skip fuel (afterLine rest)
    else c :: rest

/-- In spaced patterns blanks and comments are dropped. -/
def settle (flags : Flags) (cs : List Char) : List Char := if flags.spaced then skip cs.length cs else cs

/-- A set, up to case if case is ignored. -/
def folded (flags : Flags) (s : ScalarSet) : ScalarSet :=
  if !flags.ignoreCase then s
  else if flags.unicode then Folding.closure Class.casePairs s
  else Folding.asciiClosure s

/-- A set or its complement. Without Unicode a complement would not consist of whole characters. -/
def complemented (flags : Flags) (negated : Bool) (s : ScalarSet) : Option ScalarSet :=
  if !negated then some s else if flags.unicode then some s.compl else none

/-- What an escape sequence stands for. -/
inductive Escape where
  | literal (c : Char)
  | set (s : ScalarSet)
  | anchor (a : Anchor)

/-- A character by its number. -/
def numbered (digits : List Char) : Option Char := do
  let n ← Decimal.readDigits 16 Decimal.hexValue digits
  if n.isValidChar then some (Char.ofNat n) else none

/-- The hexadecimal digits up to a closing brace, and the text after it. -/
def bracedDigits (flags : Flags) : (fuel : Nat) → List Char → Option (List Char × List Char)
  | 0, _ => none
  | fuel + 1, cs =>
    match settle flags cs with
    | [] => none
    | '\x7d' :: rest => some ([], settle flags rest)
    | c :: rest => do
      let (digits, rest) ← bracedDigits flags fuel rest
      some (c :: digits, rest)

/-- A fixed number of characters, blanks between them apart, and the text after them. -/
def spacedChars (flags : Flags) : Nat → List Char → Option (List Char × List Char)
  | 0, cs => some ([], cs)
  | n + 1, cs =>
    match settle flags cs with
    | [] => none
    | c :: rest => do
      let (more, rest) ← spacedChars flags n rest
      some (c :: more, rest)

/-- A character by its number in hexadecimal: in braces, or with a fixed number of digits. Without Unicode two digits
    write a byte, which is a character only in ASCII. -/
def hexEscape (flags : Flags) (digits : Nat) (cs : List Char) : Option (Char × List Char) :=
  match settle flags cs with
  | [] => none
  | '\x7b' :: more => do
    let (body, rest) ← bracedDigits flags (more.length + 1) more
    some (← numbered body, rest)
  | cs => do
    let (body, rest) ← spacedChars flags digits cs
    let c ← numbered body
    if digits == 2 && !flags.unicode && c.toNat ≥ 128 then none else some (c, settle flags rest)

/-- The class of a letter; without Unicode only ASCII is in it. -/
def classEscape (flags : Flags) (unicode ascii : ScalarSet) (negated : Bool) : Option ScalarSet :=
  complemented flags negated (if flags.unicode then unicode else ascii)

/-- The characters up to a closing brace, and the text after it. -/
def bracedName (flags : Flags) : (fuel : Nat) → List Char → Option (List Char × List Char)
  | 0, _ => none
  | fuel + 1, cs =>
    match settle flags cs with
    | [] => none
    | '\x7d' :: rest => some ([], rest)
    | c :: rest => do
      let (name, rest) ← bracedName flags fuel rest
      some (c :: name, rest)

/-- The class of a property, by one letter or by a name in braces. -/
def propertyEscape (flags : Flags) (negated : Bool) (cs : List Char) : Option (ScalarSet × List Char) := do
  let (name, rest) ← match settle flags cs with
    | [] => none
    | '\x7b' :: more => bracedName flags (more.length + 1) more
    | c :: rest => if c == '\\' then none else some ([c], settle flags rest)
  if !flags.unicode then none
  else
    let s ← match cs with
      | _ => if name.length == 1 then Query.ofName? Class.version name else Class.property? name
    some (← complemented flags negated (folded flags s), rest)

/-- Characters that mean themselves behind a backslash: ASCII ones that are no letter, digit or angle bracket. -/
def isEscapable (c : Char) : Bool := c.toNat < 128 && !c.isAlphanum && c != '<' && c != '>'

/-- Whether a character may stand in the name of a kind of word boundary. -/
def isKindPart (c : Char) : Bool := c.isAlpha || c == '-'

/-- The name of a kind of word boundary up to a closing brace, and the text after it. -/
def kindName (flags : Flags) : (fuel : Nat) → List Char → Option (List Char × List Char)
  | 0, _ => none
  | fuel + 1, cs =>
    match settle flags cs with
    | '\x7d' :: rest => some ([], rest)
    | c :: rest =>
      if isKindPart c then do
        let (name, rest) ← kindName flags fuel rest
        some (c :: name, rest)
      else none
    | [] => none

/-- A word boundary: of a kind in braces, or of any kind; other braces are left to a repetition. -/
def boundary (flags : Flags) (ascii : Bool) (cs : List Char) : Option (Anchor × List Char) :=
  match cs with
  | '\x7b' :: more =>
    match settle flags more with
    | [] => none
    | c :: _ =>
      if isKindPart c then do
        let (name, rest) ← kindName flags (more.length + 1) more
        match String.ofList name with
        | "start" => some (.wordStart ascii, rest)
        | "end" => some (.wordEnd ascii, rest)
        | "start-half" => some (.wordStartHalf ascii, rest)
        | "end-half" => some (.wordEndHalf ascii, rest)
        | _ => none
      else some (.wordEdge ascii, cs)
  | _ => some (.wordEdge ascii, cs)

/-- An escape sequence after its backslash. -/
def escape (flags : Flags) : List Char → Option (Escape × List Char)
  | [] => none
  | c :: rest =>
    let ascii := !flags.unicode
    let ofClass (unicode inAscii : ScalarSet) (negated : Bool) : Option (Escape × List Char) :=
      (classEscape flags unicode inAscii negated).map fun s => (.set s, rest)
    let ofHex (digits : Nat) : Option (Escape × List Char) :=
      (hexEscape flags digits rest).map fun (ch, rest) => (.literal ch, rest)
    match c with
    | 'd' => ofClass Class.digit Class.asciiDigit false
    | 'D' => ofClass Class.digit Class.asciiDigit true
    | 's' => ofClass Class.blank Class.asciiBlank false
    | 'S' => ofClass Class.blank Class.asciiBlank true
    | 'w' => ofClass Class.word Class.asciiWord false
    | 'W' => ofClass Class.word Class.asciiWord true
    | 'p' => (propertyEscape flags false rest).map fun (s, rest) => (.set s, rest)
    | 'P' => (propertyEscape flags true rest).map fun (s, rest) => (.set s, rest)
    | 'x' => ofHex 2
    | 'u' => ofHex 4
    | 'U' => ofHex 8
    | 'a' => some (.literal '\x07', rest)
    | 'f' => some (.literal '\x0c', rest)
    | 't' => some (.literal '\t', rest)
    | 'n' => some (.literal '\n', rest)
    | 'r' => some (.literal '\r', rest)
    | 'v' => some (.literal '\x0b', rest)
    | 'A' => some (.anchor .textStart, rest)
    | 'z' => some (.anchor .textEnd, rest)
    | 'b' => (boundary flags ascii rest).map fun (a, rest) => (.anchor a, rest)
    | 'B' => some (.anchor (.noWordEdge ascii), rest)
    | '<' => some (.anchor (.wordStart ascii), rest)
    | '>' => some (.anchor (.wordEnd ascii), rest)
    | _ => if isEscapable c then some (.literal c, rest) else none

/-- A class of ASCII characters by name, between brackets with colons: whether it is negated, the class, and the text
    after it. -/
def namedClass? : List Char → Option (Bool × ScalarSet × List Char)
  | '[' :: ':' :: more =>
    let (negated, more) : Bool × List Char := match more with
      | '^' :: rest => (true, rest)
      | rest => (false, rest)
    match more.dropWhile (· != ':') with
    | ':' :: ']' :: rest => (Class.named? (String.ofList (more.takeWhile (· != ':')))).map fun s => (negated, s, rest)
    | _ => none
  | _ => none

/-- An operator between sets. -/
inductive SetOp where
  | inter
  | diff
  | either
deriving DecidableEq, Repr

/-- The operator applied to two sets. -/
def SetOp.apply : SetOp → ScalarSet → ScalarSet → ScalarSet
  | .inter => ScalarSet.inter
  | .diff => ScalarSet.diff
  | .either => ScalarSet.either

/-- The operator at the start of a text. -/
def setOp? : List Char → Option (SetOp × List Char)
  | '&' :: '&' :: rest => some (.inter, rest)
  | '-' :: '-' :: rest => some (.diff, rest)
  | '~' :: '~' :: rest => some (.either, rest)
  | _ => none

/-- What the items of a bracket make so far: their union, how many they are, and how deep the deepest is nested. -/
structure Gathered where
  set : ScalarSet := .empty
  items : Nat := 0
  depth : Nat := 0

namespace Gathered

/-- One more item. -/
def add (g : Gathered) (s : ScalarSet) (depth : Nat) : Gathered := ⟨g.set.union s, g.items + 1, max g.depth depth⟩

/-- The depth of the items together. -/
def whole (g : Gathered) : Nat := if g.items ≤ 1 then g.depth else g.depth + 1

end Gathered

/-- What is open around a place inside brackets: brackets with the items before them, or an operator with the set and
    the depth of its left side. -/
inductive Enclosing where
  | bracket (before : Gathered) (negated : Bool)
  | operator (op : SetOp) (left : ScalarSet) (depth : Nat)

/-- A set with the operator before it applied, its depth, and what is open around both. -/
def applyOperator (flags : Flags) (g : Gathered) : List Enclosing → ScalarSet × Nat × List Enclosing
  | .operator op left depth :: outer =>
    (op.apply (folded flags left) (folded flags g.set), max depth g.whole + 1, outer)
  | outer => (g.set, g.whole, outer)

/-- The start of a bracket after its opening: whether it is negated, its first items, and the text after them. Hyphens
    stand for themselves here, and so does a closing bracket that comes first. -/
def bracketStart (flags : Flags) (cs : List Char) : Option (Bool × Gathered × List Char) :=
  let cs := settle flags cs
  let (negated, cs) : Bool × List Char := match cs with
    | '^' :: rest => (true, settle flags rest)
    | rest => (false, rest)
  let rec hyphens (g : Gathered) : (fuel : Nat) → List Char → Gathered × List Char
    | fuel + 1, '-' :: rest => hyphens (g.add (.single '-') 0) fuel (settle flags rest)
    | _, cs => (g, cs)
  let (g, cs) := hyphens {} cs.length cs
  match cs with
  | [] => none
  | ']' :: rest => if g.items == 0 then some (negated, g.add (.single ']') 0, settle flags rest) else some (negated, g, cs)
  | _ => some (negated, g, cs)

/-- A single character of a bracket, or a class. -/
def setItem (flags : Flags) : List Char → Option (Escape × List Char)
  | [] => none
  | '\\' :: rest => do
    let (e, rest) ← escape flags rest
    match e with
    | .anchor _ => none
    | _ => some (e, rest)
  | c :: rest => some (.literal c, rest)

/-- The character that decides whether a hyphen makes a range: the next one that is not blank. In a spaced pattern the
    sign of a comment is passed over too. -/
def decisive (flags : Flags) (cs : List Char) : Option Char :=
  if !flags.spaced then cs.head?
  else
    let next := cs.dropWhile Text.isBlank
    match next with
    | '#' :: more => (more.dropWhile Text.isBlank).head?
    | _ => next.head?

/-- The text of the last character of a range, if a hyphen that makes one follows. -/
def rangeEnd? (flags : Flags) : List Char → Option (List Char)
  | '-' :: more =>
    let next := decisive flags more
    if next == some ']' || next == some '-' then none else some (settle flags more)
  | _ => none

/-- A single character as a set; without Unicode it has to be in ASCII. -/
def literalSet (flags : Flags) (first last : Char) : Option ScalarSet :=
  if !flags.unicode && (first.toNat ≥ 128 || last.toNat ≥ 128) then none else some (.between first last)

/-- One item or range of a bracket as a set, and the text after it. -/
def setRange (flags : Flags) (cs : List Char) : Option (ScalarSet × List Char) := do
  let (item, rest) ← setItem flags cs
  match rangeEnd? flags (settle flags rest) with
  | none =>
    match item with
    | .literal c => some (← literalSet flags c c, rest)
    | .set s => some (s, rest)
    | .anchor _ => none
  | some rest =>
    let (last, rest) ← setItem flags rest
    match item, last with
    | .literal a, .literal b => if a ≤ b then some (← literalSet flags a b, rest) else none
    | _, _ => none

/-- A bracket after its opening, as a set and its depth, and the text after it. `g` are the items so far of the
    innermost bracket, `negated` says whether that is negated, and `outer` is what is open around it. -/
def brackets (flags : Flags) : (fuel : Nat) → Gathered → (outer : List Enclosing) → List Char →
    Option (ScalarSet × Nat × List Char)
  | 0, _, _, _ => none
  | fuel + 1, g, outer, cs =>
    match settle flags cs with
    | [] => none
    | ']' :: rest =>
      let (s, depth, outer) := applyOperator flags g outer
      match outer with
      | .bracket before negated :: outer => do
        let s ← complemented flags negated (folded flags s)
        if depth + 1 > nestingLimit then none
        else match outer with
          | [] => some (s, depth + 1, rest)
          | _ => brackets flags fuel (before.add s (depth + 1)) outer rest
      | _ => none
    | '[' :: more =>
      match namedClass? ('[' :: more) with
      | some (negated, s, rest) => do
        let s ← complemented flags negated (folded flags s)
        brackets flags fuel (g.add s 0) outer rest
      | none => do
        let (negated, inner, rest) ← bracketStart flags more
        brackets flags fuel inner (.bracket g negated :: outer) rest
    | cs =>
      match setOp? cs with
      | some (op, rest) =>
        let (left, depth, outer) := applyOperator flags g outer
        if depth > nestingLimit then none else brackets flags fuel {} (.operator op left depth :: outer) rest
      | none => do
        let (s, rest) ← setRange flags cs
        brackets flags fuel (g.add s 0) outer rest

/-- A set after its opening bracket, its depth, and the text after it. -/
def set (flags : Flags) (cs : List Char) : Option (ScalarSet × Nat × List Char) := do
  let (negated, g, rest) ← bracketStart flags cs
  brackets flags (rest.length + 1) g [.bracket {} negated] rest

/-- The digits at the start of a text, blanks between them apart, and the text after them. -/
def spacedDigits (flags : Flags) : (fuel : Nat) → List Char → List Char × List Char
  | fuel + 1, c :: rest =>
    if c.isDigit then
      let (digits, rest) := spacedDigits flags fuel (settle flags rest)
      (c :: digits, rest)
    else ([], c :: rest)
  | _, cs => ([], cs)

/-- The text without blanks at its start, and after one without comments. -/
def skipBlanks (flags : Flags) : (fuel : Nat) → List Char → List Char
  | fuel + 1, c :: rest => if Text.isBlank c then skipBlanks flags fuel (settle flags rest) else c :: rest
  | _, cs => cs

/-- A number of repetitions with blanks around it. -/
def count (flags : Flags) (cs : List Char) : Option (Nat × List Char) := do
  let cs := cs.dropWhile Text.isBlank
  let (digits, rest) := spacedDigits flags cs.length cs
  let n ← Decimal.readNat digits
  if n < Decimal.uint32Size then some (n, skipBlanks flags rest.length rest) else none

/-- The least and the most repetitions, after the opening brace and up to the closing one. -/
def counts (flags : Flags) (cs : List Char) : Option ((Nat × Option Nat) × List Char) := do
  let (least, rest) ← count flags (settle flags cs)
  match rest with
  | '\x7d' :: rest => some ((least, some least), rest)
  | ',' :: rest =>
    match settle flags rest with
    | '\x7d' :: rest => some ((least, none), rest)
    | rest => do
      let (most, rest) ← count flags rest
      match rest with
      | '\x7d' :: rest => if least ≤ most then some ((least, some most), rest) else none
      | _ => none
  | _ => none

/-- The repetition that a text begins with. -/
def repetition? (flags : Flags) : List Char → Option (Option ((Nat × Option Nat) × List Char))
  | '*' :: rest => some (some ((0, none), rest))
  | '+' :: rest => some (some ((1, none), rest))
  | '?' :: rest => some (some ((0, some 1), rest))
  | '\x7b' :: rest => some ((counts flags rest).map fun (range, rest) => (range, settle flags rest))
  | _ => none

/-- The flags that a list of letters switches on, or off after a hyphen; a letter may stand once only. -/
def flagLetters (on : Bool) (seen : List Char) : Flags → List Char → Option Flags
  | flags, [] => if seen.head? == some '-' then none else some flags
  | flags, c :: rest =>
    if seen.contains c then none
    else if c == '-' then flagLetters false ('-' :: seen) flags rest
    else do flagLetters on (c :: seen) (← setFlag on c flags) rest
where
  /-- One flag switched on or off. -/
  setFlag (on : Bool) (c : Char) (flags : Flags) : Option Flags :=
    match c with
    | 'i' => some { flags with ignoreCase := on }
    | 'm' => some { flags with lines := on }
    | 's' => some { flags with dotAll := on }
    | 'U' => some { flags with lazyFirst := on }
    | 'u' => some { flags with unicode := on }
    | 'x' => some { flags with spaced := on }
    | 'R' => some { flags with returns := on }
    | _ => none

/-- The characters that the name of a group may begin with. -/
def nameStart : ScalarSet := Property.alphabetic.union (.single '_')

/-- The characters that the name of a group may go on with. -/
def namePart : ScalarSet :=
  ScalarSet.unions [Property.alphabetic, Category.set ["Nd", "Nl", "No"], .ofChars ['_', '.', '[', ']']]

/-- Whether a text may name a group. -/
def isGroupName : List Char → Bool
  | [] => false
  | c :: rest => nameStart.contains c && rest.all namePart.contains

/-- How a group begins: with settings for the rest of the group around it, or with what stands inside, possibly under
    a number of its own. -/
inductive Opening where
  | settings (flags : Flags) (rest : List Char)
  | plain (flags : Flags) (rest : List Char)
  | numbered (name : Option (List Char)) (rest : List Char)

/-- A group's name and what follows the angle bracket behind it. -/
def groupName (cs : List Char) : Option Opening :=
  let name := cs.takeWhile (· != '>')
  match cs.dropWhile (· != '>') with
  | _ :: rest => if isGroupName name then some (.numbered (some name) rest) else none
  | [] => none

/-- How a group begins whose parenthesis is read. -/
def opening (flags : Flags) (cs : List Char) : Option Opening :=
  match settle flags cs with
  | '?' :: 'P' :: '<' :: rest => groupName rest
  | '?' :: '<' :: '=' :: _ => none
  | '?' :: '<' :: '!' :: _ => none
  | '?' :: '<' :: rest => groupName rest
  | '?' :: rest =>
    let letters := rest.takeWhile fun c => c != ':' && c != ')'
    match rest.dropWhile (fun c => c != ':' && c != ')') with
    | ':' :: rest => (flagLetters true [] flags letters).map (.plain · rest)
    | ')' :: rest => if letters.isEmpty then none else (flagLetters true [] flags letters).map (.settings · rest)
    | _ => none
  | rest => some (.numbered none rest)

/-- The set that a dot stands for. -/
def dot (flags : Flags) : Option ScalarSet :=
  if !flags.unicode then none
  else if flags.dotAll then some .all
  else if flags.returns then some (ScalarSet.ofChars ['\r', '\n']).compl
  else some (ScalarSet.single '\n').compl

/-- The place at the start of a line or of the text. -/
def startAnchor (flags : Flags) : Anchor :=
  if !flags.lines then .textStart else if flags.returns then .returnLineStart else .lineStart

/-- The place at the end of a line or of the text. -/
def endAnchor (flags : Flags) : Anchor :=
  if !flags.lines then .textEnd else if flags.returns then .returnLineEnd else .lineEnd

/-- A part of a pattern: its tree, how deep it is nested, and whether it may be repeated. -/
structure Piece where
  tree : Tree
  depth : Nat := 0
  repeatable : Bool := true

/-- A character, up to case if case is ignored. -/
def character (flags : Flags) (c : Char) : Tree :=
  if !flags.ignoreCase || (!flags.unicode && c.toNat ≥ 128) then .text [c]
  else .ofSet (folded flags (.single c))

/-- A single character, set or place. -/
def atom (flags : Flags) : List Char → Option (Piece × List Char)
  | [] => none
  | '.' :: rest => (dot flags).map fun s => (⟨.ofSet s, 0, true⟩, rest)
  | '^' :: rest => some (⟨.at (startAnchor flags), 0, true⟩, rest)
  | '$' :: rest => some (⟨.at (endAnchor flags), 0, true⟩, rest)
  | '[' :: rest => (set flags rest).map fun (s, depth, rest) => (⟨.ofSet s, depth, true⟩, rest)
  | '\\' :: rest => (escape flags rest).map fun (e, rest) =>
    match e with
    | .literal c => (⟨character flags c, 0, true⟩, rest)
    | .set s => (⟨.ofSet s, 0, true⟩, rest)
    | .anchor a => (⟨.at a, 0, true⟩, rest)
  | c :: rest => some (⟨character flags c, 0, true⟩, rest)

/-- The pieces of a sequence, latest first, as one piece. -/
def sequence : List Piece → Piece
  | [] => ⟨.nothing, 0, true⟩
  | [p] => p
  | ps => ⟨.ofItems (ps.map Piece.tree).reverse, (ps.map Piece.depth).foldl max 0 + 1, true⟩

/-- Alternatives, latest first, as one piece. -/
def alternatives : List Piece → Piece
  | [p] => p
  | ps => ⟨.choice (ps.map Piece.tree).reverse, (ps.map Piece.depth).foldl max 0 + 1, true⟩

/-- What is open around a group: the pieces and the alternatives before it, the number that the group has, and the
    flags that hold again after it. -/
structure Around where
  pieces : List Piece
  branches : List Piece
  index : Option Nat
  flags : Flags

/-- The place that reading has reached: the text that follows, the flags that hold, how many groups have been numbered
    and which names they have, the pieces of this alternative and the alternatives before it, latest first, and what
    is open. -/
structure State where
  rest : List Char
  flags : Flags := {}
  groups : Nat := 0
  names : List (List Char) := []
  pieces : List Piece := []
  branches : List Piece := []
  outer : List Around := []

namespace State

/-- The innermost open group, or the pattern as a whole, as one piece. -/
def inner (s : State) : Piece := alternatives (sequence s.pieces :: s.branches)

/-- One more piece, unless it is nested too deep. -/
def push (s : State) (p : Piece) (rest : List Char) : Option State :=
  if p.depth > nestingLimit then none else some { s with rest, pieces := p :: s.pieces }

/-- The latest piece repeated. -/
def repeated (s : State) (range : Nat × Option Nat) (rest : List Char) : Option State :=
  match s.pieces with
  | [] => none
  | p :: before =>
    if !p.repeatable then none
    else
      let (swapped, rest) : Bool × List Char := match rest with
        | '?' :: more => (true, more)
        | _ => (false, rest)
      { s with pieces := before }.push
        ⟨.ofRounds p.tree range.1 range.2 (swapped == s.flags.lazyFirst), p.depth + 1, true⟩ rest

/-- A group opened. -/
def enter (s : State) (index : Option Nat) (inside : Flags) (rest : List Char) : Option State :=
  if s.outer.length ≥ nestingLimit then none
  else some { s with
    rest, flags := inside, pieces := [], branches := [], outer := ⟨s.pieces, s.branches, index, s.flags⟩ :: s.outer }

/-- The innermost group closed. -/
def leave (s : State) (rest : List Char) : Option State :=
  match s.outer with
  | [] => none
  | around :: outer =>
    let p := s.inner
    let tree := match around.index with
      | some index => .group index p.tree
      | none => p.tree
    { s with flags := around.flags, pieces := around.pieces, branches := around.branches, outer }.push
      ⟨tree, p.depth + 1, true⟩ rest

/-- The state after the next part of the text. -/
def step (s : State) (cs : List Char) : Option State :=
  match repetition? s.flags cs with
  | some none => none
  | some (some (range, rest)) => s.repeated range rest
  | none =>
    match cs with
    | '|' :: rest => some { s with rest, pieces := [], branches := sequence s.pieces :: s.branches }
    | ')' :: rest => s.leave rest
    | '(' :: more =>
      match opening s.flags more with
      | none => none
      | some (.settings flags rest) => { s with flags }.push ⟨.nothing, 0, false⟩ rest
      | some (.plain flags rest) => s.enter none flags rest
      | some (.numbered name rest) =>
        if name.any s.names.contains then none
        else
          let index := s.groups + 1
          { s with groups := index, names := name.toList ++ s.names }.enter (some index) s.flags rest
    | cs => (atom s.flags cs).bind fun (p, rest) => s.push p rest

/-- The state at the end of the text. -/
def run : (fuel : Nat) → State → Option State
  | 0, _ => none
  | fuel + 1, s =>
    match settle s.flags s.rest with
    | [] => some { s with rest := [] }
    | cs => (s.step cs).bind (run fuel)

end State
end Reading

/-- A pattern and the number of its groups. -/
def Tree.ofText (text : String) : Option (Tree × Nat) := do
  let cs := text.toList
  let s ← Reading.State.run (cs.length + 1) { rest := cs }
  if !s.outer.isEmpty then none
  else
    let p := s.inner
    if p.depth > Reading.nestingLimit then none else some (p.tree, s.groups)

end TestScenario.Pattern
