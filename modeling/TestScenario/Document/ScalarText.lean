import TestScenario.Decimal.Reading
import TestScenario.Document.Mark

/-!
The texts of scalars: in quotes, plain, and as blocks.

A line break inside a scalar that is folded becomes a space, and of several line breaks the first one is dropped.
-/

namespace TestScenario.Document
open Mark

/-- What stands between two parts of a scalar: blanks, or line breaks with the blanks around them. -/
structure Gap where
  blanks : List Char := []
  broken : Bool := false
  /-- The first line break; there is none if it was escaped. -/
  first : Option Char := none
  more : List Char := []

namespace Gap

/-- Whether nothing stands there. -/
def isEmpty (g : Gap) : Bool := g.blanks.isEmpty && !g.broken

/-- The gap with a blank after it; blanks around line breaks do not count. -/
def addBlank (c : Char) (g : Gap) : Gap := if g.broken then g else { g with blanks := g.blanks ++ [c] }

/-- The gap with a line break after it. -/
def addBreak (c : Char) (g : Gap) : Gap :=
  if g.broken then { g with more := g.more ++ [c] } else { broken := true, first := some c }

/-- What the gap stands for. -/
def text (g : Gap) : List Char :=
  if g.broken then
    match g.first with
    | none => g.more
    | some '\n' => if g.more.isEmpty then [' '] else g.more
    | some c => c :: g.more
  else g.blanks

end Gap

namespace ScalarText

/-- The rest of a text in single quotes, where the opening one and perhaps more has been read; a quote inside is
    written twice. -/
def single (seen : List Char) (g : Gap) : List Mark → Option (List Char × List Mark)
  | [] => none
  | m :: rest =>
    if isBlank m.char then single seen (g.addBlank m.char) rest
    else if isBreak m.char then single seen (g.addBreak m.char) rest
    else if isBoundary (m :: rest) then none
    else
      let seen := g.text.reverse ++ seen
      if m.char == '\'' then
        match rest with
        | [] => some (seen.reverse, [])
        | n :: rest => if n.char == '\'' then single ('\'' :: seen) {} rest else some (seen.reverse, n :: rest)
      else single (m.char :: seen) {} rest

/-- What a letter stands for behind a backslash. -/
def named? (c : Char) : Option Char :=
  [('0', '\x00'), ('a', '\x07'), ('b', '\x08'), ('t', '\t'), ('\t', '\t'), ('n', '\n'), ('v', '\x0b'), ('f', '\x0c'),
    ('r', '\r'), ('e', '\x1b'), (' ', ' '), ('"', '"'), ('/', '/'), ('\\', '\\'), ('N', '\u0085'), ('_', '\u00a0'),
    ('L', '\u2028'), ('P', '\u2029')].lookup c

/-- How many hexadecimal digits a letter asks for behind a backslash. -/
def digitCount? (c : Char) : Option Nat := [('x', 2), ('u', 4), ('U', 8)].lookup c

/-- The character of a number in hexadecimal digits. -/
def numbered? (digits : List Char) : Option Char := do
  let n ← Decimal.readDigits 16 Decimal.hexValue digits
  if (0xD800 ≤ n && n ≤ 0xDFFF) || 0x10FFFF < n then none else some (Char.ofNat n)

/-- The character behind a backslash, and the text after it. -/
def escaped? : List Mark → Option (Char × List Mark)
  | [] => none
  | m :: rest =>
    match named? m.char with
    | some c => some (c, rest)
    | none => do
      let count ← digitCount? m.char
      if rest.length < count then none
      else
        let c ← numbered? ((rest.take count).map (·.char))
        some (c, rest.drop count)

theorem escaped?_shorter {ms rest : List Mark} {c : Char} (h : escaped? ms = some (c, rest)) :
    rest.length < ms.length := by
  unfold escaped? at h
  split at h
  · simp at h
  · split at h
    · simp only [Option.some.injEq, Prod.mk.injEq] at h
      obtain ⟨-, rfl⟩ := h
      simp
    · simp only [Option.bind_eq_bind, Option.bind_eq_some_iff] at h
      obtain ⟨n, -, h⟩ := h
      split at h
      · simp at h
      · obtain ⟨d, -, h⟩ := Option.bind_eq_some_iff.1 h
        simp only [Option.some.injEq, Prod.mk.injEq] at h
        obtain ⟨-, rfl⟩ := h
        simp only [List.length_drop, List.length_cons]
        omega

/-- The rest of a text in double quotes, where the opening one and perhaps more has been read. -/
def double (seen : List Char) (g : Gap) : List Mark → Option (List Char × List Mark)
  | [] => none
  | m :: rest =>
    if isBlank m.char then double seen (g.addBlank m.char) rest
    else if isBreak m.char then double seen (g.addBreak m.char) rest
    else if isBoundary (m :: rest) then none
    else
      let seen := g.text.reverse ++ seen
      if m.char == '"' then some (seen.reverse, rest)
      else if m.char == '\\' then
        if rest.head?.any (isBreak ·.char) then double seen { broken := true } (rest.drop 1)
        else
          match _h : escaped? rest with
          | none => none
          | some (c, after) => double (c :: seen) {} after
      else double (m.char :: seen) {} rest
termination_by ms => ms.length
decreasing_by
  · simp
  · simp
  · simp only [List.length_drop, List.length_cons]; omega
  · have := escaped?_shorter (by assumption)
    simp only [List.length_cons]; omega
  · simp

/-- Whether a character ends a plain scalar between brackets. -/
def isFlowMark (c : Char) : Bool := c == ',' || c == '[' || c == ']' || c == '\x7b' || c == '\x7d'

/-- The rest of a plain scalar, of which something may have been read, with the text after it and whether a line has
    ended before that text. `inFlow` tells whether brackets are open; otherwise every line has to be indented by
    `indent` columns. -/
def plain (inFlow : Bool) (indent : Nat) (seen : List Char) (g : Gap) :
    List Mark → Option (List Char × Bool × List Mark)
  | [] => some (seen.reverse, g.broken, [])
  | m :: rest =>
    if isBlank m.char then
      if g.broken && m.char == '\t' && m.column < indent then none
      else plain inFlow indent seen (g.addBlank m.char) rest
    else if isBreak m.char then plain inFlow indent seen (g.addBreak m.char) rest
    else if (g.broken && !inFlow && m.column < indent) || isBoundary (m :: rest) || (m.char == '#' && !g.isEmpty) then
      some (seen.reverse, g.broken, m :: rest)
    else if inFlow && m.char == ':' && rest.head?.any (fun n => isFlowMark n.char || n.char == '?') then none
    else if (m.char == ':' && endsWord rest) || (inFlow && isFlowMark m.char) then
      some (seen.reverse, g.broken, m :: rest)
    else plain inFlow indent (m.char :: (g.text.reverse ++ seen)) {} rest

/-- What happens to the line breaks at the end of a block. -/
inductive Chomping where
  | strip
  | clip
  | keep
deriving DecidableEq, Repr

/-- The head of a block: its chomping and its indentation, which may be missing. -/
structure BlockHead where
  chomping : Chomping := .clip
  indent : Option Nat := none

/-- The chomping that a mark asks for. -/
def chomping? (c : Char) : Option Chomping := if c == '+' then some .keep else if c == '-' then some .strip else none

/-- The indentation that a digit asks for. -/
def indent? (c : Char) : Option Nat := (Decimal.digitValue c).filter (· != 0)

/-- The head of a block from the marks behind its first character; `none` if a zero is among them. -/
def blockHead (ms : List Mark) : Option (BlockHead × List Mark) :=
  match ms with
  | [] => some ({}, [])
  | a :: rest =>
    match chomping? a.char with
    | some chomping =>
      match rest with
      | [] => some ({ chomping }, [])
      | b :: after =>
        if b.char.isDigit then (indent? b.char).map fun n => ({ chomping, indent := some n }, after)
        else some ({ chomping }, rest)
    | none =>
      if a.char.isDigit then do
        let n ← indent? a.char
        match rest with
        | [] => some ({ indent := some n }, [])
        | b :: after =>
          match chomping? b.char with
          | some chomping => some ({ chomping, indent := some n }, after)
          | none => some ({ indent := some n }, rest)
      else some ({}, ms)

/-- The text after blanks and a comment, if the line ends there. -/
def lineEnd (ms : List Mark) : Option (List Mark) :=
  let ms := ms.dropWhile (isBlank ·.char)
  let ms := if startsWith '#' ms then ms.dropWhile (!isBreak ·.char) else ms
  match ms with
  | [] => some []
  | m :: rest => if isBreak m.char then some rest else none

/-- The line breaks before the next line of a block, with the text after them and the widest indentation among them;
    `none` if a tab stands where the indentation is decided. -/
def blockBreaks (indent : Option Nat) (widest : Nat) (breaks : List Char) :
    List Mark → Option (Nat × List Char × List Mark)
  | [] => some (widest, breaks, [])
  | m :: rest =>
    let inIndent := indent.all (m.column < ·)
    if inIndent && m.char == ' ' then blockBreaks indent widest breaks rest
    else
      let widest := max widest m.column
      if inIndent && m.char == '\t' then none
      else if isBreak m.char then blockBreaks indent widest (breaks ++ [m.char]) rest
      else some (widest, breaks, m :: rest)

theorem blockBreaks_length_le {indent : Option Nat} {widest w : Nat} {breaks bs : List Char} {ms rest : List Mark}
    (h : blockBreaks indent widest breaks ms = some (w, bs, rest)) : rest.length ≤ ms.length := by
  induction ms generalizing widest breaks with
  | nil => simp [blockBreaks] at h; simp [h]
  | cons m ms ih =>
    simp only [blockBreaks] at h
    split at h
    · exact Nat.le_succ_of_le (ih h)
    · split at h
      · simp at h
      · split at h
        · exact Nat.le_succ_of_le (ih h)
        · simp only [Option.some.injEq, Prod.mk.injEq] at h
          simp [← h.2.2]

/-- The lines of a block from the first one on: the text without the line breaks at its end, these line breaks, and
    the text after the block. `ended` is the break of the line before, `more` are the breaks of empty lines after it,
    and `deeper` tells whether that line began with a blank. -/
def blockLines (folded : Bool) (indent : Nat) (seen : List Char) (ended : Option Char) (more : List Char)
    (deeper : Bool) : List Mark → Option (List Char × Option Char × List Char × List Mark)
  | [] => some (seen.reverse, ended, more, [])
  | m :: rest =>
    if m.column != indent then some (seen.reverse, ended, more, m :: rest)
    else
      let blank := isBlank m.char
      let joint := if folded && ended == some '\n' && !deeper && !blank then
          (if more.isEmpty then [' '] else more)
        else ended.toList ++ more
      let line := m.char :: (rest.takeWhile (!isBreak ·.char)).map (·.char)
      let after := rest.dropWhile (!isBreak ·.char)
      match _h : blockBreaks (some indent) 0 [] (after.drop 1) with
      | none => none
      | some (_, more, after') =>
        blockLines folded indent (line.reverse ++ (joint.reverse ++ seen)) (after.head?.map (·.char)) more blank after'
termination_by ms => ms.length
decreasing_by
  have h1 := blockBreaks_length_le (by assumption)
  have h2 : after.length ≤ rest.length := (List.dropWhile_suffix _).length_le
  simp only [List.length_drop, List.length_cons] at h1 ⊢
  omega

/-- A block behind its first character, in a collection that is indented by `outer` columns or at the top of the
    document: its text and the text after it. -/
def block (folded : Bool) (outer : Option Nat) (ms : List Mark) : Option (List Char × List Mark) := do
  let (head, ms) ← blockHead ms
  let ms ← lineEnd ms
  let given := head.indent.map fun n => outer.getD 0 + n
  let (widest, breaks, ms) ← blockBreaks given 0 [] ms
  let indent := given.getD (max (max widest ((outer.map (· + 1)).getD 0)) 1)
  let (text, ended, more, ms) ← blockLines folded indent [] none breaks false ms
  let tail := match head.chomping with
    | .strip => []
    | .clip => ended.toList
    | .keep => ended.toList ++ more
  some (text ++ tail, ms)

end ScalarText
end TestScenario.Document
