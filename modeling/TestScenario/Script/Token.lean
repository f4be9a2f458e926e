import TestScenario.Decimal.Reading

/-!
The tokens of expressions.

At each place the longest possible token is taken. Blanks and comments separate tokens; a character that starts no
token makes the text no expression.
-/

namespace TestScenario.Script

/-- A token, with the characters it was written in where they matter. -/
inductive Token where
  | int (written : List Char)
  | uint (written : List Char)
  | float (written : List Char)
  | str (written : List Char)
  | bytes (written : List Char)
  | name (name : String)
  | quotedName (written : String)
  | symbol (text : String)
deriving DecidableEq, Repr

namespace Token

/-- The words that are no names. -/
def words : List String := ["true", "false", "null", "in"]

/-- The symbols, longer ones first. -/
def symbols : List (List Char) :=
  ["==", "!=", "<=", ">=", "&&", "||", "<", ">", "[", "]", "\x7b", "\x7d", "(", ")", ".", ",", "-", "!", "?", ":", "+",
    "*", "/", "%"].map String.toList

/-- Whether a character separates tokens. -/
def isGap (c : Char) : Bool := c == ' ' || c == '\t' || c == '\r' || c == '\n' || c == '\x0c'

/-- Whether a character is a hexadecimal digit. -/
def isHex (c : Char) : Bool := (Decimal.hexValue c).isSome

/-- The length of an escape sequence after its backslash. -/
def escapeLength : List Char → Option Nat
  | [] => none
  | c :: rest =>
    let hex (n : Nat) : Option Nat := if (rest.takeWhile isHex).length ≥ n then some (n + 1) else none
    if "abfnrtv\"'\\?`".toList.contains c then some 1
    else if c == 'x' || c == 'X' then hex 2
    else if c == 'u' then hex 4
    else if c == 'U' then hex 8
    else if '0' ≤ c && c ≤ '3' then
      if ((rest.take 2).takeWhile fun d => '0' ≤ d && d ≤ '7').length == 2 then some 3 else none
    else none

/-- The length of the rest of a literal on one line, its closing quote included. `skip` characters belong to an escape
    sequence. -/
def lineLength (raw : Bool) (quote : Char) (skip : Nat) : List Char → Option Nat
  | [] => none
  | c :: rest =>
    match skip with
    | n + 1 => (lineLength raw quote n rest).map (· + 1)
    | 0 =>
      if c == quote then some 1
      else if c == '\n' || c == '\r' then none
      else if c == '\\' && !raw then
        match escapeLength rest with
        | some n => (lineLength raw quote n rest).map (· + 1)
        | none => none
      else (lineLength raw quote 0 rest).map (· + 1)

/-- The length of the rest of a literal between tripled quotes, its closing quotes included. -/
def blockLength (raw : Bool) (quote : Char) (skip : Nat) : List Char → Option Nat
  | [] => none
  | c :: rest =>
    match skip with
    | n + 1 => (blockLength raw quote n rest).map (· + 1)
    | 0 =>
      if [quote, quote, quote].isPrefixOf (c :: rest) then some 3
      else if c == '\\' && !raw then
        match escapeLength rest with
        | some n => (blockLength raw quote n rest).map (· + 1)
        | none => none
      else (blockLength raw quote 0 rest).map (· + 1)

/-- The length of a literal from its opening quote on. -/
def quotedLength (raw : Bool) : List Char → Option Nat
  | [] => none
  | q :: rest =>
    if q != '"' && q != '\'' then none
    else
      let line := (lineLength raw q 0 rest).map (· + 1)
      let block := if [q, q].isPrefixOf rest then (blockLength raw q 0 (rest.drop 2)).map (· + 3) else none
      match line, block with
      | some a, some b => some (max a b)
      | a, b => a <|> b

/-- The length of a string literal, which may be marked as raw. -/
def stringLength : List Char → Option Nat
  | [] => none
  | c :: rest =>
    if c == 'r' || c == 'R' then (quotedLength true rest).map (· + 1) else quotedLength false (c :: rest)

/-- The length of an exponent, or zero if there is none. -/
def exponentLength : List Char → Nat
  | c :: rest =>
    if c != 'e' && c != 'E' then 0
    else
      let (sign, ds) : Nat × List Char := match rest with
        | '+' :: ds => (1, ds)
        | '-' :: ds => (1, ds)
        | ds => (0, ds)
      let n := (ds.takeWhile Char.isDigit).length
      if n == 0 then 0 else n + sign + 1
  | [] => 0

/-- The length of a point with digits after it, or zero if there are none. -/
def pointLength : List Char → Nat
  | '.' :: rest =>
    let n := (rest.takeWhile Char.isDigit).length
    if n == 0 then 0 else n + 1
  | _ => 0

/-- Whether a character marks an unsigned number. -/
def isUnsignedMark (c : Char) : Bool := c == 'u' || c == 'U'

/-- A number at the start of a text and its length. -/
def numberToken (cs : List Char) : Option (Token × Nat) :=
  let whole := (cs.takeWhile Char.isDigit).length
  let point := pointLength (cs.drop whole)
  let exponent := exponentLength (cs.drop (whole + point))
  let hex : Nat := match cs with
    | '0' :: 'x' :: rest => (rest.takeWhile isHex).length
    | _ => 0
  let withMark (n : Nat) : Token × Nat :=
    match cs.drop n with
    | c :: _ => if isUnsignedMark c then (.uint (cs.take n), n + 1) else (.int (cs.take n), n)
    | [] => (.int (cs.take n), n)
  if hex > 0 then some (withMark (hex + 2))
  else if point > 0 then some (.float (cs.take (whole + point + exponent)), whole + point + exponent)
  else if whole == 0 then none
  else if exponent > 0 then some (.float (cs.take (whole + exponent)), whole + exponent)
  else some (withMark whole)

/-- Whether a character may start a name. -/
def isNameStart (c : Char) : Bool := c.isAlpha || c == '_'

/-- Whether a character may go on with a name. -/
def isNamePart (c : Char) : Bool := c.isAlphanum || c == '_'

/-- Whether a character may stand in a name between backticks. -/
def isQuotedNamePart (c : Char) : Bool := isNamePart c || c == '.' || c == '-' || c == '/' || c == ' '

/-- A literal at the start of a text and its length. -/
def literalToken (cs : List Char) : Option (Token × Nat) :=
  let marked : Option Nat := match cs with
    | 'b' :: rest => stringLength rest
    | 'B' :: rest => stringLength rest
    | _ => none
  match marked with
  | some n => some (.bytes (cs.take (n + 1)), n + 1)
  | none => (stringLength cs).map fun n => (.str (cs.take n), n)

/-- A name or a word at the start of a text and its length. -/
def nameToken (cs : List Char) : Option (Token × Nat) :=
  match cs with
  | [] => none
  | c :: rest =>
    if isNameStart c then
      let n := String.ofList (cs.takeWhile isNamePart)
      some (if words.contains n then .symbol n else .name n, n.length)
    else if c == '`' then
      let inner := rest.takeWhile isQuotedNamePart
      match rest.drop inner.length with
      | '`' :: _ =>
        if inner.isEmpty then none
        else some (.quotedName (String.ofList (cs.take (inner.length + 2))), inner.length + 2)
      | _ => none
    else none

/-- A symbol at the start of a text and its length. -/
def symbolToken (cs : List Char) : Option (Token × Nat) :=
  (symbols.find? (·.isPrefixOf cs)).map fun s => (.symbol (String.ofList s), s.length)

/-- The token at the start of a text and its length. -/
def first (cs : List Char) : Option (Token × Nat) :=
  literalToken cs <|> numberToken cs <|> nameToken cs <|> symbolToken cs

/-- The tokens of a text whose length `fuel` bounds. -/
def scan : (fuel : Nat) → List Char → Option (List Token)
  | _, [] => some []
  | 0, _ :: _ => none
  | fuel + 1, c :: rest =>
    if isGap c then scan fuel rest
    else if ['/', '/'].isPrefixOf (c :: rest) then scan fuel (rest.dropWhile (· != '\n'))
    else match first (c :: rest) with
      | none => none
      | some (t, n) => (scan fuel ((c :: rest).drop n)).map (t :: ·)

/-- The tokens of an expression, if it consists of tokens. -/
def ofText (text : String) : Option (List Token) := scan text.toList.length text.toList

end Token
end TestScenario.Script
