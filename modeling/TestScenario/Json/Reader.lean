import TestScenario.Json.Value
import TestScenario.Decimal.Reading

/-!
Reading JSON text.

Text is read in two passes. `Json.Raw.read` tells how it is made up, which is all that matters of a part that nobody
asks for. `Json.Raw.value?` is the value of such a part, with the members of objects as they are written: it has none if
containers nest too deep, a number is too large for a double or a string has half a pair of code units. `Json.parse`
takes the value of a whole text and puts its members in order.

A number written without point and exponent is whole if it fits 64 bits; of the digits of any other number those count
that fit an unsigned 64-bit word, and their double is multiplied or divided by a power of ten.
-/

namespace TestScenario.Json

/-- JSON as it is written. -/
inductive Raw where
  | null
  | bool (value : Bool)
  /-- A number, or none if it is too large. -/
  | num (value : Option Number)
  /-- A string, or none if it has half a pair of code units. -/
  | str (value : Option String)
  | arr (items : List Raw)
  | obj (members : List (Option String × Raw))

/-- How deep containers may nest. -/
def maxDepth : Nat := 127

/-- The blanks between tokens. -/
def isGap (c : Char) : Bool := c == ' ' || c == '\n' || c == '\t' || c == '\r'

/-- The text from the next token on. -/
def skipGap (cs : List Char) : List Char := cs.dropWhile isGap

/-- Four hexadecimal digits. -/
def hex4 (a b c d : Char) : Option Nat := Decimal.readDigits 16 Decimal.hexValue [a, b, c, d]

/-- The character that a letter after a backslash stands for. -/
def unescape : Char → Option Char
  | '"' => some '"'
  | '\\' => some '\\'
  | '/' => some '/'
  | 'b' => some '\x08'
  | 'f' => some '\x0c'
  | 'n' => some '\n'
  | 'r' => some '\r'
  | 't' => some '\t'
  | _ => none

/-- A code unit on its own: halves of pairs are refused. -/
def unitChar (n : Nat) : Option Char := if 0xD800 ≤ n ∧ n ≤ 0xDFFF then none else some (Char.ofNat n)

/-- The character of a pair of code units. -/
def pairChar (high low : Nat) : Option Char :=
  if 0xD800 ≤ high ∧ high ≤ 0xDBFF ∧ 0xDC00 ≤ low ∧ low ≤ 0xDFFF then
    some (Char.ofNat (0x10000 + (high - 0xD800) * 0x400 + (low - 0xDC00)))
  else none

/-- A piece of a string: a character, or a code unit in hexadecimal digits. -/
inductive Piece where
  | char (c : Char)
  | unit (n : Nat)

/-- The characters that pieces stand for, unless half of a pair of code units stands alone. -/
def charsOf : List Piece → Option (List Char)
  | [] => some []
  | .char c :: rest => (charsOf rest).map (c :: ·)
  | .unit high :: .unit low :: rest =>
    match unitChar high with
    | some c => (charsOf (.unit low :: rest)).map (c :: ·)
    | none => do some ((← pairChar high low) :: (← charsOf rest))
  | .unit n :: rest => do some ((← unitChar n) :: (← charsOf rest))

/-- The pieces of a string after its opening quote, behind those `seen`, and what follows the closing one. -/
def stringBody (seen : List Piece) : List Char → Option (List Piece × List Char)
  | '"' :: rest => some (seen.reverse, rest)
  | '\\' :: 'u' :: a :: b :: c :: d :: rest =>
    match hex4 a b c d with
    | some n => stringBody (.unit n :: seen) rest
    | none => none
  | '\\' :: c :: rest =>
    match unescape c with
    | some c => stringBody (.char c :: seen) rest
    | none => none
  | c :: rest => if c.toNat < 32 then none else stringBody (.char c :: seen) rest
  | [] => none

/-- A string after its opening quote, and what follows the closing one. There is no string if half of a pair of code
    units stands alone. -/
def string (cs : List Char) : Option (Option String × List Char) :=
  (stringBody [] cs).map fun (pieces, rest) => ((charsOf pieces).map String.ofList, rest)

/-- `n` extended by the leading digits of a list, as long as the number fits 64 bits, and the digits left over. -/
def fitDigits (n : Nat) : List Char → Nat × List Char
  | [] => (n, [])
  | d :: ds =>
    let next := n * 10 + (d.toNat - 48)
    if next < Decimal.uint64Size then fitDigits next ds else (n, d :: ds)

/-- A double times a power of ten, in one rounded step, or two for a very small factor; overflow is refused. -/
def scale (x : Float) (exponent : Int) : Option Float :=
  let power (n : Nat) : Float := Float.ofScientific 1 false n
  if x == 0.0 then some x
  else if exponent > 308 then none
  else if exponent ≥ 0 then
    let y := x * power exponent.toNat
    if y.isInf then none else some y
  else if exponent ≥ -308 then some (x / power (-exponent).toNat)
  else if exponent ≥ -616 then some (x / power 308 / power (-exponent - 308).toNat)
  else some 0.0

/-- The exponent part of a number, if there is one: its value and the text after it. -/
def exponentPart : List Char → Option (Option Int × List Char)
  | c :: rest =>
    if c != 'e' && c != 'E' then some (none, c :: rest)
    else
      let (negative, ds) : Bool × List Char := match rest with
        | '-' :: ds => (true, ds)
        | '+' :: ds => (false, ds)
        | ds => (false, ds)
      (Decimal.readNat (ds.takeWhile Char.isDigit)).map fun n =>
        (some (if negative then -Int.ofNat n else Int.ofNat n), ds.dropWhile Char.isDigit)
  | [] => some (none, [])

/-- The fraction part of a number, if there is one: its digits and the text after it. -/
def fractionPart : List Char → Option (Option (List Char) × List Char)
  | '.' :: rest =>
    let ds := rest.takeWhile Char.isDigit
    if ds.isEmpty then none else some (some ds, rest.dropWhile Char.isDigit)
  | cs => some (none, cs)

/-- A number from its parts. -/
def numberOf (negative : Bool) (whole : List Char) (fraction : Option (List Char)) (exponent : Option Int) :
    Option Number :=
  let (n, dropped) := fitDigits 0 whole
  match fraction, exponent, dropped with
  | none, none, [] =>
    if !negative then some (.int (Int.ofNat n))
    else if n == 0 || n > 9223372036854775808 then some (.float (-(Decimal.toFloat n)))
    else some (.int (-Int.ofNat n))
  | _, _, _ =>
    let fractionDigits := fraction.getD []
    let (m, ignored) := fitDigits n fractionDigits
    let e := Int.ofNat dropped.length - Int.ofNat (fractionDigits.length - ignored.length) + exponent.getD 0
    (scale (Decimal.toFloat m) e).map fun x => .float (if negative then -x else x)

/-- A number after its sign, and the text after it. There is no number if it is too large. -/
def unsigned (negative : Bool) (cs : List Char) : Option (Option Number × List Char) :=
  let whole := cs.takeWhile Char.isDigit
  let valid := match whole with
    | [] => false
    | ['0'] => true
    | '0' :: _ => false
    | _ => true
  if !valid then none
  else do
    let (fraction, rest) ← fractionPart (cs.dropWhile Char.isDigit)
    let (exponent, rest) ← exponentPart rest
    some (numberOf negative whole fraction exponent, rest)

/-- A number and the text after it. -/
def number : List Char → Option (Option Number × List Char)
  | '-' :: cs => unsigned true cs
  | cs => unsigned false cs

namespace Raw

mutual
/-- What is written at the beginning of a text, and the text after it. `fuel` bounds the length of the text. -/
def ofChars : (fuel : Nat) → List Char → Option (Raw × List Char)
  | 0, _ => none
  | fuel + 1, cs =>
    match skipGap cs with
    | 'n' :: 'u' :: 'l' :: 'l' :: rest => some (.null, rest)
    | 't' :: 'r' :: 'u' :: 'e' :: rest => some (.bool true, rest)
    | 'f' :: 'a' :: 'l' :: 's' :: 'e' :: rest => some (.bool false, rest)
    | '"' :: rest => (string rest).map fun (s, rest) => (.str s, rest)
    | '[' :: rest =>
      match skipGap rest with
      | ']' :: rest => some (.arr [], rest)
      | rest => (itemsOf fuel rest).map fun (xs, rest) => (.arr xs, rest)
    | '{' :: rest =>
      match skipGap rest with
      | '}' :: rest => some (.obj [], rest)
      | rest => (membersOf fuel rest).map fun (ms, rest) => (.obj ms, rest)
    | rest => (number rest).map fun (n, rest) => (.num n, rest)
/-- The items of an array up to its bracket. -/
def itemsOf : (fuel : Nat) → List Char → Option (List Raw × List Char)
  | 0, _ => none
  | fuel + 1, cs =>
    match ofChars fuel cs with
    | none => none
    | some (x, rest) =>
      match skipGap rest with
      | ',' :: rest => (itemsOf fuel rest).map fun (xs, rest) => (x :: xs, rest)
      | ']' :: rest => some ([x], rest)
      | _ => none
/-- The members of an object up to its brace. -/
def membersOf : (fuel : Nat) → List Char → Option (List (Option String × Raw) × List Char)
  | 0, _ => none
  | fuel + 1, cs =>
    match skipGap cs with
    | '"' :: rest =>
      match string rest with
      | none => none
      | some (name, rest) =>
        match skipGap rest with
        | ':' :: rest =>
          match ofChars fuel rest with
          | none => none
          | some (v, rest) =>
            match skipGap rest with
            | ',' :: rest => (membersOf fuel rest).map fun (ms, rest) => ((name, v) :: ms, rest)
            | '}' :: rest => some ([(name, v)], rest)
            | _ => none
        | _ => none
    | _ => none
end

/-- What a text has written in it, if it is JSON. -/
def read (text : String) : Option Raw :=
  let cs := text.toList
  match ofChars (2 * cs.length + 2) cs with
  | some (r, rest) => if (skipGap rest).isEmpty then some r else none
  | none => none

mutual
/-- The value that is written, unless there is none or containers nest deeper than some levels. -/
def value? : (levels : Nat) → Raw → Option Json
  | _, .null => some .null
  | _, .bool b => some (.bool b)
  | _, .num n => n.map .num
  | _, .str s => s.map .str
  | 0, .arr _ => none
  | levels + 1, .arr items => (itemValues? levels items).map .arr
  | 0, .obj _ => none
  | levels + 1, .obj members => (memberValues? levels members).map .obj
/-- `value?` of each item. -/
def itemValues? (levels : Nat) : List Raw → Option (List Json)
  | [] => some []
  | r :: rest => do
    let v ← value? levels r
    let vs ← itemValues? levels rest
    some (v :: vs)
/-- `value?` of each member, all of which need a name. -/
def memberValues? (levels : Nat) : List (Option String × Raw) → Option (List (String × Json))
  | [] => some []
  | (n, r) :: rest => do
    let name ← n
    let v ← value? levels r
    let ms ← memberValues? levels rest
    some ((name, v) :: ms)
end

end Raw

/-- The value that a text holds, members in order. -/
def parse (text : String) : Option Json := ((Raw.read text).bind (Raw.value? maxDepth)).map canonical

end TestScenario.Json
