import TestScenario.Decimal.Reading

/-!
The values of literals.

Inside one kind of quote the other kind stands for itself, and a backslash before it stays. In a raw literal a
backslash stands for itself unless it is before the enclosing quote. Every enclosing quote switches between inside and
outside, so that tripled quotes need no rule of their own; outside nothing else may stand.
-/

namespace TestScenario.Script.Literal

/-- Hexadecimal digits as a character; halves of pairs and numbers beyond the code space are refused. -/
def hexChar (digits : List Char) : Option Char := do
  let n ← Decimal.readDigits 16 Decimal.hexValue digits
  if n.isValidChar then some (Char.ofNat n) else none

/-- Octal digits as a number. -/
def octal (digits : List Char) : Option Nat :=
  Decimal.readDigits 8 (fun c => if '0' ≤ c ∧ c ≤ '7' then some (c.toNat - 48) else none) digits

/-- The character of an escape sequence of one letter. -/
def simpleEscape : Char → Option Char
  | 'a' => some '\x07'
  | 'b' => some '\x08'
  | 'v' => some '\x0b'
  | 'f' => some '\x0c'
  | 'n' => some '\n'
  | 'r' => some '\r'
  | 't' => some '\t'
  | '\\' => some '\\'
  | '?' => some '?'
  | '`' => some '`'
  | _ => none

/-- How many hexadecimal digits follow a letter after a backslash. -/
def hexDigits : Char → Option Nat
  | 'x' => some 2
  | 'X' => some 2
  | 'u' => some 4
  | 'U' => some 8
  | _ => none

/-- The characters of a literal, given which quote it is inside of. `fuel` bounds the length. -/
def quoted (inside : Option Char) : (fuel : Nat) → List Char → Option (List Char)
  | _, [] => some []
  | 0, _ :: _ => none
  | fuel + 1, c :: rest =>
    match inside with
    | none => if c == '\'' || c == '"' then quoted (some c) fuel rest else none
    | some q =>
      if c == q then quoted none fuel rest
      else if c != '\\' then (quoted inside fuel rest).map (c :: ·)
      else match rest with
        | [] => none
        | e :: more =>
          if e == '\'' || e == '"' then
            (quoted inside fuel more).map fun tail => if e == q then e :: tail else '\\' :: e :: tail
          else match simpleEscape e with
            | some ch => (quoted inside fuel more).map (ch :: ·)
            | none =>
              match hexDigits e with
              | some n => do
                let ch ← hexChar (more.take n)
                (quoted inside fuel (more.drop n)).map (ch :: ·)
              | none => do
                let n ← octal (rest.take 3)
                (quoted inside fuel (rest.drop 3)).map (Char.ofNat n :: ·)

/-- The characters of a raw literal. -/
def raw (inside : Option Char) : (fuel : Nat) → List Char → Option (List Char)
  | _, [] => some []
  | 0, _ :: _ => none
  | fuel + 1, c :: rest =>
    match inside with
    | none => if c == '\'' || c == '"' then raw (some c) fuel rest else none
    | some q =>
      if c == q then raw none fuel rest
      else if c != '\\' then (raw inside fuel rest).map (c :: ·)
      else match rest with
        | [] => some ['\\']
        | e :: more => (raw inside fuel more).map fun tail => if e == q then e :: tail else '\\' :: e :: tail

/-- The string that a literal writes. -/
def string (written : List Char) : Option String :=
  let chars := match written with
    | 'r' :: rest => raw none rest.length rest
    | 'R' :: rest => raw none rest.length rest
    | cs => quoted none cs.length cs
  chars.map String.ofList

/-- A character as bytes. -/
def utf8 (c : Char) : List UInt8 := (String.singleton c).toUTF8.toList

/-- The bytes between the quotes of a literal. -/
def byteList : (fuel : Nat) → List Char → Option (List UInt8)
  | _, [] => some []
  | 0, _ :: _ => none
  | fuel + 1, '\\' :: 'x' :: rest => do
    let n ← Decimal.readDigits 16 Decimal.hexValue (rest.take 2)
    (byteList fuel (rest.drop 2)).map (n.toUInt8 :: ·)
  | fuel + 1, '\\' :: rest => do
    let n ← octal (rest.take 3)
    if n < 256 then (byteList fuel (rest.drop 3)).map (n.toUInt8 :: ·) else none
  | fuel + 1, c :: rest => (byteList fuel rest).map (utf8 c ++ ·)

/-- The bytes that a literal writes: what stands between the quote after the mark and the last character. -/
def bytes (written : List Char) : Option (List UInt8) :=
  let inner := (written.drop 2).dropLast
  byteList inner.length inner

/-- The digits of a number, in base 16 behind its mark, in base 10 otherwise. -/
def magnitude : List Char → Option Nat
  | '0' :: 'x' :: digits => Decimal.readDigits 16 Decimal.hexValue digits
  | digits => Decimal.readNat digits

end TestScenario.Script.Literal
