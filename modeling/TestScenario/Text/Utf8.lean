/-!
Text as UTF-8 bytes, and bytes as text with a replacement character for each stretch that is no UTF-8.
-/

namespace TestScenario.Text

/-- The bytes of a string. -/
def utf8 (s : String) : List UInt8 := s.toUTF8.toList

/-- Whether a byte continues a character. -/
def isContinuation (b : UInt8) : Bool := 0x80 ≤ b && b ≤ 0xBF

/-- The range of the second byte of a character of three or four bytes. -/
def secondRange (lead : UInt8) : UInt8 × UInt8 :=
  if lead == 0xE0 then (0xA0, 0xBF)
  else if lead == 0xED then (0x80, 0x9F)
  else if lead == 0xF0 then (0x90, 0xBF)
  else if lead == 0xF4 then (0x80, 0x8F)
  else (0x80, 0xBF)

/-- How many bytes a character has whose first byte is given; zero if none begins like that. -/
def leadLength (b : UInt8) : Nat :=
  if b < 0x80 then 1
  else if 0xC2 ≤ b && b ≤ 0xDF then 2
  else if 0xE0 ≤ b && b ≤ 0xEF then 3
  else if 0xF0 ≤ b && b ≤ 0xF4 then 4
  else 0

/-- How many of the bytes after `lead` go on with its character. -/
def goodTail (lead : UInt8) (bytes : List UInt8) : Nat :=
  match bytes with
  | [] => 0
  | b :: rest =>
    let (low, high) := secondRange lead
    if low ≤ b && b ≤ high then 1 + ((rest.take (leadLength lead - 2)).takeWhile isContinuation).length else 0

/-- The character of a complete sequence of bytes. -/
def charOf (lead : UInt8) (tail : List UInt8) : Char :=
  let start := match tail.length with
    | 0 => lead.toNat
    | 1 => lead.toNat % 32
    | 2 => lead.toNat % 16
    | _ => lead.toNat % 8
  Char.ofNat (tail.foldl (fun n b => n * 64 + b.toNat % 64) start)

/-- The characters of a list of bytes whose length `fuel` bounds. -/
def decodeLossy : (fuel : Nat) → List UInt8 → List Char
  | 0, _ => []
  | _, [] => []
  | fuel + 1, lead :: rest =>
    let size := leadLength lead
    if size == 0 then '\uFFFD' :: decodeLossy fuel rest
    else
      let good := if size == 1 then 0 else goodTail lead rest
      let c := if good + 1 == size then charOf lead (rest.take good) else '\uFFFD'
      c :: decodeLossy fuel (rest.drop good)

/-- Bytes as text. -/
def ofUtf8Lossy (bytes : List UInt8) : String := String.ofList (decodeLossy bytes.length bytes)

/-- A byte in two hexadecimal digits in upper case. -/
def hexByte (b : UInt8) : List Char :=
  let digit (n : Nat) : Char := if n < 10 then Char.ofNat (48 + n) else Char.ofNat (55 + n)
  [digit (b.toNat / 16), digit (b.toNat % 16)]

/-- A byte of a form field: letters, digits and four marks stand for themselves, a space is a plus sign, and any other
    byte is written in hexadecimal behind a percent sign. -/
def formByte (b : UInt8) : List Char :=
  let c := Char.ofNat b.toNat
  if b < 0x80 && (c.isAlphanum || c == '*' || c == '-' || c == '.' || c == '_') then [c]
  else if b == 0x20 then ['+']
  else '%' :: hexByte b

/-- A text as the value of a form field. -/
def formEncode (s : String) : String := String.ofList ((utf8 s).flatMap formByte)

end TestScenario.Text
