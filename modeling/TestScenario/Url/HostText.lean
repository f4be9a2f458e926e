import TestScenario.Decimal.Reading
import TestScenario.Text.Blank
import TestScenario.Url.Domain

/-!
Hosts of addresses: domain names and addresses of the internet protocol.
-/

namespace TestScenario

/-- Why a text is no address. -/
inductive UrlError where
  | emptyHost
  | invalidDomain
  | invalidPort
  | invalidIpv4
  | invalidIpv6
  /-- A character that may not stand in a host whose scheme is unknown. -/
  | invalidHostCharacter
  | relative
  /-- An address relative to one that nothing can be relative to. -/
  | relativeToText
deriving DecidableEq, Repr

/-- The error in words. -/
def UrlError.message : UrlError → String
  | .emptyHost => "empty host"
  | .invalidDomain => "invalid international domain name"
  | .invalidPort => "invalid port number"
  | .invalidIpv4 => "invalid IPv4 address"
  | .invalidIpv6 => "invalid IPv6 address"
  | .invalidHostCharacter => "invalid domain character"
  | .relative => "relative URL without a base"
  | .relativeToText => "relative URL with a cannot-be-a-base base"

namespace Url

/-! ### Addresses of the internet protocol -/

/-- A part of an address as a number: decimal, octal behind a zero, or hexadecimal behind a mark. -/
def ipv4Number (part : List Char) : Option Nat :=
  let (base, digits) : Nat × List Char := match part with
    | '0' :: 'x' :: ds => (16, ds)
    | '0' :: 'X' :: ds => (16, ds)
    | '0' :: d :: ds => (8, d :: ds)
    | ds => (10, ds)
  let value (c : Char) : Option Nat := (Decimal.hexValue c).filter (· < base)
  if part.isEmpty then none
  else if digits.isEmpty then some 0
  else Decimal.readDigits base value digits

/-- The parts of a domain, without an empty one at the end. -/
def domainParts (domain : List Char) : List (List Char) :=
  let parts := domain.splitOn '.'
  if 1 < parts.length && parts.getLast? == some [] then parts.dropLast else parts

/-- Whether the last part of a domain is a number, so that the whole has to be an address. -/
def endsInNumber (domain : List Char) : Bool :=
  match (domainParts domain).getLast? with
  | none => false
  | some part => (!part.isEmpty && part.all Char.isDigit) || (ipv4Number part).isSome

/-- The address that a domain stands for: all parts but the last are bytes, the last one fills the rest. -/
def ipv4Address (domain : List Char) : Option Nat := do
  let numbers ← (domainParts domain).mapM ipv4Number
  if 4 < numbers.length then none
  else
    let last ← numbers.getLast?
    let bytes := numbers.dropLast
    if bytes.any (255 < ·) || Decimal.pow2 (8 * (4 - bytes.length)) ≤ last then none
    else some (bytes.zipIdx.foldl (fun n (b, i) => n + b * Decimal.pow2 (8 * (3 - i))) last)

/-- A byte in decimal digits without a zero in front. -/
def byte? (digits : List Char) : Option Nat := do
  let n ← Decimal.readNat digits
  if 255 < n || (1 < digits.length && digits.head? == some '0') then none else some n

/-- The last two pieces of an address in the form of four bytes. -/
def embedded (cs : List Char) : Option (List Nat) := do
  match ← (cs.splitOn '.').mapM byte? with
  | [a, b, c, d] => some [a * 256 + b, c * 256 + d]
  | _ => none

/-- The pieces of an address from some place on; `gap` tells where the two colons stand. -/
def ipv6Pieces (pieces : List Nat) (gap : Option Nat) : (fuel : Nat) → List Char → Option (List Nat × Option Nat)
  | _, [] => some (pieces, gap)
  | 0, _ => none
  | fuel + 1, cs =>
    if pieces.length == 8 then none
    else match cs with
      | ':' :: rest =>
        if gap.isSome then none else ipv6Pieces (pieces ++ [0]) (some (pieces.length + 1)) fuel rest
      | _ =>
        let digits := (cs.takeWhile fun c => (Decimal.hexValue c).isSome).take 4
        let value := (Decimal.readDigits 16 Decimal.hexValue digits).getD 0
        match cs.drop digits.length with
        | [] => some (pieces ++ [value], gap)
        | '.' :: _ => if digits.isEmpty || 6 < pieces.length then none else (embedded cs).map fun two => (pieces ++ two, gap)
        | ':' :: rest => if rest.isEmpty then none else ipv6Pieces (pieces ++ [value]) gap fuel rest
        | _ => none

/-- The eight pieces of an address. -/
def ipv6Address (cs : List Char) : Option (List Nat) := do
  let (pieces, gap) ← match cs with
    | ':' :: ':' :: rest => ipv6Pieces [0] (some 1) cs.length rest
    | ':' :: _ => none
    | _ => ipv6Pieces [] none cs.length cs
  match gap with
  | none => if pieces.length == 8 then some pieces else none
  | some place => some (pieces.take place ++ List.replicate (8 - pieces.length) 0 ++ pieces.drop place)

/-! ### Hosts -/

/-- The host of a scheme that the standard knows. -/
def Host.ofText (cs : List Char) : Except UrlError Host :=
  match cs with
  | '[' :: rest =>
    if rest.getLast? == some ']' then
      match ipv6Address rest.dropLast with
      | some pieces => .ok (.ipv6 pieces)
      | none => .error .invalidIpv6
    else .error .invalidIpv6
  | _ =>
    match Domain.ascii? cs with
    | none => .error .invalidDomain
    | some name =>
      if name.isEmpty then .error .emptyHost
      else if endsInNumber name then
        match ipv4Address name with
        | some n => .ok (.ipv4 n)
        | none => .error .invalidIpv4
      else .ok (.domain (String.ofList name))

/-- Whether a character may not stand in a host whose scheme is unknown. -/
def isForbiddenAnywhere (c : Char) : Bool :=
  c == '\x00' || c == '\t' || c == '\n' || c == '\r' || " #/:<>?@[\\]^|".toList.contains c

/-- The host of any other scheme. -/
def Host.ofPlainText (cs : List Char) : Except UrlError Host :=
  match cs with
  | '[' :: _ => Host.ofText cs
  | _ =>
    if cs.any isForbiddenAnywhere then .error .invalidHostCharacter
    else .ok (.domain (String.ofList (percentEncode isControl cs)))

end Url
end TestScenario
