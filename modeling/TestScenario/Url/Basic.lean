import TestScenario.Text.Utf8

/-!
Addresses of resources, and how they are written.
-/

namespace TestScenario

/-- The host of an address. -/
inductive Url.Host where
  | domain (name : String)
  | ipv4 (address : Nat)
  /-- The eight pieces of an address. -/
  | ipv6 (pieces : List Nat)
deriving DecidableEq, Repr

/-- The path of an address: parts behind slashes, or text that no other address can be relative to. -/
inductive Url.Path where
  | parts (names : List String)
  | text (s : String)
deriving DecidableEq, Repr

/-- An address of a resource, everything in it as it is written. -/
structure Url where
  scheme : String
  username : String := ""
  password : Option String := none
  host : Option Url.Host := none
  /-- The port, unless it is the usual one of the scheme. -/
  port : Option Nat := none
  path : Url.Path
  query : Option String := none
  fragment : Option String := none
deriving DecidableEq, Repr

namespace Url

/-- A number in hexadecimal digits, without zeros in front. -/
def hexText (n : Nat) : String := String.ofList (Nat.toDigits 16 n)

/-- How many pieces at the beginning are zero. -/
def zeros (pieces : List Nat) : Nat := (pieces.takeWhile (· == 0)).length

/-- Where the first of the longest runs of zeros begins, and how long it is. -/
def longestZeros (index : Nat) : List Nat → Nat × Nat
  | [] => (index, 0)
  | p :: rest =>
    let here := zeros (p :: rest)
    let later := longestZeros (index + 1) rest
    if later.2 ≤ here then (index, here) else later

/-- Pieces with colons between them. -/
def pieceText (pieces : List Nat) : String := String.intercalate ":" (pieces.map hexText)

/-- The eight pieces of an address, where two colons stand for the longest run of several zeros. -/
def ipv6Text (pieces : List Nat) : String :=
  let (start, count) := longestZeros 0 pieces
  if count ≤ 1 then pieceText pieces
  else pieceText (pieces.take start) ++ "::" ++ pieceText (pieces.drop (start + count))

/-- A host as it is written. -/
def Host.text : Host → String
  | .domain name => name
  | .ipv4 n =>
    String.intercalate "." [toString (n / 16777216), toString (n / 65536 % 256), toString (n / 256 % 256), toString (n % 256)]
  | .ipv6 pieces => "[" ++ ipv6Text pieces ++ "]"

/-- A path as it is written. -/
def Path.written : Path → String
  | .parts names => String.join (names.map ("/" ++ ·))
  | .text s => s

/-- The path of a text that is empty or begins with a slash. -/
def Path.ofText : List Char → Path
  | [] => .parts []
  | _ :: rest => .parts ((rest.splitOn '/').map String.ofList)

/-- The name and the password before the host. -/
def credentials (u : Url) : String :=
  let password := (u.password.map (":" ++ ·)).getD ""
  if u.username.isEmpty && password.isEmpty then "" else u.username ++ password ++ "@"

/-- The host with what belongs to it. -/
def authority (u : Url) : String :=
  match u.host with
  | some h => "//" ++ u.credentials ++ h.text ++ (u.port.map fun p => ":" ++ toString p).getD ""
  | none => if u.path.written.startsWith "//" then "/." else ""

/-- The address as it is written. -/
def text (u : Url) : String :=
  u.scheme ++ ":" ++ u.authority ++ u.path.written ++ (u.query.map ("?" ++ ·)).getD ""
    ++ (u.fragment.map ("#" ++ ·)).getD ""

/-- The address without name and password. -/
def withoutCredentials (u : Url) : Url := { u with username := "", password := none }

/-- Whether the address is one of the web. -/
def isWeb (u : Url) : Bool := u.scheme == "http" || u.scheme == "https"

/-- Whether there is a host. -/
def hasHost (u : Url) : Bool := u.host.any (· != .domain "")

/-! ### Characters that are written as bytes -/

/-- A control character of ASCII. -/
def isControl (c : Char) : Bool := c.toNat < 0x20 || c.toNat == 0x7F

/-- What is written as bytes in a fragment. -/
def inFragment (c : Char) : Bool := isControl c || " \"<>`".toList.contains c

/-- What is written as bytes in a query; some schemes add the apostrophe. -/
def inQuery (special : Bool) (c : Char) : Bool := isControl c || " \"#<>".toList.contains c || (special && c.toNat == 0x27)

/-- What is written as bytes in a path. -/
def inPath (c : Char) : Bool := inFragment c || "#?\x7b\x7d".toList.contains c

/-- What is written as bytes in a name or a password. -/
def inCredentials (c : Char) : Bool := inPath c || "/:;=@[\\]^|".toList.contains c

/-- The text with the bytes of some characters, and of all that are not ASCII, behind percent signs. -/
def percentEncode (escaped : Char → Bool) (cs : List Char) : List Char :=
  cs.flatMap fun c =>
    if escaped c || 0x80 ≤ c.toNat then (Text.utf8 (String.singleton c)).flatMap fun b => '%' :: Text.hexByte b else [c]

end Url
end TestScenario
