import TestScenario.Url.HostText

/-!
Addresses read from text, on their own or relative to another one.

Blanks around an address and tabs and line breaks inside it do not count. In the schemes that the standard knows,
called special, a backslash counts as a slash.
-/

namespace TestScenario.Url

/-- The special schemes with a host of their own, and their usual ports. -/
def usualPorts : List (String × Nat) := [("http", 80), ("https", 443), ("ws", 80), ("wss", 443), ("ftp", 21)]

/-- Whether a scheme is special. -/
def isSpecial (scheme : String) : Bool := scheme == "file" || (usualPorts.lookup scheme).isSome

/-- Whether a character separates parts of a path. -/
def isSlash (special : Bool) (c : Char) : Bool := c == '/' || (special && c == '\\')

/-- Whether a character ends an authority. -/
def endsAuthority (special : Bool) (c : Char) : Bool := isSlash special c || c == '?' || c == '#'

/-- The characters of a text that count. -/
def significant (text : String) : List Char :=
  let isEdge (c : Char) : Bool := c.toNat ≤ 0x20
  let cs := text.toList.dropWhile isEdge
  ((cs.reverse.dropWhile isEdge).reverse).filter fun c => c != '\t' && c != '\n' && c != '\r'

/-- The scheme that a text begins with, in lower case, and the text behind its colon. -/
def scheme? (cs : List Char) : Option (String × List Char) :=
  if !cs.head?.any Char.isAlpha then none
  else
    let name := cs.takeWhile fun c => c.isAlphanum || c == '+' || c == '-' || c == '.'
    match cs.drop name.length with
    | ':' :: rest => some (String.ofList (name.map Char.toLower), rest)
    | _ => none

/-! ### Paths

A path is written while it is read: part by part, where a part that leads above takes back what is written. Names of
drives are not taken back. -/

/-- Whether a part of a path leads nowhere else. -/
def isHere (part : List Char) : Bool := part == ['.'] || part.map Char.toLower == ['%', '2', 'e']

/-- Whether a part of a path leads to the one above. -/
def isAbove (part : List Char) : Bool :=
  let part := part.map Char.toLower
  part == ['.', '.'] || part == ['.', '%', '2', 'e'] || part == ['%', '2', 'e', '.']
    || part == ['%', '2', 'e', '%', '2', 'e']

/-- Whether a text is the name of a drive: a letter with a colon or, less usual, a bar. -/
def isDrive : List Char → Bool
  | [letter, mark] => letter.isAlpha && (mark == ':' || mark == '|')
  | _ => false

/-- Whether a text is the name of a drive in its usual form. -/
def isUsualDrive (name : List Char) : Bool := isDrive name && name.getLast? == some ':'

/-- Whether a text begins with the name of a drive. -/
def startsWithDrive (cs : List Char) : Bool := isDrive (cs.take 2) && (cs.drop 2).head?.all (endsAuthority true)

/-- The parts of a text between slashes. -/
def splitParts (special : Bool) : List Char → List (List Char)
  | [] => [[]]
  | c :: rest =>
    if isSlash special c then [] :: splitParts special rest
    else match splitParts special rest with
      | [] => [[c]]
      | part :: parts => (c :: part) :: parts

/-- What stands behind the last slash of a path. -/
def lastName (path : List Char) : List Char := (path.reverse.takeWhile (· != '/')).reverse

/-- A path without what stands behind its last slash; the drive of a file stays. -/
def shorten (isFile : Bool) (path : List Char) : List Char :=
  let name := lastName path
  if isFile && isUsualDrive name then path else path.take (path.length - name.length)

/-- The path above one that ends with a slash: without its last name, unless that is the name of a drive. -/
def above (isFile : Bool) (path : List Char) : List Char :=
  let inner := path.dropLast
  if path.getLast? == some '/' && inner.contains '/' && !startsWithDrive (lastName inner ++ ['/']) then shorten isFile inner
  else shorten isFile path

/-- A path that ends with a slash. -/
def closed (path : List Char) : List Char := if path.getLast? == some '/' then path else path ++ ['/']

/-- A path with one more part; `more` says whether a slash follows it. The drive of a file is written in its usual
    form. -/
def addPart (isFile : Bool) (path part : List Char) (more : Bool) : List Char :=
  if isAbove part then
    let path := above isFile path
    if more then closed path else path
  else if isHere part then closed path
  else
    let written := percentEncode inPath part
    let name := if isFile && path == ['/'] && isDrive written then written.take 1 ++ [':'] else written
    path ++ name ++ if more then ['/'] else []

/-- A path with some more parts. -/
def follow (isFile : Bool) (path : List Char) : List (List Char) → List Char
  | [] => path
  | part :: rest => follow isFile (addPart isFile path part !rest.isEmpty) rest

/-- A path with a text behind it, up to a query or a fragment, and the text from there on. Behind a drive a slash is
    put if none is written. -/
def extend (scheme : String) (path cs : List Char) : List Char × List Char :=
  let isFile := scheme == "file"
  let special := isSpecial scheme
  let text := cs.takeWhile fun c => c != '?' && c != '#'
  let gap := isFile && isUsualDrive (path.drop 1) && text.head?.any (!isSlash special ·)
  (follow isFile (if gap then path ++ ['/'] else path) (splitParts special text), cs.drop text.length)

/-- The rest of an address from its query on. -/
def withRest (u : Url) (cs : List Char) : Url :=
  let query := cs.takeWhile (· != '#')
  let fragment := (cs.drop query.length).drop 1
  { u with
    query := if query.isEmpty then none
      else some (String.ofList (percentEncode (inQuery (isSpecial u.scheme)) (query.drop 1)))
    fragment := if cs.length = query.length then none else some (String.ofList (percentEncode inFragment fragment)) }

/-- The rest of an address from its path on, the beginning of which is there. The path of a file begins with one slash
    only. -/
def withPath (u : Url) (path cs : List Char) : Url :=
  let (path, rest) := extend u.scheme path cs
  withRest { u with path := .ofText (if u.scheme == "file" then '/' :: path.dropWhile (· == '/') else path) } rest

/-- The name and the password in front of a host, and the host with everything behind it. -/
def splitCredentials (special : Bool) (cs : List Char) : Option (List Char) × List Char :=
  let inside := cs.takeWhile (!endsAuthority special ·)
  if inside.contains '@' then
    let host := (inside.reverse.takeWhile (· != '@')).reverse
    (some (inside.take (inside.length - host.length - 1)), cs.drop (inside.length - host.length))
  else (none, cs)

/-- The host that a text begins with, a colon inside square brackets being part of it. -/
def hostPart (special inBrackets : Bool) : List Char → List Char × List Char
  | [] => ([], [])
  | c :: rest =>
    if (c == ':' && !inBrackets) || endsAuthority special c then ([], c :: rest)
    else
      let (host, rest) := hostPart special ((inBrackets || c == '[') && c != ']') rest
      (c :: host, rest)

/-- The port that a text begins with, and the text behind it. -/
def portPart (special : Bool) (cs : List Char) : Except UrlError (Option Nat × List Char) :=
  let digits := cs.takeWhile Char.isDigit
  let rest := cs.drop digits.length
  if rest.head?.any fun c => !(endsAuthority special c || c == '\\') then .error .invalidPort
  else match Decimal.readNat digits with
    | none => .ok (none, rest)
    | some n => if 65535 < n then .error .invalidPort else .ok (some n, rest)

/-- The rest of an address from its authority on. -/
def ofAuthority (scheme : String) (cs : List Char) : Except UrlError Url := do
  let special := isSpecial scheme
  let (credentials, cs) := splitCredentials special cs
  let (host, rest) := hostPart special false cs
  if host.isEmpty && (special || (credentials == some [] && cs.head?.any (endsAuthority special))) then .error .emptyHost
  else
    let host ← if special then Host.ofText host else Host.ofPlainText host
    let name := (credentials.getD []).takeWhile (· != ':')
    let password := ((credentials.getD []).drop name.length).drop 1
    if host == .domain "" && (rest.head? == some ':' || !name.isEmpty || !password.isEmpty) then .error .emptyHost
    else
      let (port, cs) ← match rest with
        | ':' :: rest => portPart special rest
        | _ => .ok (none, rest)
      let written (part : List Char) := String.ofList (percentEncode inCredentials part)
      let u : Url :=
        { scheme
          username := written name
          password := if password.isEmpty then none else some (written password)
          host := some host
          port := if port == usualPorts.lookup scheme then none else port
          path := .parts [] }
      match cs with
      | [] => .ok (if special then withPath u ['/'] [] else u)
      | c :: rest =>
        if isSlash special c then .ok (withPath u ['/'] rest)
        else if !special && (c == '?' || c == '#') then .ok (withRest u cs)
        else .ok (withPath u ['/'] cs)

/-- The address that a text stands for which changes at most the query or the fragment of a base. -/
def samePath? (base : Url) (cs : List Char) : Option Url :=
  match cs with
  | [] => some { base with fragment := none }
  | '?' :: _ => some (withRest { base with query := none, fragment := none } cs)
  | '#' :: _ => some { withRest base cs with query := base.query }
  | _ => none

/-- The address of a file on no host, or on the host of a base. -/
def localFile (host : Option Host) : Url := { scheme := "file", host := some (host.getD (.domain "")), path := .parts [] }

/-- The rest of the address of a file from its host on. A drive is no host, and the drives of all hosts are the same. -/
def ofFileHost (cs : List Char) : Except UrlError Url := do
  let name := cs.takeWhile (!endsAuthority true ·)
  let rest := cs.drop name.length
  if name.isEmpty then .ok (withPath (localFile none) ['/'] rest)
  else if isDrive name then .ok (withPath (localFile none) ['/'] cs)
  else
    let host ← Host.ofText name
    if host == .domain "localhost" then .ok (withPath (localFile none) ['/'] rest)
    else
      let rest := if rest.head?.any (isSlash true) then rest.drop 1 else rest
      let onDrive := startsWithDrive ((extend "file" ['/'] rest).1.drop 1)
      .ok (withPath (localFile (if onDrive then none else some host)) ['/'] rest)

/-- The names of a path as they are written, slashes included. -/
def pathText (u : Url) : List Char := u.path.written.toList

/-- The rest of the address of a file, relative to the address of another one if there is one. -/
def ofFile (base : Option Url) (cs : List Char) : Except UrlError Url :=
  if cs.head?.any (isSlash true) then
    let rest := cs.drop 1
    if rest.head?.any (isSlash true) then ofFileHost (rest.drop 1)
    else
      let drive := (base.map fun b => ((pathText b).drop 1).takeWhile (· != '/')).getD []
      if startsWithDrive rest then .ok (withPath (localFile none) [] cs)
      else if isUsualDrive drive then .ok (withPath (localFile none) ('/' :: drive) cs)
      else .ok (withPath (localFile (base.bind Url.host)) [] cs)
  else match base with
    | none => .ok (withPath (localFile none) ['/'] cs)
    | some b =>
      match samePath? b cs with
      | some u => .ok u
      | none =>
        if startsWithDrive cs then .ok (withPath (localFile none) ['/'] cs)
        else .ok (withPath { b with query := none, fragment := none } (shorten true (pathText b)) cs)

/-- The address that a text stands for relative to a base without text as path. Two slashes or backslashes begin an
    authority. -/
def relativeTo (base : Url) (cs : List Char) : Except UrlError Url :=
  let bare : Url := { base with query := none, fragment := none }
  match samePath? base cs with
  | some u => .ok u
  | none =>
    match cs.takeWhile (isSlash true) with
    | [] => .ok (withPath bare (closed (shorten false (pathText base))) cs)
    | [_] => .ok (withPath bare ['/'] (cs.drop 1))
    | '/' :: '/' :: _ => ofAuthority base.scheme (cs.drop 2)
    | slashes => ofAuthority base.scheme (cs.drop slashes.length)

/-- The address that a text with a scheme stands for, relative to a base of the same scheme if it allows for that. -/
def ofScheme (base : Option Url) (scheme : String) (cs : List Char) : Except UrlError Url :=
  let base := base.filter (·.scheme == scheme)
  if scheme == "file" then ofFile base cs
  else if isSpecial scheme then
    let slashes := (cs.takeWhile (isSlash true)).length
    match base with
    | some b => if slashes < 2 then relativeTo b cs else ofAuthority scheme (cs.drop slashes)
    | none => ofAuthority scheme (cs.drop slashes)
  else match cs with
    | '/' :: '/' :: rest => ofAuthority scheme rest
    | '/' :: rest => .ok (withPath { scheme, path := .parts [] } ['/'] rest)
    | _ =>
      let path := cs.takeWhile fun c => c != '?' && c != '#'
      .ok (withRest { scheme, path := .text (String.ofList (percentEncode isControl path)) } (cs.drop path.length))

/-- The address that a text stands for, relative to a base if it needs one. -/
def resolve (base : Option Url) (text : String) : Except UrlError Url :=
  let cs := significant text
  match scheme? cs with
  | some (scheme, rest) => ofScheme base scheme rest
  | none =>
    match base with
    | none => .error .relative
    | some b =>
      match b.path with
      | .parts _ => if b.scheme == "file" then ofFile base cs else relativeTo b cs
      | .text _ =>
        if cs.head? == some '#' then .ok { withRest b cs with query := b.query } else .error .relativeToText

/-- The address that a text stands for on its own. -/
def ofText (text : String) : Except UrlError Url := resolve none text

/-- The address that a text stands for relative to this one. -/
def join (base : Url) (text : String) : Except UrlError Url := resolve (some base) text

end TestScenario.Url
