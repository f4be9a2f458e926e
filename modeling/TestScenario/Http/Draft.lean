import TestScenario.Http.Message
import TestScenario.Text.Base64
import TestScenario.Url.Reader

/-!
Requests as they are written down, before it is clear that they can be sent.
-/

namespace TestScenario.Http

/-- A request whose parts have not been looked at yet. -/
structure Draft where
  method : String
  url : String
  headers : List (String × String)
  body : Option String := none
deriving DecidableEq, Repr

/-- Why a draft is no request. -/
inductive DraftError where
  | address (cause : UrlError)
  /-- An address that is not one of the web. -/
  | scheme (url : Url)
  /-- An address of the web that no request can name. -/
  | unnamed (url : Url)
  | headerName
  | headerValue
deriving DecidableEq, Repr

/-- Why a draft is no request, in words. -/
def DraftError.fault : DraftError → Fault
  | .address cause => ⟨["builder error", cause.message]⟩
  | .scheme u => ⟨["builder error for url (" ++ u.text ++ ")", "URL scheme is not allowed"]⟩
  | .unnamed u => ⟨["builder error for url (" ++ u.text ++ ")", "Parsed Url is not a valid Uri"]⟩
  | .headerName => ⟨["builder error", "invalid HTTP header name"]⟩
  | .headerValue => ⟨["builder error", "failed to parse header value"]⟩

/-- Whether a character may stand in the name of a header or of a method. -/
def isTokenChar (c : Char) : Bool := c.isAlphanum || "!#$%&*+-.^_|~\x27\x60".toList.contains c

/-- Whether a text is the name of a header or of a method. -/
def isToken (s : String) : Bool := !s.isEmpty && s.toList.all isTokenChar

/-- Whether a text can be the value of a header: it has no control characters but tabs. -/
def isHeaderValue (s : String) : Bool := s.toList.all fun c => c == '\t' || !Url.isControl c

/-- How long the name of a header may be. -/
def maxHeaderName : Nat := 65535

/-- Why a header cannot be sent, if it cannot. -/
def headerError? (name value : String) : Option DraftError :=
  if !isToken name || maxHeaderName < name.utf8ByteSize then some .headerName
  else if !isHeaderValue value then some .headerValue
  else none

/-- How long the address in a request may be. -/
def maxAddress : Nat := 65534

/-- Whether a request can name an address: it is short enough and its host has only plain characters. -/
def isNameable (u : Url) : Bool :=
  u.text.utf8ByteSize ≤ maxAddress
    && u.host.all fun h => h.text.toList.all fun c => !"\"\x60\x7b\x7d".toList.contains c

/-- The name and the password in an address. If the name is no text there are none, and a password that is no text
    counts as none. -/
def credentials? (u : Url) : Option (String × Option String) := do
  let decode (written : String) : Option String := String.fromUTF8? (.mk (Url.percentDecode written.toList).toArray)
  let name ← decode u.username
  let password := u.password.bind decode
  if name.isEmpty && password.isNone then none else some (name, password)

/-- The header for a name and a password. -/
def basicHeader (name : String) (password : Option String) : String × String :=
  ("authorization", "Basic " ++ String.ofList (Text.base64 (Text.utf8 (name ++ ":" ++ password.getD ""))))

/-- The headers that an address brings along: one for its name and its password. -/
def credentialHeaders (u : Url) : List (String × String) :=
  match credentials? u with
  | none => []
  | some (name, password) => [basicHeader name password]

/-- The address without what it brings along as a header. -/
def bareAddress (u : Url) : Url := if (credentials? u).isSome then u.withoutCredentials else u

/-- The request that a draft stands for. -/
def Draft.request (d : Draft) : Except DraftError Request := do
  let given ← (Url.ofText d.url).mapError .address
  if !given.hasHost then .error (.scheme given)
  else
    match d.headers.findSome? fun (n, v) => headerError? n v with
    | some e => .error e
    | none =>
      let url := bareAddress given
      if !url.isWeb then .error (.scheme url)
      else if !isNameable url then .error (.unnamed url)
      else .ok { method := d.method, url, headers := credentialHeaders given ++ d.headers, body := d.body }

/-- Send what a draft stands for. -/
def Transport.deliver {τ : Type} (t : Transport τ) (d : Draft) (s : τ) : Except Fault Response × τ :=
  match d.request with
  | .error e => (.error e.fault, s)
  | .ok r =>
    let (answer, s) := t.send r s
    (answer.mapError fun cause => cause.within ("error sending request for url (" ++ r.url.text ++ ")"), s)

end TestScenario.Http
