import TestScenario.Engine.Config
import TestScenario.Http.Draft
import TestScenario.Json.Reader
import TestScenario.Run.Reference
import TestScenario.Scenario.Case

/-!
Requests of test cases: addresses relative to a base, headers that all requests have, and variables put in.
-/

namespace TestScenario.Http

/-- What the requests of all test cases have in common. -/
structure Client where
  baseUrl : Option String := none
  headers : Dict String := []
deriving DecidableEq, Repr

/-- The client that the settings ask for. -/
def Client.ofConfig (c : Config) : Client := { baseUrl := c.baseUrl, headers := c.headers }

/-- Why a test case yields no draft of a request. -/
inductive CaseError where
  | badBase (base : String) (cause : UrlError)
  | notJoined (base path : String) (cause : UrlError)
  | badMethod (method : String)
deriving DecidableEq, Repr

/-- Why a test case yields no draft, in words. -/
def CaseError.fault : CaseError → Fault
  | .badBase base cause => ⟨["Invalid base_url: " ++ base, cause.message]⟩
  | .notJoined base path cause =>
    ⟨["Failed to join base_url '" ++ base ++ "' with path '" ++ path ++ "'", cause.message]⟩
  | .badMethod method => ⟨["Invalid HTTP method: " ++ method, "invalid HTTP method"]⟩

/-- The letters beyond ASCII whose upper case is in ASCII. -/
def foreignUpper : List (Char × List Char) :=
  [('\u00df', ['S', 'S']), ('\u0131', ['I']), ('\u017f', ['S']), ('\ufb00', ['F', 'F']), ('\ufb01', ['F', 'I']),
    ('\ufb02', ['F', 'L']), ('\ufb03', ['F', 'F', 'I']), ('\ufb04', ['F', 'F', 'L']), ('\ufb05', ['S', 'T']),
    ('\ufb06', ['S', 'T'])]

/-- The name of a method in upper case; a letter whose upper case is not in ASCII stays, since no method has it. -/
def upperMethod (method : String) : String :=
  String.ofList ((Text.trim method.toList).flatMap fun c => (foreignUpper.lookup c).getD [c.toUpper])

/-- Some headers and one more, unless its name is there already, in whatever case. -/
def addHeader (headers : Dict String) (name value : String) : Dict String :=
  if headers.any fun (n, _) => Text.sameIgnoringCase name n then headers else headers.insert name value

/-- The headers of a test case with the common ones added, one after the other. -/
def withCommon (common own : Dict String) : Dict String :=
  common.foldl (fun headers (name, value) => addHeader headers name value) own

/-- Whether a text has the mark of an address with a scheme. -/
def isAbsolute (raw : String) : Bool := Text.contains raw "://"

namespace Client

/-- The address that a test case means: absolute as it is, any other one relative to the base if there is one. -/
def address (c : Client) (raw : String) : Except CaseError String :=
  if isAbsolute raw then .ok raw
  else match c.baseUrl with
    | none => .ok raw
    | some base => do
      let url ← (Url.ofText base).mapError (.badBase base)
      if raw.isEmpty then .ok url.text
      else
        let path := String.ofList (raw.toList.dropWhile (· == '/'))
        let joined ← (url.join path).mapError (.notJoined base raw)
        .ok joined.text

/-- The body of a test case, unless it is blank. -/
def bodyOf (t : TestCase) (vars : Members) : Option String :=
  (t.body.map (Reference.expand vars)).filter fun b => !Text.isBlankText b

/-- The header that tells of a body in JSON, unless the test case tells what its body is. -/
def contentType (headers : Dict String) (body : Option String) : List (String × String) :=
  if body.any (fun b => (Json.parse b).isSome) && !headers.any fun (n, _) => Text.sameIgnoringCase n "content-type" then
    [("Content-Type", "application/json")]
  else []

/-- The draft of the request of a test case. -/
def draft (c : Client) (t : TestCase) (vars : Members) : Except CaseError Draft := do
  let url ← c.address (Reference.expand vars t.url)
  let method := upperMethod t.method
  if !isToken method then .error (.badMethod t.method)
  else
    let headers := withCommon c.headers t.headers
    let body := bodyOf t vars
    .ok { method, url, headers := headers.mapValues (Reference.expand vars) ++ contentType headers body, body }

end Client
end TestScenario.Http
