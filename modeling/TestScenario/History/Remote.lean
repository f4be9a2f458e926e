import TestScenario.Document.Source
import TestScenario.History.Sink
import TestScenario.Http.Draft
import TestScenario.Http.Status
import TestScenario.Json.Reader

/-!
Runs kept by a service on the network.

A failure of the network or of the server is tried again after a pause, and each pause is twice as long as the one
before; any other answer without success is final.
-/

namespace TestScenario
open Document Document.Source

/-- A service that keeps runs. -/
structure RemoteHistory where
  apiUrl : String
  apiKey : String
  /-- How often a call is tried again. -/
  maxRetries : Nat := 3
deriving DecidableEq, Repr

/-- What came of an attempt to call the service. -/
inductive Attempt where
  | accepted (answer : Http.Response)
  /-- An answer that trying again would not change. -/
  | rejected (cause : Fault)
  | failed (cause : Fault)

namespace Attempt

/-- Whether trying again might help. -/
def isFailure : Attempt → Bool
  | .failed _ => true
  | _ => false

/-- What a call comes to that ends with an attempt, when so many have been made. -/
def ending (made : Nat) : Attempt → Except Fault Http.Response
  | .accepted answer => .ok answer
  | .rejected cause => .error cause
  | .failed cause => .error (cause.within ("giving up after " ++ toString made ++ " attempt(s)"))

end Attempt

namespace RemoteHistory
variable {τ : Type}

/-- The body of an answer, or nothing if it could not be received. -/
def bodyText (answer : Http.Response) : String := answer.body.toOption.getD ""

/-- What came of sending a draft. -/
def attemptOf (d : Http.Draft) : Except Fault Http.Response → Attempt
  | .error cause => .failed (cause.within (d.method ++ " " ++ d.url ++ " failed"))
  | .ok answer =>
    let told (verb : String) : Fault :=
      .because (d.method ++ " " ++ d.url ++ " " ++ verb ++ " " ++ Http.statusText answer.status ++ ": " ++ bodyText answer)
    if Http.isSuccess answer.status then .accepted answer
    else if Http.isServerFailure answer.status then .failed (told "returned")
    else .rejected (told "rejected with")

/-- How long to wait after some failed attempts before the next one, in milliseconds: a word of 64 bits. -/
def pauseMs (failed : Nat) : Nat := 500 * Decimal.pow2 failed % Decimal.uint64Size

/-- One attempt to send a draft. -/
def attempt (t : Http.Transport τ) (d : Http.Draft) (s : τ) : Attempt × τ :=
  let (answer, s) := t.deliver d s
  (attemptOf d answer, s)

/-- Attempts to send a draft, of which `failed` have been made and `left` may follow the next one. -/
def attempts (t : Http.Transport τ) (d : Http.Draft) (failed : Nat) : (left : Nat) → τ → Except Fault Http.Response × τ
  | 0, s =>
    let (a, s) := attempt t d s
    (a.ending (failed + 1), s)
  | left + 1, s =>
    let (a, s) := attempt t d s
    if a.isFailure then attempts t d (failed + 1) left (t.pause (pauseMs failed) s)
    else (a.ending (failed + 1), s)

/-- The address of a resource of the service. -/
def endpoint (h : RemoteHistory) (path : String) : String :=
  String.ofList ((h.apiUrl.toList.reverse.dropWhile (· == '/')).reverse) ++ "/v1/" ++ path

/-- A call of the service. -/
def call (h : RemoteHistory) (method path : String) (body : Json) : Http.Draft :=
  { method
    url := h.endpoint path
    headers := [("Authorization", "Bearer " ++ h.apiKey), ("Content-Type", "application/json")]
    body := some body.compact }

/-- Call the service. -/
def send (h : RemoteHistory) (t : Http.Transport τ) (method path : String) (body : Json) (s : τ) :
    Except Fault Http.Response × τ :=
  attempts t (h.call method path body) 0 h.maxRetries s

/-- The id that the service gave to a new record. -/
def createdId (answer : Http.Response) : Except Fault Int := do
  let unread (cause : Fault) : Fault := cause.within "failed to parse create-record response"
  let body ← answer.body.mapError unread
  match (Json.Raw.read body).bind fun r =>
    (fields (.raw r Json.maxDepth) [["id"]]).bind fun fs => fs.head?.bind (required int64) with
  | some id => .ok id
  | none => .error (unread (.because "error decoding response body"))

/-- A new record. -/
def create (h : RemoteHistory) (t : Http.Transport τ) (r : RunRecord) (s : τ) : Except Fault Int × τ :=
  let (answer, s) := h.send t "POST" "executions" r.toJson s
  (answer.bind createdId, s)

/-- A record in its new state. -/
def update (h : RemoteHistory) (t : Http.Transport τ) (r : RunRecord) (s : τ) : Except Fault Unit × τ :=
  match r.id with
  | none => (.error .noRecordId, s)
  | some id =>
    let (answer, s) := h.send t "PUT" ("executions/" ++ toString id) r.toJson s
    (answer.map fun _ => (), s)

/-- A log. -/
def append (h : RemoteHistory) (t : Http.Transport τ) (l : StepLog) (s : τ) : Except Fault Unit × τ :=
  let (answer, s) := h.send t "POST" ("executions/" ++ toString l.recordId ++ "/steps") l.toJson s
  (answer.map fun _ => (), s)

/-- The service as a place to keep runs. -/
def sink (h : RemoteHistory) (t : Http.Transport τ) : Sink τ := ⟨h.create t, h.update t, h.append t⟩

end RemoteHistory
end TestScenario
