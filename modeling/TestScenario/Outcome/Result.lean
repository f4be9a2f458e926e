import TestScenario.Document.Source
import TestScenario.Text.Blank

/-!
The results of steps.
-/

namespace TestScenario
open Document Document.Source

/-- How a step ended. -/
inductive StepStatus where
  | pass
  | fail
  | skipped
deriving DecidableEq, Repr

namespace StepStatus

/-- The word for a status. -/
def name : StepStatus → String
  | .pass => "PASS"
  | .fail => "FAIL"
  | .skipped => "SKIPPED"

/-- The status that a word stands for. -/
def ofName? (s : String) : Option StepStatus := [pass, fail, skipped].find? (·.name == s)

end StepStatus

/-- The result of a test case or a script. -/
structure StepResult where
  stepId : Int
  name : String
  status : StepStatus
  message : Option String := none
  detail : Option String := none
  httpStatus : Option Nat := none
  responseBody : Option String := none
  responseHeaders : Dict String := []
  requestUrl : Option String := none
  requestMethod : Option String := none
  requestBody : Option String := none
  durationMs : Nat := 0
deriving DecidableEq, Repr

namespace StepResult

/-- A result with a message. -/
def withMessage (stepId : Int) (name : String) (status : StepStatus) (message : String) : StepResult :=
  { stepId, name, status, message := some message }

/-- The response header of a name: one that is spelled the same, or else one that differs in case only. -/
def header? (r : StepResult) (name : String) : Option String :=
  r.responseHeaders.get? name
    <|> (r.responseHeaders.find? fun (n, _) => Text.sameIgnoringCase n name).map (·.2)

/-- A result from a document. -/
def read (s : Source) : Option StepResult := do
  match ← s.fields [["step_id"], ["name"], ["status"], ["message"], ["detail"], ["http_status_code"], ["response_body"],
    ["response_headers"], ["request_url"], ["request_method"], ["request_body"], ["duration_ms"]] with
  | [stepId, name, status, message, detail, httpStatus, responseBody, responseHeaders, requestUrl, requestMethod,
      requestBody, durationMs] =>
    some {
      stepId := ← required int64 stepId
      name := ← required string name
      status := ← required (word StepStatus.ofName?) status
      message := ← maybe string message
      detail := ← maybe string detail
      httpStatus := ← maybe (natBelow Decimal.uint16Size) httpStatus
      responseBody := ← maybe string responseBody
      responseHeaders := ← withDefault [] (dict string) responseHeaders
      requestUrl := ← maybe string requestUrl
      requestMethod := ← maybe string requestMethod
      requestBody := ← maybe string requestBody
      durationMs := ← withDefault 0 nat64 durationMs }
  | _ => none

/-- The result as JSON. -/
def toJson (r : StepResult) : Json :=
  .object [("step_id", .ofInt r.stepId), ("name", .str r.name), ("status", .str r.status.name),
    ("message", Json.ofOption .str r.message), ("detail", Json.ofOption .str r.detail),
    ("http_status_code", Json.ofOption .ofNat r.httpStatus), ("response_body", Json.ofOption .str r.responseBody),
    ("response_headers", .obj (r.responseHeaders.mapValues .str)), ("request_url", Json.ofOption .str r.requestUrl),
    ("request_method", Json.ofOption .str r.requestMethod), ("request_body", Json.ofOption .str r.requestBody),
    ("duration_ms", .ofNat r.durationMs)]

end StepResult
end TestScenario
