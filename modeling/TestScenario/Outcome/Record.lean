import TestScenario.Calendar.Instant
import TestScenario.Json.Writer
import TestScenario.Outcome.Result
import TestScenario.Scenario.Definition

/-!
What is kept about a run: one record for the run, and one log for each result. Times are in milliseconds since
1970-01-01T00:00:00Z.
-/

namespace TestScenario

/-- How far a run has come. -/
inductive RunStatus where
  | running
  | pass
  | fail
deriving DecidableEq, Repr

/-- The word for a status. -/
def RunStatus.name : RunStatus → String
  | .running => "RUNNING"
  | .pass => "PASS"
  | .fail => "FAIL"

/-- The status of a run that has ended with some results: it has failed if `forceFail`, or if a result has. -/
def RunStatus.after (results : List StepResult) (forceFail : Bool) : RunStatus :=
  if forceFail || results.any (·.status == .fail) then .fail else .pass

/-- A time as JSON. -/
def timeJson (ms : Int) : Json := .str (Calendar.Instant.ofMillis ms).utcText

/-- The record of a run. -/
structure RunRecord where
  id : Option Int := none
  scenarioId : Int
  scenarioName : String
  envKey : String
  status : RunStatus := .running
  totalSteps : Nat := 0
  passedSteps : Nat := 0
  failedSteps : Nat := 0
  durationMs : Option Nat := none
  startedAt : Int := 0
  completedAt : Option Int := none
deriving DecidableEq, Repr

namespace RunRecord

/-- The record of a run that begins at a time. -/
def start (s : Scenario) (envKey : String) (time : Int) : RunRecord :=
  { scenarioId := s.id, scenarioName := s.name, envKey, startedAt := time }

/-- The record of a run that has ended with some results. -/
def finish (r : RunRecord) (results : List StepResult) (durationMs : Nat) (forceFail : Bool) (time : Int) : RunRecord :=
  { r with
    totalSteps := results.length
    passedSteps := results.countP (·.status == .pass)
    failedSteps := results.countP (·.status == .fail)
    durationMs := some durationMs
    completedAt := some time
    status := RunStatus.after results forceFail }

/-- The record of a run that could not begin. -/
def abort (r : RunRecord) (time : Int) : RunRecord := { r with status := .fail, completedAt := some time }

/-- The record as JSON. -/
def toJson (r : RunRecord) : Json :=
  .object [("id", Json.ofOption .ofInt r.id), ("scenario_id", .ofInt r.scenarioId), ("scenario_name", .str r.scenarioName),
    ("env_key", .str r.envKey), ("status", .str r.status.name), ("total_steps", .ofNat r.totalSteps),
    ("passed_steps", .ofNat r.passedSteps), ("failed_steps", .ofNat r.failedSteps),
    ("duration_ms", Json.ofOption .ofNat r.durationMs), ("started_at", timeJson r.startedAt),
    ("completed_at", Json.ofOption timeJson r.completedAt)]

end RunRecord

/-- The log of a step. -/
structure StepLog where
  recordId : Int
  stepId : Int
  stepName : String
  kind : StepKind
  status : StepStatus
  requestUrl : Option String
  requestMethod : Option String
  requestBody : Option String
  responseCode : Option Nat
  responseHeaders : Option (Dict String)
  responseBody : Option String
  durationMs : Nat
  errorMessage : Option String
  executedAt : Int := 0
deriving DecidableEq, Repr

namespace StepLog

/-- The log of a result: its explanation is the detail, or else the message if it has failed. -/
def ofResult (recordId : Int) (step : Step) (r : StepResult) (time : Int) : StepLog :=
  { recordId
    stepId := step.row.id
    stepName := r.name
    kind := step.row.kind
    status := r.status
    requestUrl := r.requestUrl
    requestMethod := r.requestMethod
    requestBody := r.requestBody
    responseCode := r.httpStatus
    responseHeaders := if r.responseHeaders.isEmpty then none else some r.responseHeaders
    responseBody := r.responseBody
    durationMs := r.durationMs
    errorMessage := r.detail <|> (if r.status == .fail then r.message else none)
    executedAt := time }

/-- The log as JSON, where the headers are the text of an object. -/
def toJson (l : StepLog) : Json :=
  .object [("record_id", .ofInt l.recordId), ("step_id", .ofInt l.stepId), ("step_name", .str l.stepName),
    ("step_kind", .str l.kind.name), ("status", .str l.status.name), ("request_url", Json.ofOption .str l.requestUrl),
    ("request_method", Json.ofOption .str l.requestMethod), ("request_body", Json.ofOption .str l.requestBody),
    ("response_code", Json.ofOption .ofNat l.responseCode),
    ("response_headers", Json.ofOption (fun h => .str (Json.compact (.obj (Dict.mapValues .str h)))) l.responseHeaders),
    ("response_body", Json.ofOption .str l.responseBody), ("duration_ms", .ofNat l.durationMs),
    ("error_message", Json.ofOption .str l.errorMessage), ("executed_at", timeJson l.executedAt)]

end StepLog
end TestScenario
