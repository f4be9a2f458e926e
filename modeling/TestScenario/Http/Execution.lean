import TestScenario.Engine.Host
import TestScenario.Http.Client
import TestScenario.Http.Judgement

/-!
The execution of test cases: the setup script, the request and the judgement of its answer.
-/

namespace TestScenario.Http
variable {τ : Type}

/-- The result of a test case before anything is known but that it has not passed. -/
def unfinished (t : TestCase) : StepResult := { stepId := t.id, name := t.name, status := .fail }

/-- The result that a fault of the request leaves. -/
def requestFailed (r : StepResult) (cause : Fault) : StepResult :=
  { r with message := some "Request failed", detail := some cause.chain }

/-- The result and the variables once the answer is there. -/
def conclude (t : TestCase) (r : StepResult) (answer : Response) (vars : Members) : Members × StepResult :=
  let headers := answer.headerTable
  let r := { r with httpStatus := some answer.status, responseHeaders := headers }
  match answer.body with
  | .error cause => (vars, requestFailed r (cause.within "Failed to read response body"))
  | .ok body =>
    let judged := judge t answer.status headers body vars
    (judged.vars,
      { r with responseBody := some body, status := judged.status, message := some judged.message, detail := judged.detail })

/-- The request of a test case sent, and what its answer leads to. -/
def exchange (c : Client) (transport : Transport τ) (t : TestCase) (vars : Members) (s : τ) :
    (Members × StepResult) × τ :=
  let r := unfinished t
  match c.draft t vars with
  | .error e => ((vars, requestFailed r e.fault), s)
  | .ok d =>
    let r := { r with requestUrl := some d.url, requestMethod := some d.method, requestBody := d.body }
    match transport.deliver d s with
    | (.error cause, s) => ((vars, requestFailed r (cause.within "Failed to send request")), s)
    | (.ok answer, s) => (conclude t r answer vars, s)

/-- A test case executed; nothing is sent if its setup script fails. -/
def execute (c : Client) (transport : Transport τ) (t : TestCase) (vars : Members) (s : τ) : (Members × StepResult) × τ :=
  match nonBlank t.setupScript with
  | none => exchange c transport t vars s
  | some script =>
    let setup := Script.run script vars
    match setup.outcome with
    | .error e =>
      ((setup.vars,
        { unfinished t with
          message := some "Setup script error"
          detail := some ("Setup script error: " ++ e.message) }), s)
    | .ok _ => exchange c transport t setup.vars s

/-- The execution of test cases as a run asks for it. -/
def runCase (c : Client) (transport : Transport τ) (t : TestCase) (vars : Members) (s : τ) : CaseRun × τ :=
  let begun := transport.now s
  let ((vars, result), s) := execute c transport t vars s
  (⟨vars, .finished { result with durationMs := transport.now s - begun }⟩, s)

end TestScenario.Http
