import TestScenario.Json.Reader
import TestScenario.Outcome.Result
import TestScenario.Scenario.Case
import TestScenario.Script.Run

/-!
Whether the answer to the request of a test case is as it should be.

Without an assertion script the status decides. A script finds the answer as the variable `response`, which is gone
afterwards; what else it assigns is taken over.
-/

namespace TestScenario.Http

/-- A script, unless it is blank. -/
def nonBlank (script : Option String) : Option String := script.filter fun s => !Text.isBlankText s

/-- The variable with the answer. -/
def responseName : String := "response"

/-- The answer as scripts see it; a body that is not JSON is text. -/
def responseValue (status : Nat) (headers : Dict String) (body : String) : Json :=
  .object [("status", .ofNat status), ("headers", .obj (headers.mapValues .str)),
    ("body", (Json.parse body).getD (.str body))]

/-- The variables after a script, with those taken over that differ from before. -/
def takeOver (before after : Members) : Members :=
  before.update (after.filter fun (n, v) => n != responseName && !(before.get? n).any (Json.same v))

/-- How an answer is judged, and the variables afterwards. -/
structure Judgement where
  vars : Members
  status : StepStatus
  message : String
  detail : Option String := none

/-- The judgement of a status. -/
def judgeStatus (status : Nat) (vars : Members) : Judgement :=
  if 200 ≤ status && status < 400 then ⟨vars, .pass, "HTTP " ++ toString status, none⟩
  else ⟨vars, .fail, "Unexpected status " ++ toString status, none⟩

/-- The judgement of an assertion script. -/
def judgeScript (script : String) (response : Json) (vars : Members) : Judgement :=
  let ran := Script.check script (vars.insert responseName response)
  let vars := takeOver vars ran.vars
  match ran.outcome with
  | .ok none => ⟨vars, .pass, "Assertions passed", none⟩
  | .ok (some statement) => ⟨vars, .fail, "Assertion failed", some ("Assertion failed: " ++ statement)⟩
  | .error e => ⟨vars, .fail, "Assertion script error", some ("Assertion script error: " ++ e.message)⟩

/-- The judgement of an answer. -/
def judge (t : TestCase) (status : Nat) (headers : Dict String) (body : String) (vars : Members) : Judgement :=
  match nonBlank t.assertionScript with
  | none => judgeStatus status vars
  | some script => judgeScript script (responseValue status headers body) vars

end TestScenario.Http
