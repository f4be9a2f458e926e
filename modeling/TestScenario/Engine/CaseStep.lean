import TestScenario.Engine.Stage
import TestScenario.Run.Checks
import TestScenario.Run.Extraction
import TestScenario.Run.Reference
import TestScenario.Scenario.Effective

/-!
Steps that call a test case.
-/

namespace TestScenario

/-- The case with references to steps replaced; references to variables stay for the time after the setup script. -/
def Context.resolveCase (c : Context) (t : TestCase) : TestCase :=
  { t with
    url := Reference.resolveSteps c t.url
    headers := t.headers.mapValues (Reference.resolveSteps c)
    body := t.body.map (Reference.resolveSteps c) }

namespace Scopes

/-- Those variables of a table that are not visible yet, added to the innermost scope. -/
def addMissing (vars : Members) (s : Scopes) : Scopes :=
  vars.foldl (fun s (n, v) => if s.contains n then s else s.setLocal n v) s

/-- Those variables of a table that differ from an earlier one or are not visible, set in the innermost scope. -/
def setChanged (before vars : Members) (s : Scopes) : Scopes :=
  vars.foldl (fun s (n, v) =>
    if (before.get? n).any (Json.same v) && s.contains n then s else s.setLocal n v) s

end Scopes

/-- The result of an executed case, before its checks. -/
def CaseOutcome.result (stepId : Int) (name : String) (durationMs : Nat) : CaseOutcome → StepResult
  | .finished r => { r with stepId, name }
  | .failed cause =>
    { StepResult.withMessage stepId name .fail ("Execution Error: " ++ cause.chain) with durationMs }
  | .cancelled => StepResult.withMessage stepId name .skipped "Cancelled"

@[simp] theorem CaseOutcome.result_stepId (outcome : CaseOutcome) (stepId : Int) (name : String) (durationMs : Nat) :
    (outcome.result stepId name durationMs).stepId = stepId := by
  cases outcome with
  | finished | failed | cancelled => rfl

@[simp] theorem CaseOutcome.result_name (outcome : CaseOutcome) (stepId : Int) (name : String) (durationMs : Nat) :
    (outcome.result stepId name durationMs).name = name := by
  cases outcome with
  | finished | failed | cancelled => rfl

namespace Engine
variable {σ η : Type} (e : Engine σ η)

/-- Execute a case for a step: prepare it, check and record its result, and take over variables. -/
def runCase (step : Step) (t : TestCase) : Act σ η (List StepResult) := do
  let name := step.nameOr t.name
  Act.modifyContext (·.registerStep step.row.id name)
  let overrides := step.overrides
  let before := overrides.variablesFor (← Act.context).scopes.flatten
  Act.modifyScopes (·.addMissing before)
  let context ← Act.context
  let begun ← e.now
  let ran ← Act.ask (e.host.runCase (context.resolveCase (overrides.apply t)) before context.history)
  let result := ran.outcome.result step.row.id name ((← e.now) - begun)
  let result := if result.status == .skipped then result
    else Check.applyAll result overrides.checks (Reference.resolve context)
  let results ← e.record step result
  Act.modifyScopes (·.setChanged before ran.vars)
  Act.modifyScopes fun s => overrides.extract.foldl (fun s rule =>
    match rule.extract result with
    | some v => s.setLocal rule.varName v
    | none => s) s
  pure results

/-- A step that calls a test case. -/
def caseStep (step : Step) : Act σ η (List StepResult) := do
  let failed := e.recordFailure step (step.nameOr "Case")
  match step.row.caseId with
  | none => failed "No referenced test case configured"
  | some id =>
    match ← Act.ask (e.host.testCase id) with
    | .error cause => failed ("Execution Error: " ++ cause.chain)
    | .ok none => failed ("Test case not found: " ++ toString id)
    | .ok (some t) => e.runCase step t

end Engine
end TestScenario
