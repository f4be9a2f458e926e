import TestScenario.Engine.CaseStep
import TestScenario.Engine.Error
import TestScenario.Engine.Steps

/-!
Steps of all kinds, and the scenarios made of them.

The settings allow only so many scenarios inside each other, and no scenario runs inside itself. That is why every run
ends, also among scenarios that lead back to each other.
-/

namespace TestScenario

/-- How a run of a scenario ends. -/
abbrev Ending := Except RunError (List StepResult)

namespace Engine
variable {σ η : Type} (e : Engine σ η)

/-- The message of a step that leads back to a scenario that is being executed. -/
def circularMessage : String := "Circular reference detected: scenario references itself directly or indirectly"

/-- What a step makes of the end of another scenario: its results and, in the scope around, its variables, or else a
    failure of its own. -/
def takeOver (step : Step) (name : String) : Ending → Act σ η (List StepResult)
  | .ok results => do
    Act.modifyScopes (·.mergeUp none)
    pure results
  | .error problem => e.recordFailure step name ("Execution Error: " ++ problem.message)

/-- A step that runs another scenario in a scope of its own. -/
def scenarioStep (nested : Int → Act σ η Ending) (step : Step) : Act σ η (List StepResult) := do
  let name := step.nameOr "Nested Scenario"
  match step.row.scenarioId with
  | none => e.recordFailure step name "No referenced scenario configured"
  | some id =>
    if (← Act.context).isExecuting id then e.recordFailure step name circularMessage
    else
      Act.modifyContext (·.registerStep step.row.id name)
      Act.modifyScopes Scopes.push
      let results ← e.takeOver step name (← nested id)
      Act.modifyScopes Scopes.dropTop
      pure results

/-- A step of a kind that the engine can run; `body` runs the steps inside it. -/
def invoke (nested : Int → Act σ η Ending) (step : Step) (body : Act σ η (List StepResult)) : Act σ η (List StepResult) :=
  if e.kinds.contains step.row.kind then
    match step.row.kind with
    | .testCase => e.caseStep step
    | .group => body
    | .condition => e.conditionStep step body
    | .loop => e.loopStep step body
    | .wait => e.waitStep step
    | .script => e.scriptStep step
    | .scenario => e.scenarioStep nested step
  else pure []

/-- What becomes of a step in a cancelled run: test cases and scripts are recorded as skipped, groups still run the
    steps inside them, and nothing else happens. -/
def passOver (nested : Int → Act σ η Ending) (step : Step) (body : Act σ η (List StepResult)) :
    Act σ η (List StepResult) :=
  if step.row.kind.isLeaf then
    e.record step (StepResult.withMessage step.row.id (step.nameOr step.row.kind.name) .skipped "Cancelled")
  else if step.row.kind == .group then e.invoke nested step body
  else pure []

/-- A step that is switched on, in a run that has been cancelled or not. -/
def proceed (nested : Int → Act σ η Ending) (step : Step) (body : Act σ η (List StepResult)) (cancelled : Bool) :
    Act σ η (List StepResult) :=
  if cancelled then e.passOver nested step body else e.invoke nested step body

/-- A step of any kind, unless it is switched off. -/
def perform (nested : Int → Act σ η Ending) (step : Step) (body : Act σ η (List StepResult)) :
    Act σ η (List StepResult) := do
  if step.isDisabled then pure []
  else
    e.emit (.stepStarted step.row.id step.row.name)
    let results ← e.proceed nested step body (← e.isCancelled)
    e.log step results
    pure results

mutual
/-- A step with the steps inside it; `nested` runs other scenarios. -/
def dispatch (nested : Int → Act σ η Ending) : Step → Act σ η (List StepResult)
  | ⟨row, children⟩ => e.perform nested ⟨row, children⟩ (dispatchAll nested children)
/-- Steps one after the other. -/
def dispatchAll (nested : Int → Act σ η Ending) : List Step → Act σ η (List StepResult)
  | [] => pure []
  | step :: rest => do
    let first ← dispatch nested step
    let later ← dispatchAll nested rest
    pure (first ++ later)
end

/-- The variables that a scenario inherits, made global. -/
def loadVariables (s : Scenario) : Act σ η (Except RunError Unit) := do
  match e.host.vars with
  | none => pure (.ok ())
  | some supply =>
    match ← Act.ask (supply s.projectId s.moduleId (← Act.context).envKey) with
    | .error cause => pure (.error (.vars s.id cause))
    | .ok vars =>
      Act.modifyScopes fun scopes => vars.foldl (fun scopes (n, v) => scopes.setGlobal n v) scopes
      pure (.ok ())

/-- A new record of a run, kept if there is a place for it. -/
def openRecord (s : Scenario) : Act σ η RunRecord := do
  let record := RunRecord.start s (← Act.context).envKey (Int.ofNat (← e.now))
  match e.sink with
  | none => pure record
  | some sink =>
    match ← Act.keep (sink.create record) with
    | .error _ => pure record
    | .ok id =>
      Act.modifyContext ({ · with recordId := some id })
      pure { record with id := some id }

/-- The record in its last state, kept if it has been kept before. -/
def closeRecord (record : RunRecord) : Act σ η Unit := do
  match e.sink, record.id with
  | some sink, some _ =>
    let _ ← Act.keep (sink.update record)
    pure ()
  | _, _ => pure ()

/-- The steps of a scenario, with its record if it has one. -/
def runSteps (s : Scenario) (record : Option RunRecord) (walk : List Step → Act σ η (List StepResult)) :
    Act σ η Ending := do
  match ← Act.ask (e.host.steps s.id) with
  | .error cause =>
    let time ← e.now
    record.forM fun r => e.closeRecord (r.abort (Int.ofNat time))
    pure (.error (.steps s.id cause))
  | .ok steps =>
    let begun ← e.now
    let results ← walk steps
    let ended ← e.now
    let cancelled ← e.isCancelled
    record.forM fun r => e.closeRecord (r.finish results (ended - begun) cancelled (Int.ofNat ended))
    e.emit (.scenarioCompleted s.id (RunStatus.after results cancelled))
    pure (.ok results)

/-- A scenario that has been entered. The outermost one brings its variables and has a record. -/
def runEntered (outermost : Bool) (s : Scenario) (walk : List Step → Act σ η (List StepResult)) : Act σ η Ending := do
  if outermost then
    match ← e.loadVariables s with
    | .error problem => pure (.error problem)
    | .ok () =>
      e.emit (.scenarioStarted s.id s.name)
      let record ← e.openRecord s
      e.runSteps s (some record) walk
  else
    e.emit (.scenarioStarted s.id s.name)
    e.runSteps s none walk

/-- A scenario that is loaded, entered and left again. -/
def enter (outermost : Bool) (id : Int) (walk : List Step → Act σ η (List StepResult)) : Act σ η Ending := do
  match ← Act.ask (e.host.scenario id) with
  | .error cause => pure (.error (.steps id cause))
  | .ok none => pure (.error (.unknownScenario id))
  | .ok (some s) =>
    Act.modifyContext fun c => { c with executing := c.executing ++ [id] }
    let outcome ← e.runEntered outermost s walk
    Act.modifyContext (·.exit id)
    pure outcome

/-- A scenario that is run, unless it is being executed already or too many are; `nested` runs the scenarios inside
    it. -/
def attempt (nested : Int → Act σ η Ending) (outermost : Bool) (id : Int) : Act σ η Ending := do
  let context ← Act.context
  if context.isExecuting id then pure (.error (.circular id))
  else if context.nestingDepth ≥ e.config.maxNesting then pure (.error (.tooDeep id e.config.maxNesting))
  else e.enter outermost id (e.dispatchAll nested)

/-- Scenarios inside each other down to a number of levels; `beyond` stands for whatever would run below the last
    one. -/
def inside (beyond : Int → Act σ η Ending) : (levels : Nat) → Int → Act σ η Ending
  | 0, id => beyond id
  | levels + 1, id => e.attempt (inside beyond levels) false id

/-- A scenario inside others. The settings stop it before the levels are used up. -/
def nested : Int → Act σ η Ending :=
  e.inside (fun id => pure (.error (.tooDeep id e.config.maxNesting))) (e.config.maxNesting + 1)

/-- A scenario inside a run that is going on, whose context it shares; it has no record of its own. -/
def executeNested (id : Int) (envKey : String) : Act σ η Ending := do
  Act.modifyContext ({ · with envKey })
  e.nested id

/-- Let the run be cancelled once it has taken as long as the settings allow; the answer tells whether the clock
    reaches that far. -/
def limitTime : Act σ η Bool :=
  match e.config.runTimeoutMs with
  | none => pure true
  | some ms => Act.ask fun host =>
    match e.host.limit ms host with
    | some limited => (true, limited)
    | none => (false, host)

/-- A run of a scenario with a context of its own; `nested` runs the scenarios inside it. -/
def executeWith (nested : Int → Act σ η Ending) (id : Int) (envKey : String) : Act σ η Ending := do
  Act.modifyContext fun _ => { envKey }
  if ← e.limitTime then e.attempt nested true id else pure (.error .beyondClock)

/-- A run of a scenario, with a context of its own. -/
def execute : Int → String → Act σ η Ending := e.executeWith e.nested

end Engine
end TestScenario
