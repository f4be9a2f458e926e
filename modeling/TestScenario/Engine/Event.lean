import TestScenario.Outcome.Record

/-!
What an observer of a run is told.
-/

namespace TestScenario

/-- What happens in a run. -/
inductive Happening where
  | scenarioStarted (id : Int) (name : String)
  | stepStarted (id : Int) (name : String)
  /-- A step has ended; waits have no result. -/
  | stepCompleted (id : Int) (name : String) (status : StepStatus) (result : Option StepResult)
  | scenarioCompleted (id : Int) (status : RunStatus)
deriving DecidableEq, Repr

/-- What happens in a run, with the visible variables and the time in milliseconds. -/
structure Event where
  happening : Happening
  vars : Members
  time : Nat

namespace Happening

/-- The word for the kind of a happening. -/
def kindName : Happening → String
  | .scenarioStarted .. => "scenario_start"
  | .stepStarted .. => "step_start"
  | .stepCompleted .. => "step_complete"
  | .scenarioCompleted .. => "scenario_complete"

/-- The scenario that starts or has ended. -/
def scenario? : Happening → Option Int
  | .scenarioStarted id _ => some id
  | .scenarioCompleted id _ => some id
  | _ => none

/-- The step that starts or has ended. -/
def step? : Happening → Option Int
  | .stepStarted id _ => some id
  | .stepCompleted id .. => some id
  | _ => none

/-- The name of what starts or has ended; a scenario that has ended goes without. -/
def name? : Happening → Option String
  | .scenarioStarted _ name => some name
  | .stepStarted _ name => some name
  | .stepCompleted _ name .. => some name
  | .scenarioCompleted .. => none

/-- The word for the status; a scenario that starts has none. -/
def status? : Happening → Option String
  | .scenarioStarted .. => none
  | .stepStarted .. => some RunStatus.running.name
  | .stepCompleted _ _ status _ => some status.name
  | .scenarioCompleted _ status => some status.name

/-- The result of a step that has ended. -/
def result? : Happening → Option StepResult
  | .stepCompleted _ _ _ result => result
  | _ => none

end Happening

/-- The event as JSON. -/
def Event.toJson (e : Event) : Json :=
  .object [("type", .str e.happening.kindName), ("scenario_id", Json.ofOption .ofInt e.happening.scenario?),
    ("step_id", Json.ofOption .ofInt e.happening.step?), ("step_name", Json.ofOption .str e.happening.name?),
    ("status", Json.ofOption .str e.happening.status?), ("result", Json.ofOption StepResult.toJson e.happening.result?),
    ("variables", .obj e.vars), ("timestamp", .ofNat e.time)]

end TestScenario
