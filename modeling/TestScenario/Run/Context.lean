import TestScenario.Outcome.Result
import TestScenario.Run.Scopes
import TestScenario.Run.StepIndex

/-!
The state of a run: its variables, the results so far, and the scenarios that are being executed.
-/

namespace TestScenario

/-- The state of a run. -/
structure Context where
  scopes : Scopes := {}
  steps : StepIndex := {}
  history : Table Int StepResult := []
  /-- The scenarios being executed, outermost first. -/
  executing : List Int := []
  envKey : String := ""
  recordId : Option Int := none

namespace Context

/-- A step registered under a name. -/
def registerStep (c : Context) (id : Int) (name : String) : Context := { c with steps := c.steps.register id name }

/-- A result recorded for a step. -/
def recordResult (c : Context) (id : Int) (r : StepResult) : Context := { c with history := c.history.put id r }

/-- The result of a step. -/
def resultFor (c : Context) (id : Int) : Option StepResult := c.history.get? id

/-- The result of the step that has a name. -/
def resultByName (c : Context) (name : String) : Option StepResult := (c.steps.id? name).bind c.resultFor

/-- Whether a scenario is being executed. -/
def isExecuting (c : Context) (id : Int) : Bool := c.executing.contains id

/-- A scenario entered, unless it is being executed already. -/
def enter? (c : Context) (id : Int) : Option Context :=
  if c.isExecuting id then none else some { c with executing := c.executing ++ [id] }

/-- The list without the last occurrence of an item. -/
def eraseLast (ids : List Int) (id : Int) : List Int := (ids.reverse.erase id).reverse

@[simp] theorem eraseLast_append (ids : List Int) (id : Int) : eraseLast (ids ++ [id]) id = ids := by
  simp [eraseLast]

theorem eraseLast_sublist (ids : List Int) (id : Int) : (eraseLast ids id).Sublist ids := by
  have erased := (List.erase_sublist (l := ids.reverse) (a := id)).reverse
  rwa [List.reverse_reverse] at erased

/-- A scenario left. -/
def exit (c : Context) (id : Int) : Context := { c with executing := eraseLast c.executing id }

/-- How many scenarios are being executed. -/
def nestingDepth (c : Context) : Nat := c.executing.length

/-- The scopes changed. -/
def mapScopes (c : Context) (f : Scopes → Scopes) : Context := { c with scopes := f c.scopes }

end Context
end TestScenario
