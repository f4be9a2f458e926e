import TestScenario.Scenario.Overrides
import TestScenario.Scenario.Row
import TestScenario.Scenario.Settings

/-!
Steps with the steps they hold.
-/

namespace TestScenario
open Document Document.Source

/-- A step and the steps inside it. -/
structure Step where
  row : StepRow
  children : List Step := []

namespace Step

/-- The name of a step, or `fallback` if it is blank. -/
def nameOr (s : Step) (fallback : String) : String := if Text.isBlankText s.row.name then fallback else s.row.name

/-- The settings of a condition. -/
def conditionSettings (s : Step) : ConditionSettings := ofStored ConditionSettings.read {} s.row.control

/-- The settings of a loop. -/
def loopSettings (s : Step) : LoopSettings := ofStored LoopSettings.read {} s.row.control

/-- The settings of a wait. -/
def waitSettings (s : Step) : WaitSettings := ofStored WaitSettings.read {} s.row.control

/-- The settings of a script step. -/
def scriptSettings (s : Step) : ScriptSettings := ofStored ScriptSettings.read {} s.row.control

/-- What the step changes in its test case. -/
def overrides (s : Step) : Overrides := ofStored Overrides.read {} s.row.overrides

/-- Whether a value switches a step off: false, zero, a text other than "true", a list or an object. -/
def switchesOff : Json → Bool
  | .null => false
  | .bool b => !b
  | .num (.int n) => n == 0
  | .num (.float x) => x == 0.0
  | .str s => !Text.sameIgnoringCase (Text.trimmed s) "true"
  | .arr _ => true
  | .obj _ => true

/-- Whether the step is switched off. -/
def isDisabled (s : Step) : Bool := s.overrides.enabled.any switchesOff

/-- How many items an array has when every field of a step is written. -/
def arity : Nat := StepRow.fieldNames.length + 1

mutual
/-- A step from JSON: the fields of its row, and its children in one more field. -/
def read : Json → Option Step
  | .obj members => do
    let row ← StepRow.read (.json (.obj members))
    let children ← readMembers members
    some { row, children := children.getD [] }
  | .arr items => do
    if items.length > arity then none
    else
      let row ← StepRow.read (.json (.arr (items.take StepRow.fieldNames.length)))
      let children ← readTail StepRow.fieldNames.length items
      some { row, children := children.getD [] }
  | _ => none
/-- The children among the members of an object, if they are there; `none` if they are written twice. -/
def readMembers : List (String × Json) → Option (Option (List Step))
  | [] => some none
  | (name, v) :: rest =>
    if name == "children" then
      if rest.any (·.1 == "children") then none else (readList v).map some
    else readMembers rest
/-- The children after a number of other items, if they are there. -/
def readTail : (before : Nat) → List Json → Option (Option (List Step))
  | _, [] => some none
  | 0, v :: _ => (readList v).map some
  | before + 1, _ :: rest => readTail before rest
/-- A list of steps. -/
def readList : Json → Option (List Step)
  | .arr items => readAll items
  | _ => none
/-- Steps one by one. -/
def readAll : List Json → Option (List Step)
  | [] => some []
  | v :: rest => do
    let step ← read v
    let steps ← readAll rest
    some (step :: steps)
end

mutual
/-- The step as JSON. -/
def toJson : Step → Json
  | ⟨row, children⟩ => .object (row.members ++ [("children", .arr (allToJson children))])
/-- `toJson` for each step. -/
def allToJson : List Step → List Json
  | [] => []
  | s :: rest => toJson s :: allToJson rest
end

end Step
end TestScenario
