import TestScenario.Scenario.Forest

/-!
Scenarios as they are stored: a name and a table of steps.
-/

namespace TestScenario
open Document Document.Source

/-- A scenario. -/
structure Scenario where
  id : Int
  name : String
  description : Option String := none
  projectId : Option Int := none
  moduleId : Option Int := none
  rows : List StepRow := []

namespace Scenario

/-- The steps as a forest. -/
def steps (s : Scenario) : List Step := Forest.ofRows s.rows

/-- A scenario from a document. -/
def read (s : Source) : Option Scenario := do
  match ← s.fields [["id"], ["name"], ["description"], ["project_id"], ["module_id"], ["steps"]] with
  | [id, name, description, projectId, moduleId, steps] =>
    some {
      id := ← required int64 id
      name := ← required string name
      description := ← maybe string description
      projectId := ← maybe int64 projectId
      moduleId := ← maybe int64 moduleId
      rows := ← withDefault [] (list StepRow.read) steps }
  | _ => none

/-- The scenario as JSON. -/
def toJson (s : Scenario) : Json :=
  .object [("id", .ofInt s.id), ("name", .str s.name), ("description", Json.ofOption .str s.description),
    ("project_id", Json.ofOption .ofInt s.projectId), ("module_id", Json.ofOption .ofInt s.moduleId),
    ("steps", .arr (s.rows.map StepRow.toJson))]

end Scenario
end TestScenario
