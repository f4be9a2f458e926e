import TestScenario.Scenario.Kind

/-!
Steps as rows of a table, each with the id of the step it belongs to.
-/

namespace TestScenario

/-- A step on its own. -/
structure StepRow where
  id : Int
  parent : Option Int := none
  kind : StepKind
  name : String := ""
  order : Option Int := none
  caseId : Option Int := none
  scenarioId : Option Int := none
  /-- The settings of the kind, as they are stored. -/
  control : Option Json := none
  /-- What the step changes in its test case, as it is stored. -/
  overrides : Option Json := none

namespace StepRow
open Document Document.Source

/-- The names of the fields, in order. -/
def fieldNames : List (List String) :=
  [["id"], ["parent_id"], ["type", "kind"], ["name"], ["order_index"], ["reference_case_id"],
    ["reference_scenario_id"], ["control_logic"], ["data_overrides"]]

/-- A row from what is written for its fields. -/
def ofFields : List (Option Source) → Option StepRow
  | [id, parent, kind, name, order, caseId, scenarioId, control, overrides] => do
    some {
      id := ← required int64 id
      parent := ← maybe int64 parent
      kind := ← required StepKind.read kind
      name := ← withDefault "" string name
      order := ← maybe int32 order
      caseId := ← maybe int64 caseId
      scenarioId := ← maybe int64 scenarioId
      control := ← maybe any control
      overrides := ← maybe any overrides }
  | _ => none

/-- A row from a document. -/
def read (s : Source) : Option StepRow := do ofFields (← s.fields fieldNames)

/-- The fields as JSON. -/
def members (r : StepRow) : List (String × Json) :=
  [("id", .ofInt r.id), ("parent_id", Json.ofOption .ofInt r.parent), ("type", .str r.kind.name), ("name", .str r.name),
    ("order_index", Json.ofOption .ofInt r.order), ("reference_case_id", Json.ofOption .ofInt r.caseId),
    ("reference_scenario_id", Json.ofOption .ofInt r.scenarioId), ("control_logic", r.control.getD .null),
    ("data_overrides", r.overrides.getD .null)]

/-- The row as JSON. -/
def toJson (r : StepRow) : Json := .object r.members

end StepRow
end TestScenario
