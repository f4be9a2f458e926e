import TestScenario.Scenario.Case
import TestScenario.Scenario.Definition
import TestScenario.Text.Blank

/-!
Catalogs: scenarios, test cases, variables and environments.

Merging keeps ids of scenarios and of cases unique. Variables are inherited level by level, a later level overwriting
an earlier one: global, project, module, environment.
-/

namespace TestScenario
open Document Document.Source

/-- An environment. -/
structure Environment where
  id : Int
  name : String
deriving DecidableEq, Repr

namespace Environment

/-- An environment from a document. -/
def read (s : Source) : Option Environment := do
  match ← s.fields [["id"], ["name"]] with
  | [id, name] => some { id := ← required int64 id, name := ← required string name }
  | _ => none

/-- The environment as JSON. -/
def toJson (e : Environment) : Json := .object [("id", .ofInt e.id), ("name", .str e.name)]

end Environment

/-- A variable of a catalog; the ids that are given decide its level. -/
structure VariableEntry where
  key : String
  value : Json := .null
  projectId : Option Int := none
  moduleId : Option Int := none
  environmentId : Option Int := none

namespace VariableEntry

/-- A variable from a document. -/
def read (s : Source) : Option VariableEntry := do
  match ← s.fields [["key"], ["value"], ["project_id"], ["module_id"], ["environment_id"]] with
  | [key, value, projectId, moduleId, environmentId] =>
    some {
      key := ← required string key
      value := ← withDefault .null any value
      projectId := ← maybe int64 projectId
      moduleId := ← maybe int64 moduleId
      environmentId := ← maybe int64 environmentId }
  | _ => none

/-- The variable as JSON. -/
def toJson (e : VariableEntry) : Json :=
  .object [("key", .str e.key), ("value", e.value), ("project_id", Json.ofOption .ofInt e.projectId),
    ("module_id", Json.ofOption .ofInt e.moduleId), ("environment_id", Json.ofOption .ofInt e.environmentId)]

end VariableEntry

/-- A catalog. -/
structure Catalog where
  scenarios : List Scenario := []
  cases : List TestCase := []
  vars : List VariableEntry := []
  environments : List Environment := []

/-- Why two catalogs cannot be merged. -/
inductive MergeError where
  | duplicateScenario (id : Int)
  | duplicateCase (id : Int)
deriving DecidableEq, Repr

/-- The error in words. -/
def MergeError.message : MergeError → String
  | .duplicateScenario id => "Duplicate scenario id " ++ toString id
  | .duplicateCase id => "Duplicate case id " ++ toString id

namespace Catalog

/-- A catalog from a document. -/
def read (s : Source) : Option Catalog := do
  match ← s.fields [["scenarios"], ["cases"], ["variables"], ["environments"]] with
  | [scenarios, cases, vars, environments] =>
    some {
      scenarios := ← withDefault [] (list Scenario.read) scenarios
      cases := ← withDefault [] (list TestCase.read) cases
      vars := ← withDefault [] (list VariableEntry.read) vars
      environments := ← withDefault [] (list Environment.read) environments }
  | _ => none

/-- The catalog as JSON. -/
def toJson (c : Catalog) : Json :=
  .object [("scenarios", .arr (c.scenarios.map Scenario.toJson)), ("cases", .arr (c.cases.map TestCase.toJson)),
    ("variables", .arr (c.vars.map VariableEntry.toJson)),
    ("environments", .arr (c.environments.map Environment.toJson))]

/-- The first scenario of `d` whose id occurs in `c`, or else the first such case. -/
def conflict? (c d : Catalog) : Option MergeError :=
  ((d.scenarios.find? fun s => c.scenarios.any (·.id == s.id)).map fun s => .duplicateScenario s.id)
    <|> ((d.cases.find? fun t => c.cases.any (·.id == t.id)).map fun t => .duplicateCase t.id)

/-- The catalog followed by another one. -/
def append (c d : Catalog) : Catalog :=
  { scenarios := c.scenarios ++ d.scenarios
    cases := c.cases ++ d.cases
    vars := c.vars ++ d.vars
    environments := c.environments ++ d.environments }

/-- Work on a catalog in place. What has been done to the catalog stays done when the work fails. -/
abbrev Edit (α : Type) := EStateM MergeError Catalog α

/-- Fail at the first of some entries that the catalog already has. -/
def refuse {α : Type} (entries : List α) (has : Catalog → α → Bool) (error : α → MergeError) : Edit Unit :=
  forM entries fun x => do if has (← get) x then throw (error x)

/-- Take in another catalog: its lists are added one by one, once it has been seen that none of its ids is taken. -/
def takeIn (d : Catalog) : Edit Unit := do
  refuse d.scenarios (fun c s => c.scenarios.any (·.id == s.id)) fun s => .duplicateScenario s.id
  refuse d.cases (fun c t => c.cases.any (·.id == t.id)) fun t => .duplicateCase t.id
  modify fun c => { c with scenarios := c.scenarios ++ d.scenarios }
  modify fun c => { c with cases := c.cases ++ d.cases }
  modify fun c => { c with vars := c.vars ++ d.vars }
  modify fun c => { c with environments := c.environments ++ d.environments }

/-- The catalog followed by another one without common ids. -/
def merge (c d : Catalog) : Except MergeError Catalog :=
  match (takeIn d).run c with
  | .ok _ after => .ok after
  | .error e _ => .error e

/-- Whether an environment goes by a key: its id in digits, or its name in any case. -/
def isEnvironment (c : Catalog) (id : Int) (key : String) : Bool :=
  (Decimal.readInt64 key.toList).toOption == some id
    || c.environments.any fun e => e.id == id && Text.sameIgnoringCase e.name key

/-- The tests for the levels of variables, in order. -/
def levels (c : Catalog) (project module : Option Int) (envKey : String) : List (VariableEntry → Bool) :=
  [fun e => e.projectId.isNone && e.moduleId.isNone && e.environmentId.isNone,
    fun e => project.isSome && e.projectId == project && e.moduleId.isNone && e.environmentId.isNone,
    fun e => module.isSome && e.moduleId == module && e.environmentId.isNone,
    fun e => e.environmentId.any (c.isEnvironment · envKey)]

/-- The variables that a project, a module and an environment inherit. -/
def inherited (c : Catalog) (project module : Option Int) (envKey : String) : Members :=
  Dict.ofList ((c.levels project module envKey).flatMap fun level =>
    (c.vars.filter level).map fun e => (e.key, e.value))

/-- The last scenario of an id. -/
def scenario? (c : Catalog) (id : Int) : Option Scenario := c.scenarios.reverse.find? (·.id == id)

theorem id_of_scenario? {c : Catalog} {id : Int} {s : Scenario} (found : c.scenario? id = some s) : s.id = id := by
  have same := List.find?_some (p := fun s : Scenario => s.id == id) found
  exact eq_of_beq same

/-- The last case of an id. -/
def case? (c : Catalog) (id : Int) : Option TestCase := c.cases.reverse.find? (·.id == id)

end Catalog
end TestScenario
