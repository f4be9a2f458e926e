import TestScenario.Catalog.Basic
import TestScenario.Engine.Stage

/-!
Catalogs as the place where scenarios, test cases and variables come from.
-/

namespace TestScenario.Catalog
variable {σ : Type} (c : Catalog)

/-- The steps of the scenario of an id. -/
def stepsOf (id : Int) : Except Fault (List Step) :=
  match c.scenario? id with
  | some s => .ok s.steps
  | none => .error (.because ("Scenario not found: " ++ toString id))

theorem stepsOf_of_scenario? {id : Int} {s : Scenario} (found : c.scenario? id = some s) :
    c.stepsOf s.id = .ok s.steps := by
  rw [stepsOf, id_of_scenario? found, found]

/-- The scenarios of a catalog. -/
def scenarioSource : ScenarioSource σ where
  scenario id s := (.ok (c.scenario? id), s)
  steps id s := (c.stepsOf id, s)

/-- The cases of a catalog. -/
def caseSource : CaseSource σ where
  testCase id s := (.ok (c.case? id), s)

/-- The variables of a catalog. -/
def variableSource : VariableSource σ := fun project module envKey s => (.ok (c.inherited project module envKey), s)

/-- All that a catalog supplies. -/
def parts : Parts σ := ⟨some c.scenarioSource, some c.caseSource, some c.variableSource⟩

/-- A catalog with the world around it. -/
def host (world : World σ) : Host σ :=
  { toScenarioSource := c.scenarioSource, toCaseSource := c.caseSource, toWorld := world,
    vars := some c.variableSource }

/-- An engine over a catalog, for steps of all kinds. -/
def engine {η : Type} (world : World σ) (config : Config) (sink : Option (Sink η)) (observed : Bool) : Engine σ η :=
  { config, host := c.host world, sink, observed }

section
variable {η : Type} (world : World σ) (config : Config) (sink : Option (Sink η)) (observed : Bool)

@[simp] theorem engine_scenario (id : Int) (s : σ) :
    (c.engine world config sink observed).host.scenario id s = (.ok (c.scenario? id), s) := rfl

@[simp] theorem engine_steps (id : Int) (s : σ) :
    (c.engine world config sink observed).host.steps id s = (c.stepsOf id, s) := rfl

@[simp] theorem engine_kinds (kind : StepKind) : (c.engine world config sink observed).kinds.contains kind := by
  cases kind <;> rfl

end

end TestScenario.Catalog
