import TestScenario.Outcome.Fault
import TestScenario.Run.Context
import TestScenario.Scenario.Case
import TestScenario.Scenario.Definition
import TestScenario.Script.Run

/-!
What a run needs from the world around it.
-/

namespace TestScenario

/-- How the execution of a test case ended. -/
inductive CaseOutcome where
  | finished (result : StepResult)
  | failed (cause : Fault)
  /-- The run was cancelled meanwhile. -/
  | cancelled
deriving DecidableEq, Repr

/-- The variables after the execution of a test case, and how it ended. -/
structure CaseRun where
  vars : Members
  outcome : CaseOutcome

/-- The variables after a script, and its value. -/
structure Evaluation where
  vars : Members
  outcome : Except Fault Json

/-- The evaluation of a script as the scripting language has it. -/
def Script.evaluation (script : String) (vars : Members) : Evaluation :=
  let ran := Script.run script vars
  ⟨ran.vars, ran.outcome.mapError fun e => .because e.message⟩

/-- Where scenarios come from. -/
structure ScenarioSource (σ : Type) where
  /-- The scenario of an id. -/
  scenario : Int → σ → Except Fault (Option Scenario) × σ
  /-- The steps of the scenario of an id. -/
  steps : Int → σ → Except Fault (List Step) × σ

/-- Where test cases come from. -/
structure CaseSource (σ : Type) where
  /-- The test case of an id. -/
  testCase : Int → σ → Except Fault (Option TestCase) × σ

/-- Where the variables for a project, a module and an environment come from. -/
abbrev VariableSource (σ : Type) := Option Int → Option Int → String → σ → Except Fault Members × σ

/-- Where cases are executed, scripts are evaluated and time passes. -/
structure World (σ : Type) where
  /-- Execute a test case with variables and the results so far. -/
  runCase : TestCase → Members → Table Int StepResult → σ → CaseRun × σ
  /-- Evaluate a script. -/
  eval : String → Members → σ → Evaluation × σ
  /-- Wait some milliseconds; the answer tells whether the wait came to its end before the run was cancelled. -/
  wait : Nat → σ → Bool × σ
  /-- Let the run be cancelled after some milliseconds, unless the clock does not reach that far. -/
  limit : Nat → σ → Option σ
  /-- What happens outside before the run looks whether it has been cancelled. -/
  meanwhile : σ → σ := id
  /-- Whether the run has been cancelled. -/
  isCancelled : σ → Bool
  /-- The time in milliseconds. -/
  now : σ → Nat

/-- Everything that a run needs from outside, where the state is of type `σ`. -/
structure Host (σ : Type) extends ScenarioSource σ, CaseSource σ, World σ where
  vars : Option (VariableSource σ)

/-- The parts that a host is put together from. -/
structure Parts (σ : Type) where
  scenarios : Option (ScenarioSource σ) := none
  cases : Option (CaseSource σ) := none
  vars : Option (VariableSource σ) := none

/-- A part without which there is no host. -/
inductive MissingPart where
  | scenarios
  | cases
deriving DecidableEq, Repr

/-- The missing part in words. -/
def MissingPart.message : MissingPart → String
  | .scenarios => "A scenario store is required"
  | .cases => "A case store is required"

/-- The host that is put together from parts. -/
def Parts.host {σ : Type} (p : Parts σ) (world : World σ) : Except MissingPart (Host σ) :=
  match p.scenarios, p.cases with
  | none, _ => .error .scenarios
  | some _, none => .error .cases
  | some scenarios, some cases =>
    .ok { toScenarioSource := scenarios, toCaseSource := cases, toWorld := world, vars := p.vars }

end TestScenario
