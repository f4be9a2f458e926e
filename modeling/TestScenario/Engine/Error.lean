import TestScenario.Outcome.Fault

/-!
Why a run cannot take place.

What goes wrong in a step is never among these: it becomes a failed result, and the run goes on. All but one of them are
answers that the caller is given; where the clock does not reach as far as the run may take, the program itself breaks
off.
-/

namespace TestScenario

/-- Why a run cannot take place. -/
inductive RunError where
  /-- The scenario is being executed already. -/
  | circular (scenario : Int)
  /-- As many scenarios as allowed are being executed. -/
  | tooDeep (scenario : Int) (limit : Nat)
  | unknownScenario (scenario : Int)
  /-- The scenario or its steps cannot be loaded. -/
  | steps (scenario : Int) (cause : Fault)
  /-- The variables of the scenario cannot be found out. -/
  | vars (scenario : Int) (cause : Fault)
  /-- The global scope was to be closed. -/
  | globalScope
  /-- The run may take longer than the clock reaches: it breaks off before it begins. -/
  | beyondClock
deriving DecidableEq, Repr

namespace RunError

/-- The error in words. -/
def message : RunError → String
  | .circular id =>
    "Circular reference detected: scenario " ++ toString id ++ " references itself directly or indirectly"
  | .tooDeep id limit =>
    "Scenario nesting exceeds the maximum depth of " ++ toString limit ++ " (scenario " ++ toString id ++ ")"
  | .unknownScenario id => "Scenario not found: " ++ toString id
  | .steps id cause => "Failed to load steps for scenario " ++ toString id ++ ": " ++ cause.message
  | .vars id cause => "Failed to resolve variables for scenario " ++ toString id ++ ": " ++ cause.message
  | .globalScope => "Invalid scope operation: cannot pop the global scope"
  | .beyondClock => "overflow when adding duration to instant"

end RunError
end TestScenario
