import TestScenario.Outcome.Fault
import TestScenario.Outcome.Record

/-!
Places where records and logs of runs are kept.
-/

namespace TestScenario

/-- What can be done with a place of kind `η` where runs are kept. -/
structure Sink (η : Type) where
  /-- Keep a new record; the answer is its id there. -/
  create : RunRecord → η → Except Fault Int × η
  /-- Keep a record in its new state. -/
  update : RunRecord → η → Except Fault Unit × η
  /-- Keep the log of a step. -/
  append : StepLog → η → Except Fault Unit × η

/-- The fault of a record that was never kept. -/
def Fault.noRecordId : Fault := .because "Execution record has no id"

end TestScenario
