import TestScenario.History.Fanout
import TestScenario.History.Memory
import TestScenario.History.Reports

/-!
The places where runs can be kept, one inside the other.
-/

namespace TestScenario

/-- A place where runs are kept. -/
inductive History where
  | memory (refused : Refusals) (kept : MemoryHistory)
  | folder (kept : ReportFolder)
  | several (kept : Fanout History)

namespace History

mutual
/-- How many levels of places there are. -/
def levels : History → Nat
  | .several ⟨places, _⟩ => mostLevels places + 1
  | _ => 0
/-- The most levels among several places. -/
def mostLevels : List History → Nat
  | [] => 0
  | h :: rest => max (levels h) (mostLevels rest)
end

/-- The answer of a part with the whole put together again. -/
def wrap {α β γ : Type} (whole : β → γ) (answer : α × β) : α × γ := (answer.1, whole answer.2)

/-- What can be done with places of at most so many levels. -/
def sinkWithin : (levels : Nat) → Sink History
  | 0 => {
      create := fun r h => match h with
        | .memory refused m => wrap (.memory refused) ((refused.sink MemoryHistory.sink).create r m)
        | .folder f => wrap .folder (ReportFolder.sink.create r f)
        | h => (.error ⟨[]⟩, h)
      update := fun r h => match h with
        | .memory refused m => wrap (.memory refused) ((refused.sink MemoryHistory.sink).update r m)
        | .folder f => wrap .folder (ReportFolder.sink.update r f)
        | h => (.error ⟨[]⟩, h)
      append := fun l h => match h with
        | .memory refused m => wrap (.memory refused) ((refused.sink MemoryHistory.sink).append l m)
        | .folder f => wrap .folder (ReportFolder.sink.append l f)
        | h => (.error ⟨[]⟩, h) }
  | n + 1 =>
    let inner := sinkWithin n
    { create := fun r h => match h with
        | .several f => wrap .several ((Fanout.sink inner).create r f)
        | h => inner.create r h
      update := fun r h => match h with
        | .several f => wrap .several ((Fanout.sink inner).update r f)
        | h => inner.update r h
      append := fun l h => match h with
        | .several f => wrap .several ((Fanout.sink inner).append l f)
        | h => inner.append l h }

/-- What can be done with any place. -/
def sink : Sink History where
  create r h := (sinkWithin h.levels).create r h
  update r h := (sinkWithin h.levels).update r h
  append l h := (sinkWithin h.levels).append l h

end History
end TestScenario
