import TestScenario.History.Sink
import TestScenario.Text.Table

/-!
Runs kept in several places.

The id of a record is the one that the first place gave to it; each place keeps its own id. A place that fails does
not keep the others from being called.
-/

namespace TestScenario

/-- Several places, and the ids that each gave to the records kept so far. -/
structure Fanout (η : Type) where
  places : List η
  routes : Table Int (List (Option Int)) := []

namespace Fanout
variable {η : Type}

/-- A new record in every place, with the ids that the places gave. -/
def createAll (s : Sink η) (r : RunRecord) : List η → List (Option Int) × List η
  | [] => ([], [])
  | h :: rest =>
    let (answer, h) := s.create r h
    let (ids, rest) := createAll s r rest
    (answer.toOption :: ids, h :: rest)

/-- A call of every place that has an id. -/
def forward (call : Int → η → Except Fault Unit × η) : List η → List (Option Int) → List η
  | h :: rest, some id :: ids => (call id h).2 :: forward call rest ids
  | h :: rest, none :: ids => h :: forward call rest ids
  | hs, _ => hs

/-- A new record. -/
def create (s : Sink η) (r : RunRecord) (f : Fanout η) : Except Fault Int × Fanout η :=
  let (ids, places) := createAll s r f.places
  match ids.findSome? id with
  | some id => (.ok id, ⟨places, f.routes.put id ids⟩)
  | none => (.error (.because "No history sink accepted the record"), { f with places })

/-- A record in its new state. -/
def update (s : Sink η) (r : RunRecord) (f : Fanout η) : Except Fault Unit × Fanout η :=
  match r.id with
  | none => (.error .noRecordId, f)
  | some id =>
    (.ok (), { f with
      places := forward (fun own => s.update { r with id := some own }) f.places ((f.routes.get? id).getD []) })

/-- A log. -/
def append (s : Sink η) (l : StepLog) (f : Fanout η) : Except Fault Unit × Fanout η :=
  (.ok (), { f with
    places := forward (fun own => s.append { l with recordId := own }) f.places
      ((f.routes.get? l.recordId).getD []) })

/-- Several places as one. -/
def sink (s : Sink η) : Sink (Fanout η) := ⟨create s, update s, append s⟩

end Fanout
end TestScenario
