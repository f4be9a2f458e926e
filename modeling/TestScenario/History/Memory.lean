import TestScenario.History.Sink

/-!
Records and logs kept in memory, possibly with calls that are refused.
-/

namespace TestScenario

/-- Records and logs in the order in which they came. -/
structure MemoryHistory where
  records : List RunRecord := []
  logs : List StepLog := []
deriving DecidableEq, Repr

namespace MemoryHistory

/-- A new record; ids count from one. -/
def create (r : RunRecord) (h : MemoryHistory) : Except Fault Int × MemoryHistory :=
  let id := Int.ofNat h.records.length + 1
  (.ok id, { h with records := h.records ++ [{ r with id := some id }] })

/-- How a missing id, or one that is there, is shown. -/
def shownId : Option Int → String
  | none => "None"
  | some id => "Some(" ++ toString id ++ ")"

/-- The first record of an id replaced. -/
def replaceFirst (r : RunRecord) : List RunRecord → Option (List RunRecord)
  | [] => none
  | x :: rest => if x.id.isSome && x.id == r.id then some (r :: rest) else (replaceFirst r rest).map (x :: ·)

/-- A record in its new state. -/
def update (r : RunRecord) (h : MemoryHistory) : Except Fault Unit × MemoryHistory :=
  match replaceFirst r h.records with
  | some records => (.ok (), { h with records })
  | none => (.error (.because ("Unknown execution record " ++ shownId r.id)), h)

/-- A log. -/
def append (l : StepLog) (h : MemoryHistory) : Except Fault Unit × MemoryHistory :=
  (.ok (), { h with logs := h.logs ++ [l] })

/-- The logs of a record. -/
def logsFor (h : MemoryHistory) (id : Int) : List StepLog := h.logs.filter (·.recordId == id)

/-- Memory as a place to keep runs. -/
def sink : Sink MemoryHistory := ⟨create, update, append⟩

/-- A record with its logs kept in another place; nothing is kept there if the place refuses the record. -/
def handOverRecord {η : Type} (s : Sink η) (h : MemoryHistory) (r : RunRecord) (other : η) : η :=
  match s.create { r with id := none } other with
  | (.error _, other) => other
  | (.ok id, other) =>
    let logs := match r.id with
      | some own => h.logsFor own
      | none => []
    let other := logs.foldl (fun other l => (s.append { l with recordId := id } other).2) other
    (s.update { r with id := some id } other).2

/-- Everything kept in another place too. -/
def handOver {η : Type} (s : Sink η) (h : MemoryHistory) (other : η) : η :=
  h.records.foldl (fun other r => handOverRecord s h r other) other

end MemoryHistory

/-- The calls that a place refuses. -/
structure Refusals where
  create : Bool := false
  update : Bool := false
  append : Bool := false
deriving DecidableEq, Repr

namespace Refusals

/-- A place that refuses some calls. -/
def sink {η : Type} (refused : Refusals) (s : Sink η) : Sink η where
  create r h := if refused.create then (.error (.because "create refused"), h) else s.create r h
  update r h := if refused.update then (.error (.because "update refused"), h) else s.update r h
  append l h := if refused.append then (.error (.because "log refused"), h) else s.append l h

end Refusals
end TestScenario
