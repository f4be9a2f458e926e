import TestScenario.Document.Writer
import TestScenario.History.Sink
import TestScenario.Text.Table

/-!
One report per finished run, as a file in a folder.
-/

namespace TestScenario

/-- The record of a finished run with its logs. -/
structure Report where
  record : RunRecord
  steps : List StepLog
deriving DecidableEq, Repr

/-- The report as JSON. -/
def Report.toJson (r : Report) : Json :=
  .object [("record", r.record.toJson), ("steps", .arr (r.steps.map StepLog.toJson))]

/-- How reports are written. -/
inductive ReportFormat where
  | json
  | yaml
deriving DecidableEq, Repr

/-- The end of the name of a report's file. -/
def ReportFormat.extension : ReportFormat → String
  | .json => "json"
  | .yaml => "yaml"

/-- The text of a report. -/
def ReportFormat.text (f : ReportFormat) (r : Report) : String :=
  match f with
  | .json => r.toJson.pretty
  | .yaml => Document.Writer.text r.toJson

/-- A folder with reports, and the logs of runs that are not finished. -/
structure ReportFolder where
  format : ReportFormat
  /-- Whether something other than a folder stands in its place. -/
  blocked : Bool := false
  nextId : Int := 1
  pending : Table Int (List StepLog) := []
  files : Dict Report := []
  /-- The seconds that the clock will show when the next reports are written, and zero from then on. -/
  clock : List Int := []
deriving DecidableEq, Repr

namespace ReportFolder

/-- The name of a scenario as part of a file's name. -/
def sanitized (name : String) : String := name.map fun c => if c == ' ' || c == '/' then '_' else c

/-- The name of a report's file: the scenario, the record and the second in which it is written. -/
def fileName (format : ReportFormat) (r : RunRecord) (second : Int) : String :=
  sanitized r.scenarioName ++ "-" ++ toString (r.id.getD 0) ++ "-" ++ toString second ++ "." ++ format.extension

/-- Whether a file may have a name. -/
def isFileName (name : String) : Bool := name.utf8ByteSize ≤ 255 && !name.toList.contains '\x00'

/-- A new record. -/
def create (_ : RunRecord) (f : ReportFolder) : Except Fault Int × ReportFolder :=
  (.ok f.nextId, { f with nextId := f.nextId + 1, pending := f.pending.put f.nextId [] })

/-- A record in its new state; a finished one is written with its logs, which are no longer pending then. -/
def update (r : RunRecord) (f : ReportFolder) : Except Fault Unit × ReportFolder :=
  if r.status == .running then (.ok (), f)
  else match r.id with
    | none => (.error .noRecordId, f)
    | some id =>
      let report : Report := ⟨r, (f.pending.get? id).getD []⟩
      let name := fileName f.format r (f.clock.head?.getD 0)
      let f := { f with pending := f.pending.erase id, clock := f.clock.tail }
      if f.blocked || !isFileName name then (.error (.because ("Failed to write report " ++ name)), f)
      else (.ok (), { f with files := f.files.insert name report })

/-- A log. -/
def append (l : StepLog) (f : ReportFolder) : Except Fault Unit × ReportFolder :=
  (.ok (), { f with pending := f.pending.put l.recordId ((f.pending.get? l.recordId).getD [] ++ [l]) })

/-- A folder as a place to keep runs. -/
def sink : Sink ReportFolder := ⟨create, update, append⟩

end ReportFolder
end TestScenario
