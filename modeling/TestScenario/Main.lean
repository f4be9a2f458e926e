import Std.Async.DNS
import Std.Async.TCP
import Std.Async.Timer
import Std.Time
import TestScenario.Catalog.Loading
import TestScenario.Catalog.Parts
import TestScenario.CommandLine.Options
import TestScenario.CommandLine.Summary
import TestScenario.Engine.Dispatch
import TestScenario.History.Memory
import TestScenario.History.Remote
import TestScenario.Http.Interview
import TestScenario.Http.Wire

/-!
The command line: it reads catalogs, runs scenarios, sends their requests and tells what came of them.
-/

namespace TestScenario.Shell
open Http

/-- The time in milliseconds. -/
def now : IO Nat := do
  let time ← Std.Time.Timestamp.now
  pure time.toMillisecondsSinceUnixEpoch.val.toNat

/-- A wait of some milliseconds. -/
def pause (ms : Nat) : Std.Async.Async Unit := Std.Async.sleep (Std.Time.Millisecond.Offset.ofNat ms)

/-- The bytes that a connection still brings. -/
partial def receive (client : Std.Async.TCP.Socket.Client) (received : List UInt8) : Std.Async.Async (List UInt8) := do
  match ← client.recv? 65536 with
  | some bytes => receive client (received ++ bytes.toList)
  | none => pure received

/-- The place that a request goes to. -/
def socketAddress (r : Request) : Std.Async.Async (Option Std.Net.SocketAddress) := do
  let port := r.port.toUInt16
  let addresses ← Std.Async.DNS.getAddrInfo r.hostName (toString r.port)
  pure (addresses[0]?.map fun
    | .v4 address => .v4 ⟨address, port⟩
    | .v6 address => .v6 ⟨address, port⟩)

/-- A request sent over a connection of its own. -/
def exchange (r : Request) : Std.Async.Async (Except Fault Response) := do
  match ← socketAddress r with
  | none => pure (.error ⟨["client error (Connect)", "dns error"]⟩)
  | some address =>
    let client ← Std.Async.TCP.Socket.Client.mk
    client.connect address
    client.send r.text.toUTF8
    let received ← receive client []
    pure (readResponse received)

/-- A request sent, unless the answer takes too long. -/
def send (timeoutMs : Nat) (r : Request) : IO (Except Fault Response) := do
  if r.url.scheme != "http" then pure (.error ⟨["client error (Connect)", "secure connections are not supported"]⟩)
  else
    let late : Std.Async.Async (Except Fault Response) := do
      pause timeoutMs
      pure (.error ⟨["operation timed out"]⟩)
    try (Std.Async.Async.race (exchange r) late).block
    catch problem => pure (.error ⟨["client error (Connect)", toString problem]⟩)

/-- What a question asks for, done. -/
def perform (timeoutMs : Nat) : Question → IO Reply
  | .send r => do
    let answer ← send timeoutMs r
    pure { time := ← now, answer }
  | .pause ms => do
    (pause ms).block
    pure { time := ← now, answer := .error ⟨[]⟩ }

/-- What a function of replies comes to once all its questions have been answered. -/
partial def settle {α : Type} (timeoutMs begun : Nat) (run : Interview → α × Interview) (replies : List Reply) : IO α := do
  let (outcome, i) := run { now := begun, replies }
  match i.question with
  | none => pure outcome
  | some question => settle timeoutMs begun run (replies ++ [← perform timeoutMs question])

/-- A file as the only one of its folder, and its name there. -/
def openFile (path : String) : IO (Files × String) := do
  let name := String.ofList ((path.toList.reverse.takeWhile (· != '/')).reverse)
  let above := String.ofList (path.toList.take (path.length - name.length))
  let texts : Dict String ← try pure [(name, ← IO.FS.readFile path)] catch _ => pure []
  pure ({ root := if above.isEmpty then "." else above, texts }, name)

/-- The catalogs in some files, merged. -/
def loadCatalogs (paths : List String) : IO (Except LoadError Catalog) := do
  let mut merged : Except LoadError Catalog := .ok {}
  for path in paths do
    let (files, name) ← openFile path
    merged := do
      let c ← Catalog.loadFile files name
      ((← merged).merge c).mapError .conflict
  pure merged

/-- The settings that the command line asks for. -/
def loadConfig (o : Options) : IO (Except LoadError Config) := do
  let config ← match o.config with
    | none => pure (.ok {})
    | some path =>
      let (files, name) ← openFile path
      pure (Config.load files name)
  pure (config.map fun c =>
    { c with
      baseUrl := o.baseUrl <|> c.baseUrl
      httpTimeoutSecs := o.timeoutSecs.getD c.httpTimeoutSecs
      runTimeoutSecs := o.runTimeoutSecs <|> c.runTimeoutSecs })

/-- The service that keeps runs, if the command line or the environment names one. -/
def remoteHistory (o : Options) : IO (Option RemoteHistory) := do
  let url := o.historyApiUrl <|> (← IO.getEnv "SCENARIO_HISTORY_API_URL")
  let key := o.historyApiKey <|> (← IO.getEnv "SCENARIO_HISTORY_API_KEY")
  pure (do some { apiUrl := ← url, apiKey := ← key })

/-- Lines on the standard output. -/
def tell (lines : List String) : IO Unit := lines.forM IO.println

/-- Reports written that were not there before. -/
def writeReports (dir : String) (before after : ReportFolder) : IO Unit := do
  let fresh := after.files.filter fun (name, _) => !before.files.contains name
  unless fresh.isEmpty do
    IO.FS.createDirAll dir
    for (name, report) in fresh do
      let path := Files.join dir name
      IO.FS.writeFile path (after.format.text report)
      tell ["Report saved: " ++ path]

/-- A run of a scenario, and whether it has passed. -/
def runScenario (o : Options) (c : Catalog) (config : Config) (id : Int) (name : String) :
    IO (Bool × MemoryHistory) := do
  let engine := c.engine (Interview.world (Client.ofConfig config)) config (some MemoryHistory.sink) o.events
  let begun ← now
  let (ending, stage) ← settle config.httpTimeoutMs begun (fun i =>
    let (ending, stage) := (engine.execute id o.env).run { host := i, kept := ({} : MemoryHistory) }
    ((ending, stage), stage.host)) []
  tell (stage.events.toList.map Summary.eventLine)
  match ending with
  | .ok results =>
    tell (Summary.runLines o.verbose name results ((← now) - begun))
    pure (Summary.hasPassed results, stage.kept)
  | .error .beyondClock => throw (.userError RunError.beyondClock.message)
  | .error problem =>
    tell [Summary.errorLine name problem]
    pure (false, stage.kept)

/-- All runs that the command line asks for, and whether all have passed. -/
def runAll (o : Options) (c : Catalog) (config : Config) (ids : List Int) : IO Bool := do
  let remote ← remoteHistory o
  let begun ← now
  let mut reports : ReportFolder := { format := o.reportFormat }
  let mut passed := 0
  let mut failed := 0
  tell ["Running " ++ toString ids.length ++ " scenario(s)..."]
  for (id, number) in ids.zipIdx 1 do
    let name := ((c.scenarios.find? (·.id == id)).map (·.name)).getD ("#" ++ toString id)
    tell ["Scenario " ++ toString number ++ "/" ++ toString ids.length ++ ": " ++ name]
    let (good, kept) ← runScenario o c config id name
    if good then passed := passed + 1 else failed := failed + 1
    match o.reportDir with
    | none => pure ()
    | some dir =>
      let second := (← now) / 1000
      let after := kept.handOver ReportFolder.sink
        { reports with clock := List.replicate kept.records.length (Int.ofNat second) }
      writeReports dir reports after
      reports := after
    match remote with
    | none => pure ()
    | some service =>
      settle 30000 (← now) (fun i => ((), kept.handOver (service.sink Interview.transport) i)) []
  tell (Summary.totalLines passed failed ((← now) - begun))
  pure (failed == 0)

/-- A complaint, and the exit code that goes with it. -/
def refuse (code : UInt32) (message : String) : IO UInt32 := do
  IO.eprintln ("error: " ++ message)
  pure code

/-- What the command line asks for, done. -/
def obey (o : Options) : IO UInt32 := do
  match ← loadCatalogs o.catalogs, ← loadConfig o with
  | .error e, _ => refuse 1 ("Failed to load catalog: " ++ e.message)
  | _, .error e => refuse 1 e.message
  | .ok c, .ok config =>
    let ids := if o.scenarios.isEmpty then c.scenarios.map (·.id) else o.scenarios
    if ids.isEmpty then refuse 1 "No scenarios found"
    else pure (if ← runAll o c config ids then 0 else 1)

end TestScenario.Shell

/-- Run the scenarios that the arguments ask for. -/
def main (arguments : List String) : IO UInt32 := do
  match TestScenario.Options.ofArguments arguments with
  | .error e => TestScenario.Shell.refuse 2 e.message
  | .ok o => TestScenario.Shell.obey o
