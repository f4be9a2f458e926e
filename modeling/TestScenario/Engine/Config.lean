import TestScenario.Document.Source

/-!
The settings of the engine.
-/

namespace TestScenario
open Document Document.Source

/-- The settings of the engine. -/
structure Config where
  /-- How many scenarios may be executed inside each other, the outermost one included. -/
  maxNesting : Nat := 16
  /-- How long a wait takes that does not tell. -/
  defaultWaitMs : Nat := 1000
  /-- How often a loop with a condition runs at most if it does not tell. -/
  defaultMaxIterations : Nat := 100
  /-- How long a run may take. -/
  runTimeoutSecs : Option Nat := none
  /-- How long a request may take. -/
  httpTimeoutSecs : Nat := 30
  /-- What relative addresses of test cases are joined with. -/
  baseUrl : Option String := none
  /-- Headers of every request, unless its test case has them too. -/
  headers : Dict String := []
deriving DecidableEq, Repr

namespace Config

/-- Settings from a document. -/
def read (s : Source) : Option Config := do
  let default : Config := {}
  match ← s.fields [["max_nesting_depth"], ["default_wait_ms"], ["default_max_iterations"], ["run_timeout_secs"],
    ["http_timeout_secs"], ["base_url"], ["headers"]] with
  | [maxNesting, defaultWaitMs, defaultMaxIterations, runTimeoutSecs, httpTimeoutSecs, baseUrl, headers] =>
    some {
      maxNesting := ← withDefault default.maxNesting nat64 maxNesting
      defaultWaitMs := ← withDefault default.defaultWaitMs nat64 defaultWaitMs
      defaultMaxIterations := ← withDefault default.defaultMaxIterations nat64 defaultMaxIterations
      runTimeoutSecs := ← maybe nat64 runTimeoutSecs
      httpTimeoutSecs := ← withDefault default.httpTimeoutSecs nat64 httpTimeoutSecs
      baseUrl := ← maybe string baseUrl
      headers := ← withDefault [] (dict string) headers }
  | _ => none

/-- The settings as JSON. -/
def toJson (c : Config) : Json :=
  .object [("max_nesting_depth", .ofNat c.maxNesting), ("default_wait_ms", .ofNat c.defaultWaitMs),
    ("default_max_iterations", .ofNat c.defaultMaxIterations),
    ("run_timeout_secs", Json.ofOption .ofNat c.runTimeoutSecs), ("http_timeout_secs", .ofNat c.httpTimeoutSecs),
    ("base_url", Json.ofOption .str c.baseUrl), ("headers", .obj (c.headers.mapValues .str))]

/-- How many milliseconds a run may take. -/
def runTimeoutMs (c : Config) : Option Nat := c.runTimeoutSecs.map (· * 1000)

/-- How many milliseconds a request may take. -/
def httpTimeoutMs (c : Config) : Nat := c.httpTimeoutSecs * 1000

end Config
end TestScenario
