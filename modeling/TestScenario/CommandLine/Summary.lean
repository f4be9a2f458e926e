import TestScenario.Engine.Error
import TestScenario.Engine.Event
import TestScenario.Outcome.Result

/-!
What the command line tells about runs.
-/

namespace TestScenario.Summary

/-- A text in a colour of the terminal. -/
def coloured (colour : Nat) (s : String) : String := "\x1b[" ++ toString colour ++ "m" ++ s ++ "\x1b[0m"

/-- A text in green. -/
def green : String → String := coloured 32

/-- A text in red. -/
def red : String → String := coloured 31

/-- A text in yellow. -/
def yellow : String → String := coloured 33

/-- The beginning of a text that is too long. -/
def shortened (limit : Nat) (s : String) : String :=
  let cs := s.toList
  if limit < cs.length then String.ofList (cs.take limit) ++ "...(truncated)" else s

/-- Whether a result lets a run count as passed: a step that was cancelled does not. -/
def isGood (r : StepResult) : Bool :=
  r.status != .fail && !(r.status == .skipped && r.message == some "Cancelled")

/-- Whether a run with some results has passed. -/
def hasPassed (results : List StepResult) : Bool := results.all isGood

/-- The mark of a status. -/
def mark : StepStatus → String
  | .pass => green "✓"
  | .fail => red "✗"
  | .skipped => yellow "-"

/-- What was sent for a result and what came back. -/
def exchangeLines (r : StepResult) : List String :=
  let told (label : String) (value : Option String) : List String := (value.map fun s => "     " ++ label ++ s).toList
  told "Request: " (do some ((← r.requestMethod) ++ " " ++ (← r.requestUrl)))
    ++ told "Request body: " (r.requestBody.map (shortened 500))
    ++ told "Response: Status " (r.httpStatus.map toString)
    ++ told "Response body: " (r.responseBody.map (shortened 500))

/-- The lines about a result, which is the one of a number. -/
def resultLines (verbose : Bool) (number : Nat) (r : StepResult) : List String :=
  let first := "  " ++ toString number ++ ". " ++ mark r.status ++ " " ++ r.name ++ " (" ++ toString r.durationMs ++ " ms)"
  let reason := ((r.detail <|> r.message).getD "")
  (first :: if r.status == .fail then ["     " ++ red ("Error: " ++ reason)] else [])
    ++ if verbose then exchangeLines r else []

/-- The lines about a run. -/
def runLines (verbose : Bool) (name : String) (results : List StepResult) (durationMs : Nat) : List String :=
  let status := if hasPassed results then green "PASS" else red "FAIL"
  (status ++ " scenario: " ++ name ++ " (" ++ toString durationMs ++ " ms)")
    :: (results.zipIdx 1).flatMap fun (r, number) => resultLines verbose number r

/-- The line about a run that could not be brought to its end. -/
def errorLine (name : String) (e : RunError) : String :=
  red ("Scenario execution error: " ++ name ++ " - " ++ e.message)

/-- The line about something that happened. -/
def eventLine (e : Event) : String :=
  e.happening.kindName ++ " " ++ (e.happening.name?.getD "") ++ " " ++ (e.happening.status?.getD "")

/-- The lines about all runs. -/
def totalLines (passed failed durationMs : Nat) : List String :=
  ["Summary:", "  Total: " ++ toString (passed + failed), "  " ++ green ("Passed: " ++ toString passed),
    "  " ++ red ("Failed: " ++ toString failed), "  Duration: " ++ toString durationMs ++ " ms"]

end TestScenario.Summary
