import TestScenario.Decimal.Reading
import TestScenario.Json.Path
import TestScenario.Json.Writer
import TestScenario.Outcome.Result
import TestScenario.Scenario.Overrides

/-!
The checks of an answer.
-/

namespace TestScenario

/-- What a check finds in a result: nothing to look at, no match, or a text. -/
inductive Found where
  | missing
  | notFound
  | text (s : String)
deriving DecidableEq, Repr

namespace Found

/-- What is found, as text. -/
def shown : Found → String
  | .missing => "null"
  | .notFound => "PROPERTY_NOT_FOUND"
  | .text s => s

/-- Whether there is something. -/
def isText : Found → Bool
  | .text _ => true
  | _ => false

end Found

namespace Check

/-- What a check looks at in a result. -/
def find (r : StepResult) (source : CheckSource) (property : String) : Found :=
  match source with
  | .statusCode => (r.httpStatus.map fun n => Found.text (toString n)).getD .missing
  | .responseHeader => ((r.header? property).map Found.text).getD .missing
  | .jsonBody =>
    match r.responseBody with
    | none => .missing
    | some body =>
      match Json.selectText body property with
      | .ok .null => .missing
      | .ok v => .text v.text
      | .error _ => .notFound

/-- Two texts as numbers. -/
def numbers (a b : String) : Option (Float × Float) := do
  some (← Decimal.readFloat (Text.trim a.toList), ← Decimal.readFloat (Text.trim b.toList))

/-- Whether what is found compares with what is expected. -/
def compare (found : Found) (expected : String) : Comparison → Bool
  | .equals => found.shown == expected
  | .notEquals => found.shown != expected
  | .contains => Text.contains found.shown expected
  | .notContains => !Text.contains found.shown expected
  | .present => found.isText
  | .absent => !found.isText
  | .greaterThan => (numbers found.shown expected).any fun (a, b) => a > b
  | .lessThan => (numbers found.shown expected).any fun (a, b) => a < b
  | .unknown => false

/-- The line about a check that fails; `resolve` replaces the references in what is expected. -/
def failure? (r : StepResult) (resolve : String → String) (c : Check) : Option String :=
  let expected := resolve c.expectedText
  let found := find r c.source c.property
  if compare found expected c.comparison then none
  else some ("- [" ++ c.source.name ++ "] " ++ c.property ++ " " ++ c.comparison.name ++ " " ++ expected
    ++ " (Actual: " ++ found.shown ++ ")\n")

/-- The heading over the lines about failed checks. -/
def heading : String := "Visual Assertion Failures:\n"

/-- A result after its checks: if any fails, the result fails and its detail tells which. -/
def applyAll (r : StepResult) (checks : List Check) (resolve : String → String) : StepResult :=
  match checks.filterMap (failure? r resolve) with
  | [] => r
  | lines =>
    let report := heading ++ String.join lines
    { r with
      status := .fail
      detail := some (match r.detail with
        | some d => d ++ "\n" ++ report
        | none => report) }

@[simp] theorem applyAll_stepId (r : StepResult) (checks : List Check) (resolve : String → String) :
    (applyAll r checks resolve).stepId = r.stepId := by
  unfold applyAll
  split
  · rfl
  · rfl

@[simp] theorem applyAll_name (r : StepResult) (checks : List Check) (resolve : String → String) :
    (applyAll r checks resolve).name = r.name := by
  unfold applyAll
  split
  · rfl
  · rfl

end Check
end TestScenario
