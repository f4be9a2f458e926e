import TestScenario.Json.Path
import TestScenario.Outcome.Result
import TestScenario.Pattern.Search
import TestScenario.Scenario.Overrides

/-!
Variables taken from the answer of a test case.
-/

namespace TestScenario.ExtractRule

/-- What a rule takes from a result, if there is anything to take. -/
def extract (rule : ExtractRule) (r : StepResult) : Option Json :=
  match rule.kind with
  | .json => do
    let body ← r.responseBody
    match Json.selectText body rule.expression with
    | .ok .null => none
    | .ok v => some v
    | .error _ => none
  | .pattern => do
    let body ← r.responseBody
    let pattern ← Pattern.ofText rule.expression
    (pattern.group? body (rule.group.getD 0)).map .str
  | .header => (r.header? rule.expression).map .str

end TestScenario.ExtractRule
