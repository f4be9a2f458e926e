import TestScenario.Json.Reader
import TestScenario.Scenario.Case
import TestScenario.Scenario.Overrides

/-!
Test cases as steps change them.
-/

namespace TestScenario.Overrides

/-- The headers of a case after the overrides: an object adds to them, the text of an object replaces them, anything
    else leaves them. -/
def headersFor (o : Overrides) (own : Dict String) : Dict String :=
  match o.headers with
  | some (.obj members) => own.update (Dict.mapValues Json.text members)
  | some (.str text) =>
    match Json.parse text with
    | some (.obj members) => Dict.mapValues Json.text members
    | _ => own
  | _ => own

/-- The body of a case after the overrides: text as it is, any other value written as JSON. -/
def bodyFor (o : Overrides) (own : Option String) : Option String :=
  match o.body with
  | none => own
  | some .null => own
  | some (.str text) => some text
  | some v => some v.compact

/-- The case after the overrides. -/
def apply (o : Overrides) (t : TestCase) : TestCase :=
  { t with
    url := o.url.getD t.url
    method := o.method.getD t.method
    headers := o.headersFor t.headers
    body := o.bodyFor t.body
    setupScript := o.setupScript <|> t.setupScript
    assertionScript := o.assertionScript <|> t.assertionScript }

/-- The variables of a case after the overrides. -/
def variablesFor (o : Overrides) (vars : Members) : Members := vars.update (o.params.getD [])

end TestScenario.Overrides
