import TestScenario.Document.Source
import TestScenario.Json.Writer

/-!
What a step changes in its test case, takes from the answer, and expects of it.
-/

namespace TestScenario
open Document Document.Source

/-- Where a variable is taken from. -/
inductive ExtractKind where
  | json
  | pattern
  | header
deriving DecidableEq, Repr

namespace ExtractKind

/-- The word for a place. -/
def name : ExtractKind → String
  | .json => "JSON"
  | .pattern => "REGEX"
  | .header => "HEADER"

/-- The place that a word stands for; some have several words. -/
def ofName? (s : String) : Option ExtractKind :=
  if s == "JSON" || s == "JSON_PATH" || s == "json" || s == "jsonPath" then some .json
  else if s == "REGEX" || s == "regex" then some .pattern
  else if s == "HEADER" || s == "header" then some .header
  else none

end ExtractKind

/-- A variable to take from an answer. -/
structure ExtractRule where
  varName : String
  kind : ExtractKind := .json
  expressionText : Option String := none
  jsonPath : Option String := none
  /-- Which group of a pattern. -/
  group : Option Nat := none
deriving DecidableEq, Repr

namespace ExtractRule

/-- The expression that finds the value. -/
def expression (r : ExtractRule) : String := (r.expressionText <|> r.jsonPath).getD ""

/-- A rule from a document. -/
def read (s : Source) : Option ExtractRule := do
  match ← s.fields [["varName"], ["type"], ["expression"], ["jsonPath"], ["group"]] with
  | [varName, kind, expression, jsonPath, group] =>
    some {
      varName := ← required string varName
      kind := ← withDefault .json (word ExtractKind.ofName?) kind
      expressionText := ← maybe string expression
      jsonPath := ← maybe string jsonPath
      group := ← maybe nat64 group }
  | _ => none

/-- The rule as JSON. -/
def toJson (r : ExtractRule) : Json :=
  .object [("varName", .str r.varName), ("type", .str r.kind.name), ("expression", Json.ofOption .str r.expressionText),
    ("jsonPath", Json.ofOption .str r.jsonPath), ("group", Json.ofOption .ofNat r.group)]

end ExtractRule

/-- What a check looks at. -/
inductive CheckSource where
  | statusCode
  | responseHeader
  | jsonBody
deriving DecidableEq, Repr

namespace CheckSource

/-- The word for a source. -/
def name : CheckSource → String
  | .statusCode => "STATUS_CODE"
  | .responseHeader => "RESPONSE_HEADER"
  | .jsonBody => "JSON_BODY"

/-- The source that a word stands for. -/
def ofName? (s : String) : Option CheckSource := [statusCode, responseHeader, jsonBody].find? (·.name == s)

end CheckSource

/-- How a check compares. -/
inductive Comparison where
  | equals
  | notEquals
  | contains
  | notContains
  | present
  | absent
  | greaterThan
  | lessThan
  | unknown
deriving DecidableEq, Repr

namespace Comparison

/-- The word for a comparison. -/
def name : Comparison → String
  | .equals => "EQUALS"
  | .notEquals => "NOT_EQUALS"
  | .contains => "CONTAINS"
  | .notContains => "NOT_CONTAINS"
  | .present => "EXISTS"
  | .absent => "NOT_EXISTS"
  | .greaterThan => "GREATER_THAN"
  | .lessThan => "LESS_THAN"
  | .unknown => "UNKNOWN"

/-- The comparison that a word stands for; all other words stand for the unknown one. -/
def ofName (s : String) : Comparison :=
  ([equals, notEquals, contains, notContains, present, absent, greaterThan, lessThan].find? (·.name == s)).getD .unknown

/-- A comparison from a document. -/
def read : Source → Option Comparison := word (some ∘ ofName)

end Comparison

/-- A check of an answer. -/
structure Check where
  source : CheckSource := .jsonBody
  property : String := ""
  comparison : Comparison := .equals
  expected : Json := .null

namespace Check

/-- What is expected, as text. -/
def expectedText (c : Check) : String :=
  match c.expected with
  | .null => ""
  | v => v.text

/-- A check from a document. -/
def read (s : Source) : Option Check := do
  match ← s.fields [["source"], ["property"], ["operator"], ["expected"]] with
  | [source, property, comparison, expected] =>
    some {
      source := ← withDefault .jsonBody (word CheckSource.ofName?) source
      property := ← withDefault "" string property
      comparison := ← withDefault .equals Comparison.read comparison
      expected := ← withDefault .null any expected }
  | _ => none

/-- The check as JSON. -/
def toJson (c : Check) : Json :=
  .object [("source", .str c.source.name), ("property", .str c.property), ("operator", .str c.comparison.name),
    ("expected", c.expected)]

end Check

/-- What a step changes in its test case, takes from the answer, and expects of it. -/
structure Overrides where
  enabled : Option Json := none
  url : Option String := none
  method : Option String := none
  headers : Option Json := none
  body : Option Json := none
  params : Option Members := none
  setupScript : Option String := none
  assertionScript : Option String := none
  extract : List ExtractRule := []
  checks : List Check := []

namespace Overrides

/-- Overrides from a document. -/
def read (s : Source) : Option Overrides := do
  match ← s.fields [["enabled"], ["url"], ["method"], ["headers"], ["body"], ["params"], ["setupScript"],
    ["assertionScript"], ["extract"], ["visualAssertions"]] with
  | [enabled, url, method, headers, body, params, setupScript, assertionScript, extract, checks] =>
    some {
      enabled := ← maybe any enabled
      url := ← maybe string url
      method := ← maybe string method
      headers := ← maybe any headers
      body := ← maybe any body
      params := ← maybe (dict any) params
      setupScript := ← maybe string setupScript
      assertionScript := ← maybe string assertionScript
      extract := ← withDefault [] (list ExtractRule.read) extract
      checks := ← withDefault [] (list Check.read) checks }
  | _ => none

/-- The overrides as JSON. -/
def toJson (o : Overrides) : Json :=
  .object [("enabled", o.enabled.getD .null), ("url", Json.ofOption .str o.url), ("method", Json.ofOption .str o.method),
    ("headers", o.headers.getD .null), ("body", o.body.getD .null), ("params", Json.ofOption .obj o.params),
    ("setupScript", Json.ofOption .str o.setupScript), ("assertionScript", Json.ofOption .str o.assertionScript),
    ("extract", .arr (o.extract.map ExtractRule.toJson)), ("visualAssertions", .arr (o.checks.map Check.toJson))]

end Overrides
end TestScenario
