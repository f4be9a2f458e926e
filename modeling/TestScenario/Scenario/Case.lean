import TestScenario.Document.Source

/-!
Test cases: HTTP requests with what happens before and after them.
-/

namespace TestScenario
open Document Document.Source

/-- A request to a service. -/
structure TestCase where
  id : Int
  moduleId : Option Int := none
  name : String
  method : String := "GET"
  url : String
  headers : Dict String := []
  body : Option String := none
  setupScript : Option String := none
  assertionScript : Option String := none

namespace TestCase

/-- A case from a document. -/
def read (s : Source) : Option TestCase := do
  match ← s.fields [["id"], ["module_id"], ["name"], ["method"], ["url"], ["headers"], ["body"], ["setup_script"],
    ["assertion_script"]] with
  | [id, moduleId, name, method, url, headers, body, setupScript, assertionScript] =>
    some {
      id := ← required int64 id
      moduleId := ← maybe int64 moduleId
      name := ← required string name
      method := ← withDefault "GET" string method
      url := ← required string url
      headers := ← withDefault [] (dict string) headers
      body := ← maybe string body
      setupScript := ← maybe string setupScript
      assertionScript := ← maybe string assertionScript }
  | _ => none

/-- The case as JSON. -/
def toJson (c : TestCase) : Json :=
  .object [("id", .ofInt c.id), ("module_id", Json.ofOption .ofInt c.moduleId), ("name", .str c.name),
    ("method", .str c.method), ("url", .str c.url), ("headers", .obj (c.headers.mapValues .str)),
    ("body", Json.ofOption .str c.body), ("setup_script", Json.ofOption .str c.setupScript),
    ("assertion_script", Json.ofOption .str c.assertionScript)]

end TestCase
end TestScenario
