import TestScenario.Script.Eval
import TestScenario.Script.Grammar
import TestScenario.Script.Statement
import TestScenario.Json.Writer
import TestScenario.Pattern.Class

/-!
Scripts over a table of variables.

An assignment stores the value of its right-hand side; the value of a script is that of its last statement. Variables
hold JSON, so that every value that is stored or returned becomes JSON first.
-/

namespace TestScenario.Script

/-- Why a script fails. -/
inductive ScriptError where
  | notAnExpression (source : String)
  | failed (cause : EvalError)
  | noJson (span : Calendar.Span)

/-- The failure in words. -/
def ScriptError.message : ScriptError → String
  | .notAnExpression source => "CEL compile error for '" ++ source ++ "'"
  | .failed cause => "CEL execution error: " ++ cause.message
  | .noJson span =>
    "Failed to convert CEL value to JSON: duration too large to convert to nanoseconds: " ++ span.shown

/-- Whether a word may start after a character. -/
def isEdge (previous : Option Char) : Bool := !previous.any Pattern.Class.isWord

/-- Other names of functions replaced by their usual ones: each name that starts a word before a parenthesis. -/
def unalias (previous : Option Char) : List Char → List Char
  | [] => []
  | 'l' :: 'e' :: 'n' :: '(' :: rest =>
    if isEdge previous then ['s', 'i', 'z', 'e', '('] ++ unalias (some '(') rest
    else ['l', 'e', 'n', '('] ++ unalias (some '(') rest
  | 't' :: 'y' :: 'p' :: 'e' :: '(' :: rest =>
    if isEdge previous then ['t', 'y', 'p', 'e', '_', 'o', 'f', '('] ++ unalias (some '(') rest
    else ['t', 'y', 'p', 'e', '('] ++ unalias (some '(') rest
  | c :: rest => c :: unalias (some c) rest

/-- What the variables stand for. -/
def envOf (vars : Members) : Env := vars.map fun (n, v) => (n, Value.ofJson v)

/-- The value of an expression. -/
def evaluate (expression : List Char) (vars : Members) : Except ScriptError Value :=
  let source := String.ofList (unalias none expression)
  match Expr.ofText source with
  | none => .error (.notAnExpression source)
  | some e => (e.eval (envOf vars)).mapError .failed

/-- The value of an expression as JSON. -/
def evaluateJson (expression : List Char) (vars : Members) : Except ScriptError Json := do
  (← evaluate expression vars).toJson.mapError .noJson

/-- What the variables are after a script, and its outcome; assignments before a failure stay. -/
structure Ran (α : Type) where
  vars : Members
  outcome : Except ScriptError α

/-- The statements in turn; `last` is the value of the one before. -/
def runStatements (last : Json) (vars : Members) : List (List Char) → Ran Json
  | [] => ⟨vars, .ok last⟩
  | s :: rest =>
    match assignment? s with
    | some (name, right) =>
      match evaluateJson right vars with
      | .ok v => runStatements v (vars.insert name v) rest
      | .error e => ⟨vars, .error e⟩
    | none =>
      match evaluateJson s vars with
      | .ok v => runStatements v vars rest
      | .error e => ⟨vars, .error e⟩

/-- A script; its value is null if it has no statement. -/
def run (script : String) (vars : Members) : Ran Json := runStatements .null vars (statementChars script.toList)

/-- The statements in turn up to the first that is no assignment and does not pass. -/
def checkStatements (vars : Members) : List (List Char) → Ran (Option String)
  | [] => ⟨vars, .ok none⟩
  | s :: rest =>
    match assignment? s with
    | some (name, right) =>
      match evaluateJson right vars with
      | .ok v => checkStatements (vars.insert name v) rest
      | .error e => ⟨vars, .error e⟩
    | none =>
      match evaluate s vars with
      | .ok v => if v.isTruthy then checkStatements vars rest else ⟨vars, .ok (some (String.ofList s))⟩
      | .error e => ⟨vars, .error e⟩

/-- The first statement of a script that is no assignment and does not pass, if there is one. -/
def check (script : String) (vars : Members) : Ran (Option String) :=
  checkStatements vars (statementChars script.toList)

end TestScenario.Script

namespace TestScenario.Json

/-- Whether a value lets a condition hold: true, or text that reads as true in any case. -/
def holds : Json → Bool
  | .bool b => b
  | v => Text.sameIgnoringCase v.text "true"

end TestScenario.Json
