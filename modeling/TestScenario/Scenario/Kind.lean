import TestScenario.Document.Source

/-!
The kinds of steps.
-/

namespace TestScenario

/-- What a step does: call a test case, hold other steps together, run them on a condition or again and again, wait,
    run a script, or run another scenario. -/
inductive StepKind where
  | testCase
  | group
  | condition
  | loop
  | wait
  | script
  | scenario
deriving DecidableEq, Repr

namespace StepKind

/-- All kinds. -/
def all : List StepKind := [.testCase, .group, .condition, .loop, .wait, .script, .scenario]

/-- The word for a kind. -/
def name : StepKind → String
  | .testCase => "CASE"
  | .group => "GROUP"
  | .condition => "IF"
  | .loop => "LOOP"
  | .wait => "WAIT"
  | .script => "SCRIPT"
  | .scenario => "SCENARIO"

/-- The kind that a word stands for. -/
def ofName? (s : String) : Option StepKind := all.find? (·.name == s)

/-- Whether steps of the kind have a result of their own. -/
def isLeaf : StepKind → Bool
  | .testCase => true
  | .script => true
  | _ => false

/-- A kind from a document. -/
def read : Document.Source → Option StepKind := Document.Source.word ofName?

end StepKind
end TestScenario
