/-!
How the scalars of YAML documents are written.
-/

namespace TestScenario.Document

/-- The ways to write a scalar: plain, in quotes, or as a block whose lines stay lines or are folded. -/
inductive Style where
  | plain
  | quoted
  | literal
  | folded
deriving DecidableEq, Repr

end TestScenario.Document
