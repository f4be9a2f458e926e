import TestScenario.Text.Blank

/-!
Why calls fail.
-/

namespace TestScenario

/-- Why a call failed: the causes, outermost first. -/
structure Fault where
  causes : List String
deriving DecidableEq, Repr, Inhabited

namespace Fault

/-- A fault with a single cause. -/
def because (cause : String) : Fault := ⟨[cause]⟩

/-- The fault with one more cause around it. -/
def within (f : Fault) (cause : String) : Fault := ⟨cause :: f.causes⟩

/-- The outermost cause. -/
def message (f : Fault) : String := f.causes.headD ""

/-- All causes. -/
def chain (f : Fault) : String := Text.join ": " f.causes

end Fault

end TestScenario
