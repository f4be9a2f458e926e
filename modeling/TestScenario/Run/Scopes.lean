import TestScenario.Json.Value

/-!
Scopes of variables, one inside the other.

The global scope is always there. A name means the variable of the innermost scope that has it.
-/

namespace TestScenario

/-- The global scope and the scopes inside it, innermost first. -/
structure Scopes where
  globals : Members := []
  inner : List Members := []

namespace Scopes

/-- How many scopes there are. -/
def depth (s : Scopes) : Nat := s.inner.length + 1

/-- All scopes, innermost first. -/
def all (s : Scopes) : List Members := s.inner ++ [s.globals]

/-- The innermost scope. -/
def current (s : Scopes) : Members := s.inner.headD s.globals

/-- The scopes with a new innermost one. -/
def push (s : Scopes) : Scopes := { s with inner := [] :: s.inner }

/-- The innermost scope and those around it, unless it is the global one. -/
def pop? (s : Scopes) : Option (Members × Scopes) :=
  match s.inner with
  | [] => none
  | top :: rest => some (top, { s with inner := rest })

/-- The scopes without the innermost one; the global scope stays. -/
def dropTop (s : Scopes) : Scopes := { s with inner := s.inner.drop 1 }

/-- The value of a variable. -/
def get? (s : Scopes) (name : String) : Option Json := s.all.findSome? (·.get? name)

/-- Whether a variable is visible. -/
def contains (s : Scopes) (name : String) : Bool := (s.get? name).isSome

/-- The innermost scope changed by `f`. -/
def modifyTop (f : Members → Members) (s : Scopes) : Scopes :=
  match s.inner with
  | [] => { s with globals := f s.globals }
  | top :: rest => { s with inner := f top :: rest }

/-- A variable of the innermost scope set. -/
def setLocal (name : String) (value : Json) (s : Scopes) : Scopes := s.modifyTop (·.insert name value)

/-- Variables of the innermost scope set one after the other. -/
def setLocals (vars : List (String × Json)) (s : Scopes) : Scopes := vars.foldl (fun s (n, v) => s.setLocal n v) s

/-- A global variable set. -/
def setGlobal (name : String) (value : Json) (s : Scopes) : Scopes := { s with globals := s.globals.insert name value }

/-- Variables of one scope added to another where their names are free; with `only`, none but the names listed. -/
def exported (only : Option (List String)) (source target : Members) : Members :=
  source.foldl (fun acc (n, v) =>
    if only.all (·.contains n) && !acc.contains n then acc.insert n v else acc) target

/-- Variables of the innermost scope added to the one directly around it. -/
def mergeUp (only : Option (List String)) (s : Scopes) : Scopes :=
  match s.inner with
  | [] => s
  | [top] => { s with globals := exported only top s.globals }
  | top :: outer :: rest => { s with inner := top :: exported only top outer :: rest }

/-- All visible variables as one table. -/
def flatten (s : Scopes) : Members := s.inner.foldr (fun scope acc => acc.update scope) s.globals

end Scopes
end TestScenario
