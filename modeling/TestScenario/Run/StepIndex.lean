import TestScenario.Text.Table

/-!
The names by which steps are referred to.

A name belongs to the step that was registered with it last, and a step has the name that it was registered with last.
-/

namespace TestScenario

/-- Steps by name and names by step. -/
structure StepIndex where
  idOf : Table String Int := []
  nameOf : Table Int String := []

namespace StepIndex

/-- The step of a name. -/
def id? (x : StepIndex) (name : String) : Option Int := x.idOf.get? name

/-- The name of a step. -/
def name? (x : StepIndex) (id : Int) : Option String := x.nameOf.get? id

/-- A step registered under a name; an empty name registers nothing. -/
def register (x : StepIndex) (id : Int) (name : String) : StepIndex :=
  if name.isEmpty then x
  else
    let nameOf := match x.id? name with
      | some earlier => if earlier = id then x.nameOf else x.nameOf.erase earlier
      | none => x.nameOf
    let idOf := x.idOf.put name id
    let idOf := match Table.get? nameOf id with
      | some old => if old ≠ name ∧ idOf.get? old = some id then idOf.erase old else idOf
      | none => idOf
    { idOf, nameOf := nameOf.put id name }

end StepIndex
end TestScenario
