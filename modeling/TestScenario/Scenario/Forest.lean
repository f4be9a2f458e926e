import TestScenario.Scenario.Step

/-!
The steps of a scenario as a forest, put together from the rows of a table.

Of several rows with one id the last one counts. A row without a parent, with a missing parent or with itself as
parent is a root; rows that no root leads to are left out. Siblings stand in the order of their order numbers, those
without a number last, and in the order of the table where these agree.
-/

namespace TestScenario.Forest

/-- The last row of each id. -/
def lastRows : List StepRow → List StepRow
  | [] => []
  | r :: rest => if rest.any (·.id == r.id) then lastRows rest else r :: lastRows rest

/-- Whether a row stands at the top, given all rows. -/
def isRoot (rows : List StepRow) (r : StepRow) : Bool :=
  match r.parent with
  | none => true
  | some p => p == r.id || !rows.any (·.id == p)

/-- Whether a row may stand before its sibling. -/
def ordered (r s : StepRow) : Bool :=
  match r.order, s.order with
  | _, none => true
  | none, some _ => false
  | some a, some b => a ≤ b

/-- Siblings in order. -/
def arranged (rows : List StepRow) : List StepRow := rows.mergeSort ordered

/-- The rows whose parent is given, in order. -/
def childrenOf (rows : List StepRow) (id : Int) : List StepRow :=
  arranged (rows.filter fun r => r.parent == some id && r.id != id)

/-- A row with everything below it, down to a number of levels. -/
def grow (rows : List StepRow) : (levels : Nat) → StepRow → Step
  | 0, r => ⟨r, []⟩
  | levels + 1, r => ⟨r, (childrenOf rows r.id).map (grow rows levels)⟩

/-- The forest of a table; no path through it has more steps than the table has rows. -/
def ofRows (table : List StepRow) : List Step :=
  let rows := lastRows table
  (arranged (rows.filter (isRoot rows))).map (grow rows rows.length)

end TestScenario.Forest
