/-!
Tables under keys of any type: lists of pairs, each key once, in the order in which the keys were first put in.
-/

namespace TestScenario

/-- A table of values under keys. -/
abbrev Table (κ α : Type) := List (κ × α)

namespace Table
variable {κ α : Type} [DecidableEq κ]

/-- The value under a key. -/
def get? (t : Table κ α) (k : κ) : Option α := t.lookup k

/-- The table with a value under a key. -/
def put (k : κ) (v : α) : Table κ α → Table κ α
  | [] => [(k, v)]
  | (j, w) :: rest => if j = k then (k, v) :: rest else (j, w) :: put k v rest

@[simp] theorem get?_nil (k : κ) : get? ([] : Table κ α) k = none := rfl

theorem get?_cons (j k : κ) (v : α) (t : Table κ α) : get? ((j, v) :: t) k = if k = j then some v else get? t k := by
  by_cases same : k = j
  · simp [get?, same]
  · have different : (k == j) = false := beq_false_of_ne same
    simp only [get?, List.lookup_cons, different, same, if_false]

/-- The key that is put has its new value; all others keep theirs. -/
theorem get?_put (j k : κ) (v : α) (t : Table κ α) : (t.put j v).get? k = if k = j then some v else t.get? k := by
  induction t with
  | nil => rw [put, get?_cons, get?_nil]
  | cons pair rest ih =>
    obtain ⟨i, w⟩ := pair
    unfold put
    by_cases here : i = j
    · subst here
      rw [if_pos rfl, get?_cons, get?_cons]
      split <;> rfl
    · rw [if_neg here, get?_cons, ih, get?_cons]
      by_cases same : k = i
      · simp [same, here]
      · simp [same]

/-- The table without a key. -/
def erase (t : Table κ α) (k : κ) : Table κ α := t.filter fun (j, _) => j ≠ k

@[simp] theorem get?_erase_self (k : κ) (t : Table κ α) : (t.erase k).get? k = none := by
  induction t with
  | nil => rfl
  | cons pair rest ih =>
    obtain ⟨i, w⟩ := pair
    unfold erase at ih ⊢
    rw [List.filter_cons]
    by_cases gone : i = k
    · rw [if_neg (by simpa using gone), ih]
    · rw [if_pos (by simpa using gone), get?_cons, if_neg (Ne.symm gone), ih]

/-- Keys other than the erased one keep their values. -/
theorem get?_erase_of_ne {k j : κ} (other : k ≠ j) (t : Table κ α) : (t.erase j).get? k = t.get? k := by
  induction t with
  | nil => rfl
  | cons pair rest ih =>
    obtain ⟨i, w⟩ := pair
    unfold erase at ih ⊢
    rw [List.filter_cons, get?_cons]
    by_cases gone : i = j
    · rw [if_neg (by simpa using gone), ih, if_neg fun same => other (same.trans gone)]
    · rw [if_pos (by simpa using gone), get?_cons, ih]

end Table
end TestScenario
