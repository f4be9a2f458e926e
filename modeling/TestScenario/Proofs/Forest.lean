import Mathlib.Data.List.Pairwise
import TestScenario.Scenario.Forest

/-!
The steps of a forest and the steps inside them. Every step of a forest stands for a row of its table, and no step has
one of its own id inside it (`id_ne_of_inside`).
-/

namespace TestScenario

/-- A step is one of some steps, or inside one of them. -/
inductive Step.Among : List Step → Step → Prop
  | here {steps : List Step} {step : Step} (member : step ∈ steps) : Among steps step
  | inside {steps : List Step} {step inner : Step} (member : step ∈ steps) (within : Among step.children inner) :
      Among steps inner

namespace Step.Among
variable {steps more : List Step} {step inner : Step}

theorem mono (sub : ∀ s ∈ steps, s ∈ more) (among : Among steps step) : Among more step := by
  cases among with
  | here member => exact .here (sub _ member)
  | inside member within => exact .inside (sub _ member) within

theorem not_nil : ¬ Among [] step := by
  intro among
  cases among with
  | here member => cases member
  | inside member => cases member

theorem singleton_iff : Among [step] inner ↔ inner = step ∨ Among step.children inner := by
  constructor
  · intro among
    cases among with
    | here member => exact .inl (List.mem_singleton.mp member)
    | inside member within => exact .inr (List.mem_singleton.mp member ▸ within)
  · rintro (same | within)
    · exact same ▸ .here (List.mem_singleton.mpr rfl)
    · exact .inside (List.mem_singleton.mpr rfl) within

end Step.Among

namespace Forest
open Step (Among)
variable {rows table : List StepRow} {r q : StepRow} {n m levels : Nat}

theorem mem_of_mem_lastRows (member : r ∈ lastRows table) : r ∈ table := by
  induction table with
  | nil => exact member
  | cons first rest ih =>
    unfold lastRows at member
    split at member
    · exact List.mem_cons_of_mem _ (ih member)
    · rcases List.mem_cons.mp member with same | later
      · exact same ▸ List.mem_cons_self
      · exact List.mem_cons_of_mem _ (ih later)

/-- Only one row is left of those with one id. -/
theorem lastRows_pairwise (table : List StepRow) : (lastRows table).Pairwise (·.id ≠ ·.id) := by
  induction table with
  | nil => exact .nil
  | cons first rest ih =>
    unfold lastRows
    split
    · exact ih
    · rename_i fresh
      refine .cons (fun q member same => fresh ?_) ih
      exact List.any_eq_true.mpr ⟨q, mem_of_mem_lastRows member, beq_iff_eq.mpr same.symm⟩

theorem eq_of_id_eq (unique : rows.Pairwise (·.id ≠ ·.id)) (left : r ∈ rows) (right : q ∈ rows) (same : r.id = q.id) :
    r = q := by
  have : Std.Symm fun a b : StepRow => a.id ≠ b.id := ⟨fun _ _ differ => differ.symm⟩
  by_contra other
  exact unique.forall left right other same

/-- A row is reached from the top in a number of steps down. -/
inductive Reached (rows : List StepRow) : Nat → StepRow → Prop
  | top {r : StepRow} (member : r ∈ rows) (root : isRoot rows r) : Reached rows 0 r
  | child {n : Nat} {p r : StepRow} (above : Reached rows n p) (member : r ∈ rows) (parent : r.parent = some p.id)
      (other : r.id ≠ p.id) : Reached rows (n + 1) r

theorem Reached.mem (reached : Reached rows n r) : r ∈ rows := by
  cases reached with
  | top member => exact member
  | child _ member => exact member

/-- A row with a parent of its own is not at the top. -/
theorem not_isRoot {p : StepRow} (member : p ∈ rows) (parent : r.parent = some p.id) (other : r.id ≠ p.id) :
    ¬ isRoot rows r := by
  have found : rows.any (·.id == p.id) = true := List.any_eq_true.mpr ⟨p, member, beq_iff_eq.mpr rfl⟩
  have differs : (p.id == r.id) = false := beq_eq_false_iff_ne.mpr other.symm
  unfold isRoot
  simp only [parent, found, differs, Bool.not_true, Bool.or_self, Bool.false_eq_true, not_false_eq_true]

/-- The way down to a row is as long as any other way to a row of its id. -/
theorem Reached.depth_eq (unique : rows.Pairwise (·.id ≠ ·.id)) (reached : Reached rows n r) (again : Reached rows m q)
    (same : r.id = q.id) : n = m := by
  have equal := eq_of_id_eq unique reached.mem again.mem same
  subst equal
  induction reached generalizing m with
  | top _ root =>
    cases again with
    | top => rfl
    | child above _ parent other => exact absurd root (not_isRoot above.mem parent other)
  | child above _ parent other ih =>
    cases again with
    | top _ root => exact absurd root (not_isRoot above.mem parent other)
    | child aboveToo _ parentToo _ =>
      have ids := Option.some.inj (parent.symm.trans parentToo)
      have rows := eq_of_id_eq unique above.mem aboveToo.mem ids
      exact congrArg (· + 1) (ih (rows ▸ aboveToo) rfl)

@[simp] theorem grow_row (rows : List StepRow) (levels : Nat) (r : StepRow) : (grow rows levels r).row = r := by
  cases levels <;> rfl

/-- Every step inside a grown one is grown itself, further down and with as many levels less. -/
theorem grow_inside {inner : Step} (reached : Reached rows n r) (within : Among (grow rows levels r).children inner) :
    ∃ k m q, inner = grow rows k q ∧ Reached rows m q ∧ n < m ∧ m + k = n + levels := by
  induction levels generalizing n r with
  | zero => exact absurd within Among.not_nil
  | succ levels ih =>
    have child {s : Step} (member : s ∈ (grow rows (levels + 1) r).children) :
        ∃ q, s = grow rows levels q ∧ Reached rows (n + 1) q := by
      obtain ⟨q, listed, rfl⟩ := List.mem_map.mp member
      obtain ⟨known, fits⟩ := List.mem_filter.mp (List.mem_mergeSort.mp listed)
      rw [Bool.and_eq_true, beq_iff_eq, bne_iff_ne] at fits
      exact ⟨q, rfl, .child reached known fits.1 fits.2⟩
    cases within with
    | here member =>
      obtain ⟨q, grown, deeper⟩ := child member
      exact ⟨levels, n + 1, q, grown, deeper, Nat.lt_succ_self n, by omega⟩
    | inside member further =>
      obtain ⟨q, grown, deeper⟩ := child member
      obtain ⟨k, m, p, grownToo, reachedToo, less, sum⟩ := ih deeper (grown ▸ further)
      exact ⟨k, m, p, grownToo, reachedToo, by omega, by omega⟩

theorem ofRows_grown {step : Step} (among : Among (ofRows table) step) :
    ∃ k n q, step = grow (lastRows table) k q ∧ Reached (lastRows table) n q ∧ n + k = (lastRows table).length := by
  have root {s : Step} (member : s ∈ ofRows table) :
      ∃ q, s = grow (lastRows table) (lastRows table).length q ∧ Reached (lastRows table) 0 q := by
    obtain ⟨q, listed, rfl⟩ := List.mem_map.mp member
    obtain ⟨known, top⟩ := List.mem_filter.mp (List.mem_mergeSort.mp listed)
    exact ⟨q, rfl, .top known top⟩
  cases among with
  | here member =>
    obtain ⟨q, grown, top⟩ := root member
    exact ⟨_, 0, q, grown, top, Nat.zero_add _⟩
  | inside member within =>
    obtain ⟨q, grown, top⟩ := root member
    obtain ⟨k, m, p, grownToo, reached, -, sum⟩ := grow_inside top (grown ▸ within)
    exact ⟨k, m, p, grownToo, reached, sum.trans (Nat.zero_add _)⟩

/-- Every step of a forest stands for the last row of its id. -/
theorem row_mem_lastRows {step : Step} (among : Among (ofRows table) step) : step.row ∈ lastRows table := by
  obtain ⟨k, n, q, rfl, reached, -⟩ := ofRows_grown among
  rw [grow_row]
  exact reached.mem

/-- No step of a forest has one of its own id inside it. -/
theorem id_ne_of_inside {step inner : Step} (among : Among (ofRows table) step) (within : Among step.children inner) :
    inner.row.id ≠ step.row.id := by
  obtain ⟨k, n, q, rfl, reached, -⟩ := ofRows_grown among
  obtain ⟨l, m, p, rfl, reachedToo, deeper, -⟩ := grow_inside reached within
  rw [grow_row, grow_row]
  intro same
  have level := reachedToo.depth_eq (lastRows_pairwise table) reached same
  omega

end Forest
end TestScenario
