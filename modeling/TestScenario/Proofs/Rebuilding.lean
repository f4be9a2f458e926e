import Mathlib
import TestScenario.Proofs.Rows

/-!
Forests put together again. The rows of a forest, listed each before those inside it, give the same forest; and so do
the rows of a table in another order, if siblings with equal order numbers stand as before (`forest_rebuilt`). Both come
down to one fact: whether a forest has the rows of a table in their places depends only on which rows appear, and on how
siblings stand to each other in the table (`IsForest.transfer`).
-/

namespace TestScenario

namespace Step

/-- The rows of steps, each before those inside it. -/
def rows (steps : List Step) : List StepRow := (preorderAll steps).map (·.row)

theorem sublist_preorderAll (steps : List Step) : steps.Sublist (preorderAll steps) := by
  induction steps with
  | nil => exact .slnil
  | cons step rest ih =>
    rw [preorderAll, preorder_eq]
    exact (ih.trans (List.sublist_append_right _ _)).cons_cons step

theorem preorder_sublist_of_mem {steps : List Step} {step : Step} (member : step ∈ steps) :
    (preorder step).Sublist (preorderAll steps) := by
  have alone := (List.singleton_sublist.mpr member).flatMap preorder
  rwa [List.flatMap_singleton, ← preorderAll_eq] at alone

theorem preorderAll_children_sublist (step : Step) : (preorderAll step.children).Sublist (preorder step) := by
  rw [preorder_eq]
  exact List.sublist_cons_self _ _

theorem Among.preorder_sublist {steps : List Step} {step : Step} (among : Among steps step) :
    (preorder step).Sublist (preorderAll steps) := by
  induction among with
  | here member => exact preorder_sublist_of_mem member
  | inside member _ ih => exact ih.trans ((preorderAll_children_sublist _).trans (preorder_sublist_of_mem member))

/-- The steps inside a step stand in the order in which they are listed. -/
theorem Among.children_sublist {steps : List Step} {step : Step} (among : Among steps step) :
    step.children.Sublist (preorderAll steps) :=
  (sublist_preorderAll _).trans ((preorderAll_children_sublist step).trans among.preorder_sublist)

end Step

namespace Forest
open Step (preorderAll)

variable {table other siblings : List StepRow} {r q : StepRow} {forest : List Step}

/-! ### Tables without repeated ids -/

theorem lastRows_of_distinct (distinct : (table.map (·.id)).Nodup) : lastRows table = table := by
  induction table with
  | nil => rfl
  | cons first rest ih =>
    obtain ⟨fresh, distinct⟩ := List.nodup_cons.mp distinct
    rcases lastRows_cons first rest with ⟨-, same⟩ | ⟨⟨q, member, again⟩, -⟩
    · rw [same, ih distinct]
    · exact absurd (List.mem_map.mpr ⟨q, member, again⟩) fresh

theorem isLast_iff_mem (distinct : (table.map (·.id)).Nodup) : IsLast table r ↔ r ∈ table := by
  rw [← mem_lastRows, lastRows_of_distinct distinct]

theorem precedes_iff_sublist (distinct : (table.map (·.id)).Nodup) : Precedes table r q ↔ [r, q].Sublist table := by
  rw [← pair_sublist_lastRows, lastRows_of_distinct distinct]

/-! ### One forest, two tables -/

theorem AtTop.mono (top : AtTop table r) (fewer : ∀ q ∈ other, q ∈ table) : AtTop other r := by
  cases top with
  | parentless none => exact .parentless none
  | orphan parent missing => exact .orphan parent fun q member => missing q (fewer q member)
  | selfish parent => exact .selfish parent

theorem not_atTop {p : StepRow} (member : p ∈ table) (parent : r.parent = some p.id) (differs : r.id ≠ p.id) :
    ¬ AtTop table r := by
  intro top
  cases top with
  | parentless none => exact absurd (parent.symm.trans none) nofun
  | orphan named missing => exact missing p member (Option.some.inj (parent.symm.trans named))
  | selfish named => exact differs (Option.some.inj (named.symm.trans parent))

instance : Decidable (AtTop table r) := decidable_of_iff _ isRoot_iff

/-- Two rows belong at one place: at the top, or inside the row that both name as their parent. -/
def Siblings (table : List StepRow) (r q : StepRow) : Prop :=
  AtTop table r ∧ AtTop table q ∨ ¬ AtTop table r ∧ ¬ AtTop table q ∧ r.parent = q.parent

instance : Decidable (Siblings table r q) := inferInstanceAs (Decidable (_ ∨ _))

theorem IsForest.mem_of_mem_rows (isForest : IsForest table forest) (member : r ∈ Step.rows forest) : r ∈ table :=
  mem_of_mem_lastRows (mem_lastRows.mpr ((isForest.appear r).mp member).1)

/-- The rows of a forest that stand side by side: those at the top, and those inside one step. -/
inductive Group (forest : List Step) : List StepRow → Prop
  | tops : Group forest (forest.map (·.row))
  | children {step : Step} (member : step ∈ preorderAll forest) : Group forest (step.children.map (·.row))

theorem Group.sublist (group : Group forest siblings) : siblings.Sublist (Step.rows forest) := by
  cases group with
  | tops => exact (Step.sublist_preorderAll forest).map _
  | children member => exact (Step.mem_preorderAll.mp member).children_sublist.map _

theorem IsForest.side_by_side (isForest : IsForest table forest) (group : Group forest siblings) (left : r ∈ siblings)
    (right : q ∈ siblings) : Siblings table r q := by
  cases group with
  | tops => exact .inl ⟨((isForest.tops r).mp left).2, ((isForest.tops q).mp right).2⟩
  | @children step member =>
    have above : step.row ∈ table := isForest.mem_of_mem_rows (List.mem_map_of_mem member)
    obtain ⟨-, parent, differs⟩ := (isForest.children step member r).mp left
    obtain ⟨-, parentToo, differsToo⟩ := (isForest.children step member q).mp right
    exact .inr ⟨not_atTop above parent differs, not_atTop above parentToo differsToo, parent.trans parentToo.symm⟩

theorem ordered_both_iff : ordered r q ∧ ordered q r ↔ r.order = q.order := by
  unfold ordered
  generalize r.order = a
  generalize q.order = b
  rcases a with _ | a <;> rcases b with _ | b <;> simp
  exact Int.le_antisymm_iff.symm

/-- Rows in the order of one table are in the order of another one, if that has those with equal order numbers alike. -/
theorem inOrder_transfer (inOrder : siblings.Pairwise (Before table))
    (alike : ∀ r q, [r, q].Sublist siblings → r.order = q.order → Precedes table r q → Precedes other r q) :
    siblings.Pairwise (Before other) := by
  refine List.pairwise_iff_forall_sublist.mpr fun {r q} pair => ?_
  obtain ⟨may, tie⟩ := before_iff.mp (List.pairwise_iff_forall_sublist.mp inOrder pair)
  exact before_iff.mpr ⟨may, fun back => alike r q pair (ordered_both_iff.mp ⟨may, back⟩) (tie back)⟩

/-- A forest that has the rows of one table in their places has those of another table in their places, if the same
    rows appear, the same of them at the top, and siblings with equal order numbers stand alike. -/
theorem IsForest.transfer (isForest : IsForest table forest)
    (appear : ∀ r, r ∈ Step.rows forest ↔ IsLast other r ∧ Rooted other r)
    (tops : ∀ r ∈ Step.rows forest, AtTop table r ↔ AtTop other r)
    (alike : ∀ siblings, Group forest siblings →
      ∀ r q, [r, q].Sublist siblings → r.order = q.order → Precedes table r q → Precedes other r q) :
    IsForest other forest where
  appear := appear
  once := isForest.once
  tops r := (isForest.tops r).trans (and_congr_right fun member => tops r member)
  children := isForest.children
  topsInOrder := inOrder_transfer isForest.topsInOrder (alike _ .tops)
  childrenInOrder step member := inOrder_transfer (isForest.childrenInOrder step member) (alike _ (.children member))

theorem IsForest.eq_ofRows (isForest : IsForest table forest) : forest = ofRows table := isForest.eq_grown le_rfl

/-! ### The rows of a forest -/

theorem IsForest.distinct (isForest : IsForest table forest) : ((Step.rows forest).map (·.id)).Nodup := by
  rw [Step.rows, List.map_map]
  exact isForest.once

theorem IsForest.rooted_rows (isForest : IsForest table forest) (last : IsLast table r) (rooted : Rooted table r) :
    Rooted (Step.rows forest) r := by
  induction rooted with
  | top top => exact .top (top.mono fun q => isForest.mem_of_mem_rows)
  | inside parent lastAbove above ih =>
    have listed := (isForest.appear _).mpr ⟨lastAbove, above⟩
    exact .inside parent ((isLast_iff_mem isForest.distinct).mpr listed) (ih lastAbove)

/-- Among the rows that appear, none gets to the top because another one is missing now. -/
theorem IsForest.atTop_rows_iff (isForest : IsForest table forest) (member : r ∈ Step.rows forest) :
    AtTop table r ↔ AtTop (Step.rows forest) r := by
  refine ⟨fun top => top.mono fun q => isForest.mem_of_mem_rows, fun top => ?_⟩
  by_contra below
  -- A row below the top appears together with its parent, which is therefore not missing.
  cases ((isForest.appear r).mp member).2 with
  | top above => exact below above
  | @inside _ p parent last rooted =>
    by_cases itself : r.id = p.id
    · exact below (.selfish (itself ▸ parent))
    · exact not_atTop ((isForest.appear p).mpr ⟨last, rooted⟩) parent itself top

/-- A forest has its own rows in their places. -/
theorem IsForest.of_rows (isForest : IsForest table forest) : IsForest (Step.rows forest) forest := by
  have distinct := isForest.distinct
  refine isForest.transfer (fun r => ?_) (fun r => isForest.atTop_rows_iff) ?_
  · rw [isLast_iff_mem distinct]
    refine ⟨fun member => ⟨member, ?_⟩, And.left⟩
    obtain ⟨last, rooted⟩ := (isForest.appear r).mp member
    exact isForest.rooted_rows last rooted
  · intro siblings group r q pair _ _
    rw [precedes_iff_sublist distinct]
    exact pair.trans group.sublist

/-! ### The rows of a table in another order -/

/-- A table has the rows of another one, of which no two share an id, and has siblings with equal order numbers, or
    without any, in the same order. -/
structure Reordered (table other : List StepRow) : Prop where
  distinct : (table.map (·.id)).Nodup
  perm : table.Perm other
  alike : ∀ r q, Siblings table r q → r.order = q.order → [r, q].Sublist table → [r, q].Sublist other

theorem Reordered.distinct_other (reordered : Reordered table other) : (other.map (·.id)).Nodup :=
  (reordered.perm.map _).nodup_iff.mp reordered.distinct

theorem Reordered.atTop_iff (reordered : Reordered table other) : AtTop table r ↔ AtTop other r :=
  ⟨fun top => top.mono fun _ => reordered.perm.mem_iff.mpr, fun top => top.mono fun _ => reordered.perm.mem_iff.mp⟩

theorem Rooted.of_perm (perm : table.Perm other) (distinct : (table.map (·.id)).Nodup) (rooted : Rooted table r) :
    Rooted other r := by
  have distinctToo := (perm.map (·.id)).nodup_iff.mp distinct
  induction rooted with
  | top top => exact .top (top.mono fun _ => perm.mem_iff.mpr)
  | inside parent last _ ih =>
    have listed := perm.mem_iff.mp ((isLast_iff_mem distinct).mp last)
    exact .inside parent ((isLast_iff_mem distinctToo).mpr listed) ih

theorem Reordered.appears_iff (reordered : Reordered table other) :
    IsLast table r ∧ Rooted table r ↔ IsLast other r ∧ Rooted other r := by
  have distinct := reordered.distinct
  have distinctToo := reordered.distinct_other
  rw [isLast_iff_mem distinct, isLast_iff_mem distinctToo, reordered.perm.mem_iff]
  exact and_congr_right fun _ => ⟨.of_perm reordered.perm distinct, .of_perm reordered.perm.symm distinctToo⟩

theorem Reordered.isForest (reordered : Reordered table other) (isForest : IsForest table forest) :
    IsForest other forest := by
  refine isForest.transfer (fun r => (isForest.appear r).trans reordered.appears_iff) (fun r _ => reordered.atTop_iff) ?_
  intro siblings group r q pair same stands
  rw [precedes_iff_sublist reordered.distinct] at stands
  rw [precedes_iff_sublist reordered.distinct_other]
  have left : r ∈ siblings := pair.subset List.mem_cons_self
  have right : q ∈ siblings := pair.subset (List.mem_cons_of_mem _ List.mem_cons_self)
  exact reordered.alike r q (isForest.side_by_side group left right) same stands

/-- The rows of a forest, listed each before those inside it, give the same forest again. So do the rows of the table
    in another order, if they have different ids and siblings with equal order numbers stand as before. -/
theorem forest_rebuilt (table : List StepRow) :
    ofRows (Step.rows (ofRows table)) = ofRows table ∧
      ∀ other, Reordered table other → ofRows other = ofRows table := by
  have isForest := ofRows_isForest table
  exact ⟨isForest.of_rows.eq_ofRows.symm, fun other reordered => (reordered.isForest isForest).eq_ofRows.symm⟩

/-- Rows with two siblings of one order number, a root with a missing parent and one that is its own parent, both with
    one order number, and two rows inside each other; and the same rows shuffled. -/
theorem forest_rebuilt_of_shuffled :
    let row : Int → StepRow := fun id =>
      match id with
      | 2 => { id, parent := some 9, kind := .wait, order := some 1 }
      | 3 => { id, parent := some 3, kind := .wait, order := some 1 }
      | 4 | 5 => { id, parent := some 1, kind := .wait, order := some 1 }
      | 6 => { id, parent := some 7, kind := .wait }
      | 7 => { id, parent := some 6, kind := .wait }
      | _ => { id, kind := .group }
    let table := [1, 2, 3, 4, 5, 6, 7].map row
    let shuffled := [7, 4, 2, 6, 5, 1, 3].map row
    Reordered table shuffled ∧ ofRows shuffled = ofRows table ∧
      (ofRows table).map (fun step => (step.row.id, step.children.map (·.row.id))) = [(2, []), (3, []), (1, [4, 5])] := by
  intro row table shuffled
  have reordered : Reordered table shuffled := by
    refine ⟨by decide, List.Perm.map row (by decide), fun r q => ?_⟩
    have alike : [1, 2, 3, 4, 5, 6, 7].Pairwise fun a b => Siblings table (row a) (row b) →
        (row a).order = (row b).order → [a, b].Sublist [7, 4, 2, 6, 5, 1, 3] := by decide
    have rows : table.Pairwise fun r q => Siblings table r q → r.order = q.order → [r, q].Sublist shuffled :=
      List.pairwise_map.mpr (alike.imp fun stands siblings same => (stands siblings same).map row)
    exact fun siblings same pair => List.pairwise_iff_forall_sublist.mp rows pair siblings same
  exact ⟨reordered, (forest_rebuilt table).2 shuffled reordered, by cbv⟩

end Forest
end TestScenario
