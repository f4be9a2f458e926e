import Mathlib
import TestScenario.Proofs.Forest

/-!
Which forest belongs to a table of rows. A row that is the last one of its id stands in the forest once if its parents
lead to the top, and nowhere otherwise; the steps inside a step are the rows that name it as their parent, and siblings
stand in order. Only one forest is like that (`ofRows_is_forest`), and no bound on its depth is ever reached.
-/

namespace TestScenario

namespace Step

mutual
/-- A step before the steps inside it. -/
def preorder : Step → List Step
  | ⟨row, children⟩ => ⟨row, children⟩ :: preorderAll children
/-- Steps one after the other, each before the steps inside it. -/
def preorderAll : List Step → List Step
  | [] => []
  | step :: rest => preorder step ++ preorderAll rest
end

theorem preorder_eq (step : Step) : preorder step = step :: preorderAll step.children := by
  cases step with | mk row children => rfl

theorem preorderAll_eq (steps : List Step) : preorderAll steps = steps.flatMap preorder := by
  induction steps with
  | nil => rfl
  | cons step rest ih => rw [preorderAll, ih, List.flatMap_cons]

theorem mem_preorderAll_of_among {steps : List Step} {step : Step} (among : Among steps step) :
    step ∈ preorderAll steps := by
  induction among with
  | here member =>
    rw [preorderAll_eq]
    exact List.mem_flatMap.mpr ⟨_, member, preorder_eq _ ▸ List.mem_cons_self⟩
  | inside member within ih =>
    rw [preorderAll_eq]
    exact List.mem_flatMap.mpr ⟨_, member, preorder_eq _ ▸ List.mem_cons_of_mem _ ih⟩

mutual
theorem among_of_mem_preorder : ∀ {step inner : Step}, inner ∈ preorder step → Among [step] inner
  | ⟨row, children⟩, inner, member => by
    rcases List.mem_cons.mp member with same | within
    · exact .here (List.mem_singleton.mpr same)
    · exact .inside (List.mem_singleton.mpr rfl) (among_of_mem_preorderAll within)
theorem among_of_mem_preorderAll : ∀ {steps : List Step} {inner : Step}, inner ∈ preorderAll steps → Among steps inner
  | [], _, member => by cases member
  | step :: rest, inner, member => by
    rcases List.mem_append.mp member with first | later
    · exact (among_of_mem_preorder first).mono fun s only => List.mem_singleton.mp only ▸ List.mem_cons_self
    · exact (among_of_mem_preorderAll later).mono fun s => List.mem_cons_of_mem _
end

theorem mem_preorderAll {steps : List Step} {step : Step} : step ∈ preorderAll steps ↔ Among steps step :=
  ⟨among_of_mem_preorderAll, mem_preorderAll_of_among⟩

theorem Among.child {steps : List Step} {step child : Step} (among : Among steps step)
    (member : child ∈ step.children) : Among steps child := by
  induction among with
  | here above => exact .inside above (.here member)
  | inside above _ ih => exact .inside above (ih member)

end Step

namespace Forest
open Step (Among preorder preorderAll)

/-- A row of a table after which no other one has its id. -/
def IsLast (table : List StepRow) (r : StepRow) : Prop :=
  ∃ before after, table = before ++ r :: after ∧ ∀ q ∈ after, q.id ≠ r.id

/-- A row stands before another one, both being the last ones of their ids. -/
def Precedes (table : List StepRow) (r q : StepRow) : Prop :=
  ∃ before after, table = before ++ r :: after ∧ (∀ p ∈ after, p.id ≠ r.id) ∧ IsLast after q

/-- A row has no parent, or one that is missing, or itself. -/
inductive AtTop (table : List StepRow) (r : StepRow) : Prop
  | parentless (none : r.parent = none)
  | orphan {p : Int} (parent : r.parent = some p) (missing : ∀ q ∈ table, q.id ≠ p)
  | selfish (parent : r.parent = some r.id)

/-- From a row, one comes to the top by going to the row of the parent again and again. -/
inductive Rooted (table : List StepRow) : StepRow → Prop
  | top {r : StepRow} (top : AtTop table r) : Rooted table r
  | inside {r p : StepRow} (parent : r.parent = some p.id) (last : IsLast table p) (rooted : Rooted table p) :
      Rooted table r

/-- A row, other than the given one, that names it as its parent. -/
structure IsChild (table : List StepRow) (r p : StepRow) : Prop where
  last : IsLast table r
  parent : r.parent = some p.id
  other : r.id ≠ p.id

/-- The order of siblings: smaller order numbers before larger ones, none at the end, and as in the table where these
    agree. -/
def Before (table : List StepRow) (r q : StepRow) : Prop :=
  match r.order, q.order with
  | some a, some b => a < b ∨ a = b ∧ Precedes table r q
  | some _, none => True
  | none, some _ => False
  | none, none => Precedes table r q

/-- A forest has the rows of a table in their places. -/
structure IsForest (table : List StepRow) (forest : List Step) : Prop where
  /-- The rows that appear are the last ones of their ids whose parents lead to the top. -/
  appear : ∀ r, r ∈ (preorderAll forest).map (·.row) ↔ IsLast table r ∧ Rooted table r
  /-- No id appears twice. -/
  once : ((preorderAll forest).map (·.row.id)).Nodup
  /-- The rows at the top. -/
  tops : ∀ r, r ∈ forest.map (·.row) ↔ r ∈ (preorderAll forest).map (·.row) ∧ AtTop table r
  /-- The rows inside a step. -/
  children : ∀ step ∈ preorderAll forest, ∀ r,
    r ∈ step.children.map (·.row) ↔
      r ∈ (preorderAll forest).map (·.row) ∧ r.parent = some step.row.id ∧ r.id ≠ step.row.id
  topsInOrder : (forest.map (·.row)).Pairwise (Before table)
  childrenInOrder : ∀ step ∈ preorderAll forest, (step.children.map (·.row)).Pairwise (Before table)

variable {table rows : List StepRow} {r q p first : StepRow} {rest : List StepRow} {n m levels : Nat}

/-! ### The last rows of their ids -/

theorem isLast_cons : IsLast (first :: rest) r ↔ r = first ∧ (∀ q ∈ rest, q.id ≠ r.id) ∨ IsLast rest r := by
  constructor
  · rintro ⟨before, after, split, fresh⟩
    cases before with
    | nil =>
      obtain ⟨rfl, rfl⟩ := List.cons.inj split
      exact .inl ⟨rfl, fresh⟩
    | cons head before =>
      obtain ⟨-, split⟩ := List.cons.inj split
      exact .inr ⟨before, after, split, fresh⟩
  · rintro (⟨rfl, fresh⟩ | ⟨before, after, rfl, fresh⟩)
    · exact ⟨[], rest, rfl, fresh⟩
    · exact ⟨first :: before, after, rfl, fresh⟩

theorem precedes_cons :
    Precedes (first :: rest) r q ↔ r = first ∧ (∀ p ∈ rest, p.id ≠ r.id) ∧ IsLast rest q ∨ Precedes rest r q := by
  constructor
  · rintro ⟨before, after, split, fresh, last⟩
    cases before with
    | nil =>
      obtain ⟨rfl, rfl⟩ := List.cons.inj split
      exact .inl ⟨rfl, fresh, last⟩
    | cons head before =>
      obtain ⟨-, split⟩ := List.cons.inj split
      exact .inr ⟨before, after, split, fresh, last⟩
  · rintro (⟨rfl, fresh, last⟩ | ⟨before, after, rfl, fresh, last⟩)
    · exact ⟨[], rest, rfl, fresh, last⟩
    · exact ⟨first :: before, after, rfl, fresh, last⟩

/-- Whether a row is the last one of its id, given those behind it. -/
theorem lastRows_cons (first : StepRow) (rest : List StepRow) :
    (∀ q ∈ rest, q.id ≠ first.id) ∧ lastRows (first :: rest) = first :: lastRows rest ∨
      (∃ q ∈ rest, q.id = first.id) ∧ lastRows (first :: rest) = lastRows rest := by
  rw [lastRows]
  split
  · rename_i again
    obtain ⟨q, member, same⟩ := List.any_eq_true.mp again
    exact .inr ⟨⟨q, member, beq_iff_eq.mp same⟩, rfl⟩
  · rename_i fresh
    refine .inl ⟨fun q member same => fresh ?_, rfl⟩
    exact List.any_eq_true.mpr ⟨q, member, beq_iff_eq.mpr same⟩

theorem mem_lastRows : r ∈ lastRows table ↔ IsLast table r := by
  induction table with
  | nil => exact ⟨nofun, fun ⟨before, _, split, _⟩ => by cases before <;> cases split⟩
  | cons first rest ih =>
    rw [isLast_cons, ← ih]
    rcases lastRows_cons first rest with ⟨fresh, same⟩ | ⟨⟨q, member, again⟩, same⟩
    · rw [same, List.mem_cons]
      exact or_congr_left ⟨fun here => ⟨here, here ▸ fresh⟩, And.left⟩
    · rw [same]
      refine ⟨.inr, ?_⟩
      rintro (⟨rfl, fresh⟩ | later)
      · exact absurd again (fresh q member)
      · exact later

/-- The last rows stand in the order of the table. -/
theorem pair_sublist_lastRows : [r, q].Sublist (lastRows table) ↔ Precedes table r q := by
  induction table with
  | nil =>
    refine ⟨fun sub => ?_, fun ⟨before, _, split, _⟩ => by cases before <;> cases split⟩
    cases sub
  | cons first rest ih =>
    rw [precedes_cons, ← ih, ← mem_lastRows]
    rcases lastRows_cons first rest with ⟨fresh, same⟩ | ⟨⟨p, member, again⟩, same⟩
    · rw [same]
      constructor
      · intro sub
        cases sub with
        | cons _ later => exact .inr later
        | cons_cons _ alone => exact .inl ⟨rfl, fresh, List.singleton_sublist.mp alone⟩
      · rintro (⟨rfl, -, member⟩ | later)
        · exact (List.singleton_sublist.mpr member).cons_cons _
        · exact later.cons _
    · rw [same]
      refine ⟨.inr, ?_⟩
      rintro (⟨rfl, fresh, -⟩ | later)
      · exact absurd again (fresh p member)
      · exact later

/-- Every id of a table has its last row. -/
theorem exists_isLast (member : r ∈ table) : ∃ q, IsLast table q ∧ q.id = r.id := by
  induction table generalizing r with
  | nil => cases member
  | cons first rest ih =>
    have later {q : StepRow} (listed : q ∈ rest) : ∃ p, IsLast (first :: rest) p ∧ p.id = q.id := by
      obtain ⟨p, last, same⟩ := ih listed
      exact ⟨p, isLast_cons.mpr (.inr last), same⟩
    rcases List.mem_cons.mp member with rfl | listed
    · by_cases again : ∃ q ∈ rest, q.id = r.id
      · obtain ⟨q, listed, same⟩ := again
        exact same ▸ later listed
      · have fresh : ∀ q ∈ rest, q.id ≠ r.id := fun q listed same => again ⟨q, listed, same⟩
        exact ⟨r, isLast_cons.mpr (.inl ⟨rfl, fresh⟩), rfl⟩
    · exact later listed

theorem isRoot_iff : isRoot (lastRows table) r ↔ AtTop table r := by
  have known {p : Int} : (lastRows table).any (·.id == p) ↔ ∃ q ∈ table, q.id = p := by
    rw [List.any_eq_true]
    constructor
    · rintro ⟨q, listed, same⟩
      exact ⟨q, mem_of_mem_lastRows listed, beq_iff_eq.mp same⟩
    · rintro ⟨q, listed, rfl⟩
      obtain ⟨last, isLast, same⟩ := exists_isLast listed
      exact ⟨last, mem_lastRows.mpr isLast, beq_iff_eq.mpr same⟩
  unfold isRoot
  cases parent : r.parent with
  | none => exact ⟨fun _ => .parentless parent, fun _ => rfl⟩
  | some p =>
    simp only [Bool.or_eq_true, beq_iff_eq, Bool.not_eq_true', ← Bool.not_eq_true, known]
    constructor
    · rintro (rfl | missing)
      · exact .selfish parent
      · exact .orphan parent fun q listed same => missing ⟨q, listed, same⟩
    · rintro (none | ⟨named, missing⟩ | named)
      · exact absurd (parent.symm.trans none) nofun
      · cases parent.symm.trans named
        exact .inr fun ⟨q, listed, same⟩ => missing q listed same
      · exact .inl (Option.some.inj (parent.symm.trans named))

/-! ### The order of siblings -/

theorem ordered_trans (r q p : StepRow) (first : ordered r q) (second : ordered q p) : ordered r p := by
  unfold ordered at *
  generalize r.order = a at *
  generalize q.order = b at *
  generalize p.order = c at *
  rcases a with _ | a <;> rcases b with _ | b <;> rcases c with _ | c <;> simp_all
  omega

theorem ordered_total (r q : StepRow) : ordered r q || ordered q r := by
  unfold ordered
  generalize r.order = a
  generalize q.order = b
  rcases a with _ | a <;> rcases b with _ | b <;> simp
  exact Int.le_total a b

/-- A row stands before another one if it may, and, should the other one be allowed to do so as well, if the table has
    them so. -/
theorem before_iff : Before table r q ↔ ordered r q ∧ (ordered q r → Precedes table r q) := by
  unfold Before ordered
  generalize r.order = a
  generalize q.order = b
  rcases a with _ | a <;> rcases b with _ | b <;> simp
  constructor
  · rintro (less | ⟨rfl, stands⟩)
    · exact ⟨less.le, fun more => absurd more less.not_ge⟩
    · exact ⟨le_rfl, fun _ => stands⟩
  · rintro ⟨le, stands⟩
    rcases le.lt_or_eq with less | same
    · exact .inl less
    · exact .inr ⟨same, stands same.ge⟩

theorem lastRows_nodup (table : List StepRow) : (lastRows table).Nodup :=
  (lastRows_pairwise table).imp fun differ same => differ (congrArg StepRow.id same)

/-- Of two items of a list without repetitions, one stands first. -/
theorem pair_sublist_or {α : Type} {l : List α} {a b : α} (left : a ∈ l) (right : b ∈ l) (differ : a ≠ b) :
    [a, b].Sublist l ∨ [b, a].Sublist l := by
  have : Std.Symm fun a b : α => [a, b].Sublist l ∨ [b, a].Sublist l := ⟨fun _ _ => Or.symm⟩
  have all : l.Pairwise fun a b => [a, b].Sublist l ∨ [b, a].Sublist l :=
    List.pairwise_iff_forall_sublist.mpr fun pair => .inl pair
  exact all.forall left right differ

theorem not_pair_sublist {α : Type} {l : List α} {a b : α} (distinct : l.Nodup) (there : [a, b].Sublist l) :
    ¬ [b, a].Sublist l := by
  induction l with
  | nil => cases there
  | cons c l ih =>
    obtain ⟨fresh, distinct⟩ := List.nodup_cons.mp distinct
    intro back
    cases there with
    | cons _ there =>
      cases back with
      | cons _ back => exact ih distinct there back
      | cons_cons _ back => exact fresh (there.subset (List.mem_cons_of_mem _ List.mem_cons_self))
    | cons_cons _ there =>
      cases back with
      | cons _ back => exact fresh (back.subset (List.mem_cons_of_mem _ List.mem_cons_self))
      | cons_cons _ back => exact fresh (back.subset List.mem_cons_self)

/-- No two rows stand before each other. -/
theorem before_asymm (before : Before table r q) : ¬ Before table q r := by
  intro back
  obtain ⟨there, tie⟩ := before_iff.mp before
  obtain ⟨thereToo, tieToo⟩ := before_iff.mp back
  exact not_pair_sublist (lastRows_nodup table) (pair_sublist_lastRows.mpr (tie thereToo))
    (pair_sublist_lastRows.mpr (tieToo there))

/-- Some of the last rows, arranged, are in order. -/
theorem arranged_inOrder (sub : rows.Sublist (lastRows table)) : (arranged rows).Pairwise (Before table) := by
  have distinct : rows.Nodup := (lastRows_nodup table).sublist sub
  have distinctToo : (arranged rows).Nodup := (List.mergeSort_perm rows ordered).nodup_iff.mpr distinct
  refine List.pairwise_iff_forall_sublist.mpr fun {r q} pair => before_iff.mpr ⟨?_, fun either => ?_⟩
  · exact List.pairwise_iff_forall_sublist.mp (List.pairwise_mergeSort ordered_trans ordered_total rows) pair
  · have left : r ∈ rows := List.mem_mergeSort.mp (pair.subset List.mem_cons_self)
    have right : q ∈ rows := List.mem_mergeSort.mp (pair.subset (List.mem_cons_of_mem _ List.mem_cons_self))
    have differ : r ≠ q := fun same => List.nodup_iff_sublist.mp distinctToo r (by rwa [← same] at pair)
    rcases pair_sublist_or left right differ with there | back
    · exact pair_sublist_lastRows.mp (there.trans sub)
    · -- Sorting would have kept the two as they were.
      have kept := List.pair_sublist_mergeSort ordered_trans ordered_total either back
      exact absurd kept (not_pair_sublist distinctToo pair)

/-- Siblings in order are determined by which rows they are. -/
theorem eq_of_inOrder {siblings others : List StepRow} (inOrder : siblings.Pairwise (Before table))
    (inOrderToo : others.Pairwise (Before table)) (same : ∀ r, r ∈ siblings ↔ r ∈ others) : siblings = others := by
  have distinct {l : List StepRow} (inOrder : l.Pairwise (Before table)) : l.Nodup := by
    refine inOrder.imp fun {r q} before equal => ?_
    subst equal
    exact before_asymm before before
  refine List.Perm.eq_of_pairwise (fun r q _ _ before back => absurd back (before_asymm before)) inOrder inOrderToo ?_
  exact (List.perm_ext_iff_of_nodup (distinct inOrder) (distinct inOrderToo)).mpr same

theorem mem_childrenOf : r ∈ childrenOf (lastRows table) p.id ↔ IsChild table r p := by
  unfold childrenOf arranged
  rw [List.mem_mergeSort, List.mem_filter, Bool.and_eq_true, beq_iff_eq, bne_iff_ne, mem_lastRows]
  exact ⟨fun ⟨last, parent, other⟩ => ⟨last, parent, other⟩, fun child => ⟨child.last, child.parent, child.other⟩⟩

/-- The rows at the top, in order. -/
def topRows (rows : List StepRow) : List StepRow := arranged (rows.filter (isRoot rows))

theorem mem_topRows : r ∈ topRows (lastRows table) ↔ (IsLast table r ∧ Rooted table r) ∧ AtTop table r := by
  unfold topRows arranged
  rw [List.mem_mergeSort, List.mem_filter, mem_lastRows, isRoot_iff]
  exact ⟨fun ⟨last, top⟩ => ⟨⟨last, .top top⟩, top⟩, fun ⟨appears, top⟩ => ⟨appears.1, top⟩⟩

/-- Inside a row that appears, all rows appear that name it as their parent. -/
theorem mem_childrenOf_of_appears (appears : IsLast table p ∧ Rooted table p) :
    r ∈ childrenOf (lastRows table) p.id ↔
      (IsLast table r ∧ Rooted table r) ∧ r.parent = some p.id ∧ r.id ≠ p.id := by
  rw [mem_childrenOf]
  constructor
  · exact fun child => ⟨⟨child.last, .inside child.parent appears.1 appears.2⟩, child.parent, child.other⟩
  · exact fun ⟨below, parent, other⟩ => ⟨below.1, parent, other⟩

/-! ### Depth -/

/-- A row that is the last one of its id and leads to the top is reached from there. -/
theorem reached_of_rooted (rooted : Rooted table r) (last : IsLast table r) : ∃ n, Reached (lastRows table) n r := by
  induction rooted with
  | top top => exact ⟨0, .top (mem_lastRows.mpr last) (isRoot_iff.mpr top)⟩
  | @inside r p parent lastAbove rooted ih =>
    by_cases itself : r.id = p.id
    · exact ⟨0, .top (mem_lastRows.mpr last) (isRoot_iff.mpr (.selfish (itself ▸ parent)))⟩
    · obtain ⟨n, reached⟩ := ih lastAbove
      exact ⟨n + 1, .child reached (mem_lastRows.mpr last) parent itself⟩

theorem rooted_of_reached (reached : Reached (lastRows table) n r) : IsLast table r ∧ Rooted table r := by
  induction reached with
  | top member root => exact ⟨mem_lastRows.mp member, .top (isRoot_iff.mp root)⟩
  | child above member parent other ih => exact ⟨mem_lastRows.mp member, .inside parent ih.1 ih.2⟩

theorem reached_iff : (∃ n, Reached (lastRows table) n r) ↔ IsLast table r ∧ Rooted table r :=
  ⟨fun ⟨_, reached⟩ => rooted_of_reached reached, fun ⟨last, rooted⟩ => reached_of_rooted rooted last⟩

/-- The rows on the way down to a row are different ones. -/
theorem Reached.way (unique : rows.Pairwise (·.id ≠ ·.id)) (reached : Reached rows n r) :
    ∃ way : List StepRow, way.length = n + 1 ∧ way.Nodup ∧ ∀ q ∈ way, ∃ m ≤ n, Reached rows m q := by
  induction reached with
  | @top r member root =>
    refine ⟨[r], rfl, List.nodup_singleton r, fun q only => ⟨0, le_rfl, ?_⟩⟩
    rw [List.mem_singleton.mp only]
    exact .top member root
  | @child n p r above member parent other ih =>
    obtain ⟨way, length, distinct, each⟩ := ih
    have here : Reached rows (n + 1) r := .child above member parent other
    refine ⟨r :: way, congrArg (· + 1) length, List.nodup_cons.mpr ⟨fun again => ?_, distinct⟩, fun q listed => ?_⟩
    · obtain ⟨m, less, reached⟩ := each r again
      have same := here.depth_eq unique reached rfl
      omega
    · rcases List.mem_cons.mp listed with rfl | further
      · exact ⟨n + 1, le_rfl, here⟩
      · obtain ⟨m, less, reached⟩ := each q further
        exact ⟨m, by omega, reached⟩

/-- No way down is longer than there are rows. -/
theorem Reached.lt_length (unique : rows.Pairwise (·.id ≠ ·.id)) (reached : Reached rows n r) : n < rows.length := by
  obtain ⟨way, length, distinct, each⟩ := reached.way unique
  have within : way ⊆ rows := fun q listed => by
    obtain ⟨m, -, reached⟩ := each q listed
    exact reached.mem
  have bound := (List.subperm_of_subset distinct within).length_le
  omega

/-- A row is some steps down from another one. -/
inductive Descends (rows : List StepRow) (r : StepRow) : Nat → StepRow → Prop
  | here : Descends rows r 0 r
  | child {n : Nat} {p q : StepRow} (above : Descends rows r n p) (child : q ∈ childrenOf rows p.id) :
      Descends rows r (n + 1) q

theorem Descends.under {a : StepRow} (child : a ∈ childrenOf rows r.id) (descends : Descends rows a n q) :
    Descends rows r (n + 1) q := by
  induction descends with
  | here => exact .child .here child
  | child _ last ih => exact .child ih last

theorem Reached.child_of_mem (reached : Reached rows n p) (child : q ∈ childrenOf rows p.id) :
    Reached rows (n + 1) q := by
  obtain ⟨member, fits⟩ := List.mem_filter.mp (List.mem_mergeSort.mp child)
  rw [Bool.and_eq_true, beq_iff_eq, bne_iff_ne] at fits
  exact .child reached member fits.1 fits.2

theorem Reached.descend (reached : Reached rows n r) (descends : Descends rows r m q) : Reached rows (n + m) q := by
  induction descends with
  | here => exact reached
  | child _ child ih => exact ih.child_of_mem child

/-- From two rows of one depth, no row of one id is below both. -/
theorem Descends.origin_eq {a b : StepRow} (unique : rows.Pairwise (·.id ≠ ·.id)) (left : Reached rows n a)
    (right : Reached rows n b) {i j : Nat} (descends : Descends rows a i r) (descendsToo : Descends rows b j q)
    (same : r.id = q.id) : a.id = b.id := by
  have level := (left.descend descends).depth_eq unique (right.descend descendsToo) same
  induction descends generalizing j q with
  | here =>
    cases descendsToo with
    | here => exact same
    | child => omega
  | @child i p r above child ih =>
    cases descendsToo with
    | here => omega
    | @child j p' q aboveToo childToo =>
      have fits := List.mem_filter.mp (List.mem_mergeSort.mp child)
      have fitsToo := List.mem_filter.mp (List.mem_mergeSort.mp childToo)
      rw [Bool.and_eq_true, beq_iff_eq] at fits fitsToo
      have equal := eq_of_id_eq unique fits.1 fitsToo.1 same
      subst equal
      exact ih aboveToo (Option.some.inj (fits.2.1.symm.trans fitsToo.2.1)) (by omega)

/-! ### The steps of a grown forest -/

theorem grow_descends {inner : Step} (member : inner ∈ preorder (grow rows levels r)) :
    ∃ m, Descends rows r m inner.row := by
  induction levels generalizing r with
  | zero =>
    obtain rfl := List.mem_singleton.mp member
    exact ⟨0, .here⟩
  | succ levels ih =>
    rcases List.mem_cons.mp member with rfl | within
    · exact ⟨0, .here⟩
    · rw [Step.preorderAll_eq] at within
      obtain ⟨child, listed, further⟩ := List.mem_flatMap.mp within
      obtain ⟨q, below, rfl⟩ := List.mem_map.mp listed
      obtain ⟨m, descends⟩ := ih further
      exact ⟨m + 1, descends.under below⟩

theorem arranged_pairwise (unique : rows.Pairwise (·.id ≠ ·.id)) (test : StepRow → Bool) :
    (arranged (rows.filter test)).Pairwise (·.id ≠ ·.id) :=
  (unique.sublist List.filter_sublist).perm (List.mergeSort_perm _ _).symm Ne.symm

/-- Steps grown from different rows of one depth have no ids in common. -/
theorem siblings_once (unique : rows.Pairwise (·.id ≠ ·.id)) {siblings : List StepRow}
    (differ : siblings.Pairwise (·.id ≠ ·.id)) (reached : ∀ r ∈ siblings, Reached rows n r)
    (each : ∀ r ∈ siblings, ((preorder (grow rows levels r)).map (·.row.id)).Nodup) :
    ((preorderAll (siblings.map (grow rows levels))).map (·.row.id)).Nodup := by
  rw [Step.preorderAll_eq, List.flatMap_map, List.map_flatMap, List.nodup_flatMap]
  refine ⟨each, differ.imp_of_mem fun {a b} left right apart i there thereToo => apart ?_⟩
  obtain ⟨inner, member, rfl⟩ := List.mem_map.mp there
  obtain ⟨other, memberToo, same⟩ := List.mem_map.mp thereToo
  obtain ⟨_, descends⟩ := grow_descends member
  obtain ⟨_, descendsToo⟩ := grow_descends memberToo
  exact descends.origin_eq unique (reached a left) (reached b right) descendsToo same.symm

theorem grow_once (unique : rows.Pairwise (·.id ≠ ·.id)) (reached : Reached rows n r) :
    ((preorder (grow rows levels r)).map (·.row.id)).Nodup := by
  induction levels generalizing n r with
  | zero => exact List.nodup_singleton _
  | succ levels ih =>
    have below (q : StepRow) (child : q ∈ childrenOf rows r.id) := reached.child_of_mem child
    refine List.nodup_cons.mpr ⟨fun again => ?_, ?_⟩
    · obtain ⟨inner, member, same⟩ := List.mem_map.mp again
      rw [Step.preorderAll_eq] at member
      obtain ⟨child, listed, further⟩ := List.mem_flatMap.mp member
      obtain ⟨q, below, rfl⟩ := List.mem_map.mp listed
      obtain ⟨m, descends⟩ := grow_descends further
      have level := (reached.descend (descends.under below)).depth_eq unique reached same
      omega
    · exact siblings_once unique (arranged_pairwise unique _) below fun q child => ih (below q child)

theorem map_grow_row (rows : List StepRow) (levels : Nat) (tops : List StepRow) :
    (tops.map (grow rows levels)).map (·.row) = tops :=
  (List.map_map ..).trans ((List.map_congr_left fun _ _ => grow_row ..).trans (List.map_id _))

/-- Every step of a forest has all rows that name it as their parent. -/
theorem children_of_among {step : Step} (among : Among (ofRows table) step) :
    step.children.map (·.row) = childrenOf (lastRows table) step.row.id := by
  obtain ⟨k, n, q, rfl, reached, sum⟩ := ofRows_grown among
  have bound := reached.lt_length (lastRows_pairwise table)
  cases k with
  | zero => omega
  | succ k =>
    rw [grow_row]
    exact map_grow_row ..

theorem ofRows_tops (table : List StepRow) : (ofRows table).map (·.row) = topRows (lastRows table) := map_grow_row ..

theorem among_of_reached (reached : Reached (lastRows table) n r) :
    ∃ step, Among (ofRows table) step ∧ step.row = r := by
  induction reached with
  | @top r member root =>
    have listed : r ∈ topRows (lastRows table) := List.mem_mergeSort.mpr (List.mem_filter.mpr ⟨member, root⟩)
    rw [← ofRows_tops] at listed
    obtain ⟨step, member, same⟩ := List.mem_map.mp listed
    exact ⟨step, .here member, same⟩
  | @child n p r above member parent other ih =>
    obtain ⟨step, among, rfl⟩ := ih
    have listed : r ∈ childrenOf (lastRows table) step.row.id :=
      mem_childrenOf.mpr ⟨mem_lastRows.mp member, parent, other⟩
    rw [← children_of_among among] at listed
    obtain ⟨child, member, same⟩ := List.mem_map.mp listed
    exact ⟨child, among.child member, same⟩

theorem ofRows_appear : r ∈ (preorderAll (ofRows table)).map (·.row) ↔ IsLast table r ∧ Rooted table r := by
  rw [← reached_iff, List.mem_map]
  constructor
  · rintro ⟨step, member, rfl⟩
    obtain ⟨k, n, q, rfl, reached, -⟩ := ofRows_grown (Step.mem_preorderAll.mp member)
    exact ⟨n, (grow_row ..).symm ▸ reached⟩
  · rintro ⟨n, reached⟩
    obtain ⟨step, among, same⟩ := among_of_reached reached
    exact ⟨step, Step.mem_preorderAll.mpr among, same⟩

theorem ofRows_isForest (table : List StepRow) : IsForest table (ofRows table) where
  appear _ := ofRows_appear
  once := by
    have unique := lastRows_pairwise table
    have reached (r : StepRow) (top : r ∈ topRows (lastRows table)) : Reached (lastRows table) 0 r := by
      obtain ⟨member, root⟩ := List.mem_filter.mp (List.mem_mergeSort.mp top)
      exact .top member root
    exact siblings_once unique (arranged_pairwise unique _) reached fun r top => grow_once unique (reached r top)
  tops r := by
    rw [ofRows_tops, mem_topRows, ofRows_appear]
  children step member r := by
    have among := Step.mem_preorderAll.mp member
    have above := ofRows_appear.mp (List.mem_map_of_mem (f := (·.row)) member)
    rw [children_of_among among, mem_childrenOf_of_appears above, ofRows_appear]
  topsInOrder := by
    rw [ofRows_tops]
    exact arranged_inOrder List.filter_sublist
  childrenInOrder step member := by
    rw [children_of_among (Step.mem_preorderAll.mp member)]
    exact arranged_inOrder List.filter_sublist

/-! ### No other forest -/

section
variable {forest : List Step}

theorem IsForest.tops_eq (isForest : IsForest table forest) : forest.map (·.row) = topRows (lastRows table) := by
  refine eq_of_inOrder isForest.topsInOrder (arranged_inOrder List.filter_sublist) fun r => ?_
  rw [isForest.tops, isForest.appear, mem_topRows]

theorem IsForest.children_eq (isForest : IsForest table forest) {step : Step} (member : step ∈ preorderAll forest) :
    step.children.map (·.row) = childrenOf (lastRows table) step.row.id := by
  have above := (isForest.appear step.row).mp (List.mem_map_of_mem (f := (·.row)) member)
  refine eq_of_inOrder (isForest.childrenInOrder step member) (arranged_inOrder List.filter_sublist) fun r => ?_
  rw [isForest.children step member, isForest.appear, mem_childrenOf_of_appears above]

theorem eq_map_grow {steps : List Step} (each : ∀ step ∈ steps, step = grow rows levels step.row) :
    steps = (steps.map (·.row)).map (grow rows levels) :=
  (List.map_id steps).symm.trans ((List.map_congr_left each).trans (List.map_map ..).symm)

/-- With enough levels, a step of a forest is what grows from its row. -/
theorem IsForest.step_eq (isForest : IsForest table forest) {step : Step} (member : step ∈ preorderAll forest)
    (reached : Reached (lastRows table) n step.row) (enough : (lastRows table).length ≤ n + levels) :
    step = grow (lastRows table) levels step.row := by
  induction levels generalizing n step with
  | zero =>
    have bound := reached.lt_length (lastRows_pairwise table)
    omega
  | succ levels ih =>
    have rows := isForest.children_eq member
    have below {child : Step} (listed : child ∈ step.children) : child ∈ preorderAll forest :=
      Step.mem_preorderAll.mpr ((Step.mem_preorderAll.mp member).child listed)
    have children : step.children = (childrenOf (lastRows table) step.row.id).map (grow (lastRows table) levels) := by
      rw [← rows]
      refine eq_map_grow fun child listed => ih (below listed) (reached.child_of_mem ?_) (by omega)
      rw [← rows]
      exact List.mem_map_of_mem listed
    cases step with | mk row inner => exact congrArg (Step.mk row) children

theorem IsForest.eq_grown (isForest : IsForest table forest) (enough : (lastRows table).length ≤ levels) :
    forest = (topRows (lastRows table)).map (grow (lastRows table) levels) := by
  rw [← isForest.tops_eq]
  refine eq_map_grow fun step member => isForest.step_eq (n := 0) ?_ ?_ (by omega)
  · exact Step.mem_preorderAll.mpr (.here member)
  · have top := (isForest.tops step.row).mp (List.mem_map_of_mem member)
    exact .top (mem_lastRows.mpr ((isForest.appear _).mp top.1).1) (isRoot_iff.mpr top.2)

end

/-- Going down from a row that leads to the top comes to an end. -/
theorem acc_of_reached (reached : Reached (lastRows table) n r) : Acc (IsChild table) r := by
  generalize room : (lastRows table).length - n = left
  induction left generalizing n r with
  | zero =>
    have bound := reached.lt_length (lastRows_pairwise table)
    omega
  | succ left ih =>
    exact .intro _ fun q child => ih (reached.child_of_mem (mem_childrenOf.mpr child)) (by omega)

/-- The forest of a table is the only one that has the rows of the table in their places. Putting it together comes to
    an end below every row that appears, and no more levels than the table has last rows are ever used. -/
theorem ofRows_is_forest (table : List StepRow) :
    (∀ forest, IsForest table forest ↔ forest = ofRows table) ∧
      (∀ r, IsLast table r → Rooted table r → Acc (IsChild table) r) ∧
      ∀ levels, (lastRows table).length ≤ levels →
        (topRows (lastRows table)).map (grow (lastRows table) levels) = ofRows table := by
  refine ⟨fun forest => ⟨fun isForest => isForest.eq_grown le_rfl, ?_⟩, fun r last rooted => ?_,
    fun levels enough => ?_⟩
  · rintro rfl
    exact ofRows_isForest table
  · obtain ⟨n, reached⟩ := reached_of_rooted rooted last
    exact acc_of_reached reached
  · exact ((ofRows_isForest table).eq_grown enough).symm

end Forest
end TestScenario
