import Mathlib
import TestScenario.Proofs.Merging

/-!
Merging is all or nothing, and the order of catalogs does not matter. A catalog takes in another one whole, unless they
overlap: then it stays as it was. Several catalogs can be merged if and only if no two of them overlap
(`foldlM_merge_eq_ok_iff`), and what they come to has the entries of all of them, so both are the same in any order
(`merge_whole_in_any_order`).
-/

namespace TestScenario.Catalog
variable {c d e r : Catalog}

/-- Two catalogs have scenarios of one id, or cases of one id. -/
def Overlap (c d : Catalog) : Prop :=
  (∃ s ∈ c.scenarios, ∃ t ∈ d.scenarios, s.id = t.id) ∨ ∃ s ∈ c.cases, ∃ t ∈ d.cases, s.id = t.id

/-- Each list of a catalog is that of a first one followed by that of a second one. -/
structure Joined (c d r : Catalog) : Prop where
  scenarios : r.scenarios = c.scenarios ++ d.scenarios
  cases : r.cases = c.cases ++ d.cases
  vars : r.vars = c.vars ++ d.vars
  environments : r.environments = c.environments ++ d.environments

/-- Each list of a catalog has the entries of the same list of another one, in whatever order. -/
structure SameEntries (c d : Catalog) : Prop where
  scenarios : c.scenarios.Perm d.scenarios
  cases : c.cases.Perm d.cases
  vars : c.vars.Perm d.vars
  environments : c.environments.Perm d.environments

/-! ### Two catalogs -/

theorem disjoint_map_iff {α : Type} {key : α → Int} {xs ys : List α} :
    (xs.map key).Disjoint (ys.map key) ↔ ¬ ∃ x ∈ xs, ∃ y ∈ ys, key x = key y := by
  constructor
  · rintro apart ⟨x, old, y, new, same⟩
    exact apart (List.mem_map_of_mem old) (same ▸ List.mem_map_of_mem new)
  · intro apart k left right
    obtain ⟨x, old, rfl⟩ := List.mem_map.mp left
    obtain ⟨y, new, same⟩ := List.mem_map.mp right
    exact apart ⟨x, old, y, new, same.symm⟩

theorem conflict?_eq_none_iff_apart : c.conflict? d = none ↔ ¬ c.Overlap d := by
  rw [conflict?_eq_none_iff, disjoint_map_iff, disjoint_map_iff, Overlap, not_or]

theorem Overlap.symm (overlap : c.Overlap d) : d.Overlap c := by
  rcases overlap with ⟨s, first, t, second, same⟩ | ⟨s, first, t, second, same⟩
  · exact .inl ⟨t, second, s, first, same.symm⟩
  · exact .inr ⟨t, second, s, first, same.symm⟩

theorem overlap_comm : c.Overlap d ↔ d.Overlap c := ⟨.symm, .symm⟩

theorem overlap_append_iff : (c.append d).Overlap e ↔ c.Overlap e ∨ d.Overlap e := by
  simp only [Overlap, append, List.mem_append, or_and_right, exists_or]
  exact or_or_or_comm

theorem not_overlap_empty : ¬ Overlap {} d := by
  rintro (⟨s, none, -⟩ | ⟨s, none, -⟩)
  · exact List.not_mem_nil none
  · exact List.not_mem_nil none

theorem merge_eq_ok_iff_apart : c.merge d = .ok r ↔ ¬ c.Overlap d ∧ r = c.append d := by
  rw [merge_eq_ok_iff, conflict?_eq_none_iff_apart]

theorem exists_merge_iff : (∃ r, c.merge d = .ok r) ↔ ¬ c.Overlap d := by
  simp only [merge_eq_ok_iff_apart, exists_and_left, exists_eq, and_true]

theorem takeIn_whole (c d : Catalog) :
    (c.Overlap d ∧ ∃ cause, (takeIn d).run c = .error cause c ∧ c.merge d = .error cause) ∨
      (¬ c.Overlap d ∧ ∃ r, (takeIn d).run c = .ok () r ∧ c.merge d = .ok r ∧ Joined c d r) := by
  rw [merge, run_takeIn]
  cases conflict : c.conflict? d with
  | none => exact .inr ⟨conflict?_eq_none_iff_apart.mp conflict, c.append d, rfl, rfl, rfl, rfl, rfl, rfl⟩
  | some cause =>
    refine .inl ⟨?_, cause, rfl, rfl⟩
    by_contra apart
    cases conflict.symm.trans (conflict?_eq_none_iff_apart.mpr apart)

/-! ### Several catalogs -/

/-- Catalogs can be merged into a first one if and only if no two of all these overlap. -/
theorem foldlM_merge_eq_ok_iff {catalogs : List Catalog} :
    catalogs.foldlM merge c = .ok r ↔
      (c :: catalogs).Pairwise (fun c d => ¬ c.Overlap d) ∧ r = catalogs.foldl append c := by
  induction catalogs generalizing c with
  | nil => simp [pure, Except.pure, eq_comm]
  | cons d rest ih =>
    have first : (d :: rest).foldlM merge c = .ok r ↔ ¬ c.Overlap d ∧ rest.foldlM merge (c.append d) = .ok r := by
      rw [List.foldlM_cons]
      cases step : c.merge d with
      | ok c' =>
        obtain ⟨apart, rfl⟩ := merge_eq_ok_iff_apart.mp step
        exact (and_iff_right apart).symm
      | error cause =>
        have overlap : ¬ ¬ c.Overlap d := by simp [← exists_merge_iff, step]
        exact ⟨nofun, fun apart => absurd apart.1 overlap⟩
    -- The rest has to be apart from both of the catalogs that have been joined.
    rw [first, ih, List.foldl_cons]
    simp only [List.pairwise_cons, List.forall_mem_cons, overlap_append_iff, not_or, forall_and]
    tauto

theorem entries_foldl_append {α : Type} {entries : Catalog → List α}
    (joins : ∀ c d, entries (c.append d) = entries c ++ entries d) (catalogs : List Catalog) (c : Catalog) :
    entries (catalogs.foldl append c) = entries c ++ catalogs.flatMap entries := by
  induction catalogs generalizing c with
  | nil => simp
  | cons d rest ih => rw [List.foldl_cons, ih, joins, List.flatMap_cons, List.append_assoc]

theorem sameEntries_foldl_append {catalogs others : List Catalog} (reordered : catalogs.Perm others) (c : Catalog) :
    SameEntries (catalogs.foldl append c) (others.foldl append c) := by
  have each {α : Type} {entries : Catalog → List α} (joins : ∀ c d, entries (c.append d) = entries c ++ entries d) :
      (entries (catalogs.foldl append c)).Perm (entries (others.foldl append c)) := by
    rw [entries_foldl_append joins, entries_foldl_append joins]
    exact (reordered.flatMap_right entries).append_left _
  exact ⟨each fun _ _ => rfl, each fun _ _ => rfl, each fun _ _ => rfl, each fun _ _ => rfl⟩

theorem foldlM_merge_empty_eq_ok_iff {catalogs : List Catalog} :
    catalogs.foldlM merge {} = .ok r ↔
      catalogs.Pairwise (fun c d => ¬ c.Overlap d) ∧ r = catalogs.foldl append {} := by
  rw [foldlM_merge_eq_ok_iff, List.pairwise_cons, and_iff_right fun _ _ => not_overlap_empty]

theorem exists_foldlM_merge_iff {catalogs : List Catalog} :
    (∃ r, catalogs.foldlM merge {} = .ok r) ↔ catalogs.Pairwise fun c d => ¬ c.Overlap d := by
  simp only [foldlM_merge_empty_eq_ok_iff, exists_and_left, exists_eq, and_true]

/-- A catalog takes in another one whole, with each of its lists behind its own; or they overlap, and it stays as it
    was. It does not matter which of the two takes in the other, and where several are merged from nothing, neither
    whether it can be done nor what it comes to depends on their order. -/
theorem merge_whole_in_any_order (c d : Catalog) {catalogs others : List Catalog} (reordered : catalogs.Perm others) :
    ((c.Overlap d ∧ ∃ cause, (takeIn d).run c = .error cause c ∧ c.merge d = .error cause) ∨
      (¬ c.Overlap d ∧ ∃ r, (takeIn d).run c = .ok () r ∧ c.merge d = .ok r ∧ Joined c d r)) ∧
    ((∃ r, c.merge d = .ok r) ↔ ∃ r, d.merge c = .ok r) ∧
    ((∃ r, catalogs.foldlM merge {} = .ok r) ↔ ∃ r, others.foldlM merge {} = .ok r) ∧
    ∀ r r', catalogs.foldlM merge {} = .ok r → others.foldlM merge {} = .ok r' → SameEntries r r' := by
  refine ⟨takeIn_whole c d, ?_, ?_, ?_⟩
  · rw [exists_merge_iff, exists_merge_iff, overlap_comm]
  · rw [exists_foldlM_merge_iff, exists_foldlM_merge_iff]
    exact reordered.pairwise_iff fun apart overlap => apart overlap.symm
  · intro r r' merged merged'
    rw [(foldlM_merge_empty_eq_ok_iff.mp merged).2, (foldlM_merge_empty_eq_ok_iff.mp merged').2]
    exact sameEntries_foldl_append reordered {}

/-- Three catalogs, of which the last one is merged first; two of them have a variable of one key, which is no
    hindrance. The second one is refused where it is there already. -/
theorem merge_whole_in_any_order_of_three :
    let first : Catalog := { scenarios := [{ id := 1, name := "Login" }], vars := [{ key := "user" }] }
    let second : Catalog := { cases := [{ id := 1, name := "Get", url := "http://h" }], vars := [{ key := "user" }] }
    let third : Catalog := { scenarios := [{ id := 2, name := "Order" }] }
    [first, second, third].Perm [third, first, second] ∧
      (∃ r r', [first, second, third].foldlM merge {} = .ok r ∧ [third, first, second].foldlM merge {} = .ok r' ∧
        SameEntries r r') ∧
      second.Overlap second ∧ (takeIn second).run second = .error (.duplicateCase 1) second := by
  intro first second third
  have reordered : [first, second, third].Perm [third, first, second] :=
    (List.perm_append_comm : ([first, second] ++ [third]).Perm _)
  obtain ⟨-, -, -, same⟩ := merge_whole_in_any_order first second reordered
  have overlap : second.Overlap second := .inr ⟨_, List.mem_cons_self, _, List.mem_cons_self, rfl⟩
  exact ⟨reordered, ⟨_, _, rfl, rfl, same _ _ rfl rfl⟩, overlap, rfl⟩

end TestScenario.Catalog
