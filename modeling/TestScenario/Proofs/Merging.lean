import Mathlib.Data.List.Nodup
import TestScenario.Catalog.Loading

/-!
Ids in merged catalogs. Merging compares the ids of one catalog with those of the other, and no id with those beside it
in its own catalog. So ids are unique after merging if and only if they are unique in each of the catalogs
(`merged_ids_unique`); a file that repeats an id is taken as it is (`repeated_id_is_merged`).
-/

namespace TestScenario.Catalog

/-- No two scenarios of a catalog have one id, and no two cases. -/
structure IdsUnique (c : Catalog) : Prop where
  scenarios : (c.scenarios.map (·.id)).Nodup
  cases : (c.cases.map (·.id)).Nodup

theorem idsUnique_empty : IdsUnique {} := ⟨List.nodup_nil, List.nodup_nil⟩

section
variable {α : Type} {key : α → Int} {xs ys : List α}

theorem find?_common_eq_none_iff :
    (ys.find? fun y => xs.any (key · == key y)) = none ↔ (xs.map key).Disjoint (ys.map key) := by
  simp only [List.find?_eq_none, List.any_eq_true, beq_iff_eq, List.disjoint_left, List.mem_map]
  constructor
  · rintro apart _ ⟨x, old, rfl⟩ ⟨y, new, same⟩
    exact apart y new ⟨x, old, same.symm⟩
  · rintro apart y new ⟨x, old, same⟩
    exact apart ⟨x, old, rfl⟩ ⟨y, new, same.symm⟩

/-- Where keys are unique, the last element of a key is the only one. -/
theorem filter_of_last {k : Int} {x : α} (unique : (xs.map key).Nodup)
    (last : xs.reverse.find? (key · == k) = some x) : xs.filter (key · == k) = [x] := by
  have own := List.find?_some (p := fun y => key y == k) last
  have member : x ∈ xs.filter (key · == k) :=
    List.mem_filter.mpr ⟨List.mem_reverse.mp (List.mem_of_find?_eq_some last), own⟩
  have few : (xs.filter (key · == k)).length ≤ 1 := by
    have same : (xs.filter (key · == k)).map key = .replicate (xs.filter (key · == k)).length k :=
      List.map_eq_replicate_iff.mpr fun y kept => eq_of_beq (List.mem_filter.mp kept).2
    exact List.nodup_replicate.mp (same ▸ unique.sublist (List.filter_sublist.map key))
  obtain ⟨y, only⟩ := List.length_eq_one_iff.mp (Nat.le_antisymm few (List.length_pos_of_mem member))
  rw [only, List.mem_singleton] at member
  rw [only, member]

end

variable {c d r : Catalog}

theorem conflict?_eq_none_iff :
    c.conflict? d = none ↔
      (c.scenarios.map (·.id)).Disjoint (d.scenarios.map (·.id)) ∧
        (c.cases.map (·.id)).Disjoint (d.cases.map (·.id)) := by
  rw [← find?_common_eq_none_iff, ← find?_common_eq_none_iff, conflict?]
  cases d.scenarios.find? fun s => c.scenarios.any (·.id == s.id) <;> simp

theorem run_refuse {α : Type} (entries : List α) (has : Catalog → α → Bool) (error : α → MergeError) (c : Catalog) :
    (refuse entries has error).run c =
      match entries.find? (has c) with
      | some x => .error (error x) c
      | none => .ok () c := by
  induction entries with
  | nil => rfl
  | cons x rest ih =>
    rw [List.find?_cons, refuse, List.forM_cons, EStateM.run_bind, EStateM.run_bind, EStateM.run_get]
    cases here : has c x with
    | true =>
      simp only [here]
      rfl
    | false =>
      simp only [here]
      exact ih

/-- Both checks come before the first list is touched, so a conflict leaves the catalog as it was. -/
theorem run_takeIn (c d : Catalog) :
    (takeIn d).run c =
      match c.conflict? d with
      | some e => .error e c
      | none => .ok () (c.append d) := by
  simp only [takeIn, conflict?, EStateM.run_bind, run_refuse]
  cases d.scenarios.find? fun s => c.scenarios.any (·.id == s.id) with
  | some s => rfl
  | none =>
    dsimp only
    cases d.cases.find? fun t => c.cases.any (·.id == t.id) with
    | some t => rfl
    | none => rfl

theorem merge_eq_ok_iff : c.merge d = .ok r ↔ c.conflict? d = none ∧ r = c.append d := by
  rw [merge, run_takeIn]
  cases c.conflict? d with
  | none => simp [eq_comm]
  | some e => simp

theorem empty_merge (c : Catalog) : merge {} c = .ok c :=
  merge_eq_ok_iff.mpr ⟨conflict?_eq_none_iff.mpr ⟨List.disjoint_nil_left _, List.disjoint_nil_left _⟩, rfl⟩

/-- One merge keeps ids unique if and only if neither side repeats one. -/
theorem idsUnique_merge_iff (merged : c.merge d = .ok r) : r.IdsUnique ↔ c.IdsUnique ∧ d.IdsUnique := by
  obtain ⟨free, rfl⟩ := merge_eq_ok_iff.mp merged
  obtain ⟨apart, apart'⟩ := conflict?_eq_none_iff.mp free
  constructor
  · rintro ⟨unique, unique'⟩
    simp only [append, List.map_append, List.nodup_append'] at unique unique'
    exact ⟨⟨unique.1, unique'.1⟩, unique.2.1, unique'.2.1⟩
  · rintro ⟨left, right⟩
    exact {
      scenarios := by simpa [append] using List.nodup_append'.mpr ⟨left.scenarios, right.scenarios, apart⟩
      cases := by simpa [append] using List.nodup_append'.mpr ⟨left.cases, right.cases, apart'⟩ }

/-- Merging a list of catalogs after others. -/
theorem idsUnique_foldlM_merge_iff {catalogs : List Catalog} (merged : catalogs.foldlM merge c = .ok r) :
    r.IdsUnique ↔ c.IdsUnique ∧ ∀ d ∈ catalogs, d.IdsUnique := by
  induction catalogs generalizing c with
  | nil =>
    obtain rfl : c = r := by simpa [List.foldlM_nil, pure, Except.pure] using merged
    simp
  | cons d rest inner =>
    rw [List.foldlM_cons] at merged
    cases step : c.merge d with
    | error e => simp [step, bind, Except.bind] at merged
    | ok c' =>
      have later : rest.foldlM merge c' = .ok r := by simpa [step, bind, Except.bind] using merged
      rw [inner later, idsUnique_merge_iff step, List.forall_mem_cons, and_assoc]

/-- Ids are unique in catalogs that have been merged if and only if none of the catalogs repeats one itself. Then what
    is loaded by an id is all there is of that id. -/
theorem merged_ids_unique {catalogs : List Catalog} (merged : catalogs.foldlM merge {} = .ok c) :
    (c.IdsUnique ↔ ∀ d ∈ catalogs, d.IdsUnique) ∧
      ((∀ d ∈ catalogs, d.IdsUnique) →
        (∀ id s, c.scenario? id = some s → c.scenarios.filter (·.id == id) = [s]) ∧
          ∀ id t, c.case? id = some t → c.cases.filter (·.id == id) = [t]) := by
  have unique_iff : c.IdsUnique ↔ ∀ d ∈ catalogs, d.IdsUnique := by
    rw [idsUnique_foldlM_merge_iff merged]
    exact and_iff_right idsUnique_empty
  refine ⟨unique_iff, fun each => ?_⟩
  have unique := unique_iff.mpr each
  exact ⟨fun id s last => filter_of_last unique.scenarios last, fun id t last => filter_of_last unique.cases last⟩

/-- Two files that may share ids of a scenario and of a case, but have no two of either. -/
theorem merged_ids_unique_across_kinds :
    let first : Catalog := { scenarios := [{ id := 1, name := "Login" }, { id := 2, name := "Logout" }] }
    let second : Catalog := {
      scenarios := [{ id := 3, name := "Order" }]
      cases := [{ id := 1, name := "Get", url := "http://h" }] }
    [first, second].foldlM merge {} = .ok (first.append second) ∧ (first.append second).IdsUnique ∧
      (first.append second).scenarios.filter (·.id == 3) = [{ id := 3, name := "Order" }] := by
  intro first second
  have merged : [first, second].foldlM merge {} = .ok (first.append second) := rfl
  have each : ∀ d ∈ [first, second], d.IdsUnique := by
    rw [List.forall_mem_cons, List.forall_mem_singleton]
    exact ⟨⟨by decide, by decide⟩, by decide, by decide⟩
  obtain ⟨unique, only⟩ := merged_ids_unique merged
  exact ⟨merged, unique.mpr each, (only each).1 3 { id := 3, name := "Order" } rfl⟩

/-- A file with two scenarios of one id is merged, and only the second one is ever loaded. -/
theorem repeated_id_is_merged :
    ∃ c, ofYaml "scenarios: [\x7bid: 1, name: A\x7d, \x7bid: 1, name: B\x7d]" = some c ∧
      [c].foldlM merge {} = .ok c ∧ ¬ c.IdsUnique ∧ (c.scenario? 1).map (·.name) = some "B" := by
  have content : (ofYaml "scenarios: [\x7bid: 1, name: A\x7d, \x7bid: 1, name: B\x7d]").map
      (fun c => (c.scenarios.map (·.id), (c.scenario? 1).map (·.name))) = some ([1, 1], some "B") := by decide +kernel
  obtain ⟨c, text, holds⟩ := Option.map_eq_some_iff.mp content
  obtain ⟨ids, name⟩ := Prod.mk.inj holds
  have merged : [c].foldlM merge {} = .ok c := by
    rw [List.foldlM_cons, empty_merge]
    rfl
  refine ⟨c, text, merged, fun unique => ?_, name⟩
  have once := unique.scenarios
  rw [ids] at once
  exact absurd once (by decide)

end TestScenario.Catalog
