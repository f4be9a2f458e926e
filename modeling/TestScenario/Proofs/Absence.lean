import Mathlib
import TestScenario.Proofs.CaseVariables

/-!
Which nodes a path leads to, and what becomes of paths that lead to none. A path that selects at most one node is absent
then: checks and rules find nothing. Any other path selects the list of its matches, which is there even if it is empty
(`absent_path`).
-/

namespace TestScenario

namespace Json

/-- A node directly below another one. -/
inductive Child : Json → Json → Prop
  | item {items : List Json} {v : Json} : v ∈ items → Child (.arr items) v
  | member {members : Members} {n : String} {v : Json} : (n, v) ∈ members → Child (.obj members) v

/-- What a selector means below a node. -/
inductive Selector.Selects : Selector → Json → Json → Prop
  | name {members : Members} {n : String} {v : Json} : Dict.get? members n = some v → Selects (.name n) (.obj members) v
  | index {items : List Json} {i : Int} {v : Json} : item? items i = some v → Selects (.index i) (.arr items) v
  | all {node v : Json} : Child node v → Selects .all node v

/-- A segment leads from a node to those that its selector means below this node, or below it and anything under it. -/
inductive Segment.Leads : Segment → Json → Json → Prop
  | child {s : Selector} {root v : Json} : s.Selects root v → Leads (.child s) root v
  | descendant {s : Selector} {root node v : Json} : Relation.ReflTransGen Child root node → s.Selects node v →
      Leads (.descendant s) root v

/-- Segments lead from a node to another one by way of others. -/
inductive Reaches : List Segment → Json → Json → Prop
  | here {root : Json} : Reaches [] root root
  | next {s : Segment} {rest : List Segment} {root node v : Json} : s.Leads root node → Reaches rest node v →
      Reaches (s :: rest) root v

variable {root v w : Json}

theorem Child.smaller (child : Child v w) : sizeOf w < sizeOf v := by
  cases child with
  | item member =>
    have less := List.sizeOf_lt_of_mem member
    simp only [arr.sizeOf_spec]
    omega
  | member held =>
    have less := List.sizeOf_lt_of_mem held
    simp only [obj.sizeOf_spec, Prod.mk.sizeOf_spec] at less ⊢
    omega

/-- What holds of a node whenever it holds of those directly below it holds of every node. -/
theorem child_induction {P : Json → Prop} (step : ∀ v, (∀ w, Child v w → P w) → P v) (v : Json) : P v :=
  step v fun w _ => child_induction step w
termination_by v
decreasing_by exact Child.smaller ‹_›

theorem mem_children_iff : v ∈ root.children ↔ Child root v := by
  constructor
  · intro member
    cases root with
    | arr items => exact .item member
    | obj members =>
      obtain ⟨⟨n, w⟩, held, rfl⟩ := List.mem_map.mp member
      exact .member held
    | null | bool | num | str => cases member
  · intro child
    cases child with
    | item member => exact member
    | member held => exact List.mem_map.mpr ⟨_, held, rfl⟩

theorem Selector.mem_pick_iff (s : Selector) : v ∈ s.pick root ↔ s.Selects root v := by
  constructor
  · intro picked
    unfold pick at picked
    split at picked
    · exact .name (Option.mem_toList.mp picked)
    · exact .index (Option.mem_toList.mp picked)
    · exact .all (mem_children_iff.mp picked)
    · cases picked
  · intro selects
    cases selects with
    | name held => exact Option.mem_toList.mpr held
    | index held => exact Option.mem_toList.mpr held
    | all child => exact mem_children_iff.mpr child

/-- The node itself or what is below one of those directly below it. -/
theorem Selector.below_iff (s : Selector) : (∃ node, Relation.ReflTransGen Child root node ∧ s.Selects node v) ↔
    s.Selects root v ∨ ∃ c, Child root c ∧ ∃ node, Relation.ReflTransGen Child c node ∧ s.Selects node v := by
  constructor
  · rintro ⟨node, below, selects⟩
    rcases Relation.ReflTransGen.cases_head below with rfl | ⟨c, child, further⟩
    · exact .inl selects
    · exact .inr ⟨c, child, node, further, selects⟩
  · rintro (selects | ⟨c, child, node, further, selects⟩)
    · exact ⟨root, .refl, selects⟩
    · exact ⟨node, .head child further, selects⟩

theorem Selector.searchItems_eq (s : Selector) (items : List Json) : s.searchItems items = items.flatMap s.search := by
  induction items with
  | nil => rfl
  | cons v rest ih => rw [searchItems, ih, List.flatMap_cons]

theorem Selector.searchMembers_eq (s : Selector) (members : Members) :
    s.searchMembers members = (members.map (·.2)).flatMap s.search := by
  induction members with
  | nil => rfl
  | cons pair rest ih => rw [searchMembers, ih, List.map_cons, List.flatMap_cons]

theorem Selector.search_eq (s : Selector) (v : Json) : s.search v = s.pick v ++ v.children.flatMap s.search := by
  cases v with
  | arr items => rw [search, searchItems_eq, children]
  | obj members => rw [search, searchMembers_eq, children]
  | null | bool | num | str => exact (List.append_nil _).symm

theorem Selector.mem_search_iff (s : Selector) (root v : Json) :
    v ∈ s.search root ↔ ∃ node, Relation.ReflTransGen Child root node ∧ s.Selects node v := by
  induction root using child_induction with
  | step root ih =>
    rw [s.below_iff, search_eq, List.mem_append, s.mem_pick_iff, List.mem_flatMap]
    refine or_congr_right (exists_congr fun c => ?_)
    rw [mem_children_iff]
    exact and_congr_right fun child => ih c child

theorem Segment.mem_pick_iff (s : Segment) : v ∈ s.pick root ↔ s.Leads root v := by
  cases s with
  | child s =>
    rw [pick, s.mem_pick_iff]
    constructor
    · exact .child
    · rintro ⟨selects⟩
      exact selects
  | descendant s =>
    rw [pick, s.mem_search_iff]
    constructor
    · rintro ⟨node, below, selects⟩
      exact .descendant below selects
    · rintro (_ | ⟨below, selects⟩)
      exact ⟨_, below, selects⟩

theorem foldl_pick (segments : List Segment) (found : List Json) :
    segments.foldl (fun found s => found.flatMap s.pick) found = found.flatMap (follow segments) := by
  induction segments generalizing found with
  | nil => exact (List.flatMap_singleton' found).symm
  | cons s rest ih =>
    have first (root : Json) : follow (s :: rest) root = (s.pick root).flatMap (follow rest) := by
      rw [follow, List.foldl_cons, ih, List.flatMap_singleton]
    rw [List.foldl_cons, ih, List.flatMap_assoc]
    exact List.flatMap_congr fun root _ => (first root).symm

theorem follow_cons (s : Segment) (rest : List Segment) (root : Json) :
    follow (s :: rest) root = (s.pick root).flatMap (follow rest) := by
  rw [follow, List.foldl_cons, foldl_pick, List.flatMap_singleton]

/-- Segments are followed to exactly the nodes that they lead to. -/
theorem mem_follow_iff (segments : List Segment) : v ∈ follow segments root ↔ Reaches segments root v := by
  induction segments generalizing root with
  | nil =>
    constructor
    · intro member
      exact List.mem_singleton.mp member ▸ .here
    · rintro ⟨⟩
      exact List.mem_singleton_self v
  | cons s rest ih =>
    rw [follow_cons, List.mem_flatMap]
    constructor
    · rintro ⟨node, picked, followed⟩
      exact .next (s.mem_pick_iff.mp picked) (ih.mp followed)
    · rintro (_ | ⟨leads, reaches⟩)
      exact ⟨_, s.mem_pick_iff.mpr leads, ih.mpr reaches⟩

theorem follow_eq_nil_iff (segments : List Segment) (root : Json) :
    follow segments root = [] ↔ ∀ v, ¬ Reaches segments root v := by
  simp only [List.eq_nil_iff_forall_not_mem, mem_follow_iff]

end Json

namespace Check
variable {r : StepResult} {resolve : String → String} {c : Check}

/-- What the check finds compares with what it expects. -/
def Passes (r : StepResult) (resolve : String → String) (c : Check) : Prop :=
  compare (find r c.source c.property) (resolve c.expectedText) c.comparison

theorem failure?_eq_none_iff : failure? r resolve c = none ↔ c.Passes r resolve := by
  simp only [failure?, Passes, ite_eq_left_iff, reduceCtorEq, imp_false, not_not]

theorem applyAll_status_fail (fails : ¬ c.Passes r resolve) {checks : List Check} (among : c ∈ checks) :
    (applyAll r checks resolve).status = .fail := by
  rw [← failure?_eq_none_iff] at fails
  obtain ⟨line, told⟩ := Option.ne_none_iff_exists'.mp fails
  have reported : line ∈ checks.filterMap (failure? r resolve) := List.mem_filterMap.mpr ⟨c, among, told⟩
  unfold applyAll
  split
  · rename_i nothing
    rw [nothing] at reported
    cases reported
  · rfl

/-- A check that passes leaves no trace among the others. -/
theorem applyAll_skip (passes : c.Passes r resolve) (first later : List Check) :
    applyAll r (first ++ c :: later) resolve = applyAll r (first ++ later) resolve := by
  have silent : failure? r resolve c = none := failure?_eq_none_iff.mpr passes
  have same : (first ++ c :: later).filterMap (failure? r resolve) =
      (first ++ later).filterMap (failure? r resolve) := by
    rw [List.filterMap_append, List.filterMap_cons_none silent, List.filterMap_append]
  rw [applyAll, applyAll, same]

end Check

/-- A path counts as absent from the body of a result: a check that it is there fails, one that it is not there passes
    and might as well be missing, and a rule that takes it takes nothing. -/
structure StepResult.Lacks (r : StepResult) (path : String) : Prop where
  present : ∀ expected checks resolve, ⟨.jsonBody, path, .present, expected⟩ ∈ checks →
    (Check.applyAll r checks resolve).status = .fail
  absent : ∀ expected first later resolve,
    Check.applyAll r (first ++ ⟨.jsonBody, path, .absent, expected⟩ :: later) resolve =
      Check.applyAll r (first ++ later) resolve
  untaken : ∀ rule : ExtractRule, rule.kind = .json → rule.expression = path → ∀ first later s,
    Scopes.setExtracted (first ++ rule :: later) r s = Scopes.setExtracted (first ++ later) r s

/-- A path counts as present in the body of a result, with a value: a check that it is there passes and might as well
    be missing, one that it is not there fails, and a rule that takes it sets its variable to the value. -/
structure StepResult.Holds (r : StepResult) (path : String) (v : Json) : Prop where
  present : ∀ expected first later resolve,
    Check.applyAll r (first ++ ⟨.jsonBody, path, .present, expected⟩ :: later) resolve =
      Check.applyAll r (first ++ later) resolve
  absent : ∀ expected checks resolve, ⟨.jsonBody, path, .absent, expected⟩ ∈ checks →
    (Check.applyAll r checks resolve).status = .fail
  taken : ∀ rule : ExtractRule, rule.kind = .json → rule.expression = path → ∀ first later s,
    Scopes.setExtracted (first ++ rule :: later) r s =
      ((Scopes.setExtracted first r s).setLocal rule.varName v).setExtracted later r

namespace StepResult
variable {r : StepResult} {body path : String}

theorem lacks_of_error (answered : r.responseBody = some body) {cause : Json.PathError}
    (nothing : Json.selectText body path = .error cause) : r.Lacks path := by
  have found : Check.find r .jsonBody path = .notFound := by simp only [Check.find, answered, nothing]
  refine ⟨?_, ?_, ?_⟩
  · intro expected checks resolve among
    refine Check.applyAll_status_fail ?_ among
    simp [Check.Passes, Check.compare, found, Found.isText]
  · intro expected first later resolve
    refine Check.applyAll_skip ?_ first later
    simp [Check.Passes, Check.compare, found, Found.isText]
  · intro rule kind expression first later s
    have untaken : rule.extract r = none := by simp [ExtractRule.extract, kind, answered, expression, nothing]
    rw [Scopes.setExtracted_append, Scopes.setExtracted_of_none untaken, Scopes.setExtracted_append]

theorem holds_of_value (answered : r.responseBody = some body) {v : Json} (filled : v ≠ .null)
    (selected : Json.selectText body path = .ok v) : r.Holds path v := by
  have found : Check.find r .jsonBody path = .text v.text := by simp only [Check.find, answered, selected]
  refine ⟨?_, ?_, ?_⟩
  · intro expected first later resolve
    refine Check.applyAll_skip ?_ first later
    simp [Check.Passes, Check.compare, found, Found.isText]
  · intro expected checks resolve among
    refine Check.applyAll_status_fail ?_ among
    simp [Check.Passes, Check.compare, found, Found.isText]
  · intro rule kind expression first later s
    have taken : rule.extract r = some v := by
      simp only [ExtractRule.extract, kind, answered, expression, selected, Option.bind_eq_bind, Option.bind_some]
    rw [Scopes.setExtracted_append, Scopes.setExtracted_of_some taken]

/-- A path that leads to no node of a result's body is absent if it is one that selects at most one node. Otherwise it
    selects the empty list, which counts as present. -/
theorem absent_path {root : Json} {p : Json.Path} (answered : r.responseBody = some body)
    (document : Json.parse body = some root) (parsed : Json.Path.parse path = .ok p)
    (nowhere : ∀ v, ¬ Json.Reaches p.segments root v) :
    (p.isDefinite → r.Lacks path) ∧ (¬ p.isDefinite → r.Holds path (.arr [])) := by
  have followed : Json.follow p.segments root = [] := (Json.follow_eq_nil_iff p.segments root).mpr nowhere
  have selects : Json.selectText body path = p.select root := by
    simp only [Json.selectText, document, Json.select, parsed]
    rfl
  constructor
  · intro definite
    have missing : p.select root = .error (.notFound p.text) := by
      simp only [Json.Path.select, followed, definite, if_true]
    exact lacks_of_error answered (selects.trans missing)
  · intro indefinite
    have empty : p.select root = .ok (.arr []) := by
      simp only [Json.Path.select, followed, indefinite]
      rfl
    exact holds_of_value answered nofun (selects.trans empty)

/-- Two paths to a name that no object of a body has. -/
theorem absent_path_of_name :
    let r : StepResult :=
      { stepId := 1, name := "Get", status := .pass, responseBody := some "\x7b\"a\":[\x7b\"b\":1\x7d]\x7d" }
    r.Lacks "$.a[0].c" ∧ r.Holds "$..c" (.arr []) := by
  intro r
  let root : Json := .obj [("a", .arr [.obj [("b", .ofNat 1)]])]
  have document : Json.parse "\x7b\"a\":[\x7b\"b\":1\x7d]\x7d" = some root := by cbv
  have definite :
      Json.Path.parse "$.a[0].c" = .ok ⟨"$.a[0].c", [.child (.name "a"), .child (.index 0), .child (.name "c")]⟩ := by
    cbv
  have deep : Json.Path.parse "$..c" = .ok ⟨"$..c", [.descendant (.name "c")]⟩ := by cbv
  constructor
  · refine (absent_path rfl document definite ?_).1 rfl
    rw [← Json.follow_eq_nil_iff]
    cbv
  · refine (absent_path rfl document deep ?_).2 Bool.false_ne_true
    rw [← Json.follow_eq_nil_iff]
    cbv

/-- So it is not enough for a path to lead to no node: two dots before a name that no object has find an empty list. -/
theorem deep_path_to_nowhere_is_present :
    let r : StepResult := { stepId := 1, name := "Get", status := .pass, responseBody := some "\x7b\"a\":1\x7d" }
    let rule : ExtractRule := { varName := "v", expressionText := some "$..nope" }
    Json.Path.parse "$..nope" = .ok ⟨"$..nope", [.descendant (.name "nope")]⟩ ∧
      Json.parse "\x7b\"a\":1\x7d" = some (.obj [("a", .ofNat 1)]) ∧
      (∀ v, ¬ Json.Reaches [.descendant (.name "nope")] (.obj [("a", .ofNat 1)]) v) ∧
      (Check.applyAll r [⟨.jsonBody, "$..nope", .present, .null⟩] id).status = .pass ∧
      (Check.applyAll r [⟨.jsonBody, "$..nope", .absent, .null⟩] id).status = .fail ∧
      (Scopes.setExtracted [rule] r {}).get? "v" = some (.arr []) := by
  intro r rule
  have selected : Json.selectText "\x7b\"a\":1\x7d" "$..nope" = .ok (.arr []) := by cbv
  have holds : r.Holds "$..nope" (.arr []) := holds_of_value rfl (by simp) selected
  refine ⟨by cbv, by cbv, ?_, ?_, ?_, ?_⟩
  · rw [← Json.follow_eq_nil_iff]
    cbv
  · exact congrArg StepResult.status (holds.present .null [] [] id)
  · exact holds.absent .null _ id List.mem_cons_self
  · have set := holds.taken rule rfl rfl [] [] {}
    rw [List.nil_append] at set
    rw [set]
    rfl

end StepResult
end TestScenario
