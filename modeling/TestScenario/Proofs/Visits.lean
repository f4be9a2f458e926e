import Mathlib
import TestScenario.Proofs.Erasure
import TestScenario.Proofs.Logs
import TestScenario.Proofs.Nesting
import TestScenario.Proofs.Rows

/-!
Scenarios of test cases, scripts, waits and groups. Every test case and every script that is switched on, with nothing
around it but groups that are switched on, has one result, whatever fails and whenever the run is cancelled; the results
stand in the order of the tree (`results_of_visited`).
-/

namespace TestScenario
variable {σ η : Type}

namespace Step

mutual
/-- A step with the steps around it, the innermost one first, and then the steps inside it in the same way. -/
def walk (around : List Step) : Step → List (List Step × Step)
  | ⟨row, children⟩ => (around, ⟨row, children⟩) :: walkAll (⟨row, children⟩ :: around) children
/-- `walk` of steps one after the other. -/
def walkAll (around : List Step) : List Step → List (List Step × Step)
  | [] => []
  | step :: rest => walk around step ++ walkAll around rest
end

/-- A test case or a script that is switched on, with nothing around it but groups that are switched on. -/
def IsVisited (place : List Step × Step) : Prop :=
  place.2.row.kind.isLeaf ∧ ¬ place.2.isDisabled ∧ ∀ group ∈ place.1, group.IsOpenGroup

instance (place : List Step × Step) : Decidable (IsVisited place) := inferInstanceAs (Decidable (_ ∧ _ ∧ _))

/-- The test cases and scripts that are visited, in the order of the tree. -/
def visited (around steps : List Step) : List Step :=
  ((walkAll around steps).filter fun place => IsVisited place).map (·.2)

mutual
theorem walk_steps : ∀ (around : List Step) (step : Step), (walk around step).map (·.2) = preorder step
  | around, ⟨row, children⟩ => by
    rw [walk, List.map_cons, walkAll_steps (⟨row, children⟩ :: around) children, preorder]
/-- A walk comes to each step before those inside it. -/
theorem walkAll_steps : ∀ (around steps : List Step), (walkAll around steps).map (·.2) = preorderAll steps
  | _, [] => rfl
  | around, step :: rest => by
    rw [walkAll, List.map_append, walk_steps around step, walkAll_steps around rest, preorderAll]
end

mutual
theorem around_subset_of_walk : ∀ {around : List Step} {step : Step} {place : List Step × Step},
    place ∈ walk around step → around ⊆ place.1
  | around, ⟨row, children⟩, place, member => by
    rcases List.mem_cons.mp member with rfl | within
    · exact List.Subset.refl _
    · exact fun s listed => around_subset_of_walkAll within (List.mem_cons_of_mem _ listed)
/-- What is around some steps is around all those inside them. -/
theorem around_subset_of_walkAll : ∀ {around steps : List Step} {place : List Step × Step},
    place ∈ walkAll around steps → around ⊆ place.1
  | _, [], _, member => by cases member
  | around, step :: rest, place, member => by
    rcases List.mem_append.mp member with first | later
    · exact around_subset_of_walk first
    · exact around_subset_of_walkAll later
end

section
variable {around steps : List Step} {step : Step}

/-- Inside anything but an open group, nothing is visited. -/
theorem visited_of_closed (member : step ∈ around) (closed : ¬ step.IsOpenGroup) : visited around steps = [] := by
  refine List.map_eq_nil_iff.mpr (List.filter_eq_nil_iff.mpr fun place listed visited => closed ?_)
  exact (of_decide_eq_true visited).2.2 step (around_subset_of_walkAll listed member)

theorem visited_cons (around : List Step) (step : Step) (rest : List Step) :
    visited around (step :: rest) = visited around [step] ++ visited around rest := by
  simp only [visited, walkAll, List.append_nil, List.filter_append, List.map_append]

/-- A step comes before what is visited inside it, if it is visited itself. -/
theorem visited_singleton (around : List Step) (step : Step) :
    visited around [step] =
      (if IsVisited (around, step) then [step] else []) ++ visited (step :: around) step.children := by
  obtain ⟨row, children⟩ := step
  simp only [visited, walkAll, walk, List.append_nil, List.filter_cons, decide_eq_true_eq]
  split
  · rfl
  · rfl

theorem visited_of_leaf (leaf : step.row.kind.isLeaf) (enabled : ¬ step.isDisabled)
    (opened : ∀ group ∈ around, group.IsOpenGroup) : visited around [step] = [step] := by
  have closed : ¬ step.IsOpenGroup := fun group => by rw [group.1] at leaf; cases leaf
  rw [visited_singleton, if_pos ⟨leaf, enabled, opened⟩, visited_of_closed List.mem_cons_self closed]
  rfl

/-- A step without a result of its own adds nothing to what is visited inside it. -/
theorem visited_of_inner (other : ¬ (step.row.kind.isLeaf ∧ ¬ step.isDisabled)) :
    visited around [step] = visited (step :: around) step.children := by
  rw [visited_singleton, if_neg fun place => other ⟨place.1, place.2.1⟩, List.nil_append]

theorem visited_of_disabled (disabled : step.isDisabled) : visited around [step] = [] := by
  rw [visited_of_inner fun leaf => leaf.2 disabled]
  exact visited_of_closed List.mem_cons_self fun group => group.2 disabled

end

end Step

namespace Engine
open Act Step

section
variable {e : Engine σ η} {nested : Int → Act σ η Ending} {body : Act σ η (List StepResult)} {step : Step}

/-- A step that is switched on answers with the results of going on with it. -/
theorem perform_answer (e : Engine σ η) (nested : Int → Act σ η Ending) (body : Act σ η (List StepResult))
    (enabled : ¬ step.isDisabled) (s : Stage σ η) :
    ∃ cancelled t, ((e.perform nested step body).run s).1 = ((e.proceed nested step body cancelled).run t).1 := by
  unfold perform
  rw [if_neg enabled]
  simp only [run_bind, run_pure]
  exact ⟨_, _, rfl⟩

/-- A test case or a script has one result, in a cancelled run as well. -/
theorem proceed_hasOwn (nested : Int → Act σ η Ending) (body : Act σ η (List StepResult))
    (known : ∀ kind, e.kinds.contains kind) (leaf : step.row.kind.isLeaf) (cancelled : Bool) (s : Stage σ η) :
    step.HasOwn ((e.proceed nested step body cancelled).run s).1 := by
  unfold proceed passOver invoke
  rw [if_pos leaf, if_pos (known _)]
  split
  · exact record_hasOwn rfl s
  · cases kind : step.row.kind with
    | testCase => exact caseStep_hasOwn s
    | script => exact scriptStep_hasOwn s
    | group | condition | loop | wait | scenario => rw [kind] at leaf; cases leaf

theorem waitStep_answer (step : Step) (s : Stage σ η) : ((e.waitStep step).run s).1 = [] := by
  unfold waitStep
  rw [run_bind]
  split
  · rfl
  · rfl

theorem proceed_wait (known : ∀ kind, e.kinds.contains kind) (waits : step.row.kind = .wait) (cancelled : Bool)
    (s : Stage σ η) : ((e.proceed nested step body cancelled).run s).1 = [] := by
  unfold proceed passOver invoke
  rw [if_pos (known _), waits]
  split
  · rfl
  · exact waitStep_answer step s

/-- A step has the results of what is visited in it, if the steps inside it have. -/
theorem perform_visits (known : ∀ kind, e.kinds.contains kind)
    (plain : step.row.kind ∈ [.testCase, .script, .wait, .group]) {around : List Step}
    (opened : ∀ group ∈ around, group.IsOpenGroup)
    (inside : step.IsOpenGroup → ∀ s,
      (body.run s).1.map (·.stepId) = (visited (step :: around) step.children).map (·.row.id))
    (s : Stage σ η) :
    ((e.perform nested step body).run s).1.map (·.stepId) = (visited around [step]).map (·.row.id) := by
  by_cases disabled : step.isDisabled
  · rw [perform, if_pos disabled, visited_of_disabled disabled]
    rfl
  · obtain ⟨cancelled, t, answer⟩ := perform_answer e nested body disabled s
    rw [answer]
    by_cases leaf : step.row.kind.isLeaf
    · obtain ⟨r, alone, own⟩ := proceed_hasOwn nested body known leaf cancelled t
      rw [alone, visited_of_leaf leaf disabled opened, List.map_singleton, List.map_singleton, own]
    · rw [visited_of_inner fun place => leaf place.1]
      by_cases group : step.row.kind = .group
      · rw [proceed_group (known _) group]
        exact inside ⟨group, disabled⟩ t
      · have waits : step.row.kind = .wait := by
          cases kind : step.row.kind <;> simp_all [StepKind.isLeaf]
        rw [proceed_wait known waits, visited_of_closed List.mem_cons_self fun opened => group opened.1]
        rfl

/-- Steps have one result for each test case and each script that is visited in them, in order. -/
theorem dispatchAll_visits (nested : Int → Act σ η Ending) (known : ∀ kind, e.kinds.contains kind) (steps : List Step)
    (plain : ∀ step, Among steps step → step.row.kind ∈ [.testCase, .script, .wait, .group]) (around : List Step)
    (opened : ∀ group ∈ around, group.IsOpenGroup) (s : Stage σ η) :
    ((e.dispatchAll nested steps).run s).1.map (·.stepId) = (visited around steps).map (·.row.id) := by
  revert plain around opened s
  refine dispatchAll_induction
    (P := fun step x => (∀ inner, Among [step] inner → inner.row.kind ∈ [.testCase, .script, .wait, .group]) →
      ∀ around, (∀ group ∈ around, group.IsOpenGroup) → ∀ s,
        (x.run s).1.map (·.stepId) = (visited around [step]).map (·.row.id))
    (Q := fun steps x => (∀ inner, Among steps inner → inner.row.kind ∈ [.testCase, .script, .wait, .group]) →
      ∀ around, (∀ group ∈ around, group.IsOpenGroup) → ∀ s,
        (x.run s).1.map (·.stepId) = (visited around steps).map (·.row.id))
    (fun _ _ _ _ => rfl) ?_ ?_ steps
  · intro step rest x y first later plain around opened s
    have one := first (fun inner among => plain inner (Among.cons_iff.mpr (.inl among))) around opened s
    have others := later (fun inner among => plain inner (Among.cons_iff.mpr (.inr among))) around opened
    rw [run_bind, run_bind, run_pure, List.map_append, one, others, visited_cons around step rest,
      List.map_append]
  · intro step body within plain around opened s
    refine perform_visits known (plain step (Among.singleton_iff.mpr (.inl rfl))) opened (fun group t => ?_) s
    refine within (fun inner among => plain inner (Among.singleton_iff.mpr (.inr among))) _ ?_ t
    exact List.forall_mem_cons.mpr ⟨group, opened⟩

end

/-- A scenario of test cases, scripts, waits and groups has one result for each test case and each script that is
    switched on and surrounded by nothing but groups that are switched on. The results stand in the order of the tree,
    which is the forest of the rows of the scenario, and none has the id of another one. There are results unless the
    settings allow no scenario at all, or let it take longer than the clock reaches. -/
theorem results_of_visited {c : Catalog} {id : Int} {scenario : Scenario} (found : c.scenario? id = some scenario)
    (plain : ∀ r ∈ scenario.rows, r.kind ∈ [.testCase, .script, .wait, .group]) (world : World σ) (config : Config)
    (sink : Option (Sink η)) (observed : Bool) (envKey : String) (s : Stage σ η) :
    let ending := (((c.engine world config sink observed).execute id envKey).run s).1
    Forest.IsForest scenario.rows scenario.steps ∧
      (ending.isOk ↔ 1 ≤ config.maxNesting ∧ (c.engine world config sink observed).clockReaches s.host) ∧
      ∀ results, ending = .ok results →
        results.map (·.stepId) =
          ((walkAll [] scenario.steps).filter fun place => IsVisited place).map (·.2.row.id) ∧
        (results.map (·.stepId)).Nodup := by
  intro ending
  have isForest := Forest.ofRows_isForest scenario.rows
  have allowed : ending.isOk ↔ 1 ≤ config.maxNesting ∧ (c.engine world config sink observed).clockReaches s.host := by
    rw [execute_isOk, found]
    exact and_iff_right rfl
  refine ⟨isForest, allowed, fun results ended => ?_⟩
  obtain ⟨room, reaches⟩ := allowed.mp (by rw [ended]; rfl)
  obtain ⟨t, answer⟩ : ∃ t, ending = .ok (((c.engine world config sink observed).dispatchAll
    (c.engine world config sink observed).nested scenario.steps).run t).1 := execute_answer found room envKey reaches
  have kinds (step : Step) (among : Among scenario.steps step) :
      step.row.kind ∈ [.testCase, .script, .wait, .group] :=
    plain _ (Forest.mem_of_mem_lastRows (Forest.row_mem_lastRows among))
  have visits := dispatchAll_visits (c.engine world config sink observed).nested
    (c.engine_kinds world config sink observed) scenario.steps kinds [] (List.forall_mem_nil _) t
  rw [visited, List.map_map] at visits
  obtain rfl := Except.ok.inj (ended.symm.trans answer)
  refine ⟨visits, ?_⟩
  have once : ((walkAll [] scenario.steps).map (·.2.row.id)).Nodup := by
    have ids := isForest.once
    rw [← walkAll_steps [], List.map_map] at ids
    exact ids
  rw [visits]
  exact once.sublist (List.filter_sublist.map _)

/-- An orphan comes first by its number, then a group with a script and a case without a number. Steps in a group that
    is switched off, inside a wait and in a circle are not visited. -/
theorem results_of_visited_amid_others :
    let rows : List StepRow := [
      { id := 1, kind := .group, order := some 2 },
      { id := 2, kind := .testCase, parent := some 1 },
      { id := 3, kind := .script, parent := some 1, order := some 7 },
      { id := 4, kind := .group, overrides := some (.obj [("enabled", .bool false)]) },
      { id := 5, kind := .script, parent := some 4 },
      { id := 6, kind := .wait, order := some 1 },
      { id := 7, kind := .script, parent := some 6 },
      { id := 8, kind := .script, parent := some 99, order := some 0 },
      { id := 9, kind := .group, parent := some 10 },
      { id := 10, kind := .group, parent := some 9 }]
    let scenario : Scenario := { id := 1, name := "Mixed", rows }
    let c : Catalog := { scenarios := [scenario] }
    let e := c.engine (Rehearsal.world (Prepared.runCase [])) {} (none : Option (Sink Unit)) false
    c.scenario? 1 = some scenario ∧ (∀ r ∈ rows, r.kind ∈ [.testCase, .script, .wait, .group]) ∧
      ∃ results, ((e.execute 1 "").run { host := { services := [] }, kept := () }).1 = .ok results ∧
        results.map (·.stepId) = [8, 3, 2] ∧ (results.map (·.stepId)).Nodup := by
  intro rows scenario c e
  have found : c.scenario? 1 = some scenario := rfl
  have plain : ∀ r ∈ rows, r.kind ∈ [.testCase, .script, .wait, .group] := by decide
  obtain ⟨-, allowed, answer⟩ := results_of_visited found plain (Rehearsal.world (Prepared.runCase [])) {} none false ""
    { host := { services := [] }, kept := () }
  have visited : ((walkAll [] scenario.steps).filter fun place => IsVisited place).map (·.2.row.id) = [8, 3, 2] := by
    cbv
  cases ended : ((e.execute 1 "").run { host := { services := [] }, kept := () }).1 with
  | error problem =>
    rw [ended] at allowed
    exact absurd (allowed.mpr (by decide)) Bool.false_ne_true
  | ok results =>
    obtain ⟨ids, once⟩ := answer results ended
    exact ⟨found, plain, results, rfl, ids.trans visited, once⟩

end Engine
end TestScenario
