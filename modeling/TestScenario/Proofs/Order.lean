import Mathlib
import TestScenario.Proofs.CaseVariables

/-!
The order of the tables of variables during a run. Whatever a step sets, adds or hands on is put in its place, whichever
scope it goes to; so tables that are in order stay so all along an action, and those of a run with a context of its own
are in order from its first moment to the last one (`scopes_ordered`).
-/

namespace TestScenario

namespace Scopes
variable {s : Scopes}

theorem Ordered.push (ordered : s.Ordered) : s.push.Ordered := List.forall_mem_cons.mpr ⟨.nil, ordered⟩

theorem Ordered.dropTop (ordered : s.Ordered) : s.dropTop.Ordered := by
  intro scope member
  rcases List.mem_append.mp member with left | global
  · exact ordered scope (List.mem_append_left _ (List.mem_of_mem_drop left))
  · exact ordered scope (List.mem_append_right _ global)

theorem Ordered.setLocals (ordered : s.Ordered) (vars : List (String × Json)) : (s.setLocals vars).Ordered := by
  induction vars generalizing s with
  | nil => exact ordered
  | cons pair rest ih => exact ih (ordered.setLocal pair.1 pair.2)

theorem Ordered.setGlobal (ordered : s.Ordered) (n : String) (v : Json) : (s.setGlobal n v).Ordered := by
  obtain ⟨inner, global⟩ := List.forall_mem_append.mp ordered
  refine List.forall_mem_append.mpr ⟨inner, ?_⟩
  rw [List.forall_mem_singleton] at global ⊢
  exact global.insert n v

theorem ordered_exported {target : Members} (ordered : Dict.Ordered target) (only : Option (List String))
    (source : Members) : Dict.Ordered (exported only source target) := by
  induction source generalizing target with
  | nil => exact ordered
  | cons pair rest ih =>
    obtain ⟨n, v⟩ := pair
    rw [exported_cons]
    split
    · exact ih (ordered.insert n v)
    · exact ih ordered

theorem Ordered.mergeUp (ordered : s.Ordered) (only : Option (List String)) : (s.mergeUp only).Ordered := by
  obtain ⟨globals, inner⟩ := s
  cases inner with
  | nil => exact ordered
  | cons top inner =>
    obtain ⟨here, around⟩ := List.forall_mem_cons.mp ordered
    cases inner with
    | nil =>
      have global := around globals List.mem_cons_self
      exact List.forall_mem_cons.mpr ⟨here, List.forall_mem_singleton.mpr (ordered_exported global only top)⟩
    | cons outer rest =>
      obtain ⟨next, further⟩ := List.forall_mem_cons.mp around
      exact List.forall_mem_cons.mpr ⟨here, List.forall_mem_cons.mpr ⟨ordered_exported next only top, further⟩⟩

end Scopes

namespace Stage
variable {σ η : Type}

/-- Tables of variables that are in order before are in order after. -/
def KeepsOrder (s t : Stage σ η) : Prop := s.context.scopes.Ordered → t.context.scopes.Ordered

instance : IsPreorder (Stage σ η) KeepsOrder where
  refl _ := id
  trans _ _ _ first second := second ∘ first

theorem Agree.order {s t : Stage σ η} (same : Agree Stage.place s t) : KeepsOrder s t := by
  intro ordered
  have scopes : t.context.scopes = s.context.scopes := congrArg Prod.fst same
  rwa [scopes]

end Stage

namespace Engine
variable {σ η : Type} (e : Engine σ η)
open Act Scopes Stage

section
variable {α : Type} {x : Act σ η α}

theorem order_of_place (stays : x.Along (Agree place)) : x.Along KeepsOrder := stays.mono Agree.order

theorem order_of_own (own : x.Along (Agree Stage.own)) : x.Along KeepsOrder :=
  own.mono fun same => same.context |> Agree.place |> Agree.order

theorem modifyScopes_order {f : Scopes → Scopes} (kept : ∀ s, s.Ordered → (f s).Ordered) :
    (modifyScopes f : Act σ η Unit).Along KeepsOrder := .step fun s => kept s.context.scopes

theorem record_order (step : Step) (r : StepResult) : (e.record step r).Along KeepsOrder :=
  order_of_place (e.record_place step r)

end

/-! ### Steps -/

theorem runCase_order (step : Step) (t : TestCase) : (e.runCase step t).Along KeepsOrder := by
  refine .bind (order_of_place (registerStep_place _ _)) fun _ => ?_
  refine .bind (order_of_own context_own) fun before => ?_
  refine .bind (modifyScopes_order fun s ordered => ordered.addMissing _) fun _ => ?_
  refine .bind (order_of_own context_own) fun c => ?_
  refine .bind (order_of_own e.now_own) fun begun => ?_
  refine .bind (order_of_own (ask_own _)) fun ran => ?_
  refine .bind (order_of_own e.now_own) fun ended => ?_
  refine .bind (e.record_order step _) fun results => ?_
  refine .bind (modifyScopes_order fun s ordered => ordered.setChanged _ _) fun _ => ?_
  refine .bind (modifyScopes_order fun s ordered => ?_) fun _ => .pure results
  exact ordered.setExtracted _ _

theorem caseStep_order (step : Step) : (e.caseStep step).Along KeepsOrder := by
  unfold caseStep
  simp only
  split
  · exact e.record_order step _
  · refine .bind (order_of_own (ask_own _)) fun found => ?_
    split
    · exact e.record_order step _
    · exact e.record_order step _
    · exact e.runCase_order step _

theorem scriptStep_order (step : Step) : (e.scriptStep step).Along KeepsOrder := by
  refine .bind (order_of_place (registerStep_place _ _)) fun _ => ?_
  split
  · exact e.record_order step _
  · refine .bind (order_of_own context_own) fun c => ?_
    refine .bind (order_of_own (ask_own _)) fun ran => ?_
    refine .bind (modifyScopes_order fun s ordered => ordered.setAssigned _ _) fun _ => ?_
    exact e.record_order step _

theorem waitStep_order (step : Step) : (e.waitStep step).Along KeepsOrder := by
  refine .bind (order_of_own (ask_own _)) fun ended => ?_
  split
  · exact .bind (order_of_place (e.emit_place _)) fun _ => .pure []
  · exact .pure []

section
variable {body : Act σ η (List StepResult)} {nested : Int → Act σ η Ending}

theorem inScope_order (bindings : List (String × Json)) (kept : body.Along KeepsOrder) :
    (inScope bindings body).Along KeepsOrder := by
  refine .bind (modifyScopes_order fun s ordered => ordered.push.setLocals bindings) fun _ => ?_
  refine .bind kept fun results => ?_
  exact .bind (modifyScopes_order fun s ordered => (ordered.mergeUp none).dropTop) fun _ => .pure results

theorem conditionStep_order (step : Step) (kept : body.Along KeepsOrder) :
    (e.conditionStep step body).Along KeepsOrder :=
  .bind (order_of_own (e.condition_own _)) fun _ => .ite (inScope_order [] kept) (.pure [])

theorem loopRounds_order {goesOn : Act σ η Bool} (own : goesOn.Along (Agree Stage.own))
    (bindings : Nat → List (String × Json)) (limit : Nat) (kept : body.Along KeepsOrder) :
    (e.loopRounds goesOn bindings limit body).Along KeepsOrder := by
  refine .rounds (fun round => .bind (order_of_own e.isCancelled_own) fun cancelled => ?_) limit 0
  refine .ite (.pure none) (.bind (order_of_own own) fun holds => .ite ?_ (.pure none))
  exact (inScope_order (bindings round) kept).map some

theorem loopStep_order (step : Step) (kept : body.Along KeepsOrder) : (e.loopStep step body).Along KeepsOrder := by
  unfold loopStep
  simp only
  split
  · exact e.loopRounds_order (.pure true) _ _ kept
  · exact .bind (order_of_own context_own) fun c => e.loopRounds_order (.pure true) _ _ kept
  · exact e.loopRounds_order (e.condition_own _) _ _ kept

theorem takeOver_order (step : Step) (name : String) (ending : Ending) :
    (e.takeOver step name ending).Along KeepsOrder := by
  cases ending with
  | ok results => exact .bind (modifyScopes_order fun s ordered => ordered.mergeUp none) fun _ => .pure results
  | error problem => exact e.record_order step _

theorem scenarioStep_order (keptInside : ∀ id, (nested id).Along KeepsOrder) (step : Step) :
    (e.scenarioStep nested step).Along KeepsOrder := by
  unfold scenarioStep
  simp only
  split
  · exact e.record_order step _
  · refine .bind (order_of_own context_own) fun c => .ite (e.record_order step _) ?_
    refine .bind (order_of_place (registerStep_place _ _)) fun _ => ?_
    refine .bind (modifyScopes_order fun s ordered => ordered.push) fun _ => .bind (keptInside _) fun ending => ?_
    refine .bind (e.takeOver_order step _ ending) fun results => ?_
    exact .bind (modifyScopes_order fun s ordered => ordered.dropTop) fun _ => .pure results

theorem invoke_order (keptInside : ∀ id, (nested id).Along KeepsOrder) (step : Step) (kept : body.Along KeepsOrder) :
    (e.invoke nested step body).Along KeepsOrder := by
  unfold invoke
  refine .ite ?_ (.pure [])
  split
  · exact e.caseStep_order step
  · exact kept
  · exact e.conditionStep_order step kept
  · exact e.loopStep_order step kept
  · exact e.waitStep_order step
  · exact e.scriptStep_order step
  · exact e.scenarioStep_order keptInside step

theorem perform_order (keptInside : ∀ id, (nested id).Along KeepsOrder) (step : Step) (kept : body.Along KeepsOrder) :
    (e.perform nested step body).Along KeepsOrder := by
  have invoked := e.invoke_order keptInside step kept
  refine .ite (.pure []) (.bind (order_of_place (e.emit_place _)) fun _ => ?_)
  refine .bind (order_of_own e.isCancelled_own) fun cancelled => .bind ?_ fun results => ?_
  · exact .ite (.ite (e.record_order step _) (.ite invoked (.pure []))) invoked
  · exact .bind (order_of_own (e.log_own step results)) fun _ => .pure results

theorem dispatchAll_order (keptInside : ∀ id, (nested id).Along KeepsOrder) (steps : List Step) :
    (e.dispatchAll nested steps).Along KeepsOrder := by
  refine dispatchAll_induction (P := fun _ x => x.Along KeepsOrder) (Q := fun _ x => x.Along KeepsOrder)
    (.pure []) ?_ ?_ steps
  · intro step rest x y first later
    exact .bind first fun _ => .bind later fun _ => .pure _
  · intro step body kept
    exact e.perform_order keptInside step kept

/-! ### Scenarios -/

theorem loadVariables_order (s : Scenario) : (e.loadVariables s).Along KeepsOrder := by
  unfold loadVariables
  split
  · exact .pure _
  · refine .bind (order_of_own context_own) fun c => .bind (order_of_own (ask_own _)) fun found => ?_
    split
    · exact .pure _
    · rename_i vars
      refine .bind (modifyScopes_order fun s ordered => ?_) fun _ => .pure _
      exact List.foldlRecOn vars _ ordered fun s ordered pair _ => ordered.setGlobal pair.1 pair.2

theorem openRecord_order (s : Scenario) : (e.openRecord s).Along KeepsOrder := by
  refine .bind (order_of_own context_own) fun c => .bind (order_of_own e.now_own) fun time => ?_
  split
  · exact .pure _
  · refine .bind (order_of_own (keep_own _)) fun kept => ?_
    split
    · exact .pure _
    · exact .bind (.step fun _ ordered => ordered) fun _ => .pure _

theorem runSteps_order {walk : List Step → Act σ η (List StepResult)} (kept : ∀ steps, (walk steps).Along KeepsOrder)
    (s : Scenario) (record : Option RunRecord) : (e.runSteps s record walk).Along KeepsOrder := by
  refine .bind (order_of_own (ask_own _)) fun steps => ?_
  split
  · refine .bind (order_of_own e.now_own) fun time => ?_
    exact .bind (order_of_own (e.forM_closeRecord_own record _)) fun _ => .pure _
  · refine .bind (order_of_own e.now_own) fun begun => .bind (kept _) fun results => ?_
    refine .bind (order_of_own e.now_own) fun ended => .bind (order_of_own e.isCancelled_own) fun cancelled => ?_
    refine .bind (order_of_own (e.forM_closeRecord_own record _)) fun _ => ?_
    exact .bind (order_of_place (e.emit_place _)) fun _ => .pure _

theorem enter_order {walk : List Step → Act σ η (List StepResult)} (kept : ∀ steps, (walk steps).Along KeepsOrder)
    (outermost : Bool) (id : Int) : (e.enter outermost id walk).Along KeepsOrder := by
  refine .bind (order_of_own (ask_own _)) fun found => ?_
  split
  · exact .pure _
  · exact .pure _
  · rename_i scenario
    have started : (e.emit (.scenarioStarted scenario.id scenario.name)).Along KeepsOrder :=
      order_of_place (e.emit_place _)
    refine .bind (.step fun _ ordered => ordered) fun _ => .bind (.ite ?_ ?_) fun ending => ?_
    · refine .bind (e.loadVariables_order scenario) fun loaded => ?_
      split
      · exact .pure _
      · refine .bind started fun _ => .bind (e.openRecord_order scenario) fun record => ?_
        exact e.runSteps_order kept scenario (some record)
    · exact .bind started fun _ => e.runSteps_order kept scenario none
    · exact .bind (.step fun _ ordered => ordered) fun _ => .pure ending

theorem attempt_order (keptInside : ∀ id, (nested id).Along KeepsOrder) (outermost : Bool) (id : Int) :
    (e.attempt nested outermost id).Along KeepsOrder :=
  .bind (order_of_own context_own) fun _ =>
    .ite (.pure _) (.ite (.pure _) (e.enter_order (e.dispatchAll_order keptInside) outermost id))

end

theorem nested_order (id : Int) : (e.nested id).Along KeepsOrder := by
  have inside (levels : Nat) : ∀ id,
      (e.inside (fun id => pure (.error (.tooDeep id e.config.maxNesting))) levels id).Along KeepsOrder := by
    induction levels with
    | zero => exact fun _ => .pure _
    | succ levels ih => exact e.attempt_order ih false
  exact inside _ id

/-- All along a run of a scenario the tables of variables are in order, whatever has been there before. -/
theorem scopes_ordered (id : Int) (envKey : String) (s : Stage σ η) :
    ∀ m ∈ (e.execute id envKey).trail s, m.context.scopes.Ordered := by
  have fresh : ({} : Scopes).Ordered := List.forall_mem_singleton.mpr .nil
  have goesOn : (do
      if ← e.limitTime then e.attempt e.nested true id else pure (.error .beyondClock) :
        Act σ η Ending).Along KeepsOrder :=
    .bind (order_of_own e.limitTime_own) fun _ => .ite (e.attempt_order e.nested_order true id) (.pure _)
  intro m member
  rw [execute, executeWith, trail_bind] at member
  rcases List.mem_append.mp member with first | later
  · cases List.mem_singleton.mp first
    exact fresh
  · exact goesOn _ m later fresh

end Engine
end TestScenario
