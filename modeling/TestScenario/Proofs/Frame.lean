import Mathlib
import TestScenario.Catalog.Parts
import TestScenario.Engine.Rehearsal
import TestScenario.Proofs.Action
import TestScenario.Proofs.Scopes

/-!
What a step leaves as it is. A step changes no scope but the innermost one and takes no variable away from it; one that
opens scopes of its own does not even change a variable there. The scenarios that are being executed are the same
before and after (`dispatch_frame`).
-/

namespace TestScenario

/-- Where a run stands: its scopes, and the scenarios that it is inside. -/
def Stage.place {σ η : Type} (s : Stage σ η) : Scopes × List Int := (s.context.scopes, s.context.executing)

/-- The same scenarios are being executed, and the scopes are related. -/
structure Stage.Framed {σ η : Type} (R : Scopes → Scopes → Prop) (s t : Stage σ η) : Prop where
  executing : t.context.executing = s.context.executing
  scopes : R s.context.scopes t.context.scopes

/-- Whether steps of a kind open scopes of their own. -/
def StepKind.opensScopes : StepKind → Bool
  | .condition => true
  | .loop => true
  | .scenario => true
  | _ => false

namespace Stage
variable {σ η : Type} {R S : Scopes → Scopes → Prop}

instance [IsPreorder Scopes R] : IsPreorder (Stage σ η) (Framed R) where
  refl _ := ⟨rfl, Std.Refl.refl _⟩
  trans _ _ _ first second :=
    ⟨second.executing.trans first.executing, IsTrans.trans _ _ _ first.scopes second.scopes⟩

theorem Framed.mono {s t : Stage σ η} (sub : ∀ {a b}, R a b → S a b) (framed : Framed R s t) : Framed S s t :=
  ⟨framed.executing, sub framed.scopes⟩

theorem Agree.framed [Std.Refl R] {s t : Stage σ η} (same : Agree place s t) : Framed R s t := by
  have scopes : t.context.scopes = s.context.scopes := congrArg Prod.fst same
  have executing : t.context.executing = s.context.executing := congrArg Prod.snd same
  refine ⟨executing, ?_⟩
  rw [scopes]
  exact Std.Refl.refl _

theorem Agree.place {s t : Stage σ η} (same : Agree Stage.context s t) : Agree Stage.place s t :=
  congrArg (fun c : Context => (c.scopes, c.executing)) same

end Stage

namespace Engine
variable {σ η : Type} (e : Engine σ η)
open Act Scopes Stage

theorem modifyScopes_framed {R : Scopes → Scopes → Prop} {f : Scopes → Scopes} (related : ∀ s, R s (f s)) :
    (modifyScopes f : Act σ η Unit).Along (Framed R) :=
  .step fun s => ⟨rfl, related s.context.scopes⟩

theorem emit_place (happening : Happening) : (e.emit happening).Along (Agree place) :=
  (e.emit_context happening).mono Agree.place

theorem registerStep_place (id : Int) (name : String) :
    (modifyContext (·.registerStep id name) : Act σ η Unit).Along (Agree place) := .step fun _ => rfl

theorem record_place (step : Step) (result : StepResult) : (e.record step result).Along (Agree place) :=
  .bind (.step fun _ => rfl) fun _ => .bind (e.emit_place _) fun _ => .pure _

section
variable {R : Scopes → Scopes → Prop} [Std.Refl R] {α : Type} {x : Act σ η α}

/-- An action that stays in its place keeps to any frame. -/
theorem framed_of_place (stays : x.Along (Agree place)) : x.Along (Framed R) := stays.mono Agree.framed

theorem framed_of_own (own : x.Along (Agree Stage.own)) : x.Along (Framed R) :=
  own.mono fun same => same.context |> Agree.place |> Agree.framed

theorem record_framed (step : Step) (result : StepResult) : (e.record step result).Along (Framed R) :=
  framed_of_place (e.record_place step result)

end

/-! ### Steps without steps inside -/

theorem runCase_grown (step : Step) (t : TestCase) : (e.runCase step t).Along (Framed Grown) := by
  refine .bind (framed_of_place (registerStep_place _ _)) fun _ => ?_
  refine .bind (framed_of_own context_own) fun before => ?_
  refine .bind (modifyScopes_framed (grown_foldl (fun s (n, v) => grown_setLocal_unless _ s n v) _)) fun _ => ?_
  refine .bind (framed_of_own context_own) fun c => ?_
  refine .bind (framed_of_own e.now_own) fun begun => ?_
  refine .bind (framed_of_own (ask_own _)) fun ran => ?_
  refine .bind (framed_of_own e.now_own) fun ended => ?_
  refine .bind (e.record_framed step _) fun results => ?_
  refine .bind (modifyScopes_framed (grown_foldl (fun s (n, v) => grown_setLocal_unless _ s n v) _)) fun _ => ?_
  refine .bind (modifyScopes_framed (grown_foldl ?_ _)) fun _ => .pure results
  intro s rule
  split
  · exact s.grown_setLocal rule.varName _
  · exact Std.Refl.refl s

theorem caseStep_grown (step : Step) : (e.caseStep step).Along (Framed Grown) := by
  unfold caseStep
  simp only
  split
  · exact e.record_framed step _
  · refine .bind (framed_of_own (ask_own _)) fun found => ?_
    split
    · exact e.record_framed step _
    · exact e.record_framed step _
    · exact e.runCase_grown step _

theorem scriptStep_grown (step : Step) : (e.scriptStep step).Along (Framed Grown) := by
  refine .bind (framed_of_place (registerStep_place _ _)) fun _ => ?_
  split
  · exact e.record_framed step _
  · refine .bind (framed_of_own context_own) fun c => ?_
    refine .bind (framed_of_own (ask_own _)) fun ran => ?_
    refine .bind (modifyScopes_framed (grown_foldl (fun s (n, v) => grown_setLocal_unless _ s n v) _)) fun _ => ?_
    exact e.record_framed step _

theorem waitStep_framed {R : Scopes → Scopes → Prop} [IsPreorder Scopes R] (step : Step) :
    (e.waitStep step).Along (Framed R) := by
  refine .bind (framed_of_own (ask_own _)) fun ended => ?_
  split
  · exact .bind (framed_of_place (e.emit_place _)) fun _ => .pure []
  · exact .pure []

/-! ### Steps with scopes of their own -/

section
variable {body : Act σ η (List StepResult)}

theorem inScope_spared (bindings : List (String × Json)) (grown : body.Ensures (Framed Grown)) :
    (inScope bindings body).Ensures (Framed Spared) := by
  intro s
  have framed := grown { s with context := s.context.mapScopes (·.push.setLocals bindings) }
  rw [run_inScope]
  refine ⟨framed.executing, spared_mergeUp_dropTop none ?_⟩
  exact framed.scopes.below.trans (below_setLocals _ bindings)

theorem conditionStep_spared (step : Step) (grown : body.Ensures (Framed Grown)) :
    (e.conditionStep step body).Ensures (Framed Spared) := by
  refine .bind (framed_of_own (e.condition_own _)).ensures fun holds => ?_
  split
  · exact inScope_spared [] grown
  · exact .pure []

theorem loopRounds_spared {goesOn : Act σ η Bool} (own : goesOn.Along (Agree Stage.own))
    (bindings : Nat → List (String × Json)) (limit : Nat) (grown : body.Ensures (Framed Grown)) :
    (e.loopRounds goesOn bindings limit body).Ensures (Framed Spared) := by
  refine .rounds (fun round => .bind (framed_of_own e.isCancelled_own).ensures fun cancelled => ?_) limit 0
  refine .ite (.pure none) (.bind (framed_of_own own).ensures fun holds => .ite ?_ (.pure none))
  exact (inScope_spared (bindings round) grown).map some

theorem loopStep_spared (step : Step) (grown : body.Ensures (Framed Grown)) :
    (e.loopStep step body).Ensures (Framed Spared) := by
  unfold loopStep
  simp only
  split
  · exact e.loopRounds_spared (.pure true) _ _ grown
  · exact .bind (framed_of_own context_own).ensures fun c => e.loopRounds_spared (.pure true) _ _ grown
  · exact e.loopRounds_spared (e.condition_own _) _ _ grown

end

/-- What a step takes over from another scenario goes to the scope around, and the scope of its own goes away. -/
theorem takeOver_dropTop_spared (step : Step) (name : String) (ending : Ending) {s t : Stage σ η}
    (executing : t.context.executing = s.context.executing) (inside : t.context.scopes.below = s.context.scopes.all) :
    Framed Spared s ((do
      let results ← e.takeOver step name ending
      modifyScopes Scopes.dropTop
      pure results : Act σ η (List StepResult)).run t).2 := by
  rw [run_bind]
  cases ending with
  | ok results => exact ⟨executing, spared_mergeUp_dropTop none inside⟩
  | error problem =>
    have stays := e.record_place step (.withMessage step.row.id name .fail ("Execution Error: " ++ problem.message))
    have same := stays.ensures t
    have scopes := congrArg Prod.fst same
    have still := congrArg Prod.snd same
    exact ⟨still.trans executing, spared_dropTop ((congrArg Scopes.below scopes).trans inside)⟩

theorem scenarioStep_spared {nested : Int → Act σ η Ending} (grown : ∀ id, (nested id).Ensures (Framed Grown))
    (step : Step) : (e.scenarioStep nested step).Ensures (Framed Spared) := by
  unfold scenarioStep
  simp only
  split
  · exact (e.record_framed step _).ensures
  · rename_i id _
    refine .bind (framed_of_own context_own).ensures fun c => .ite (e.record_framed step _).ensures ?_
    refine .bind (framed_of_place (registerStep_place _ _)).ensures fun _ => ?_
    intro s
    have framed := grown id { s with context := s.context.mapScopes Scopes.push }
    rw [run_bind, run_modifyScopes, run_bind]
    exact e.takeOver_dropTop_spared step _ _ framed.executing framed.scopes.below

/-! ### Steps of all kinds, and scenarios inside each other -/

section
variable {nested : Int → Act σ η Ending} {body : Act σ η (List StepResult)}

theorem invoke_grown (grownInside : ∀ id, (nested id).Ensures (Framed Grown)) (step : Step)
    (grown : body.Ensures (Framed Grown)) : (e.invoke nested step body).Ensures (Framed Grown) := by
  unfold invoke
  refine .ite ?_ (.pure [])
  split
  · exact (e.caseStep_grown step).ensures
  · exact grown
  · exact (e.conditionStep_spared step grown).mono (.mono Spared.grown)
  · exact (e.loopStep_spared step grown).mono (.mono Spared.grown)
  · exact (e.waitStep_framed step).ensures
  · exact (e.scriptStep_grown step).ensures
  · exact (e.scenarioStep_spared grownInside step).mono (.mono Spared.grown)

theorem passOver_grown (grownInside : ∀ id, (nested id).Ensures (Framed Grown)) (step : Step)
    (grown : body.Ensures (Framed Grown)) : (e.passOver nested step body).Ensures (Framed Grown) :=
  .ite (e.record_framed step _).ensures (.ite (e.invoke_grown grownInside step grown) (.pure []))

/-- What runs around the step itself leaves everything in its place. -/
theorem perform_framed {R : Scopes → Scopes → Prop} [IsPreorder Scopes R] (step : Step)
    (framed : ∀ cancelled, (e.proceed nested step body cancelled).Ensures (Framed R)) :
    (e.perform nested step body).Ensures (Framed R) := by
  refine .ite (.pure []) (.bind (framed_of_place (e.emit_place _)).ensures fun _ => ?_)
  refine .bind (framed_of_own e.isCancelled_own).ensures fun cancelled => .bind (framed cancelled) fun results => ?_
  exact .bind (framed_of_own (e.log_own step results)).ensures fun _ => .pure results

theorem perform_grown (grownInside : ∀ id, (nested id).Ensures (Framed Grown)) (step : Step)
    (grown : body.Ensures (Framed Grown)) : (e.perform nested step body).Ensures (Framed Grown) :=
  e.perform_framed step fun _ =>
    .ite (e.passOver_grown grownInside step grown) (e.invoke_grown grownInside step grown)

theorem dispatchAll_grown (grownInside : ∀ id, (nested id).Ensures (Framed Grown)) (steps : List Step) :
    (e.dispatchAll nested steps).Ensures (Framed Grown) := by
  refine dispatchAll_induction (P := fun _ x => x.Ensures (Framed Grown)) (Q := fun _ x => x.Ensures (Framed Grown))
    (.pure []) ?_ ?_ steps
  · intro step rest x y first later
    exact .bind first fun _ => .bind later fun _ => .pure _
  · intro step body grown
    exact e.perform_grown grownInside step grown

theorem dispatch_grown (grownInside : ∀ id, (nested id).Ensures (Framed Grown)) (step : Step) :
    (e.dispatch nested step).Ensures (Framed Grown) := by
  cases step with | mk row children => exact e.perform_grown grownInside _ (e.dispatchAll_grown grownInside children)

/-- A step with scopes of its own spares the variables of the scope around them. -/
theorem dispatch_spared (grownInside : ∀ id, (nested id).Ensures (Framed Grown)) (step : Step)
    (opens : step.row.kind.opensScopes) : (e.dispatch nested step).Ensures (Framed Spared) := by
  cases step with | mk row children =>
  have grown := e.dispatchAll_grown grownInside children
  refine e.perform_framed _ fun cancelled => ?_
  have invoked : (e.invoke nested ⟨row, children⟩ (e.dispatchAll nested children)).Ensures (Framed Spared) := by
    unfold invoke
    refine .ite ?_ (.pure [])
    simp only
    generalize row.kind = kind at opens
    cases kind with
    | condition => exact e.conditionStep_spared _ grown
    | loop => exact e.loopStep_spared _ grown
    | scenario => exact e.scenarioStep_spared grownInside _
    | testCase | group | wait | script => cases opens
  refine .ite (.ite (e.record_framed _ _).ensures (.ite invoked (.pure []))) invoked

theorem runSteps_framed {R : Scopes → Scopes → Prop} [IsPreorder Scopes R]
    {walk : List Step → Act σ η (List StepResult)} (framed : ∀ steps, (walk steps).Ensures (Framed R)) (s : Scenario) :
    (e.runSteps s none walk).Ensures (Framed R) := by
  refine .bind (framed_of_own (ask_own _)).ensures fun steps => ?_
  split
  · exact .bind (framed_of_own e.now_own).ensures fun _ => .bind (.pure _) fun _ => .pure _
  · refine .bind (framed_of_own e.now_own).ensures fun begun => .bind (framed _) fun results => ?_
    refine .bind (framed_of_own e.now_own).ensures fun ended => ?_
    refine .bind (framed_of_own e.isCancelled_own).ensures fun cancelled => ?_
    exact .bind (.pure _) fun _ => .bind (framed_of_place (e.emit_place _)).ensures fun _ => .pure _

/-- A scenario that has been entered is left again. -/
theorem enter_framed {R : Scopes → Scopes → Prop} [IsPreorder Scopes R]
    {walk : List Step → Act σ η (List StepResult)} (framed : ∀ steps, (walk steps).Ensures (Framed R)) (id : Int) :
    (e.enter false id walk).Ensures (Framed R) := by
  refine .bind (framed_of_own (ask_own _)).ensures fun found => ?_
  split
  · exact .pure _
  · exact .pure _
  · rename_i scenario
    have entered : (e.runEntered false scenario walk).Ensures (Framed R) :=
      .bind (framed_of_place (e.emit_place _)).ensures fun _ => e.runSteps_framed framed scenario
    intro s
    have ran := entered { s with context := { s.context with executing := s.context.executing ++ [id] } }
    rw [run_bind, run_modifyContext, run_bind, run_bind, run_modifyContext, run_pure]
    refine ⟨?_, ran.scopes⟩
    rw [Context.exit, ran.executing, Context.eraseLast_append]

theorem attempt_grown (grownInside : ∀ id, (nested id).Ensures (Framed Grown)) (id : Int) :
    (e.attempt nested false id).Ensures (Framed Grown) :=
  .bind (framed_of_own context_own).ensures fun _ =>
    .ite (.pure _) (.ite (.pure _) (e.enter_framed (e.dispatchAll_grown grownInside) id))

end

theorem inside_grown {beyond : Int → Act σ η Ending} (grown : ∀ id, (beyond id).Ensures (Framed Grown)) (levels : Nat) :
    ∀ id, (e.inside beyond levels id).Ensures (Framed Grown) := by
  induction levels with
  | zero => exact grown
  | succ levels ih => exact e.attempt_grown ih

theorem nested_grown (id : Int) : (e.nested id).Ensures (Framed Grown) :=
  e.inside_grown (fun _ => .pure _) _ id

/-- Whatever a step does, it leaves as many scopes as before, is inside the same scenarios, has changed no scope
    around the innermost one and has taken no name from that one. A condition, a loop or a scenario leaves the values
    there as they are, too. -/
theorem dispatch_frame (step : Step) (s : Stage σ η) :
    let t := ((e.dispatch e.nested step).run s).2
    t.context.scopes.depth = s.context.scopes.depth ∧
      t.context.executing = s.context.executing ∧
      t.context.scopes.below = s.context.scopes.below ∧
      (∀ name, s.context.scopes.current.contains name → t.context.scopes.current.contains name) ∧
      (step.row.kind.opensScopes → ∀ name v, s.context.scopes.current.get? name = some v →
        t.context.scopes.current.get? name = some v) := by
  have framed := e.dispatch_grown e.nested_grown step s
  refine ⟨framed.scopes.depth, framed.executing, framed.scopes.below, framed.scopes.names, ?_⟩
  intro opens
  exact (e.dispatch_spared e.nested_grown step opens s).scopes.values

/-- Closing a scope changes no variable that the scope around it holds, and every other name that was set in it means
    its last value afterwards. So a step with scopes of its own changes what a name means only by making it new in the
    current scope, and never if the current scope holds it already. -/
theorem closing_keeps_current (e : Engine σ η) :
    (∀ (s : Scopes) (vars : List (String × Json)), ∃ top t,
      ((s.push.setLocals vars).mergeUp none).pop? = some (top, t) ∧ t.below = s.below ∧
        ∀ name, t.get? name =
          if s.current.contains name then s.get? name else (Dict.get? vars.reverse name).or (s.get? name)) ∧
      ∀ (step : Step) (s : Stage σ η), step.row.kind.opensScopes →
        let t := ((e.dispatch e.nested step).run s).2
        t.context.scopes.below = s.context.scopes.below ∧
          ∀ name, (s.context.scopes.current.contains name →
              t.context.scopes.get? name = s.context.scopes.get? name) ∧
            (t.context.scopes.get? name = s.context.scopes.get? name ∨
              (¬ s.context.scopes.current.contains name ∧ t.context.scopes.current.contains name)) := by
  constructor
  · intro s vars
    have around : (s.push.setLocals vars).below = s.current :: s.below := by rw [below_setLocals, below_push, all_eq]
    have merged := (s.push.setLocals vars).below_mergeUp none around
    refine ⟨_, _, pop?_eq _ merged, ?_, s.get?_closed vars⟩
    exact (parts_of_all (all_dropTop _ merged)).2
  · intro step s opens
    have spared := (e.dispatch_spared e.nested_grown step opens s).scopes
    exact ⟨spared.below, fun name => ⟨spared.get?_of_current, spared.get?_or_new name⟩⟩

/-- A scope that does not hold a variable itself comes to hide the one further out: here a condition, run inside a
    scope of its own, assigns to a global variable. -/
theorem condition_hides_outer_variable :
    let scopes : Scopes := { globals := [("x", .ofNat 1)], inner := [[]] }
    let closed := ((scopes.push.setLocals [("x", .ofNat 2)]).mergeUp none).dropTop
    let engine : Engine (Rehearsal CallLog) Unit :=
      { host := ({} : Catalog).host (Rehearsal.world (Prepared.runCase [])) }
    let assign : Step := ⟨{ id := 2, kind := .script, control := some (.obj [("script", .str "x = 2")]) }, []⟩
    let ran := ((engine.dispatch engine.nested ⟨{ id := 1, kind := .condition }, [assign]⟩).run
      { context := { scopes }, host := { services := [] }, kept := () }).2
    scopes.get? "x" = some (.ofNat 1) ∧ closed.get? "x" = some (.ofNat 2) ∧
      ran.context.scopes.get? "x" = some (.ofNat 2) ∧ Json.ofNat 2 ≠ Json.ofNat 1 := by
  refine ⟨rfl, rfl, ?_, nofun⟩
  cbv

end Engine
end TestScenario
