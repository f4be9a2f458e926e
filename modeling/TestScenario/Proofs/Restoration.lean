import TestScenario.Proofs.Frame

/-!
What a nested run leaves behind when it fails. Nothing but the environment key is set before the checks, a scenario that
has been entered is left again, and where its steps cannot be loaded none of them has run. So after a failure the
context is the one before, with the environment key that the run was asked for (`failed_nested_run_restores`).
-/

namespace TestScenario
variable {σ η ε α β : Type}

/-- Leaving the scenario entered last undoes entering it. -/
theorem Context.exit_entered (c : Context) (id : Int) : Context.exit { c with executing := c.executing ++ [id] } id = c := by
  rw [exit, eraseLast_append]

namespace Act
variable {R : Stage σ η → Stage σ η → Prop}

/-- Every run of the action that answers with an error ends on a stage that is related to the one it begins on. -/
def OnError (R : Stage σ η → Stage σ η → Prop) (x : Act σ η (Except ε α)) : Prop :=
  ∀ s problem, (x.run s).1 = .error problem → R s (x.run s).2

theorem OnError.of_ensures {x : Act σ η (Except ε α)} (ensured : x.Ensures R) : x.OnError R :=
  fun s _ _ => ensured s

theorem OnError.bind [IsTrans _ R] {x : Act σ η β} {f : β → Act σ η (Except ε α)} (first : x.Ensures R)
    (rest : ∀ b, (f b).OnError R) : (x >>= f).OnError R := by
  intro s problem failed
  rw [run_bind] at failed ⊢
  exact IsTrans.trans _ _ _ (first s) (rest _ _ problem failed)

theorem OnError.ite {p : Prop} [Decidable p] {x y : Act σ η (Except ε α)} (left : x.OnError R) (right : y.OnError R) :
    (if p then x else y).OnError R := by
  split
  · exact left
  · exact right

/-- An action that only looks at the stage keeps the context. -/
theorem keeps_context {x : Act σ η α} (own : x.Along (Stage.Agree Stage.own)) : x.Ensures (Stage.Agree Stage.context) :=
  (own.mono fun same => same.context).ensures

end Act

namespace Engine
variable (e : Engine σ η)
open Act Stage

/-- Steps that cannot be loaded are not run; steps that are run never end with an error. -/
theorem runSteps_onError (s : Scenario) (record : Option RunRecord) (walk : List Step → Act σ η (List StepResult)) :
    (e.runSteps s record walk).OnError (Agree Stage.context) := by
  refine .bind (keeps_context (ask_own _)) fun found => ?_
  cases found with
  | error cause =>
    refine .bind (keeps_context e.now_own) fun time => ?_
    exact .bind (keeps_context (e.forM_closeRecord_own record _)) fun _ => .of_ensures (.pure _)
  | ok steps =>
    intro t problem failed
    simp only [run_bind, run_pure] at failed
    cases failed

theorem runEntered_onError (s : Scenario) (walk : List Step → Act σ η (List StepResult)) :
    (e.runEntered false s walk).OnError (Agree Stage.context) :=
  .bind (e.emit_context _).ensures fun _ => e.runSteps_onError s none walk

/-- A scenario that fails is left as it has been entered, if it has been entered at all. -/
theorem enter_onError (id : Int) (walk : List Step → Act σ η (List StepResult)) :
    (e.enter false id walk).OnError (Agree Stage.context) := by
  refine .bind (keeps_context (ask_own _)) fun found => ?_
  cases found with
  | error cause => exact .of_ensures (.pure _)
  | ok found =>
    cases found with
    | none => exact .of_ensures (.pure _)
    | some scenario =>
      intro s problem failed
      simp only [run_bind, run_modifyContext, run_pure] at failed ⊢
      have inside := e.runEntered_onError scenario walk _ problem failed
      calc ((e.runEntered false scenario walk).run _).2.context.exit id
          = Context.exit { s.context with executing := s.context.executing ++ [id] } id := congrArg (·.exit id) inside
        _ = s.context := s.context.exit_entered id

theorem attempt_onError (nested : Int → Act σ η Ending) (id : Int) :
    (e.attempt nested false id).OnError (Agree Stage.context) := by
  refine .bind (keeps_context context_own) fun c => ?_
  exact .ite (.of_ensures (.pure _)) (.ite (.of_ensures (.pure _)) (e.enter_onError id _))

/-- A run inside another one that fails, for whatever reason, leaves the context as it was, but for the environment
    key: that is the one the run was asked for. So with the key that the context has, a failure leaves no trace. -/
theorem failed_nested_run_restores (id : Int) (envKey : String) (s : Stage σ η) (problem : RunError)
    (failed : ((e.executeNested id envKey).run s).1 = .error problem) :
    ((e.executeNested id envKey).run s).2.context = { s.context with envKey } ∧
      (envKey = s.context.envKey → ((e.executeNested id envKey).run s).2.context = s.context) := by
  have restored : ((e.executeNested id envKey).run s).2.context = { s.context with envKey } := by
    rw [executeNested, run_bind, run_modifyContext] at failed ⊢
    exact e.attempt_onError _ id _ problem failed
  refine ⟨restored, fun same => ?_⟩
  rw [restored, same]

/-- The steps of a scenario that has been entered cannot be loaded: all that the context held is still there. -/
theorem failed_nested_run_restores_entered :
    let host : Host Unit := {
      scenario := fun id u => (.ok (some { id, name := "Inner" }), u)
      steps := fun _ u => (.error (.because "disk on fire"), u)
      testCase := fun _ u => (.ok none, u)
      runCase := fun _ vars _ u => (⟨vars, .cancelled⟩, u)
      eval := fun script vars u => (Script.evaluation script vars, u)
      wait := fun _ u => (true, u)
      limit := fun _ u => some u
      isCancelled := fun _ => false
      now := fun _ => 0
      vars := none }
    let engine : Engine Unit Unit := { host, observed := true }
    let context : Context := {
      scopes := { globals := [("x", .ofNat 1)], inner := [[("y", .null)], []] }
      steps := ({} : StepIndex).register 4 "Login"
      history := [(4, StepResult.withMessage 4 "Login" .pass "ok")]
      executing := [7, 1]
      envKey := "dev"
      recordId := some 3 }
    let ran := (engine.executeNested 2 "dev").run { context, host := (), kept := () }
    ran.1 = .error (.steps 2 (.because "disk on fire")) ∧ ran.2.context = context := by
  intro host engine context ran
  have failed : ran.1 = .error (.steps 2 (.because "disk on fire")) := rfl
  exact ⟨failed, (engine.failed_nested_run_restores 2 "dev" _ _ failed).2 rfl⟩

/-- The environment key stays as a run has set it that finds no scenario. -/
theorem environment_of_failed_run_stays :
    let engine : Engine (Rehearsal CallLog) Unit :=
      { host := ({} : Catalog).host (Rehearsal.world (Prepared.runCase [])) }
    let ran := (engine.executeNested 9 "prod").run
      { context := { envKey := "dev" }, host := { services := [] }, kept := () }
    ran.1 = .error (.unknownScenario 9) ∧ ran.2.context.envKey = "prod" ∧ "prod" ≠ "dev" := by
  refine ⟨rfl, rfl, by decide⟩

end Engine
end TestScenario
