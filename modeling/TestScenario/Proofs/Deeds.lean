import TestScenario.Proofs.Action

/-!
What a run does, step by step. Every step of an action is a deed of the engine, and an action uses no other deeds than
its parts do. So what can be said of the action follows from what each of its deeds does.

The points of a run are what is left to do at each of its steps, together with the stage on which that begins.
-/

namespace TestScenario
variable {σ η : Type}

/-- What a run does in one step. -/
inductive Deed where
  /-- The context is looked at. -/
  | look
  | register (id : Int) (name : String)
  | record (id : Int) (r : StepResult)
  | scopes
  /-- A scenario is entered. -/
  | enter (id : Int)
  /-- A scenario is left. -/
  | leave (id : Int)
  /-- The record of the run gets its id. -/
  | number (id : Int)
  /-- Whether the run has been cancelled is found out. -/
  | check
  | time
  /-- Something is fetched from where scenarios, cases or variables are. -/
  | fetch
  | execute
  | evaluate
  | wait
  | create (r : RunRecord)
  | update (r : RunRecord)
  | append (l : StepLog)
  | tell (h : Happening)

/-- The deeds of an engine. -/
inductive Engine.Does (e : Engine σ η) : Deed → {α : Type} → Act σ η α → Prop
  | look : Does e .look Act.context
  | register (id : Int) (name : String) : Does e (.register id name) (Act.modifyContext (·.registerStep id name))
  | record (id : Int) (r : StepResult) : Does e (.record id r) (Act.modifyContext (·.recordResult id r))
  | scopes (f : Scopes → Scopes) : Does e .scopes (Act.modifyScopes f)
  | enter (id : Int) : Does e (.enter id) (Act.modifyContext fun c => { c with executing := c.executing ++ [id] })
  | leave (id : Int) : Does e (.leave id) (Act.modifyContext (·.exit id))
  | number (id : Int) : Does e (.number id) (Act.modifyContext ({ · with recordId := some id }))
  | check : Does e .check e.isCancelled
  | time : Does e .time e.now
  | scenario (id : Int) : Does e .fetch (Act.ask (e.host.scenario id))
  | steps (id : Int) : Does e .fetch (Act.ask (e.host.steps id))
  | testCase (id : Int) : Does e .fetch (Act.ask (e.host.testCase id))
  | vars {supply : VariableSource σ} (given : e.host.vars = some supply) (project module : Option Int) (envKey : String) :
      Does e .fetch (Act.ask (supply project module envKey))
  | execute (t : TestCase) (vars : Members) (history : Table Int StepResult) :
      Does e .execute (Act.ask (e.host.runCase t vars history))
  | evaluate (script : String) (vars : Members) : Does e .evaluate (Act.ask (e.host.eval script vars))
  | wait (ms : Nat) : Does e .wait (Act.ask (e.host.wait ms))
  | create {sink : Sink η} (given : e.sink = some sink) (r : RunRecord) : Does e (.create r) (Act.keep (sink.create r))
  | update {sink : Sink η} (given : e.sink = some sink) (r : RunRecord) : Does e (.update r) (Act.keep (sink.update r))
  | append {sink : Sink η} (given : e.sink = some sink) (l : StepLog) : Does e (.append l) (Act.keep (sink.append l))
  | tell (h : Happening) : Does e (.tell h) (e.emit h)

/-- A deed takes one step. -/
theorem Engine.Does.single {e : Engine σ η} {d : Deed} {α : Type} {x : Act σ η α} (does : e.Does d x) :
    ∃ change, x = .step change .answer := by
  cases does <;> exact ⟨_, rfl⟩

namespace Act
variable {α β : Type}

/-- Every step of the action is one of some deeds. -/
def Uses (e : Engine σ η) (D : Deed → Prop) : Act σ η α → Prop
  | .answer _ => True
  | .step change next => (∃ d, D d ∧ e.Does d (.step change .answer)) ∧ ∀ b, (next b).Uses e D

/-- Every step that the action takes on a stage is one of some deeds. -/
def Takes (e : Engine σ η) (D : Deed → Prop) : Act σ η α → Stage σ η → Prop
  | .answer _, _ => True
  | .step change next, s =>
    (∃ d, D d ∧ e.Does d (.step change .answer)) ∧ (next (change s).1).Takes e D (change s).2

/-- The points of a run: what is left to do, and the stage on which that begins. -/
def points : Act σ η α → Stage σ η → List (Act σ η α × Stage σ η)
  | .answer _, _ => []
  | .step change next, s => (.step change next, s) :: (next (change s).1).points (change s).2

theorem points_bind (x : Act σ η α) (f : α → Act σ η β) (s : Stage σ η) :
    (x >>= f).points s = (x.points s).map (fun p => (p.1 >>= f, p.2)) ++ (f (x.run s).1).points (x.run s).2 := by
  induction x generalizing s with
  | answer a => rfl
  | step change next ih =>
    exact congrArg ((Act.step change next >>= f, s) :: ·) (ih (change s).1 (change s).2)

/-- From a point on, the run takes the same course and comes to the same end. -/
theorem points_from {x y : Act σ η α} {s m : Stage σ η} {before after : List (Act σ η α × Stage σ η)}
    (passes : x.points s = before ++ (y, m) :: after) : y.points m = (y, m) :: after ∧ y.run m = x.run s := by
  induction x generalizing s before with
  | answer a => simp [points] at passes
  | step change next ih =>
    cases before with
    | nil =>
      obtain ⟨here, rest⟩ := List.cons.inj passes
      cases here
      exact ⟨congrArg (_ :: ·) rest, rfl⟩
    | cons first before => exact ih (change s).1 (List.cons.inj passes).2

section
variable {e : Engine σ η} {D : Deed → Prop}

theorem Uses.mono {C : Deed → Prop} {x : Act σ η α} (sub : ∀ {d}, C d → D d) (uses : x.Uses e C) : x.Uses e D := by
  induction x with
  | answer a => trivial
  | step change next ih =>
    obtain ⟨⟨d, allowed, does⟩, later⟩ := uses
    exact ⟨⟨d, sub allowed, does⟩, fun b => ih b (later b)⟩

theorem Uses.pure (a : α) : (pure a : Act σ η α).Uses e D := trivial

theorem Uses.bind {x : Act σ η α} {f : α → Act σ η β} (first : x.Uses e D) (rest : ∀ a, (f a).Uses e D) :
    (x >>= f).Uses e D := by
  induction x with
  | answer a => exact rest a
  | step change next ih => exact ⟨first.1, fun b => ih b (first.2 b)⟩

theorem Uses.ite {p : Prop} [Decidable p] {x y : Act σ η α} (left : x.Uses e D) (right : y.Uses e D) :
    (if p then x else y).Uses e D := by
  split
  · exact left
  · exact right

theorem Uses.map {x : Act σ η α} (f : α → β) (uses : x.Uses e D) : (f <$> x).Uses e D :=
  uses.bind fun _ => .pure _

theorem Uses.rounds {body : Nat → Act σ η (Option (List α))} (each : ∀ i, (body i).Uses e D) (limit round : Nat) :
    (Act.rounds body limit round).Uses e D := by
  induction limit generalizing round with
  | zero => exact .pure []
  | succ limit ih =>
    refine .bind (each round) fun first => ?_
    cases first with
    | none => exact .pure []
    | some first => exact .bind (ih (round + 1)) fun later => .pure _

theorem Uses.deed {d : Deed} {x : Act σ η α} (does : e.Does d x) (allowed : D d) : x.Uses e D := by
  obtain ⟨change, rfl⟩ := does.single
  exact ⟨⟨d, allowed, does⟩, fun b => trivial⟩

theorem Uses.takes {x : Act σ η α} (uses : x.Uses e D) (s : Stage σ η) : x.Takes e D s := by
  induction x generalizing s with
  | answer a => trivial
  | step change next ih => exact ⟨uses.1, ih _ (uses.2 _) _⟩

theorem Takes.mono {C : Deed → Prop} {x : Act σ η α} {s : Stage σ η} (sub : ∀ {d}, C d → D d) (takes : x.Takes e C s) :
    x.Takes e D s := by
  induction x generalizing s with
  | answer a => trivial
  | step change next ih =>
    obtain ⟨⟨d, allowed, does⟩, later⟩ := takes
    exact ⟨⟨d, sub allowed, does⟩, ih _ later⟩

theorem Takes.bind {x : Act σ η α} {f : α → Act σ η β} {s : Stage σ η} (first : x.Takes e D s)
    (rest : (f (x.run s).1).Takes e D (x.run s).2) : (x >>= f).Takes e D s := by
  induction x generalizing s with
  | answer a => exact rest
  | step change next ih => exact ⟨first.1, ih _ first.2 rest⟩

/-- What every deed preserves holds at every point of a run, and in the end. -/
theorem Takes.preserves {P : Stage σ η → Prop} {x : Act σ η α} {s : Stage σ η}
    (kept : ∀ {d β} {y : Act σ η β} {t}, D d → e.Does d y → P t → P (y.run t).2) (takes : x.Takes e D s) (holds : P s) :
    P (x.run s).2 ∧ ∀ p ∈ x.points s, P p.2 := by
  induction x generalizing s with
  | answer a => exact ⟨holds, nofun⟩
  | step change next ih =>
    obtain ⟨⟨d, allowed, does⟩, later⟩ := takes
    obtain ⟨last, all⟩ := ih (change s).1 later (kept allowed does holds)
    exact ⟨last, List.forall_mem_cons.mpr ⟨holds, all⟩⟩

theorem Uses.preserves {P : Stage σ η → Prop} {x : Act σ η α} {s : Stage σ η}
    (kept : ∀ {d β} {y : Act σ η β} {t}, D d → e.Does d y → P t → P (y.run t).2) (uses : x.Uses e D) (holds : P s) :
    P (x.run s).2 ∧ ∀ p ∈ x.points s, P p.2 := (uses.takes s).preserves kept holds

theorem Uses.of_point {x y : Act σ η α} {s m : Stage σ η} (uses : x.Uses e D) (passed : (y, m) ∈ x.points s) :
    y.Uses e D := by
  induction x generalizing s with
  | answer a => cases passed
  | step change next ih =>
    rcases List.mem_cons.mp passed with here | later
    · cases here; exact uses
    · exact ih _ (uses.2 _) later

end
end Act

namespace Deed

/-- The deeds of a step with an id that registers itself under some names and records some results. No scenario is
    entered or left by them, and nothing is kept. -/
def Of (id : Int) (names : String → Prop) (results : StepResult → Prop) : Deed → Prop
  | .register i n => i = id ∧ names n
  | .record i r => i = id ∧ results r
  | .enter _ | .leave _ | .number _ | .create _ | .update _ | .append _ => False
  | _ => True

/-- Deeds that change nothing but what is kept and told. -/
def Quiet : Deed → Prop
  | .look | .check | .time | .append _ | .tell _ => True
  | _ => False

/-- Deeds by which the record of a run is kept. -/
def Filing : Deed → Prop
  | .look | .check | .time | .number _ | .create _ | .update _ => True
  | _ => False

/-- Deeds that register no step and record no result either. -/
def Plain : Deed → Prop
  | .register .. | .record .. | .enter _ | .leave _ | .number _ | .create _ | .update _ | .append _ => False
  | _ => True

/-- The deeds of steps. Only the outermost scenario has a record. -/
def Within (outermost : Bool) : Deed → Prop
  | .number _ | .create _ | .update _ => outermost
  | _ => True

variable {id : Int} {names : String → Prop} {results : StepResult → Prop} {outermost : Bool} {d : Deed}

theorem Quiet.within (quiet : d.Quiet) : d.Within outermost := by
  cases d <;> trivial

theorem Filing.within (filing : d.Filing) : d.Within true := by
  cases d <;> trivial

theorem Plain.of (plain : d.Plain) : d.Of id names results := by
  cases d <;> trivial

theorem Of.within (own : d.Of id names results) : d.Within outermost := by
  cases d <;> trivial

theorem Plain.within (plain : d.Plain) : d.Within outermost := by
  cases d <;> trivial

theorem Within.of_false (inner : d.Within false) : d.Within outermost := by
  cases d <;> trivial

end Deed

namespace Engine
variable (e : Engine σ η)
open Act Deed

theorem run_emit (h : Happening) (s : Stage σ η) :
    (e.emit h).run s = ((), { s with
      events := if e.observed then s.events.push ⟨h, s.context.scopes.flatten, e.host.now s.host⟩ else s.events }) := by
  simp only [emit, run]
  split
  · rfl
  · rfl

@[simp] theorem run_now (s : Stage σ η) : e.now.run s = (e.host.now s.host, s) := rfl

@[simp] theorem run_isCancelled (s : Stage σ η) :
    e.isCancelled.run s = (e.host.isCancelled (e.host.meanwhile s.host), { s with host := e.host.meanwhile s.host }) :=
  rfl

/-! ### What parts of a run use -/

theorem emit_uses (h : Happening) : (e.emit h).Uses e Plain := .deed (.tell h) trivial
theorem context_uses : (context : Act σ η Context).Uses e Plain := .deed .look trivial
theorem now_uses : e.now.Uses e Plain := .deed .time trivial
theorem isCancelled_uses : e.isCancelled.Uses e Plain := .deed .check trivial
theorem modifyScopes_uses (f : Scopes → Scopes) : (modifyScopes f : Act σ η Unit).Uses e Plain :=
  .deed (.scopes f) trivial

theorem appendLogs_uses {sink : Sink η} (given : e.sink = some sink) (record : Int) (step : Step)
    (results : List StepResult) : (e.appendLogs sink record step results).Uses e Quiet := by
  induction results with
  | nil => exact .pure ()
  | cons r rest ih => exact .bind (.deed .time trivial) fun time => .bind (.deed (.append given _) trivial) fun _ => ih

theorem log_uses (step : Step) (results : List StepResult) : (e.log step results).Uses e Quiet := by
  refine .bind (.deed .look trivial) fun c => ?_
  split
  · exact e.appendLogs_uses ‹_› _ step _
  · exact .pure ()

theorem condition_uses (text : String) : (e.condition text).Uses e Plain :=
  .ite (.pure true) (.bind e.context_uses fun _ => .bind (.deed (.evaluate _ _) trivial) fun _ => .pure _)

theorem waitStep_uses (step : Step) : (e.waitStep step).Uses e Plain :=
  .bind (.deed (.wait _) trivial) fun _ => .ite (.bind (e.emit_uses _) fun _ => .pure []) (.pure [])

theorem loadVariables_uses (s : Scenario) : (e.loadVariables s).Uses e Plain := by
  unfold loadVariables
  split
  · exact .pure _
  · rename_i supply given
    refine .bind e.context_uses fun c => .bind (.deed (.vars given _ _ _) trivial) fun vars => ?_
    split
    · exact .pure _
    · exact .bind (e.modifyScopes_uses _) fun _ => .pure _

/-! ### Steps without steps inside -/

section
variable {names : String → Prop} {results : StepResult → Prop}

theorem record_uses (step : Step) {r : StepResult} (allowed : results r) :
    (e.record step r).Uses e (Of step.row.id names results) := by
  refine .bind (.deed (.record step.row.id r) ⟨rfl, allowed⟩) fun _ => ?_
  exact .bind ((e.emit_uses _).mono Plain.of) fun _ => .pure _

theorem register_uses (step : Step) {name : String} (allowed : names name) :
    (modifyContext (·.registerStep step.row.id name) : Act σ η Unit).Uses e (Of step.row.id names results) :=
  .deed (.register step.row.id name) ⟨rfl, allowed⟩

theorem runCase_uses (step : Step) (t : TestCase) :
    (e.runCase step t).Uses e (Of step.row.id (· = step.nameOr t.name) fun _ => True) := by
  refine .bind (e.register_uses step rfl) fun _ => .bind (e.context_uses.mono Plain.of) fun before => ?_
  refine .bind ((e.modifyScopes_uses _).mono Plain.of) fun _ => .bind (e.context_uses.mono Plain.of) fun c => ?_
  refine .bind (e.now_uses.mono Plain.of) fun begun => .bind (.deed (.execute _ _ _) trivial) fun ran => ?_
  refine .bind (e.now_uses.mono Plain.of) fun ended => .bind (e.record_uses step trivial) fun results => ?_
  refine .bind ((e.modifyScopes_uses _).mono Plain.of) fun _ => ?_
  exact .bind ((e.modifyScopes_uses _).mono Plain.of) fun _ => .pure results

theorem caseStep_uses (step : Step) :
    (e.caseStep step).Uses e (Of step.row.id (fun _ => True) fun _ => True) := by
  unfold caseStep
  simp only
  split
  · exact e.record_uses step trivial
  · refine .bind (.deed (.testCase _) trivial) fun found => ?_
    split
    · exact e.record_uses step trivial
    · exact e.record_uses step trivial
    · refine (e.runCase_uses step _).mono fun {d} own => ?_
      cases d <;> first | exact own | exact ⟨own.1, trivial⟩

theorem scriptStep_uses (step : Step) :
    (e.scriptStep step).Uses e (Of step.row.id (· = step.nameOr "Script") (·.httpStatus = none)) := by
  refine .bind (e.register_uses step rfl) fun _ => ?_
  split
  · exact e.record_uses step rfl
  · refine .bind (e.context_uses.mono Plain.of) fun c => .bind (.deed (.evaluate _ _) trivial) fun ran => ?_
    refine .bind ((e.modifyScopes_uses _).mono Plain.of) fun _ => e.record_uses step ?_
    split <;> rfl

end

/-! ### Steps of all kinds -/

section
variable {nested : Int → Act σ η Ending} {body : Act σ η (List StepResult)} {D : Deed → Prop}

theorem inScope_uses (plain : ∀ {d : Deed}, d.Plain → D d) (bindings : List (String × Json)) (uses : body.Uses e D) :
    (inScope bindings body).Uses e D := by
  refine .bind ((e.modifyScopes_uses _).mono plain) fun _ => .bind uses fun results => ?_
  exact .bind ((e.modifyScopes_uses _).mono plain) fun _ => .pure results

theorem conditionStep_uses (plain : ∀ {d : Deed}, d.Plain → D d) (step : Step) (uses : body.Uses e D) :
    (e.conditionStep step body).Uses e D :=
  .bind ((e.condition_uses _).mono plain) fun _ => .ite (e.inScope_uses plain [] uses) (.pure [])

theorem loopRounds_uses (plain : ∀ {d : Deed}, d.Plain → D d) {goesOn : Act σ η Bool} (asks : goesOn.Uses e D)
    (bindings : Nat → List (String × Json)) (limit : Nat) (uses : body.Uses e D) :
    (e.loopRounds goesOn bindings limit body).Uses e D := by
  refine .rounds (fun round => .bind (e.isCancelled_uses.mono plain) fun cancelled => .ite (.pure none) ?_) limit 0
  exact .bind asks fun holds => .ite (.map some (e.inScope_uses plain (bindings round) uses)) (.pure none)

theorem loopStep_uses (plain : ∀ {d : Deed}, d.Plain → D d) (step : Step) (uses : body.Uses e D) :
    (e.loopStep step body).Uses e D := by
  unfold loopStep
  simp only
  split
  · exact e.loopRounds_uses plain (.pure true) _ _ uses
  · exact .bind (e.context_uses.mono plain) fun c => e.loopRounds_uses plain (.pure true) _ _ uses
  · exact e.loopRounds_uses plain ((e.condition_uses _).mono plain) _ _ uses

theorem takeOver_uses (step : Step) (name : String) (ending : Ending) :
    (e.takeOver step name ending).Uses e (Of step.row.id (fun _ => False) (·.httpStatus = none)) := by
  cases ending with
  | ok results => exact .bind ((e.modifyScopes_uses _).mono Plain.of) fun _ => .pure results
  | error problem => exact e.record_uses step rfl

theorem record_within (step : Step) (r : StepResult) (outermost : Bool) :
    (e.record step r).Uses e (Within outermost) := by
  have own : (e.record step r).Uses e (Of step.row.id (fun _ => True) fun _ => True) := e.record_uses step trivial
  exact own.mono Of.within

theorem scenarioStep_uses (inside : ∀ id, (nested id).Uses e (Within false)) (step : Step) :
    (e.scenarioStep nested step).Uses e (Within false) := by
  have failed (name message : String) : (e.recordFailure step name message).Uses e (Within false) :=
    e.record_within step _ false
  unfold scenarioStep
  simp only
  split
  · exact failed _ _
  · rename_i id _
    refine .bind (e.context_uses.mono Plain.within) fun c => .ite (failed _ _) ?_
    refine .bind (.deed (.register _ _) trivial) fun _ => ?_
    refine .bind ((e.modifyScopes_uses _).mono Plain.within) fun _ => .bind (inside id) fun ending => ?_
    refine .bind ((e.takeOver_uses step _ ending).mono Of.within) fun results => ?_
    exact .bind ((e.modifyScopes_uses _).mono Plain.within) fun _ => .pure results

theorem invoke_uses (inside : ∀ id, (nested id).Uses e (Within false)) (step : Step) (uses : body.Uses e (Within false)) :
    (e.invoke nested step body).Uses e (Within false) := by
  unfold invoke
  refine .ite ?_ (.pure [])
  split
  · exact (e.caseStep_uses step).mono Of.within
  · exact uses
  · exact e.conditionStep_uses Plain.within step uses
  · exact e.loopStep_uses Plain.within step uses
  · exact (e.waitStep_uses step).mono Plain.within
  · exact (e.scriptStep_uses step).mono Of.within
  · exact e.scenarioStep_uses inside step

theorem perform_uses (inside : ∀ id, (nested id).Uses e (Within false)) (step : Step) (uses : body.Uses e (Within false)) :
    (e.perform nested step body).Uses e (Within false) := by
  have invoked := e.invoke_uses inside step uses
  have skipped : (e.passOver nested step body).Uses e (Within false) :=
    .ite (e.record_within step _ false) (.ite invoked (.pure []))
  refine .ite (.pure []) (.bind ((e.emit_uses _).mono Plain.within) fun _ => ?_)
  refine .bind (e.isCancelled_uses.mono Plain.within) fun cancelled => .bind (.ite skipped invoked) fun results => ?_
  exact .bind ((e.log_uses step results).mono Quiet.within) fun _ => .pure results

theorem dispatchAll_uses (inside : ∀ id, (nested id).Uses e (Within false)) (steps : List Step) :
    (e.dispatchAll nested steps).Uses e (Within false) := by
  refine dispatchAll_induction (P := fun _ x => x.Uses e (Within false)) (Q := fun _ x => x.Uses e (Within false))
    (.pure []) ?_ ?_ steps
  · intro step rest x y first later
    exact .bind first fun _ => .bind later fun _ => .pure _
  · intro step body uses
    exact e.perform_uses inside step uses

/-! ### Scenarios -/

variable {walk : List Step → Act σ η (List StepResult)}

theorem openRecord_uses (s : Scenario) : (e.openRecord s).Uses e Filing := by
  refine .bind (.deed .look trivial) fun c => .bind (.deed .time trivial) fun time => ?_
  split
  · exact .pure _
  · refine .bind (.deed (.create ‹_› _) trivial) fun kept => ?_
    split
    · exact .pure _
    · exact .bind (.deed (.number _) trivial) fun _ => .pure _

theorem closeRecord_uses (record : RunRecord) : (e.closeRecord record).Uses e Filing := by
  unfold closeRecord
  split
  · exact .bind (.deed (.update ‹_› record) trivial) fun _ => .pure ()
  · exact .pure ()

theorem forM_closeRecord_uses (record : Option RunRecord) (f : RunRecord → RunRecord) :
    (record.forM fun r => e.closeRecord (f r)).Uses e (fun d => record.isSome ∧ d.Filing) := by
  cases record with
  | none => exact .pure ()
  | some r => exact (e.closeRecord_uses (f r)).mono fun filing => ⟨rfl, filing⟩

theorem runSteps_uses (walks : ∀ steps, (walk steps).Uses e (Within false)) (s : Scenario) (record : Option RunRecord) :
    (e.runSteps s record walk).Uses e (Within record.isSome) := by
  have time : e.now.Uses e (Within record.isSome) := e.now_uses.mono Plain.within
  have closed (f : RunRecord → RunRecord) :
      (record.forM fun r => e.closeRecord (f r)).Uses e (Within record.isSome) := by
    refine (e.forM_closeRecord_uses record f).mono fun filed => ?_
    obtain ⟨kept, filing⟩ := filed
    rw [kept]
    exact filing.within
  refine .bind (.deed (.steps _) trivial) fun steps => ?_
  split
  · exact .bind time fun ended => .bind (closed _) fun _ => .pure _
  · refine .bind time fun begun => .bind ((walks _).mono Within.of_false) fun results => .bind time fun ended => ?_
    refine .bind (e.isCancelled_uses.mono Plain.within) fun cancelled => .bind (closed _) fun _ => ?_
    exact .bind ((e.emit_uses _).mono Plain.within) fun _ => .pure _

theorem enter_uses (walks : ∀ steps, (walk steps).Uses e (Within false)) (outermost : Bool) (id : Int) :
    (e.enter outermost id walk).Uses e (Within outermost) := by
  have told (h : Happening) : (e.emit h).Uses e (Within outermost) := (e.emit_uses h).mono Plain.within
  refine .bind (.deed (.scenario _) trivial) fun found => ?_
  split
  · exact .pure _
  · exact .pure _
  · rename_i s
    refine .bind (.deed (.enter _) trivial) fun _ => .bind ?_ fun outcome => ?_
    · cases outermost with
      | false => exact .bind (told _) fun _ => e.runSteps_uses walks s none
      | true =>
        refine .bind ((e.loadVariables_uses s).mono Plain.within) fun loaded => ?_
        split
        · exact .pure _
        · exact .bind (told _) fun _ => .bind ((e.openRecord_uses s).mono Filing.within) fun record =>
            e.runSteps_uses walks s (some record)
    · exact .bind (.deed (.leave _) trivial) fun _ => .pure outcome

theorem attempt_uses (inside : ∀ id, (nested id).Uses e (Within false)) (outermost : Bool) (id : Int) :
    (e.attempt nested outermost id).Uses e (Within outermost) := by
  refine .bind (e.context_uses.mono Plain.within) fun c => .ite (.pure _) (.ite (.pure _) ?_)
  exact e.enter_uses (e.dispatchAll_uses inside) outermost id

theorem nested_uses (id : Int) : (e.nested id).Uses e (Within false) := by
  have inside (levels : Nat) : ∀ id, (e.inside (fun id => pure (.error (.tooDeep id e.config.maxNesting))) levels
      id).Uses e (Within false) := by
    induction levels with
    | zero => exact fun id => .pure _
    | succ levels ih => exact e.attempt_uses ih false
  exact inside _ id

end

end Engine
end TestScenario
