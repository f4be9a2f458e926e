import Mathlib.Order.Defs.Unbundled
import TestScenario.Engine.Dispatch

/-!
What can be said of actions: how the stage after a run is related to the one before, and how every stage that it passes
through is. Both pass from the parts of an action to the whole.
-/

namespace TestScenario

/-- Two stages that have a part in common. -/
def Stage.Agree {σ η γ : Type} (part : Stage σ η → γ) (s t : Stage σ η) : Prop := part t = part s

/-- What only the run itself changes. -/
def Stage.own {σ η : Type} (s : Stage σ η) : Context × Array Event := (s.context, s.events)

/-- How far a run has come: the scenarios it is inside, the results it has recorded, and what it has told. -/
def Stage.course {σ η : Type} (s : Stage σ η) : List Int × Table Int StepResult × Array Event :=
  (s.context.executing, s.context.history, s.events)

instance {σ η γ : Type} (part : Stage σ η → γ) : IsPreorder (Stage σ η) (Stage.Agree part) where
  refl _ := rfl
  trans _ _ _ first second := second.trans first

theorem Stage.Agree.context {σ η : Type} {s t : Stage σ η} (same : Stage.Agree Stage.own s t) :
    t.context = s.context := congrArg Prod.fst same

theorem Stage.Agree.course {σ η : Type} {s t : Stage σ η} (same : Stage.Agree Stage.own s t) :
    Stage.Agree Stage.course s t :=
  congrArg (fun p : Context × Array Event => (p.1.executing, p.1.history, p.2)) same

namespace Act
variable {σ η α β : Type}

/-! ### Before and after -/

/-- Every run of the action ends on a stage that is related to the one it begins on. -/
def Ensures (R : Stage σ η → Stage σ η → Prop) (x : Act σ η α) : Prop := ∀ s, R s (x.run s).2

section
variable {R S : Stage σ η → Stage σ η → Prop} {x : Act σ η α}

theorem Ensures.mono (sub : ∀ {s t}, R s t → S s t) (ensured : x.Ensures R) : x.Ensures S :=
  fun s => sub (ensured s)

theorem Ensures.pure [Std.Refl R] (a : α) : (pure a : Act σ η α).Ensures R := fun s => Std.Refl.refl s

theorem Ensures.bind [IsTrans _ R] {f : α → Act σ η β} (first : x.Ensures R) (rest : ∀ a, (f a).Ensures R) :
    (x >>= f).Ensures R := by
  intro s
  rw [run_bind]
  exact IsTrans.trans _ _ _ (first s) (rest _ _)

theorem Ensures.map (f : α → β) (ensured : x.Ensures R) : (f <$> x).Ensures R := by
  intro s
  rw [run_map]
  exact ensured s

theorem Ensures.ite {p : Prop} [Decidable p] {y : Act σ η α} (left : x.Ensures R) (right : y.Ensures R) :
    (if p then x else y).Ensures R := by
  split
  · exact left
  · exact right

theorem Ensures.rounds [IsPreorder _ R] {body : Nat → Act σ η (Option (List α))} (each : ∀ i, (body i).Ensures R)
    (limit round : Nat) : (Act.rounds body limit round).Ensures R := by
  induction limit generalizing round with
  | zero => exact .pure []
  | succ limit ih =>
    refine .bind (each round) fun first => ?_
    cases first with
    | none => exact .pure []
    | some first => exact .bind (ih (round + 1)) fun later => .pure _

end

/-! ### All along a run -/

/-- Every stage that the action passes through is related to the one it begins on. -/
def Along (R : Stage σ η → Stage σ η → Prop) (x : Act σ η α) : Prop := ∀ s, ∀ m ∈ x.trail s, R s m

/-- A run ends where its trail does. -/
theorem run_mem_trail (x : Act σ η α) (s : Stage σ η) : (x.run s).2 = s ∨ (x.run s).2 ∈ x.trail s := by
  induction x generalizing s with
  | answer a => exact .inl rfl
  | step change next ih =>
    right
    rcases ih (change s).1 (change s).2 with same | later
    · exact List.mem_cons.mpr (.inl same)
    · exact List.mem_cons.mpr (.inr later)

section
variable {R S : Stage σ η → Stage σ η → Prop} {x : Act σ η α}

theorem Along.ensures [Std.Refl R] (along : x.Along R) : x.Ensures R := by
  intro s
  rcases x.run_mem_trail s with same | member
  · rw [same]; exact Std.Refl.refl s
  · exact along s _ member

theorem Along.mono (sub : ∀ {s t}, R s t → S s t) (along : x.Along R) : x.Along S :=
  fun s m member => sub (along s m member)

/-- An action of a single step. -/
theorem Along.step {change : Stage σ η → α × Stage σ η} (related : ∀ s, R s (change s).2) :
    (Act.step change .answer).Along R := by
  intro s m member
  rw [List.mem_singleton.mp member]
  exact related s

theorem Along.pure (a : α) : (pure a : Act σ η α).Along R := by
  intro s m member
  cases member

theorem Along.bind [IsPreorder _ R] {f : α → Act σ η β} (first : x.Along R) (rest : ∀ a, (f a).Along R) :
    (x >>= f).Along R := by
  intro s m member
  rw [trail_bind] at member
  rcases List.mem_append.mp member with early | late
  · exact first s m early
  · exact IsTrans.trans _ _ _ (first.ensures s) (rest _ _ m late)

theorem Along.map (f : α → β) (along : x.Along R) : (f <$> x).Along R := by
  intro s m member
  rw [trail_map] at member
  exact along s m member

theorem Along.ite {p : Prop} [Decidable p] {y : Act σ η α} (left : x.Along R) (right : y.Along R) :
    (if p then x else y).Along R := by
  split
  · exact left
  · exact right

theorem Along.rounds [IsPreorder _ R] {body : Nat → Act σ η (Option (List α))} (each : ∀ i, (body i).Along R)
    (limit round : Nat) : (Act.rounds body limit round).Along R := by
  induction limit generalizing round with
  | zero => exact .pure []
  | succ limit ih =>
    refine .bind (each round) fun first => ?_
    cases first with
    | none => exact .pure []
    | some first => exact .bind (ih (round + 1)) fun later => .pure _

end

theorem context_own : (context : Act σ η Context).Along (Stage.Agree Stage.own) := .step fun _ => rfl
theorem ask_own (call : σ → α × σ) : (ask call : Act σ η α).Along (Stage.Agree Stage.own) := .step fun _ => rfl
theorem keep_own (call : η → α × η) : (keep call : Act σ η α).Along (Stage.Agree Stage.own) := .step fun _ => rfl

theorem course_of_own {x : Act σ η α} (own : x.Along (Stage.Agree Stage.own)) : x.Along (Stage.Agree Stage.course) :=
  own.mono Stage.Agree.course

theorem modifyScopes_course (f : Scopes → Scopes) :
    (modifyScopes f : Act σ η Unit).Along (Stage.Agree Stage.course) := .step fun _ => rfl

theorem registerStep_course (id : Int) (name : String) :
    (modifyContext (·.registerStep id name) : Act σ η Unit).Along (Stage.Agree Stage.course) := .step fun _ => rfl

end Act

namespace Engine
variable {σ η : Type} (e : Engine σ η)
open Act

theorem now_own : e.now.Along (Stage.Agree Stage.own) := ask_own _
theorem isCancelled_own : e.isCancelled.Along (Stage.Agree Stage.own) := ask_own _

theorem emit_context (happening : Happening) : (e.emit happening).Along (Stage.Agree Stage.context) := by
  refine .step fun s => ?_
  split
  · rfl
  · rfl

theorem appendLogs_own (sink : Sink η) (record : Int) (step : Step) (results : List StepResult) :
    (e.appendLogs sink record step results).Along (Stage.Agree Stage.own) := by
  induction results with
  | nil => exact .pure ()
  | cons r rest ih => exact .bind e.now_own fun time => .bind (keep_own _) fun _ => ih

/-- Keeping logs changes nothing of the run itself. -/
theorem log_own (step : Step) (results : List StepResult) : (e.log step results).Along (Stage.Agree Stage.own) := by
  refine .bind context_own fun c => ?_
  split
  · exact e.appendLogs_own _ _ step _
  · exact .pure ()

/-- Evaluating a condition changes nothing of the run itself. -/
theorem condition_own (text : String) : (e.condition text).Along (Stage.Agree Stage.own) := by
  unfold condition
  split
  · exact .pure true
  · exact .bind context_own fun c => .bind (ask_own _) fun ran => .pure _

theorem limitTime_own : e.limitTime.Along (Stage.Agree Stage.own) := by
  unfold limitTime
  split
  · exact .pure true
  · exact ask_own _

theorem closeRecord_own (record : RunRecord) : (e.closeRecord record).Along (Stage.Agree Stage.own) := by
  unfold closeRecord
  split
  · exact .bind (keep_own _) fun _ => .pure ()
  · exact .pure ()

theorem forM_closeRecord_own (record : Option RunRecord) (f : RunRecord → RunRecord) :
    (record.forM fun r => e.closeRecord (f r)).Along (Stage.Agree Stage.own) := by
  cases record with
  | none => exact .pure ()
  | some r => exact e.closeRecord_own (f r)

/-- Bringing variables changes nothing but the scopes. -/
theorem loadVariables_course (s : Scenario) : (e.loadVariables s).Along (Stage.Agree Stage.course) := by
  unfold loadVariables
  split
  · exact .pure _
  · refine .bind (course_of_own context_own) fun c => .bind (course_of_own (ask_own _)) fun vars => ?_
    split
    · exact .pure _
    · exact .bind (modifyScopes_course _) fun _ => .pure _

theorem openRecord_course (s : Scenario) : (e.openRecord s).Along (Stage.Agree Stage.course) := by
  refine .bind (course_of_own context_own) fun c => .bind (course_of_own e.now_own) fun time => ?_
  split
  · exact .pure _
  · refine .bind (course_of_own (keep_own _)) fun kept => ?_
    split
    · exact .pure _
    · exact .bind (.step fun _ => rfl) fun _ => .pure _

/-! ### The beginning of a run -/

/-- The stage on which a run begins, with a context of its own and its time limited. -/
def begun (envKey : String) (s : Stage σ η) : Stage σ η := (e.limitTime.run { s with context := { envKey } }).2

/-- Whether the clock of the world reaches as far as a run may take. -/
def clockReaches (host : σ) : Bool := e.config.runTimeoutMs.all fun ms => (e.host.limit ms host).isSome

theorem run_limitTime_fst (s : Stage σ η) : (e.limitTime.run s).1 = e.clockReaches s.host := by
  unfold limitTime clockReaches
  cases e.config.runTimeoutMs with
  | none => rfl
  | some ms =>
    rw [run_ask, Option.all_some]
    cases e.host.limit ms s.host with
    | none | some => rfl

/-- Where the clock does not reach far enough, nothing has changed. -/
theorem run_limitTime_of_beyond {s : Stage σ η} (beyond : e.clockReaches s.host = false) :
    e.limitTime.run s = (false, s) := by
  unfold clockReaches at beyond
  unfold limitTime
  cases timeout : e.config.runTimeoutMs with
  | none => simp [timeout] at beyond
  | some ms =>
    have unknown : e.host.limit ms s.host = none := by simpa [timeout] using beyond
    simp only [run_ask, unknown]

/-- A run is the attempt to run its scenario with a context of its own, as far as the clock reaches. -/
theorem run_execute {envKey : String} {s : Stage σ η} (reaches : e.clockReaches s.host) (id : Int) :
    (e.execute id envKey).run s = (e.attempt e.nested true id).run (e.begun envKey s) := by
  have within : (e.limitTime.run { s with context := { envKey } }).1 = true := (e.run_limitTime_fst _).trans reaches
  rw [execute, executeWith, run_bind, run_modifyContext, run_bind, if_pos within]
  rfl

/-- Where the clock does not reach far enough, a run breaks off before anything happens. -/
theorem run_execute_of_beyond {s : Stage σ η} (beyond : e.clockReaches s.host = false) (id : Int) (envKey : String) :
    (e.execute id envKey).run s = (.error .beyondClock, { s with context := { envKey } }) := by
  have same : e.limitTime.run { s with context := { envKey } } = (false, { s with context := { envKey } }) :=
    e.run_limitTime_of_beyond beyond
  rw [execute, executeWith, run_bind, run_modifyContext, run_bind, same]
  rfl

/-- A run that comes to results has been within the reach of the clock. -/
theorem reaches_of_ok {id : Int} {envKey : String} {s : Stage σ η} {results : List StepResult}
    (ended : ((e.execute id envKey).run s).1 = .ok results) : e.clockReaches s.host := by
  cases reaches : e.clockReaches s.host with
  | true => rfl
  | false =>
    rw [e.run_execute_of_beyond reaches] at ended
    cases ended

/-! ### Trees of steps -/

section
variable {e} {nested : Int → Act σ η Ending} {P : Step → Act σ η (List StepResult) → Prop}
  {Q : List Step → Act σ η (List StepResult) → Prop}

mutual
/-- What passes from the steps inside a step to the step, and along lists of steps, holds of every step. -/
theorem dispatch_induction (nil : Q [] (pure []))
    (cons : ∀ step rest x y, P step x → Q rest y → Q (step :: rest) (do
      let first ← x
      let later ← y
      pure (first ++ later)))
    (perform : ∀ step body, Q step.children body → P step (e.perform nested step body)) :
    ∀ step, P step (e.dispatch nested step)
  | ⟨row, children⟩ => perform ⟨row, children⟩ _ (dispatchAll_induction nil cons perform children)
/-- What passes from the steps inside a step to the step, and along lists of steps, holds of every list. -/
theorem dispatchAll_induction (nil : Q [] (pure []))
    (cons : ∀ step rest x y, P step x → Q rest y → Q (step :: rest) (do
      let first ← x
      let later ← y
      pure (first ++ later)))
    (perform : ∀ step body, Q step.children body → P step (e.perform nested step body)) :
    ∀ steps, Q steps (e.dispatchAll nested steps)
  | [] => nil
  | head :: rest =>
    cons head rest _ _ (dispatch_induction nil cons perform head) (dispatchAll_induction nil cons perform rest)
end

end

end Engine
end TestScenario
