import TestScenario.Proofs.Deeds

/-!
Runs side by side. Two runs in the same world go the same way whatever is kept of them and whoever is told: all that
they learn from keeping a record is its id, and they use it for nothing but logs (`observation_is_idle`). The trees of
steps may differ, too, as long as walking through them comes to the same.
-/

namespace TestScenario
variable {σ η θ : Type}

/-- A call of what cases are executed by, or of what scripts and conditions are evaluated by. -/
inductive ServiceCall where
  | execute (t : TestCase) (vars : Members) (history : Table Int StepResult)
  | evaluate (script : String) (vars : Members)

/-- The host with every execution of a case and every evaluation of a script or a condition noted. -/
def Host.noted (h : Host σ) : Host (σ × List ServiceCall) where
  scenario id s := let (answer, inner) := h.scenario id s.1; (answer, (inner, s.2))
  steps id s := let (answer, inner) := h.steps id s.1; (answer, (inner, s.2))
  testCase id s := let (answer, inner) := h.testCase id s.1; (answer, (inner, s.2))
  vars := h.vars.map fun supply project module envKey s =>
    let (answer, inner) := supply project module envKey s.1
    (answer, (inner, s.2))
  runCase t vars history s :=
    let (answer, inner) := h.runCase t vars history s.1
    (answer, (inner, s.2 ++ [.execute t vars history]))
  eval script vars s :=
    let (answer, inner) := h.eval script vars s.1
    (answer, (inner, s.2 ++ [.evaluate script vars]))
  wait ms s := let (answer, inner) := h.wait ms s.1; (answer, (inner, s.2))
  limit ms s := (h.limit ms s.1).map (·, s.2)
  meanwhile s := (h.meanwhile s.1, s.2)
  isCancelled s := h.isCancelled s.1
  now s := h.now s.1

/-- The host with the steps of every scenario changed. -/
def Host.withSteps (change : List Step → List Step) (h : Host σ) : Host σ :=
  { h with steps := fun id s => let (answer, after) := h.steps id s; (answer.map change, after) }

@[simp] theorem Host.withSteps_id (h : Host σ) : h.withSteps id = h := by
  have same (answer : Except Fault (List Step)) : answer.map id = answer := by cases answer <;> rfl
  simp only [withSteps, same]

/-- Two stages on which a run finds the same: what is kept may differ, and so may the id of its record. What has been
    told on them is related. -/
structure Stage.Like (E : Array Event → Array Event → Prop) (s : Stage σ η) (t : Stage σ θ) : Prop where
  host : t.host = s.host
  context : ∃ recordId, t.context = { s.context with recordId }
  events : E s.events t.events

namespace Stage
variable {E : Array Event → Array Event → Prop}

instance : IsPreorder (Stage σ η) (Like Eq) where
  refl s := ⟨rfl, ⟨s.context.recordId, rfl⟩, rfl⟩
  trans s t r first second := by
    obtain ⟨i, same⟩ := first.context
    obtain ⟨j, sameToo⟩ := second.context
    refine ⟨second.host.trans first.host, ⟨j, ?_⟩, first.events.trans second.events⟩
    rw [sameToo, same]

theorem Like.left {s r : Stage σ η} {t : Stage σ θ} (like : s.Like E t) (aside : s.Like Eq r) : r.Like E t := by
  obtain ⟨i, same⟩ := like.context
  obtain ⟨j, sameToo⟩ := aside.context
  refine ⟨like.host.trans aside.host.symm, ⟨i, ?_⟩, aside.events ▸ like.events⟩
  rw [same, sameToo]

theorem Like.right {s : Stage σ η} {t r : Stage σ θ} (like : s.Like E t) (aside : t.Like Eq r) : s.Like E r := by
  obtain ⟨i, same⟩ := like.context
  obtain ⟨j, sameToo⟩ := aside.context
  refine ⟨aside.host.trans like.host, ⟨j, ?_⟩, aside.events ▸ like.events⟩
  rw [sameToo, same]

theorem Like.scopes {s : Stage σ η} {t : Stage σ θ} (like : s.Like E t) : t.context.scopes = s.context.scopes := by
  obtain ⟨recordId, same⟩ := like.context
  rw [same]

theorem Like.history {s : Stage σ η} {t : Stage σ θ} (like : s.Like E t) : t.context.history = s.context.history := by
  obtain ⟨recordId, same⟩ := like.context
  rw [same]

end Stage

namespace Act
variable {α β γ δ : Type} {E : Array Event → Array Event → Prop}

/-- On stages alike two actions have related answers, and they end on stages alike. -/
def Pairs (E : Array Event → Array Event → Prop) (V : α → β → Prop) (x : Act σ η α) (y : Act σ θ β) : Prop :=
  ∀ s t, s.Like E t → V (x.run s).1 (y.run t).1 ∧ (x.run s).2.Like E (y.run t).2

section
variable {V : α → β → Prop} {x : Act σ η α} {y : Act σ θ β} {z : Act σ θ α}

theorem Pairs.pure {a : α} {b : β} (related : V a b) : Pairs E V (pure a : Act σ η α) (pure b : Act σ θ β) :=
  fun _ _ like => ⟨related, like⟩

theorem Pairs.join {W : γ → δ → Prop} {f : α → Act σ η γ} {g : β → Act σ θ δ} (first : Pairs E V x y)
    (rest : ∀ a b, V a b → Pairs E W (f a) (g b)) : Pairs E W (x >>= f) (y >>= g) := by
  intro s t like
  obtain ⟨related, after⟩ := first s t like
  rw [run_bind, run_bind]
  exact rest _ _ related _ _ after

/-- Two actions with the same answer, and others that depend on it. -/
theorem Pairs.bind {W : γ → δ → Prop} {f : α → Act σ η γ} {g : α → Act σ θ δ} (first : Pairs E Eq x z)
    (rest : ∀ a, Pairs E W (f a) (g a)) : Pairs E W (x >>= f) (z >>= g) :=
  first.join fun a _ same => same ▸ rest a

/-- What depends on the context does not depend on the id of the record. -/
theorem Pairs.context {f : Context → Act σ η α} {g : Context → Act σ θ β}
    (rest : ∀ c recordId, Pairs E V (f c) (g { c with recordId })) :
    Pairs E V (Act.context >>= f) (Act.context >>= g) := by
  intro s t like
  obtain ⟨recordId, same⟩ := like.context
  rw [run_bind, run_bind, run_context, run_context, same]
  exact rest s.context recordId s t like

theorem Pairs.map {f : α → γ} (pairs : Pairs E Eq x z) : Pairs E Eq (f <$> x) (f <$> z) :=
  pairs.bind fun _ => .pure rfl

theorem Pairs.ite {p : Prop} [Decidable p] {x' : Act σ η α} {y' : Act σ θ β} (left : Pairs E V x y)
    (right : Pairs E V x' y') : Pairs E V (if p then x else x') (if p then y else y') := by
  split
  · exact left
  · exact right

theorem Pairs.rounds {body : Nat → Act σ η (Option (List α))} {other : Nat → Act σ θ (Option (List α))}
    (each : ∀ i, Pairs E Eq (body i) (other i)) (limit round : Nat) :
    Pairs E Eq (Act.rounds body limit round) (Act.rounds other limit round) := by
  induction limit generalizing round with
  | zero => exact .pure rfl
  | succ limit ih =>
    refine .bind (each round) fun first => ?_
    cases first with
    | none => exact .pure rfl
    | some first => exact .bind (ih (round + 1)) fun later => .pure rfl

/-- An action on one side only, which leaves everything that a run finds as it is. -/
theorem Pairs.left {f : γ → Act σ η α} {w : Act σ η γ} (aside : w.Ensures (Stage.Like Eq))
    (rest : ∀ a, Pairs E V (f a) y) : Pairs E V (w >>= f) y := by
  intro s t like
  rw [run_bind]
  exact rest _ _ _ (like.left (aside s))

/-- An action on one side only, at the end. -/
theorem Pairs.after {w : α → Act σ η Unit} (pairs : Pairs E Eq x z) (aside : ∀ a, (w a).Ensures (Stage.Like Eq)) :
    Pairs E Eq (x >>= fun a => w a >>= fun _ => Pure.pure a) z := by
  intro s t like
  obtain ⟨same, after⟩ := pairs s t like
  rw [run_bind, run_bind, run_pure]
  exact ⟨same, after.left (aside _ _)⟩

/-- Actions that leave everything that a run finds as it is. -/
theorem Pairs.aside (left : x.Ensures (Stage.Like Eq)) (right : y.Ensures (Stage.Like Eq)) :
    Pairs E (fun _ _ => True) x y :=
  fun s t like => ⟨trivial, (like.left (left s)).right (right t)⟩

end

/-- A change of the context that neither looks at the id of the record nor sets it. -/
theorem pairs_modifyContext {f : Context → Context}
    (blind : ∀ c recordId, f { c with recordId } = { f c with recordId }) :
    Pairs E Eq (modifyContext f : Act σ η Unit) (modifyContext f : Act σ θ Unit) := by
  intro s t like
  obtain ⟨recordId, same⟩ := like.context
  refine ⟨rfl, like.host, ⟨recordId, ?_⟩, like.events⟩
  show f t.context = { f s.context with recordId }
  rw [same]
  exact blind s.context recordId

theorem pairs_modifyScopes (f : Scopes → Scopes) :
    Pairs E Eq (modifyScopes f : Act σ η Unit) (modifyScopes f : Act σ θ Unit) :=
  pairs_modifyContext fun _ _ => rfl

theorem pairs_ask (call : σ → α × σ) : Pairs E Eq (ask call : Act σ η α) (ask call : Act σ θ α) := by
  intro s t like
  rw [run_ask, run_ask, like.host]
  exact ⟨rfl, rfl, like.context, like.events⟩

theorem context_aside : (context : Act σ η Context).Ensures (Stage.Like Eq) := fun s => Std.Refl.refl s
theorem keep_aside (call : η → α × η) : (keep call : Act σ η α).Ensures (Stage.Like Eq) :=
  fun s => ⟨rfl, ⟨s.context.recordId, rfl⟩, rfl⟩

end Act

/-! ### Keeping a run -/

namespace Engine
open Act Stage
variable (e : Engine σ η)

theorem now_aside : e.now.Ensures (Like Eq) := fun s => Std.Refl.refl s

theorem appendLogs_aside (sink : Sink η) (record : Int) (step : Step) (results : List StepResult) :
    (e.appendLogs sink record step results).Ensures (Like Eq) := by
  induction results with
  | nil => exact .pure ()
  | cons r rest ih => exact .bind e.now_aside fun time => .bind (keep_aside _) fun _ => ih

/-- Keeping logs changes nothing that a run finds. -/
theorem log_aside (step : Step) (results : List StepResult) : (e.log step results).Ensures (Like Eq) := by
  refine .bind context_aside fun c => ?_
  split
  · exact e.appendLogs_aside _ _ step _
  · exact .pure ()

/-- A new record changes nothing that a run finds, except the id of its record. -/
theorem openRecord_aside (s : Scenario) : (e.openRecord s).Ensures (Like Eq) := by
  refine .bind context_aside fun c => .bind e.now_aside fun time => ?_
  split
  · exact .pure _
  · refine .bind (keep_aside _) fun kept => ?_
    split
    · exact .pure _
    · exact .bind (fun s => ⟨rfl, ⟨_, rfl⟩, rfl⟩) fun _ => .pure _

theorem closeRecord_aside (record : Option RunRecord) (g : RunRecord → RunRecord) :
    (record.forM fun r => e.closeRecord (g r)).Ensures (Like Eq) := by
  cases record with
  | none => exact .pure ()
  | some r =>
    show (e.closeRecord (g r)).Ensures (Like Eq)
    unfold closeRecord
    split
    · exact .bind (keep_aside _) fun _ => .pure ()
    · exact .pure ()

end Engine

/-! ### Two engines -/

/-- Two engines with the same settings in the same world, where one finds the steps of every scenario changed. What
    they tell at the same time keeps what has been told related. -/
structure Engine.Beside (E : Array Event → Array Event → Prop) (change : List Step → List Step) (e : Engine σ η)
    (f : Engine σ θ) : Prop where
  config : f.config = e.config
  kinds : f.kinds = e.kinds
  host : f.host = e.host.withSteps change
  told : ∀ event {a b}, E a b →
    E (if e.observed then a.push event else a) (if f.observed then b.push event else b)

/-- A host supplies some steps as those of a scenario. -/
def Host.Supplies (h : Host σ) (steps : List Step) : Prop := ∃ id world, (h.steps id world).1 = .ok steps

/-- Walking through changed steps comes to the same, if scenarios inside others do. -/
def Engine.Walks (E : Array Event → Array Event → Prop) (change : List Step → List Step) (e : Engine σ η)
    (f : Engine σ θ) : Prop :=
  ∀ nested other, (∀ id, Act.Pairs E Eq (nested id) (other id)) → ∀ steps, e.host.Supplies steps →
    Act.Pairs E Eq (e.dispatchAll nested steps) (f.dispatchAll other (change steps))

namespace Engine.Beside
open Act Stage
variable {E : Array Event → Array Event → Prop} {change : List Step → List Step} {e : Engine σ η} {f : Engine σ θ}
  (beside : e.Beside E change f)
include beside

theorem emit (h : Happening) : Pairs E Eq (e.emit h) (f.emit h) := by
  intro s t like
  obtain ⟨recordId, same⟩ := like.context
  rw [run_emit, run_emit]
  refine ⟨rfl, like.host, like.context, ?_⟩
  show E (if e.observed then _ else _) (if f.observed then _ else _)
  rw [like.host, same, beside.host]
  exact beside.told _ like.events

theorem now : Pairs E Eq e.now f.now := by
  unfold Engine.now
  rw [beside.host]
  exact pairs_ask _

theorem isCancelled : Pairs E Eq e.isCancelled f.isCancelled := by
  unfold Engine.isCancelled
  rw [beside.host]
  exact pairs_ask _

theorem record (step : Step) (r : StepResult) : Pairs E Eq (e.record step r) (f.record step r) :=
  .bind (pairs_modifyContext fun _ _ => rfl) fun _ => .bind (beside.emit _) fun _ => .pure rfl

theorem runCase (step : Step) (t : TestCase) : Pairs E Eq (e.runCase step t) (f.runCase step t) := by
  refine .bind (pairs_modifyContext fun _ _ => rfl) fun _ => .context fun before _ => ?_
  refine .bind (pairs_modifyScopes _) fun _ => .context fun c _ => .bind beside.now fun begun => ?_
  rw [beside.host]
  refine .bind (pairs_ask _) fun ran => .bind beside.now fun ended => ?_
  refine .bind (beside.record step _) fun results => .bind (pairs_modifyScopes _) fun _ => ?_
  exact .bind (pairs_modifyScopes _) fun _ => .pure rfl

theorem caseStep (step : Step) : Pairs E Eq (e.caseStep step) (f.caseStep step) := by
  unfold Engine.caseStep
  simp only
  split
  · exact beside.record step _
  · rw [beside.host]
    refine .bind (pairs_ask _) fun found => ?_
    split
    · exact beside.record step _
    · exact beside.record step _
    · exact beside.runCase step _

theorem scriptStep (step : Step) : Pairs E Eq (e.scriptStep step) (f.scriptStep step) := by
  refine .bind (pairs_modifyContext fun _ _ => rfl) fun _ => ?_
  split
  · exact beside.record step _
  · refine .context fun c _ => ?_
    rw [beside.host]
    refine .bind (pairs_ask _) fun ran => .bind (pairs_modifyScopes _) fun _ => ?_
    exact beside.record step _

theorem condition (text : String) : Pairs E Eq (e.condition text) (f.condition text) := by
  refine .ite (.pure rfl) (.context fun c _ => ?_)
  rw [beside.host]
  exact .bind (pairs_ask _) fun ran => .pure rfl

theorem waitStep (step : Step) : Pairs E Eq (e.waitStep step) (f.waitStep step) := by
  unfold Engine.waitStep
  rw [beside.host, beside.config]
  refine .bind (pairs_ask _) fun ended => .ite (.bind (beside.emit _) fun _ => .pure rfl) (.pure rfl)

section
variable {nested : Int → Act σ η Ending} {other : Int → Act σ θ Ending} {body : Act σ η (List StepResult)}
  {again : Act σ θ (List StepResult)}

omit beside in
theorem inScope (bindings : List (String × Json)) (pairs : Pairs E Eq body again) :
    Pairs E Eq (Engine.inScope bindings body) (Engine.inScope bindings again) := by
  refine .bind (pairs_modifyScopes _) fun _ => .bind pairs fun results => ?_
  exact .bind (pairs_modifyScopes _) fun _ => .pure rfl

theorem conditionStep (step : Step) (pairs : Pairs E Eq body again) :
    Pairs E Eq (e.conditionStep step body) (f.conditionStep step again) :=
  .bind (beside.condition _) fun _ => .ite (inScope [] pairs) (.pure rfl)

theorem loopRounds {goesOn : Act σ η Bool} {goesOnToo : Act σ θ Bool} (asks : Pairs E Eq goesOn goesOnToo)
    (bindings : Nat → List (String × Json)) (limit : Nat) (pairs : Pairs E Eq body again) :
    Pairs E Eq (e.loopRounds goesOn bindings limit body) (f.loopRounds goesOnToo bindings limit again) := by
  refine .rounds (fun round => .bind beside.isCancelled fun cancelled => .ite (.pure rfl) ?_) limit 0
  exact .bind asks fun holds => .ite (inScope (bindings round) pairs).map (.pure rfl)

theorem loopStep (step : Step) (pairs : Pairs E Eq body again) :
    Pairs E Eq (e.loopStep step body) (f.loopStep step again) := by
  unfold Engine.loopStep
  simp only
  split
  · exact beside.loopRounds (.pure rfl) _ _ pairs
  · exact .context fun c _ => beside.loopRounds (.pure rfl) _ _ pairs
  · unfold Engine.conditionLoop
    rw [beside.config]
    exact beside.loopRounds (beside.condition _) _ _ pairs

theorem takeOver (step : Step) (name : String) (ending : Ending) :
    Pairs E Eq (e.takeOver step name ending) (f.takeOver step name ending) := by
  cases ending with
  | ok results => exact .bind (pairs_modifyScopes _) fun _ => .pure rfl
  | error problem => exact beside.record step _

theorem scenarioStep (inside : ∀ id, Pairs E Eq (nested id) (other id)) (step : Step) :
    Pairs E Eq (e.scenarioStep nested step) (f.scenarioStep other step) := by
  unfold Engine.scenarioStep
  simp only
  split
  · exact beside.record step _
  · rename_i id _
    refine .context fun c _ => .ite (beside.record step _) ?_
    refine .bind (pairs_modifyContext fun _ _ => rfl) fun _ => .bind (pairs_modifyScopes _) fun _ => ?_
    refine .bind (inside id) fun ending => .bind (beside.takeOver step _ ending) fun results => ?_
    exact .bind (pairs_modifyScopes _) fun _ => .pure rfl

theorem invoke (inside : ∀ id, Pairs E Eq (nested id) (other id)) (step : Step) (pairs : Pairs E Eq body again) :
    Pairs E Eq (e.invoke nested step body) (f.invoke other step again) := by
  unfold Engine.invoke
  rw [beside.kinds]
  refine .ite ?_ (.pure rfl)
  split
  · exact beside.caseStep step
  · exact pairs
  · exact beside.conditionStep step pairs
  · exact beside.loopStep step pairs
  · exact beside.waitStep step
  · exact beside.scriptStep step
  · exact beside.scenarioStep inside step

/-- Steps of one row run alike if the steps inside them do. -/
theorem perform (inside : ∀ id, Pairs E Eq (nested id) (other id)) (row : StepRow) (children fewer : List Step)
    (pairs : Pairs E Eq body again) :
    Pairs E Eq (e.perform nested ⟨row, children⟩ body) (f.perform other ⟨row, fewer⟩ again) := by
  have invoked : Pairs E Eq (e.invoke nested ⟨row, children⟩ body) (f.invoke other ⟨row, fewer⟩ again) :=
    beside.invoke inside ⟨row, children⟩ pairs
  have skipped : Pairs E Eq (e.passOver nested ⟨row, children⟩ body) (f.passOver other ⟨row, fewer⟩ again) :=
    .ite (beside.record ⟨row, children⟩ _) (.ite invoked (.pure rfl))
  refine .ite (.pure rfl) (.bind (beside.emit _) fun _ => ?_)
  refine .bind beside.isCancelled fun cancelled => .bind (.ite skipped invoked) fun results => ?_
  exact .join (.aside (e.log_aside _ _) (f.log_aside _ _)) fun _ _ _ => .pure rfl

end

/-! ### Scenarios -/

section
variable {walk : List Step → Act σ η (List StepResult)} {walkToo : List Step → Act σ θ (List StepResult)}

theorem loadVariables (s : Scenario) : Pairs E Eq (e.loadVariables s) (f.loadVariables s) := by
  unfold Engine.loadVariables
  rw [beside.host]
  simp only [Host.withSteps]
  split
  · exact .pure rfl
  · refine .context fun c _ => .bind (pairs_ask _) fun vars => ?_
    split
    · exact .pure rfl
    · exact .bind (pairs_modifyScopes _) fun _ => .pure rfl

theorem runSteps (walks : ∀ steps, e.host.Supplies steps → Pairs E Eq (walk steps) (walkToo (change steps)))
    (s : Scenario) (record recordToo : Option RunRecord) :
    Pairs E Eq (e.runSteps s record walk) (f.runSteps s recordToo walkToo) := by
  have closed (g h : RunRecord → RunRecord) : Pairs E (fun _ _ => True)
      (record.forM fun r => e.closeRecord (g r)) (recordToo.forM fun r => f.closeRecord (h r)) :=
    .aside (e.closeRecord_aside record g) (f.closeRecord_aside recordToo h)
  have loaded : Pairs E (fun steps changed => changed = steps.map change ∧ ∃ world, (e.host.steps s.id world).1 = steps)
      (ask (e.host.steps s.id) : Act σ η (Except Fault (List Step)))
      (ask (f.host.steps s.id) : Act σ θ (Except Fault (List Step))) := by
    intro s t like
    rw [run_ask, run_ask, like.host, beside.host]
    exact ⟨⟨rfl, s.host, rfl⟩, rfl, like.context, like.events⟩
  refine .join loaded fun steps changed found => ?_
  obtain ⟨rfl, world, supplied⟩ := found
  cases steps with
  | error cause => exact .bind beside.now fun time => .join (closed _ _) fun _ _ _ => .pure rfl
  | ok steps =>
    refine .bind beside.now fun begun => .bind (walks steps ⟨_, world, supplied⟩) fun results => ?_
    refine .bind beside.now fun ended => ?_
    refine .bind beside.isCancelled fun cancelled => .join (closed _ _) fun _ _ _ => ?_
    exact .bind (beside.emit _) fun _ => .pure rfl

theorem enter (walks : ∀ steps, e.host.Supplies steps → Pairs E Eq (walk steps) (walkToo (change steps)))
    (outermost : Bool) (id : Int) :
    Pairs E Eq (e.enter outermost id walk) (f.enter outermost id walkToo) := by
  unfold Engine.enter
  rw [beside.host]
  refine .bind (pairs_ask _) fun found => ?_
  split
  · exact .pure rfl
  · exact .pure rfl
  · rename_i s
    refine .bind (pairs_modifyContext fun _ _ => rfl) fun _ => .bind (.ite ?_ ?_) fun outcome => ?_
    · refine .bind (beside.loadVariables s) fun loaded => ?_
      split
      · exact .pure rfl
      · refine .bind (beside.emit _) fun _ => .join (.aside (e.openRecord_aside s) (f.openRecord_aside s)) ?_
        exact fun record recordToo _ => beside.runSteps walks s (some record) (some recordToo)
    · exact .bind (beside.emit _) fun _ => beside.runSteps walks s none none
    · exact .bind (pairs_modifyContext fun _ _ => rfl) fun _ => .pure rfl

variable (walks : Walks E change e f)
include walks

theorem attempt {nested : Int → Act σ η Ending} {other : Int → Act σ θ Ending}
    (inside : ∀ id, Pairs E Eq (nested id) (other id)) (outermost : Bool) (id : Int) :
    Pairs E Eq (e.attempt nested outermost id) (f.attempt other outermost id) := by
  unfold Engine.attempt
  rw [beside.config]
  refine .context fun c _ => .ite (.pure rfl) (.ite (.pure rfl) ?_)
  exact beside.enter (walks nested other inside) outermost id

theorem nested (id : Int) : Pairs E Eq (e.nested id) (f.nested id) := by
  have inside (levels : Nat) : ∀ id, Pairs E Eq
      (e.inside (fun id => pure (.error (.tooDeep id e.config.maxNesting))) levels id)
      (f.inside (fun id => pure (.error (.tooDeep id f.config.maxNesting))) levels id) := by
    induction levels with
    | zero => exact fun id => .pure (by rw [beside.config])
    | succ levels ih => exact beside.attempt walks ih false
  unfold Engine.nested
  rw [beside.config]
  rw [beside.config] at inside
  exact inside _ id

/-- Runs side by side have the same end, on stages alike. -/
theorem execute (id : Int) (envKey : String) : Pairs E Eq (e.execute id envKey) (f.execute id envKey) := by
  refine .bind ?_ fun _ => .bind ?_ fun _ => .ite (beside.attempt walks (beside.nested walks) true id) (.pure rfl)
  · intro s t like
    exact ⟨rfl, like.host, ⟨none, rfl⟩, like.events⟩
  · unfold limitTime
    rw [beside.config, beside.host]
    split
    · exact .pure rfl
    · exact pairs_ask _

end

end Engine.Beside

/-- The same steps run alike on both sides. -/
theorem Engine.Beside.walks {E : Array Event → Array Event → Prop} {e : Engine σ η} {f : Engine σ θ}
    (beside : e.Beside E id f) : e.Walks E id f := by
  intro nested other inside steps _
  refine dispatchAll_induction (P := fun step x => Act.Pairs E Eq x (f.dispatch other step))
    (Q := fun steps x => Act.Pairs E Eq x (f.dispatchAll other steps)) (.pure rfl) ?_ ?_ steps
  · intro step rest x y first later
    exact .bind first fun _ => .bind later fun _ => .pure rfl
  · intro step body pairs
    cases step with | mk row children => exact beside.perform inside row children children pairs

/-- The calls of services so far. -/
def Stage.calls (s : Stage (σ × List ServiceCall) η) : List ServiceCall := s.host.2

/-- Whatever is kept of a run and wherever, with any calls refused, and whether anyone is told of it or not, the run
    has the same results or fails with the same error. It makes the same calls, leaves the world the same, and ends
    with the same variables and results recorded. If both times someone is told or both times no one, the same is
    told. -/
theorem Engine.observation_is_idle (config : Config) (kinds : List StepKind) (host : Host σ) (sink : Option (Sink η))
    (other : Option (Sink θ)) (scenario : Int) (envKey : String) (world : σ) (kept : η) (keptToo : θ) :
    let run (observed : Bool) :=
      (({ config, kinds, host := host.noted, sink, observed } : Engine _ η).execute scenario envKey).run
        { host := (world, []), kept }
    let again (observed : Bool) :=
      (({ config, kinds, host := host.noted, sink := other, observed } : Engine _ θ).execute scenario envKey).run
        { host := (world, []), kept := keptToo }
    (∀ observed observedToo,
      (again observedToo).1 = (run observed).1 ∧
        (again observedToo).2.calls = (run observed).2.calls ∧
        (again observedToo).2.host.1 = (run observed).2.host.1 ∧
        (again observedToo).2.context.scopes = (run observed).2.context.scopes ∧
        (again observedToo).2.context.history = (run observed).2.context.history) ∧
      ∀ observed, (again observed).2.events = (run observed).2.events := by
  intro run again
  have side (observed observedToo : Bool) :
      (run observed).1 = (again observedToo).1 ∧
        (run observed).2.Like (fun a b => observed = observedToo → b = a) (again observedToo).2 := by
    let e : Engine _ η := { config, kinds, host := host.noted, sink, observed }
    let f : Engine _ θ := { config, kinds, host := host.noted, sink := other, observed := observedToo }
    have beside : e.Beside (fun a b => observed = observedToo → b = a) id f := by
      refine ⟨rfl, rfl, e.host.withSteps_id.symm, fun event {a b} told same => ?_⟩
      show (if observedToo then b.push event else b) = if observed then a.push event else a
      rw [told same, same]
    exact beside.execute beside.walks scenario envKey _ _ ⟨rfl, ⟨none, rfl⟩, fun _ => rfl⟩
  constructor
  · intro observed observedToo
    obtain ⟨answer, like⟩ := side observed observedToo
    exact ⟨answer.symm, congrArg Prod.snd like.host, congrArg Prod.fst like.host, like.scopes, like.history⟩
  · intro observed
    exact (side observed observed).2.events rfl

end TestScenario
