import Mathlib
import TestScenario.Catalog.Parts
import TestScenario.Engine.Rehearsal
import TestScenario.Proofs.Action

/-!
What is told of a run, as the words of a grammar over the scenarios of a catalog and their steps. Results go three ways:
they are told and recorded at once, and they come back in lists that every step puts together. At the end of a run all
three agree (`execute_trace`).
-/

namespace TestScenario
variable {σ η : Type}

/-- Whether steps of a kind record a result of their own with a status. -/
def StepKind.records : StepKind → StepStatus → Bool
  | .testCase, _ => true
  | .script, _ => true
  | .scenario, .fail => true
  | _, _ => false

/-- How many times steps of a kind may run the steps inside them. -/
def StepKind.repeats : StepKind → Nat → Prop
  | .group, times => times = 1
  | .condition, times => times ≤ 1
  | .loop, _ => True
  | _, _ => False

mutual
/-- What is told of the run of a scenario. -/
inductive RunWord (c : Catalog) : Int → List Happening → Prop
  | run {id : Int} {s : Scenario} {w : List Happening} (found : c.scenario? id = some s) (steps : StepsWord c s.steps w)
      (cancelled : Bool) :
      RunWord c id (.scenarioStarted id s.name :: (w ++
        [.scenarioCompleted id (RunStatus.after (w.filterMap Happening.result?) cancelled)]))
/-- What is told of steps one after the other. -/
inductive StepsWord (c : Catalog) : List Step → List Happening → Prop
  | nil : StepsWord c [] []
  | cons {step : Step} {rest : List Step} {u v : List Happening} (first : StepWord c step u)
      (later : StepsWord c rest v) : StepsWord c (step :: rest) (u ++ v)
/-- What is told of a step; of one that is switched off, nothing. -/
inductive StepWord (c : Catalog) : Step → List Happening → Prop
  | off {step : Step} (disabled : step.isDisabled) : StepWord c step []
  | on {step : Step} {w : List Happening} (enabled : ¬ step.isDisabled) (inner : InnerWord c step w) :
      StepWord c step (.stepStarted step.row.id step.row.name :: w)
/-- What is told of a step after its start. -/
inductive InnerWord (c : Catalog) : Step → List Happening → Prop
  /-- A result of its own. -/
  | recorded {step : Step} (r : StepResult) (own : r.stepId = step.row.id) (fits : step.row.kind.records r.status) :
      InnerWord c step [.stepCompleted step.row.id r.name r.status (some r)]
  /-- The end of a wait, which has no result. -/
  | waited {step : Step} (waits : step.row.kind = .wait) :
      InnerWord c step [.stepCompleted step.row.id step.row.name .pass none]
  /-- Nothing, for a wait or a scenario that is passed over. -/
  | silent {step : Step} (passed : step.row.kind = .wait ∨ step.row.kind = .scenario) : InnerWord c step []
  /-- The steps inside, some number of times. -/
  | repeated {step : Step} (blocks : List (List Happening)) (times : step.row.kind.repeats blocks.length)
      (each : ∀ w ∈ blocks, StepsWord c step.children w) : InnerWord c step blocks.flatten
  /-- The run of another scenario. -/
  | entered {step : Step} {id : Int} {w : List Happening} (refers : step.row.kind = .scenario)
      (target : step.row.scenarioId = some id) (run : RunWord c id w) : InnerWord c step w
end

/-- Results are those that a word tells, and the word has a property. -/
def Carried (P : List Happening → Prop) (results : List StepResult) (w : List Happening) : Prop :=
  P w ∧ w.filterMap Happening.result? = results

/-- A word that is made of words with a property. -/
def Repeated (P : List Happening → Prop) (w : List Happening) : Prop :=
  ∃ blocks : List (List Happening), (∀ b ∈ blocks, P b) ∧ w = blocks.flatten

/-- What is told of the run of a scenario that ends; of one that cannot take place, nothing. -/
def Ended (c : Catalog) (id : Int) : Ending → List Happening → Prop
  | .ok results, w => Carried (RunWord c id) results w
  | .error _, w => w = []

/-- What is told of a round of a loop; of one that does not take place, nothing. -/
def Round (P : List Happening → Prop) : Option (List StepResult) → List Happening → Prop
  | some results, w => Carried P results w
  | none, w => w = []

/-- After results have been put under the ids of their steps, a step has its last one. -/
theorem get?_foldl_put (results : List StepResult) (h : Table Int StepResult) (i : Int) :
    (results.foldl (fun h r => h.put r.stepId r) h).get? i =
      (results.filter (·.stepId == i)).getLast?.or (h.get? i) := by
  induction results generalizing h with
  | nil => rfl
  | cons r rest ih =>
    rw [List.foldl_cons, ih, Table.get?_put, List.filter_cons]
    by_cases same : i = r.stepId
    · rw [if_pos same, if_pos (beq_iff_eq.mpr same.symm), List.getLast?_cons]
      cases (rest.filter (·.stepId == i)).getLast? <;> rfl
    · rw [if_neg same, if_neg (fun equal => same (eq_of_beq equal).symm)]

namespace Stage

/-- Between two stages some events are told, and their results are recorded. -/
structure Told (s : Stage σ η) (told : List Event) (t : Stage σ η) : Prop where
  events : t.events.toList = s.events.toList ++ told
  history : t.context.history =
    (told.filterMap (·.happening.result?)).foldl (fun h r => h.put r.stepId r) s.context.history

theorem Told.of_same {s t r : Stage σ η} {told : List Event} (spoken : Told t told r) (events : t.events = s.events)
    (history : t.context.history = s.context.history) : Told s told r :=
  ⟨events ▸ spoken.events, history ▸ spoken.history⟩

theorem Told.trans {s t r : Stage σ η} {u v : List Event} (first : Told s u t) (second : Told t v r) :
    Told s (u ++ v) r := by
  constructor
  · rw [second.events, first.events, List.append_assoc]
  · rw [second.history, first.history, List.filterMap_append, List.foldl_append]

end Stage

namespace Act
variable {α β : Type}

/-- After a word the action tells more, and records the results told. Its answer and all of the word are related. -/
def Tells (before : List Happening) (W : α → List Happening → Prop) (x : Act σ η α) : Prop :=
  ∀ s, ∃ told : List Event, s.Told told (x.run s).2 ∧ W (x.run s).1 (before ++ told.map Event.happening)

section
variable {V W : α → List Happening → Prop} {U : β → List Happening → Prop} {x : Act σ η α} {f : α → Act σ η β}
  {before : List Happening}

theorem Tells.mono (sub : ∀ {a w}, V a w → W a w) (tells : x.Tells before V) : x.Tells before W := by
  intro s
  obtain ⟨told, spoken, holds⟩ := tells s
  exact ⟨told, spoken, sub holds⟩

theorem Tells.pure {a : α} (holds : W a before) : (pure a : Act σ η α).Tells before W := by
  intro s
  refine ⟨[], ⟨(List.append_nil _).symm, rfl⟩, ?_⟩
  rw [List.map_nil, List.append_nil]
  exact holds

theorem Tells.next {V : α → List Happening → Prop} (first : x.Tells before V)
    (rest : ∀ a w, V a w → (f a).Tells w U) : (x >>= f).Tells before U := by
  intro s
  obtain ⟨told, spoken, holds⟩ := first s
  obtain ⟨later, spokenLater, holdsLater⟩ := rest _ _ holds (x.run s).2
  rw [run_bind]
  refine ⟨told ++ later, spoken.trans spokenLater, ?_⟩
  rw [List.map_append, ← List.append_assoc]
  exact holdsLater

/-- What an action tells by itself, it tells after any word. -/
theorem Tells.after (tells : x.Tells [] V) : x.Tells before fun a w => ∃ v, V a v ∧ w = before ++ v := by
  intro s
  obtain ⟨told, spoken, holds⟩ := tells s
  exact ⟨told, spoken, _, holds, rfl⟩

theorem Tells.bind (first : x.Tells [] V) (rest : ∀ a v, V a v → (f a).Tells (before ++ v) U) :
    (x >>= f).Tells before U := by
  refine .next first.after fun a w told => ?_
  obtain ⟨v, holds, same⟩ := told
  rw [same]
  exact rest a v holds

/-- An action that tells nothing and records nothing, before another one. -/
theorem Tells.quiet (quiet : x.Along (Stage.Agree Stage.course)) (rest : ∀ a, (f a).Tells before U) :
    (x >>= f).Tells before U := by
  intro s
  obtain ⟨later, spoken, holds⟩ := rest _ (x.run s).2
  have same := quiet.ensures s
  rw [run_bind]
  exact ⟨later, spoken.of_same (congrArg (·.2.2) same) (congrArg (·.2.1) same), holds⟩

theorem Tells.own (own : x.Along (Stage.Agree Stage.own)) (rest : ∀ a, (f a).Tells before U) :
    (x >>= f).Tells before U := .quiet (course_of_own own) rest

/-- A change of the context that leaves the history. -/
theorem Tells.change {change : Context → Context} {f : Unit → Act σ η β} (kept : ∀ c, (change c).history = c.history)
    (rest : (f ()).Tells before U) : (modifyContext change >>= f).Tells before U := by
  intro s
  obtain ⟨later, spoken, holds⟩ := rest { s with context := change s.context }
  rw [run_bind]
  exact ⟨later, spoken.of_same rfl (kept s.context), holds⟩

theorem Tells.ask {call : σ → α × σ} (rest : ∀ host, (f (call host).1).Tells before U) :
    (Act.ask call >>= f).Tells before U := by
  intro s
  obtain ⟨later, spoken, holds⟩ := rest s.host { s with host := (call s.host).2 }
  rw [run_bind, run_ask]
  exact ⟨later, spoken.of_same rfl rfl, holds⟩

theorem Tells.map {g : α → β} (tells : x.Tells before fun a => U (g a)) : (g <$> x).Tells before U := by
  intro s
  rw [run_map]
  exact tells s

theorem Tells.ite {p : Prop} [Decidable p] {y : Act σ η α} (left : x.Tells before W) (right : y.Tells before W) :
    (if p then x else y).Tells before W := by
  split
  · exact left
  · exact right

/-- The word of a loop is made of the words of its rounds. -/
theorem Tells.rounds {P : List Happening → Prop} {body : Nat → Act σ η (Option (List StepResult))}
    (each : ∀ i, (body i).Tells [] (Round P)) (limit round : Nat) :
    (Act.rounds body limit round).Tells [] (Carried (Repeated P)) := by
  induction limit generalizing round with
  | zero => exact .pure ⟨⟨[], nofun, rfl⟩, rfl⟩
  | succ limit ih =>
    refine .bind (each round) fun first u holds => ?_
    cases first with
    | none =>
      rw [show u = [] from holds]
      exact .pure ⟨⟨[], nofun, rfl⟩, rfl⟩
    | some results =>
      refine .bind (ih (round + 1)) fun later v holdsLater => .pure ?_
      obtain ⟨⟨blocks, all, flat⟩, carried⟩ := holdsLater
      refine ⟨⟨u :: blocks, List.forall_mem_cons.mpr ⟨holds.1, all⟩, ?_⟩, ?_⟩
      · rw [flat]; rfl
      · rw [List.filterMap_append, ← holds.2, ← carried]; rfl

end
end Act

/-- An engine over a catalog, for steps of all kinds, with someone who is told what happens. -/
structure Engine.Watched (e : Engine σ η) (c : Catalog) : Prop where
  observed : e.observed
  kinds : ∀ kind, e.kinds.contains kind
  scenario : ∀ id host, (e.host.scenario id host).1 = .ok (c.scenario? id)
  steps : ∀ id host, (e.host.steps id host).1 = c.stepsOf id

theorem Catalog.engine_watched (c : Catalog) (world : World σ) (config : Config) (sink : Option (Sink η)) :
    (c.engine world config sink true).Watched c :=
  ⟨rfl, c.engine_kinds world config sink true, fun _ _ => rfl, fun _ _ => rfl⟩

namespace Engine
open Act Scopes Stage

/-! ### Steps with steps inside -/

section
variable {e : Engine σ η} {c : Catalog} {body : Act σ η (List StepResult)} {step : Step}

theorem inScope_tells {W : List StepResult → List Happening → Prop} (bindings : List (String × Json))
    (tells : body.Tells [] W) : (inScope bindings body).Tells [] W := by
  refine .quiet (modifyScopes_course _) fun _ => .bind tells fun results w holds => ?_
  exact .quiet (modifyScopes_course _) fun _ => .pure holds

/-- The only time that the steps inside a step are run. -/
theorem once (times : step.row.kind.repeats 1) {results : List StepResult} {w : List Happening}
    (holds : Carried (StepsWord c step.children) results w) : Carried (InnerWord c step) results w := by
  have flat : [w].flatten = w := List.flatten_singleton
  exact ⟨flat ▸ .repeated [w] times (List.forall_mem_singleton.mpr holds.1), holds.2⟩

theorem never (times : step.row.kind.repeats 0) : Carried (InnerWord c step) [] [] :=
  ⟨.repeated [] times nofun, rfl⟩

theorem conditionStep_tells (branches : step.row.kind = .condition)
    (tells : body.Tells [] (Carried (StepsWord c step.children))) :
    (e.conditionStep step body).Tells [] (Carried (InnerWord c step)) := by
  refine .own (e.condition_own _) fun holds => .ite ?_ (.pure (never ?_))
  · refine (inScope_tells [] tells).mono (once ?_)
    rw [branches]; exact Nat.le_refl 1
  · rw [branches]; exact Nat.zero_le 1

theorem loopRounds_tells {goesOn : Act σ η Bool} (own : goesOn.Along (Agree Stage.own))
    (bindings : Nat → List (String × Json)) (limit : Nat) {P : List Happening → Prop}
    (tells : body.Tells [] (Carried P)) :
    (e.loopRounds goesOn bindings limit body).Tells [] (Carried (Repeated P)) := by
  refine .rounds (fun round => .own e.isCancelled_own fun cancelled => ?_) limit 0
  refine .ite (.pure rfl) (.own own fun holds => .ite ?_ (.pure rfl))
  exact .map (inScope_tells (bindings round) tells)

theorem loopStep_tells (loops : step.row.kind = .loop) (tells : body.Tells [] (Carried (StepsWord c step.children))) :
    (e.loopStep step body).Tells [] (Carried (InnerWord c step)) := by
  have whole {goesOn : Act σ η Bool} (own : goesOn.Along (Agree Stage.own)) (bindings : Nat → List (String × Json))
      (limit : Nat) : (e.loopRounds goesOn bindings limit body).Tells [] (Carried (InnerWord c step)) := by
    refine (loopRounds_tells own bindings limit tells).mono fun holds => ?_
    obtain ⟨⟨blocks, each, flat⟩, carried⟩ := holds
    exact ⟨flat ▸ .repeated blocks (by rw [loops]; trivial) each, carried⟩
  unfold loopStep
  simp only
  split
  · exact whole (.pure true) _ _
  · exact .own context_own fun context => whole (.pure true) _ _
  · exact whole (e.condition_own _) _ _

end

namespace Watched
variable {e : Engine σ η} {c : Catalog} (watched : e.Watched c)
include watched

theorem run_emit (h : Happening) (s : Stage σ η) :
    (e.emit h).run s =
      ((), { s with events := s.events.push ⟨h, s.context.scopes.flatten, e.host.now s.host⟩ }) := by
  simp only [emit, run, watched.observed, if_true]

/-- What is told before another action goes to the word before it. -/
theorem emit_bind {α : Type} {f : Unit → Act σ η α} {before : List Happening} {U : α → List Happening → Prop}
    {h : Happening} (plain : h.result? = none) (rest : (f ()).Tells (before ++ [h]) U) :
    (e.emit h >>= f).Tells before U := by
  refine .bind (V := fun _ w => w = [h]) (fun s => ?_) fun _ w same => same ▸ rest
  refine ⟨[⟨h, s.context.scopes.flatten, e.host.now s.host⟩], ?_, rfl⟩
  rw [watched.run_emit]
  refine ⟨Array.toList_push, ?_⟩
  simp only [List.filterMap_cons, plain, List.filterMap_nil, List.foldl_nil]

theorem record_tells {step : Step} {r : StepResult} (own : r.stepId = step.row.id)
    (fits : step.row.kind.records r.status) : (e.record step r).Tells [] (Carried (InnerWord c step)) := by
  intro s
  unfold Engine.record
  rw [run_bind, run_modifyContext, run_bind, watched.run_emit]
  refine ⟨[⟨.stepCompleted step.row.id r.name r.status (some r), s.context.scopes.flatten, e.host.now s.host⟩], ?_,
    .recorded r own fits, rfl⟩
  refine ⟨Array.toList_push, ?_⟩
  show s.context.history.put step.row.id r = s.context.history.put r.stepId r
  rw [own]

/-! ### Steps without steps inside, and steps of all kinds -/

theorem runCase_tells {step : Step} (calls : step.row.kind = .testCase) (t : TestCase) :
    (e.runCase step t).Tells [] (Carried (InnerWord c step)) := by
  refine .quiet (registerStep_course _ _) fun _ => .own context_own fun before => ?_
  refine .quiet (modifyScopes_course _) fun _ => .own context_own fun context => ?_
  refine .own e.now_own fun begun => .own (ask_own _) fun ran => ?_
  refine .own e.now_own fun ended => .bind (watched.record_tells ?_ ?_) fun results w holds => ?_
  · split
    · exact CaseOutcome.result_stepId ..
    · rw [Check.applyAll_stepId, CaseOutcome.result_stepId]
  · rw [calls]; rfl
  · exact .quiet (modifyScopes_course _) fun _ => .quiet (modifyScopes_course _) fun _ => .pure holds

theorem caseStep_tells {step : Step} (calls : step.row.kind = .testCase) :
    (e.caseStep step).Tells [] (Carried (InnerWord c step)) := by
  have failed (message : String) : (e.recordFailure step (step.nameOr "Case") message).Tells []
      (Carried (InnerWord c step)) := watched.record_tells rfl (by rw [calls]; rfl)
  unfold caseStep
  simp only
  split
  · exact failed _
  · refine .own (ask_own _) fun found => ?_
    split
    · exact failed _
    · exact failed _
    · exact watched.runCase_tells calls _

theorem scriptStep_tells {step : Step} (scripted : step.row.kind = .script) :
    (e.scriptStep step).Tells [] (Carried (InnerWord c step)) := by
  have fits (status : StepStatus) : step.row.kind.records status := by rw [scripted]; rfl
  refine .quiet (registerStep_course _ _) fun _ => ?_
  split
  · exact watched.record_tells rfl (fits _)
  · refine .own context_own fun context => .own (ask_own _) fun ran => ?_
    refine .quiet (modifyScopes_course _) fun _ => watched.record_tells ?_ (fits _)
    split <;> rfl

theorem waitStep_tells {step : Step} (waits : step.row.kind = .wait) :
    (e.waitStep step).Tells [] (Carried (InnerWord c step)) := by
  refine .own (ask_own _) fun ended => ?_
  split
  · exact watched.emit_bind rfl (.pure ⟨.waited waits, rfl⟩)
  · exact .pure ⟨.silent (.inl waits), rfl⟩

section
variable {nested : Int → Act σ η Ending} {body : Act σ η (List StepResult)} {step : Step}

theorem takeOver_tells (runs : step.row.kind = .scenario) {id : Int} (target : step.row.scenarioId = some id)
    (name : String) {ending : Ending} {w : List Happening} (holds : Ended c id ending w) :
    (e.takeOver step name ending).Tells w (Carried (InnerWord c step)) := by
  cases ending with
  | ok results => exact .quiet (modifyScopes_course _) fun _ => .pure ⟨.entered runs target holds.1, holds.2⟩
  | error problem =>
    rw [show w = [] from holds]
    exact watched.record_tells rfl (by rw [runs]; rfl)

theorem scenarioStep_tells (runs : step.row.kind = .scenario) (tellsInside : ∀ id, (nested id).Tells [] (Ended c id)) :
    (e.scenarioStep nested step).Tells [] (Carried (InnerWord c step)) := by
  have failed (name message : String) : (e.recordFailure step name message).Tells [] (Carried (InnerWord c step)) :=
    watched.record_tells rfl (by rw [runs]; rfl)
  unfold scenarioStep
  simp only
  split
  · exact failed _ _
  · rename_i id target
    refine .own context_own fun context => .ite (failed _ _) ?_
    refine .quiet (registerStep_course _ _) fun _ => .quiet (modifyScopes_course _) fun _ => ?_
    refine .next (tellsInside id) fun ending w holds => .next (watched.takeOver_tells runs target _ holds) ?_
    exact fun results v told => .quiet (modifyScopes_course _) fun _ => .pure told

theorem invoke_tells (tellsInside : ∀ id, (nested id).Tells [] (Ended c id))
    (tells : body.Tells [] (Carried (StepsWord c step.children))) :
    (e.invoke nested step body).Tells [] (Carried (InnerWord c step)) := by
  unfold invoke
  rw [if_pos (watched.kinds _)]
  split
  · exact watched.caseStep_tells ‹_›
  · refine tells.mono (once ?_)
    rw [‹step.row.kind = .group›]; rfl
  · exact conditionStep_tells ‹_› tells
  · exact loopStep_tells ‹_› tells
  · exact watched.waitStep_tells ‹_›
  · exact watched.scriptStep_tells ‹_›
  · exact watched.scenarioStep_tells ‹_› tellsInside

/-- In a cancelled run only a group goes on with the steps inside it; of the others, those that are told of have
    results of their own. -/
theorem passOver_tells (tellsInside : ∀ id, (nested id).Tells [] (Ended c id))
    (tells : body.Tells [] (Carried (StepsWord c step.children))) :
    (e.passOver nested step body).Tells [] (Carried (InnerWord c step)) := by
  unfold passOver
  cases kind : step.row.kind with
  | testCase | script => exact watched.record_tells rfl (by rw [kind]; rfl)
  | group => exact watched.invoke_tells tellsInside tells
  | condition => exact .pure (never (by rw [kind]; exact Nat.zero_le 1))
  | loop => exact .pure (never (by rw [kind]; trivial))
  | wait => exact .pure ⟨.silent (.inl kind), rfl⟩
  | scenario => exact .pure ⟨.silent (.inr kind), rfl⟩

theorem perform_tells (tellsInside : ∀ id, (nested id).Tells [] (Ended c id))
    (tells : body.Tells [] (Carried (StepsWord c step.children))) :
    (e.perform nested step body).Tells [] (Carried (StepWord c step)) := by
  have proceeded (cancelled : Bool) : (e.proceed nested step body cancelled).Tells [] (Carried (InnerWord c step)) :=
    .ite (watched.passOver_tells tellsInside tells) (watched.invoke_tells tellsInside tells)
  unfold perform
  split
  · exact .pure ⟨.off ‹_›, rfl⟩
  · refine watched.emit_bind rfl (.own e.isCancelled_own fun cancelled => ?_)
    refine .bind (proceeded cancelled) fun results w holds => ?_
    exact .own (e.log_own step results) fun _ => .pure ⟨.on ‹_› holds.1, holds.2⟩

theorem dispatchAll_tells (tellsInside : ∀ id, (nested id).Tells [] (Ended c id)) (steps : List Step) :
    (e.dispatchAll nested steps).Tells [] (Carried (StepsWord c steps)) := by
  refine dispatchAll_induction (P := fun step x => x.Tells [] (Carried (StepWord c step)))
    (Q := fun steps x => x.Tells [] (Carried (StepsWord c steps))) (.pure ⟨.nil, rfl⟩) ?_ ?_ steps
  · intro step rest x y first later
    refine .bind first fun results u holds => .bind later fun more v holdsLater => .pure ⟨?_, ?_⟩
    · exact .cons holds.1 holdsLater.1
    · rw [List.filterMap_append, ← holds.2, ← holdsLater.2]; rfl
  · intro step body tells
    exact watched.perform_tells tellsInside tells

end

/-! ### Scenarios -/

section
variable {id : Int} {s : Scenario} {walk : List Step → Act σ η (List StepResult)}

theorem runSteps_tells (found : c.scenario? id = some s)
    (tells : ∀ steps, (walk steps).Tells [] (Carried (StepsWord c steps))) (record : Option RunRecord) :
    (e.runSteps s record walk).Tells [.scenarioStarted id s.name] (Ended c id) := by
  refine .ask fun host => ?_
  rw [watched.steps, Catalog.stepsOf_of_scenario? c found]
  refine .own e.now_own fun begun => .bind (tells s.steps) fun results w holds => ?_
  refine .own e.now_own fun ended => .own e.isCancelled_own fun cancelled => ?_
  refine .own (e.forM_closeRecord_own record _) fun _ => watched.emit_bind rfl (.pure ?_)
  rw [Catalog.id_of_scenario? found, ← holds.2]
  refine ⟨.run found holds.1 cancelled, ?_⟩
  rw [List.filterMap_append]
  exact List.append_nil _

theorem runEntered_tells (found : c.scenario? id = some s)
    (tells : ∀ steps, (walk steps).Tells [] (Carried (StepsWord c steps))) (outermost : Bool) :
    (e.runEntered outermost s walk).Tells [] (Ended c id) := by
  have same := Catalog.id_of_scenario? found
  unfold runEntered
  split
  · refine .quiet (e.loadVariables_course s) fun loaded => ?_
    split
    · exact .pure rfl
    · refine watched.emit_bind rfl (.quiet (e.openRecord_course s) fun record => ?_)
      rw [same]
      exact watched.runSteps_tells found tells (some record)
  · refine watched.emit_bind rfl ?_
    rw [same]
    exact watched.runSteps_tells found tells none

theorem enter_tells (tells : ∀ steps, (walk steps).Tells [] (Carried (StepsWord c steps))) (outermost : Bool) :
    (e.enter outermost id walk).Tells [] (Ended c id) := by
  refine .ask fun host => ?_
  rw [watched.scenario]
  cases found : c.scenario? id with
  | none => exact .pure rfl
  | some s =>
    refine .change (fun _ => rfl) (.next (watched.runEntered_tells found tells outermost) fun ending w holds => ?_)
    exact .change (fun _ => rfl) (.pure holds)

theorem attempt_tells {nested : Int → Act σ η Ending} (tellsInside : ∀ id, (nested id).Tells [] (Ended c id))
    (outermost : Bool) (id : Int) : (e.attempt nested outermost id).Tells [] (Ended c id) := by
  refine .own context_own fun context => .ite (.pure rfl) (.ite (.pure rfl) ?_)
  exact watched.enter_tells (watched.dispatchAll_tells tellsInside) outermost

theorem inside_tells {beyond : Int → Act σ η Ending} (tells : ∀ id, (beyond id).Tells [] (Ended c id)) (levels : Nat) :
    ∀ id, (e.inside beyond levels id).Tells [] (Ended c id) := by
  induction levels with
  | zero => exact tells
  | succ levels ih => exact watched.attempt_tells ih false

theorem nested_tells (id : Int) : (e.nested id).Tells [] (Ended c id) := by
  refine watched.inside_tells (fun id => ?_) _ id
  exact .pure rfl

theorem execute_tells (id : Int) (envKey : String) (s : Stage σ η) :
    ∃ told : List Event,
      Told { s with context := { envKey } } told ((e.execute id envKey).run s).2 ∧
        Ended c id ((e.execute id envKey).run s).1 (told.map Event.happening) := by
  have after : (do
      if ← e.limitTime then e.attempt e.nested true id else pure (.error .beyondClock)).Tells [] (Ended c id) :=
    .own e.limitTime_own fun _ => .ite (watched.attempt_tells watched.nested_tells true id) (.pure rfl)
  exact after { s with context := { envKey } }

end

end Watched

/-- What an observer is told of a run over a catalog is a word of the grammar. The results told in it are those that
    are returned, and the history has the last one of every step. -/
theorem execute_trace {c : Catalog} {world : World σ} {config : Config} {sink : Option (Sink η)} {id : Int}
    {envKey : String} {s : Stage σ η} {results : List StepResult}
    (ended : (((c.engine world config sink true).execute id envKey).run s).1 = .ok results) :
    let t := (((c.engine world config sink true).execute id envKey).run s).2
    ∃ told : List Event, t.events.toList = s.events.toList ++ told ∧
      RunWord c id (told.map Event.happening) ∧
      (told.map Event.happening).filterMap Happening.result? = results ∧
      ∀ i, t.context.history.get? i = (results.filter (·.stepId == i)).getLast? := by
  obtain ⟨told, spoken, holds⟩ := (c.engine_watched world config sink).execute_tells id envKey s
  rw [ended] at holds
  obtain ⟨word, carried⟩ := holds
  refine ⟨told, spoken.events, word, carried, fun i => ?_⟩
  have results : (told.filterMap (·.happening.result?)) = results := by
    rw [← carried, List.filterMap_map]
    rfl
  have history := spoken.history
  rw [results] at history
  rw [history, get?_foldl_put]
  exact Option.or_none

/-- Twice in a loop, a scenario leads back to itself. -/
theorem execute_trace_of_circle :
    let assign : StepRow := { id := 1, kind := .script, control := some (.obj [("script", .str "x = 1")]) }
    let loop : StepRow := { id := 2, kind := .loop, control := some (.obj [("count", .ofNat 2)]) }
    let back : StepRow := { id := 3, parent := some 2, kind := .scenario, scenarioId := some 1 }
    let c : Catalog := { scenarios := [{ id := 1, name := "Circle", rows := [assign, loop, back] }] }
    let engine := c.engine (Rehearsal.world (Prepared.runCase [])) {} (none : Option (Sink Unit)) true
    let ran := (engine.execute 1 "").run { host := { services := [] }, kept := () }
    let failed : StepResult := .withMessage 3 "Nested Scenario" .fail circularMessage
    let results := [.withMessage 1 "Script" .pass "Script executed successfully", failed, failed]
    ran.1 = .ok results ∧
      ∃ told : List Event, ran.2.events.toList = [] ++ told ∧ RunWord c 1 (told.map Event.happening) ∧
        (told.map Event.happening).filterMap Happening.result? = results ∧
        ∀ i, ran.2.context.history.get? i = (results.filter (·.stepId == i)).getLast? := by
  refine ⟨?ended, execute_trace ?ended⟩
  cbv

end Engine
end TestScenario
