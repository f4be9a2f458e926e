import Mathlib
import TestScenario.Catalog.Parts
import TestScenario.Engine.Rehearsal
import TestScenario.History.Memory
import TestScenario.Proofs.Forest
import TestScenario.Proofs.Notes

/-!
Logs and results. A step keeps logs of those results that carry its id, so every result has one log as long as no other
step of its id surrounds it. Within a scenario there is none; among scenarios inside each other the ids of steps must
differ (`one_log_per_result`), or else a result is logged again (`nested_result_logged_twice`).
-/

namespace TestScenario
variable {σ η : Type}

/-- The log that a call keeps. -/
def SinkCall.log? : SinkCall → Option StepLog
  | .append l _ => some l
  | _ => none

/-- A step is one of those of a scenario of a catalog. -/
def Catalog.Holds (c : Catalog) (step : Step) : Prop :=
  ∃ id s, c.scenario? id = some s ∧ Step.Among s.steps step

/-- No two scenarios of a catalog have steps of one id. -/
def Catalog.StepsApart (c : Catalog) : Prop :=
  ∀ i j s t, c.scenario? i = some s → c.scenario? j = some t → i ≠ j → ∀ r ∈ s.rows, ∀ q ∈ t.rows, r.id ≠ q.id

theorem Catalog.stepsApart_of_pairwise {c : Catalog}
    (apart : c.scenarios.Pairwise fun s t => ∀ r ∈ s.rows, ∀ q ∈ t.rows, r.id ≠ q.id) : c.StepsApart := by
  intro i j s t found foundToo differs
  have : Std.Symm fun s t : Scenario => ∀ r ∈ s.rows, ∀ q ∈ t.rows, r.id ≠ q.id :=
    ⟨fun _ _ apart q right r left same => apart r left q right same.symm⟩
  have listed {k : Int} {u : Scenario} (known : c.scenario? k = some u) : u ∈ c.scenarios :=
    List.mem_reverse.mp (List.mem_of_find?_eq_some known)
  refine apart.forall (listed found) (listed foundToo) fun same => differs ?_
  rw [← Catalog.id_of_scenario? found, ← Catalog.id_of_scenario? foundToo, same]

theorem Catalog.StepsApart.row_eq {c : Catalog} (apart : c.StepsApart) {step other : Step} (holds : c.Holds step)
    (holdsToo : c.Holds other) (same : step.row.id = other.row.id) : step.row = other.row := by
  obtain ⟨i, s, found, among⟩ := holds
  obtain ⟨j, t, foundToo, amongToo⟩ := holdsToo
  have left := Forest.row_mem_lastRows among
  have right := Forest.row_mem_lastRows amongToo
  by_cases one : i = j
  · subst one
    have equal : s = t := Option.some.inj (found.symm.trans foundToo)
    subst equal
    exact Forest.eq_of_id_eq (Forest.lastRows_pairwise s.rows) left right same
  · have differs := apart i j s t found foundToo one step.row (Forest.mem_of_mem_lastRows left) other.row
      (Forest.mem_of_mem_lastRows right)
    exact absurd same differs

/-- The log of a result under a record, which carries the id and the kind of the step that has the result. -/
structure LogOf (c : Catalog) (record : Int) (l : StepLog) (r : StepResult) : Prop where
  written : ∃ step time, c.Holds step ∧ r.stepId = step.row.id ∧ l = StepLog.ofResult record step r time
  kind : ∀ step, c.Holds step → step.row.id = r.stepId → l.kind = step.row.kind

/-- A call keeps the log of a result under a record, where the result comes from one of some steps. -/
def SinkCall.Keeps (record : Int) (source : Step → Prop) (call : SinkCall) (r : StepResult) : Prop :=
  ∃ step time answer, source step ∧ r.stepId = step.row.id ∧ call = .append (StepLog.ofResult record step r time) answer

/-- Calls keep one log for each result, in order. -/
def Logged (record : Int) (source : Step → Prop) (results : List StepResult) (calls : List SinkCall) : Prop :=
  List.Forall₂ (SinkCall.Keeps record source) calls results

section
variable {record : Int} {origin other : Step → Prop} {results more : List StepResult} {calls later : List SinkCall}

theorem Logged.nil : Logged record origin [] [] := List.Forall₂.nil

theorem Logged.mono (sub : ∀ step, origin step → other step) (logged : Logged record origin results calls) :
    Logged record other results calls := by
  refine logged.imp fun call r keeps => ?_
  obtain ⟨step, time, answer, comes, own, same⟩ := keeps
  exact ⟨step, time, answer, sub step comes, own, same⟩

theorem Logged.append (first : Logged record origin results calls) (second : Logged record origin more later) :
    Logged record origin (results ++ more) (calls ++ later) := List.rel_append first second

/-- A result that has a log carries the id of the step from which it comes. -/
theorem Logged.source (logged : Logged record origin results calls) {r : StepResult} (member : r ∈ results) :
    ∃ step, origin step ∧ r.stepId = step.row.id := by
  induction logged with
  | nil => cases member
  | cons keeps _ ih =>
    rcases List.mem_cons.mp member with same | later
    · obtain ⟨step, _, _, comes, own, -⟩ := keeps
      exact ⟨step, comes, same ▸ own⟩
    · exact ih later

theorem Logged.logs {c : Catalog} (apart : c.StepsApart) (logged : Logged record c.Holds results calls) :
    List.Forall₂ (LogOf c record) (calls.filterMap SinkCall.log?) results := by
  induction logged with
  | nil => exact .nil
  | cons keeps _ ih =>
    obtain ⟨step, time, answer, holds, own, same⟩ := keeps
    subst same
    refine .cons ⟨⟨step, time, holds, own, rfl⟩, fun other holdsToo sameId => ?_⟩ ih
    exact congrArg StepRow.kind (apart.row_eq holds holdsToo (own.symm.trans sameId.symm))

end

/-- A step has one result of its own. -/
def Step.HasOwn (step : Step) (results : List StepResult) : Prop := ∃ r, results = [r] ∧ r.stepId = step.row.id

/-- What may be left to a step: its own result is still to be logged, or else all results have their logs. -/
def LoggedBut (step : Step) (record : Int) (origin : Step → Prop) (results : List StepResult) (calls : List SinkCall) :
    Prop := step.HasOwn results ∧ calls = [] ∨ Logged record origin results calls

/-- What is kept of a round of a loop; of one that does not take place, nothing. -/
def LoggedRound (record : Int) (origin : Step → Prop) : Option (List StepResult) → List SinkCall → Prop
  | some results, calls => Logged record origin results calls
  | none, calls => calls = []

/-- What is kept of a scenario inside others; of one that cannot take place, nothing. -/
def LoggedEnding (record : Int) (origin : Step → Prop) : Ending → List SinkCall → Prop
  | .ok results, calls => Logged record origin results calls
  | .error _, calls => calls = []

theorem LoggedEnding.mono {record : Int} {origin other : Step → Prop} (sub : ∀ step, origin step → other step)
    {ending : Ending} {calls : List SinkCall} (logged : LoggedEnding record origin ending calls) :
    LoggedEnding record other ending calls := by
  cases ending with
  | ok results => exact Logged.mono sub logged
  | error problem => exact logged

/-- Deeds that keep nothing, and leave the record and the scenarios being executed as they are. -/
def Deed.Still : Deed → Prop
  | .enter _ | .leave _ | .number _ | .create _ | .update _ | .append _ => False
  | _ => True

theorem Engine.Does.still {e : Engine σ η} {d : Deed} {α : Type} {x : Act σ η α} (does : e.Does d x) (still : d.Still)
    {s : Stage σ η} {record : Option Int} {ids : List Int} (held : s.context.recordId = record ∧ s.context.executing = ids) :
    (x.run s).2.context.recordId = record ∧ (x.run s).2.context.executing = ids := by
  cases does with
  | enter | leave | number | create | update | append => exact still.elim
  | tell h => rw [(e.emit_context h).ensures s]; exact held
  | look | register | record | scopes | check | time | scenario | steps | testCase | vars | execute | evaluate
    | wait => exact held

namespace Act
variable {α β : Type} {e : Engine σ η} {record : Int} {ids : List Int}

/-- Inside some scenarios and with a record, the action makes calls that are related to its answer. -/
def Keeping (record : Int) (ids : List Int) (W : α → List SinkCall → Prop) (x : Act σ (η × List SinkCall) α) : Prop :=
  ∀ s, s.context.recordId = some record → s.context.executing = ids →
    (x.run s).2.context.recordId = some record ∧ (x.run s).2.context.executing = ids ∧
      ∃ calls, (x.run s).2.notes = s.notes ++ calls ∧ W (x.run s).1 calls

section
variable {V W : α → List SinkCall → Prop} {U : β → List SinkCall → Prop} {x : Act σ (η × List SinkCall) α}
  {f : α → Act σ (η × List SinkCall) β}

theorem Keeping.mono (sub : ∀ {a calls}, V a calls → W a calls) (keeping : x.Keeping record ids V) :
    x.Keeping record ids W := by
  intro s numbered inside
  obtain ⟨same, still, calls, noted, holds⟩ := keeping s numbered inside
  exact ⟨same, still, calls, noted, sub holds⟩

theorem Keeping.pure {a : α} (holds : W a []) : (pure a : Act σ (η × List SinkCall) α).Keeping record ids W :=
  fun _ numbered inside => ⟨numbered, inside, [], (List.append_nil _).symm, holds⟩

theorem Keeping.bind (first : x.Keeping record ids V)
    (rest : ∀ a u, V a u → (f a).Keeping record ids fun b v => U b (u ++ v)) : (x >>= f).Keeping record ids U := by
  intro s numbered inside
  obtain ⟨same, still, calls, noted, holds⟩ := first s numbered inside
  obtain ⟨sameLater, stillLater, later, notedLater, holdsLater⟩ := rest _ _ holds _ same still
  rw [run_bind]
  refine ⟨sameLater, stillLater, calls ++ later, ?_, holdsLater⟩
  rw [notedLater, noted, List.append_assoc]

theorem Uses.still {D : Deed → Prop} (sub : ∀ {d}, D d → d.Still) (uses : x.Uses e.noted D) :
    x.Keeping record ids fun _ calls => calls = [] := by
  intro s numbered inside
  have kept := (uses.preserves (P := fun t => t.context.recordId = some record ∧ t.context.executing = ids)
    (fun allowed does held => does.still (sub allowed) held) ⟨numbered, inside⟩).1
  obtain ⟨calls, noted, all⟩ := uses.notes s
  refine ⟨kept.1, kept.2, calls, noted, List.eq_nil_iff_forall_not_mem.mpr fun call member => ?_⟩
  have still := sub (all call member)
  cases call with
  | create | update | append => exact still

/-- An action that keeps nothing, before another one. -/
theorem Keeping.after {D : Deed → Prop} (uses : x.Uses e.noted D) (sub : ∀ {d}, D d → d.Still)
    (rest : ∀ a, (f a).Keeping record ids U) : (x >>= f).Keeping record ids U := by
  refine .bind (uses.still sub) fun a u none => ?_
  subst none
  exact rest a

/-- A call of the world around, before an action that may depend on its answer. -/
theorem Keeping.ask {call : σ → α × σ} (rest : ∀ host, (f (call host).1).Keeping record ids U) :
    (Act.ask call >>= f).Keeping record ids U := by
  intro s numbered inside
  rw [run_bind, run_ask]
  exact rest s.host { s with host := (call s.host).2 } numbered inside

/-- What depends on the context knows which scenarios are being executed. -/
theorem Keeping.context {f : Context → Act σ (η × List SinkCall) β}
    (rest : ∀ c, c.executing = ids → (f c).Keeping record ids U) : (Act.context >>= f).Keeping record ids U :=
  fun s numbered inside => rest s.context inside s numbered inside

/-- A scenario is entered and left again. -/
theorem Keeping.entered {id : Int} (keeping : x.Keeping record (ids ++ [id]) W) :
    (do
      modifyContext fun c => { c with executing := c.executing ++ [id] }
      let answer ← x
      modifyContext (·.exit id)
      Pure.pure answer : Act σ (η × List SinkCall) α).Keeping record ids W := by
  intro s numbered inside
  obtain ⟨same, still, calls, noted, holds⟩ :=
    keeping { s with context := { s.context with executing := s.context.executing ++ [id] } } numbered
      (congrArg (· ++ [id]) inside)
  simp only [run_bind, run_modifyContext, run_pure]
  exact ⟨same, (congrArg (Context.eraseLast · id) still).trans (Context.eraseLast_append ids id), calls, noted, holds⟩

theorem Keeping.map {g : α → β} (keeping : x.Keeping record ids fun a => U (g a)) :
    (g <$> x).Keeping record ids U := by
  intro s numbered inside
  rw [run_map]
  exact keeping s numbered inside

theorem Keeping.ite {p : Prop} [Decidable p] {y : Act σ (η × List SinkCall) α} (left : x.Keeping record ids W)
    (right : y.Keeping record ids W) : (if p then x else y).Keeping record ids W := by
  split
  · exact left
  · exact right

/-- An action that keeps nothing and answers with one result of a step. -/
theorem Keeping.own {step : Step} {origin : Step → Prop} {D : Deed → Prop} {y : Act σ (η × List SinkCall) (List StepResult)}
    (uses : y.Uses e.noted D) (sub : ∀ {d}, D d → d.Still) (answers : ∀ s, step.HasOwn (y.run s).1) :
    y.Keeping record ids (LoggedBut step record origin) := by
  intro s numbered inside
  obtain ⟨same, still, calls, noted, none⟩ := uses.still sub s numbered inside
  exact ⟨same, still, calls, noted, .inl ⟨answers s, none⟩⟩

/-- The logs of a loop are those of its rounds. -/
theorem Keeping.rounds {origin : Step → Prop} {body : Nat → Act σ (η × List SinkCall) (Option (List StepResult))}
    (each : ∀ i, (body i).Keeping record ids (LoggedRound record origin)) (limit round : Nat) :
    (Act.rounds body limit round).Keeping record ids (Logged record origin) := by
  induction limit generalizing round with
  | zero => exact .pure .nil
  | succ limit ih =>
    refine .bind (each round) fun first u holds => ?_
    cases first with
    | none =>
      have nothing : u = [] := holds
      subst nothing
      exact .pure .nil
    | some results =>
      refine .bind (ih (round + 1)) fun later v holdsLater => .pure ?_
      rw [List.append_nil]
      exact Logged.append holds holdsLater

end
end Act

theorem Deed.Of.still {id : Int} {names : String → Prop} {results : StepResult → Prop} {d : Deed}
    (own : d.Of id names results) : d.Still := by
  cases d <;> trivial

theorem Deed.Plain.still {d : Deed} (plain : d.Plain) : d.Still := by
  cases d <;> trivial

namespace Engine
open Act Deed

/-! ### Steps without steps inside -/

section
variable {e : Engine σ η} {step : Step}

theorem record_answer (step : Step) (r : StepResult) (s : Stage σ η) : ((e.record step r).run s).1 = [r] := by
  rw [record, run_bind, run_bind]
  rfl

theorem record_hasOwn {r : StepResult} (own : r.stepId = step.row.id) (s : Stage σ η) :
    step.HasOwn ((e.record step r).run s).1 := ⟨r, record_answer step r s, own⟩

theorem runCase_hasOwn (t : TestCase) (s : Stage σ η) : step.HasOwn ((e.runCase step t).run s).1 := by
  simp only [runCase, run_bind, run_pure, record_answer]
  refine ⟨_, rfl, ?_⟩
  split
  · exact CaseOutcome.result_stepId ..
  · rw [Check.applyAll_stepId, CaseOutcome.result_stepId]

theorem caseStep_hasOwn (s : Stage σ η) : step.HasOwn ((e.caseStep step).run s).1 := by
  unfold caseStep
  simp only
  split
  · exact record_hasOwn rfl s
  · rw [run_bind]
    split
    · exact record_hasOwn rfl _
    · exact record_hasOwn rfl _
    · exact runCase_hasOwn _ _

theorem scriptStep_hasOwn (s : Stage σ η) : step.HasOwn ((e.scriptStep step).run s).1 := by
  unfold scriptStep
  rw [run_bind]
  split
  · exact record_hasOwn rfl _
  · simp only [run_bind, record_answer]
    refine ⟨_, rfl, ?_⟩
    split <;> rfl

end
/-! ### Steps of all kinds -/

section
variable {e : Engine σ η} {place : Sink η} {record : Int} {ids : List Int} {origin : Step → Prop}

/-- A step adds the log of its own result; other results that carry no id of its own have theirs already. -/
theorem log_keeping (kept : e.sink = some place) {step : Step} (apart : ∀ s, origin s → s.row.id ≠ step.row.id)
    {results : List StepResult} {calls : List SinkCall} (before : LoggedBut step record origin results calls) :
    (e.noted.log step results).Keeping record ids fun _ more =>
      Logged record (fun s => s = step ∨ origin s) results (calls ++ more) := by
  intro s numbered inside
  have given : e.noted.sink = some place.noted := by rw [noted, kept]; rfl
  unfold log
  rw [run_bind, run_context, given, numbered]
  simp only
  rcases before with ⟨⟨r, rfl, own⟩, rfl⟩ | logged
  · rw [List.filter_cons, if_pos (beq_iff_eq.mpr own), List.filter_nil]
    refine ⟨numbered, inside, [_], rfl, .cons ⟨step, _, _, .inl rfl, own, rfl⟩ .nil⟩
  · have none : results.filter (·.stepId == step.row.id) = [] := by
      refine List.filter_eq_nil_iff.mpr fun r member same => ?_
      obtain ⟨s, comes, own⟩ := logged.source member
      exact apart s comes (own.symm.trans (beq_iff_eq.mp same))
    rw [none]
    refine ⟨numbered, inside, [], (List.append_nil _).symm, ?_⟩
    rw [List.append_nil]
    exact logged.mono fun _ comes => .inr comes

section
variable {nested : Int → Act σ (η × List SinkCall) Ending} {body : Act σ (η × List SinkCall) (List StepResult)}
  {step : Step}

theorem inScope_keeping (e : Engine σ η) (bindings : List (String × Json))
    (keeping : body.Keeping record ids (Logged record origin)) :
    (inScope bindings body).Keeping record ids (Logged record origin) := by
  refine .after (e.noted.modifyScopes_uses _) Plain.still fun _ => .bind keeping fun results u logged => ?_
  refine .after (e.noted.modifyScopes_uses _) Plain.still fun _ => .pure ?_
  rw [List.append_nil]
  exact logged

theorem conditionStep_keeping (keeping : body.Keeping record ids (Logged record origin)) :
    (e.noted.conditionStep step body).Keeping record ids (Logged record origin) :=
  .after (e.noted.condition_uses _) Plain.still fun _ => .ite (inScope_keeping e [] keeping) (.pure .nil)

theorem loopRounds_keeping {goesOn : Act σ (η × List SinkCall) Bool} (asks : goesOn.Uses e.noted Plain)
    (bindings : Nat → List (String × Json)) (limit : Nat) (keeping : body.Keeping record ids (Logged record origin)) :
    (e.noted.loopRounds goesOn bindings limit body).Keeping record ids (Logged record origin) := by
  refine .rounds (fun round => ?_) limit 0
  refine .after e.noted.isCancelled_uses Plain.still fun cancelled => .ite (.pure rfl) ?_
  refine .after asks Plain.still fun holds => .ite (.map ?_) (.pure rfl)
  exact inScope_keeping e (bindings round) keeping

theorem loopStep_keeping (keeping : body.Keeping record ids (Logged record origin)) :
    (e.noted.loopStep step body).Keeping record ids (Logged record origin) := by
  unfold loopStep
  simp only
  split
  · exact loopRounds_keeping (.pure true) _ _ keeping
  · exact .after e.noted.context_uses Plain.still fun c => loopRounds_keeping (.pure true) _ _ keeping
  · exact loopRounds_keeping (e.noted.condition_uses _) _ _ keeping

theorem waitStep_keeping : (e.noted.waitStep step).Keeping record ids (Logged record origin) := by
  refine .after (Uses.deed (D := Still) (.wait (e := e.noted) _) trivial) id fun ended => .ite ?_ (.pure .nil)
  exact .after (e.noted.emit_uses _) Plain.still fun _ => .pure .nil

theorem record_keeping {r : StepResult} (own : r.stepId = step.row.id) :
    (e.noted.record step r).Keeping record ids (LoggedBut step record origin) := by
  have uses : (e.noted.record step r).Uses e.noted (Of step.row.id (fun _ => True) fun _ => True) :=
    e.noted.record_uses step trivial
  exact .own uses Of.still (record_hasOwn own)

theorem scenarioStep_keeping (inside : ∀ id, (nested id).Keeping record ids (LoggedEnding record origin)) :
    (e.noted.scenarioStep nested step).Keeping record ids (LoggedBut step record origin) := by
  have failed (name message : String) : (e.noted.recordFailure step name message).Keeping record ids
      (LoggedBut step record origin) := record_keeping rfl
  unfold scenarioStep
  simp only
  split
  · exact failed _ _
  · rename_i id _
    refine .after e.noted.context_uses Plain.still fun c => .ite (failed _ _) ?_
    have registers : (modifyContext (·.registerStep step.row.id (step.nameOr "Nested Scenario")) :
        Act σ (η × List SinkCall) Unit).Uses e.noted Still := .deed (.register _ _) trivial
    refine .after registers (fun still => still) fun _ => ?_
    refine .after (e.noted.modifyScopes_uses _) Plain.still fun _ => .bind (inside id) fun ending u holds => ?_
    refine .bind (V := fun results v => LoggedBut step record origin results (u ++ v)) ?_ fun results v holds => ?_
    · cases ending with
      | ok results =>
        refine .after (e.noted.modifyScopes_uses _) Plain.still fun _ => .pure (.inr ?_)
        rw [List.append_nil]
        exact holds
      | error problem =>
        have nothing : u = [] := holds
        subst nothing
        exact failed _ _
    · refine .after (e.noted.modifyScopes_uses _) Plain.still fun _ => .pure ?_
      rw [List.append_nil]
      exact holds

theorem invoke_keeping (inside : ∀ id, (nested id).Keeping record ids (LoggedEnding record origin))
    (keeping : body.Keeping record ids (Logged record origin)) :
    (e.noted.invoke nested step body).Keeping record ids (LoggedBut step record origin) := by
  unfold invoke
  refine .ite ?_ (.pure (.inr .nil))
  split
  · exact .own (e.noted.caseStep_uses step) Of.still caseStep_hasOwn
  · exact keeping.mono .inr
  · exact (conditionStep_keeping keeping).mono .inr
  · exact (loopStep_keeping keeping).mono .inr
  · exact waitStep_keeping.mono .inr
  · exact .own (e.noted.scriptStep_uses step) Of.still scriptStep_hasOwn
  · exact scenarioStep_keeping inside

theorem perform_keeping (kept : e.sink = some place) (apart : ∀ s, origin s → s.row.id ≠ step.row.id)
    (inside : ∀ id, (nested id).Keeping record ids (LoggedEnding record origin))
    (keeping : body.Keeping record ids (Logged record origin)) :
    (e.noted.perform nested step body).Keeping record ids (Logged record fun s => s = step ∨ origin s) := by
  have invoked : (e.noted.invoke nested step body).Keeping record ids (LoggedBut step record origin) :=
    invoke_keeping inside keeping
  have passed : (e.noted.passOver nested step body).Keeping record ids (LoggedBut step record origin) :=
    .ite (record_keeping rfl) (.ite invoked (.pure (.inr .nil)))
  refine .ite (.pure .nil) (.after (e.noted.emit_uses _) Plain.still fun _ => ?_)
  refine .after e.noted.isCancelled_uses Plain.still fun cancelled => .bind (.ite passed invoked) fun results u holds => ?_
  refine .bind (log_keeping kept apart holds) fun _ v logged => .pure ?_
  rw [List.append_nil]
  exact logged

/-- Steps inside which none has the id of another around it, nor of any that scenarios inside them may come to. -/
def Apart (beyond : Step → Prop) (steps : List Step) : Prop :=
  ∀ step, Step.Among steps step →
    (∀ inner, Step.Among step.children inner → inner.row.id ≠ step.row.id) ∧
      ∀ other, beyond other → other.row.id ≠ step.row.id

theorem dispatchAll_keeping (kept : e.sink = some place)
    (inside : ∀ id, (nested id).Keeping record ids (LoggedEnding record origin)) (steps : List Step)
    (apart : Apart origin steps) :
    (e.noted.dispatchAll nested steps).Keeping record ids
      (Logged record fun s => Step.Among steps s ∨ origin s) := by
  revert apart
  refine dispatchAll_induction
    (P := fun step x => Apart origin [step] → x.Keeping record ids (Logged record fun s => Step.Among [step] s ∨ origin s))
    (Q := fun steps x => Apart origin steps → x.Keeping record ids (Logged record fun s => Step.Among steps s ∨ origin s))
    (fun _ => .pure .nil) ?_ ?_ steps
  · intro step rest x y first later apart
    have head : ∀ s ∈ [step], s ∈ step :: rest := fun s member => List.mem_singleton.mp member ▸ List.mem_cons_self
    have tail : ∀ s ∈ rest, s ∈ step :: rest := fun s member => List.mem_cons_of_mem _ member
    refine .bind (first fun s among => apart s (among.mono head)) fun results u logged => ?_
    refine .bind (later fun s among => apart s (among.mono tail)) fun more v loggedLater => .pure ?_
    rw [List.append_nil]
    refine Logged.append (logged.mono ?_) (loggedLater.mono ?_)
    · exact fun s comes => comes.imp_left fun among => among.mono head
    · exact fun s comes => comes.imp_left fun among => among.mono tail
  · intro step body keeping apart
    obtain ⟨own, others⟩ := apart step (.here (List.mem_singleton.mpr rfl))
    have below := keeping fun s among => apart s (Step.Among.singleton_iff.mpr (.inr among))
    have wider (id : Int) : (nested id).Keeping record ids
        (LoggedEnding record fun s => Step.Among step.children s ∨ origin s) :=
      (inside id).mono (LoggedEnding.mono fun _ => .inr)
    refine (perform_keeping kept (fun s comes => comes.elim (own s) (others s)) wider below).mono ?_
    refine Logged.mono fun s comes => ?_
    rcases comes with same | among | beyond
    · exact .inl (Step.Among.singleton_iff.mpr (.inl same))
    · exact .inl (Step.Among.singleton_iff.mpr (.inr among))
    · exact .inr beyond

end

/-! ### Scenarios inside others -/

/-- An engine that draws its scenarios from a catalog. -/
structure DrawsFrom (e : Engine σ η) (c : Catalog) : Prop where
  scenario : ∀ id host, (e.host.scenario id host).1 = .ok (c.scenario? id)
  steps : ∀ id host, (e.host.steps id host).1 = c.stepsOf id

/-- A step of a scenario that is none of those being executed. -/
def Beyond (c : Catalog) (ids : List Int) (step : Step) : Prop :=
  ∃ id s, id ∉ ids ∧ c.scenario? id = some s ∧ Step.Among s.steps step

/-- Around a step of a scenario being executed there is none of its id. -/
theorem apart_steps {c : Catalog} (apart : c.StepsApart) {id : Int} {s : Scenario} (found : c.scenario? id = some s)
    (executing : id ∈ ids) : Apart (Beyond c ids) s.steps := by
  intro step among
  refine ⟨fun inner within => Forest.id_ne_of_inside among within, ?_⟩
  rintro other ⟨j, t, outside, foundToo, amongToo⟩
  have differs : j ≠ id := fun same => outside (same ▸ executing)
  exact apart j id t s foundToo found differs other.row (Forest.mem_of_mem_lastRows (Forest.row_mem_lastRows amongToo))
    step.row (Forest.mem_of_mem_lastRows (Forest.row_mem_lastRows among))

section
variable {c : Catalog}

theorem runSteps_keeping (draws : e.DrawsFrom c) {id : Int} {s : Scenario} (found : c.scenario? id = some s)
    {walk : List Step → Act σ (η × List SinkCall) (List StepResult)}
    (keeping : (walk s.steps).Keeping record ids (Logged record origin)) :
    (e.noted.runSteps s none walk).Keeping record ids (LoggedEnding record origin) := by
  refine .ask fun host => ?_
  rw [show (e.noted.host.steps s.id host).1 = _ from draws.steps s.id host, Catalog.stepsOf_of_scenario? c found]
  refine .after e.noted.now_uses Plain.still fun begun => .bind keeping fun results u logged => ?_
  refine .after e.noted.now_uses Plain.still fun ended => .after e.noted.isCancelled_uses Plain.still fun cancelled => ?_
  refine .after (Uses.pure (e := e.noted) (D := Plain) ()) Plain.still fun _ => ?_
  refine .after (e.noted.emit_uses _) Plain.still fun _ => .pure ?_
  rw [List.append_nil]
  exact logged

theorem attempt_keeping (draws : e.DrawsFrom c) (kept : e.sink = some place) (apart : c.StepsApart)
    {nested : Int → Act σ (η × List SinkCall) Ending}
    (inside : ∀ id j, (nested j).Keeping record (ids ++ [id]) (LoggedEnding record (Beyond c (ids ++ [id])))) (id : Int) :
    (e.noted.attempt nested false id).Keeping record ids (LoggedEnding record (Beyond c ids)) := by
  refine .context fun context executing => ?_
  split
  · exact .pure rfl
  · rename_i fresh
    rw [Context.isExecuting, executing, List.contains_iff_mem] at fresh
    refine .ite (.pure rfl) (.ask fun host => ?_)
    rw [show (e.noted.host.scenario id host).1 = _ from draws.scenario id host]
    cases found : c.scenario? id with
    | none => exact .pure rfl
    | some s =>
      have walked := dispatchAll_keeping kept (inside id) s.steps
        (apart_steps apart found (List.mem_append_right _ (List.mem_singleton.mpr rfl)))
      refine .entered (.after (e.noted.emit_uses _) Plain.still fun _ => ?_)
      refine (runSteps_keeping draws found walked).mono (LoggedEnding.mono ?_)
      rintro step (among | ⟨j, t, outside, foundToo, amongToo⟩)
      · exact ⟨id, s, fresh, found, among⟩
      · exact ⟨j, t, fun member => outside (List.mem_append_left _ member), foundToo, amongToo⟩

theorem nested_keeping (draws : e.DrawsFrom c) (kept : e.sink = some place) (apart : c.StepsApart) (ids : List Int)
    (id : Int) : (e.noted.nested id).Keeping record ids (LoggedEnding record (Beyond c ids)) := by
  unfold nested
  generalize e.noted.config.maxNesting + 1 = levels
  induction levels generalizing ids id with
  | zero => exact .pure rfl
  | succ levels ih => exact attempt_keeping draws kept apart (fun id j => ih (ids ++ [id]) j) id

/-! ### The outermost scenario -/

section
variable {id : Int} {s : Scenario} {walk : List Step → Act σ (η × List SinkCall) (List StepResult)}
  {results : List StepResult} {t : Stage σ (η × List SinkCall)}

theorem runSteps_logs (draws : e.DrawsFrom c) (found : c.scenario? id = some s)
    (walks : ∀ steps, (walk steps).Uses e.noted (Within false))
    (keeping : ∀ record, (walk s.steps).Keeping record ids (Logged record origin)) {record : RunRecord}
    (inside : t.context.executing = ids) (ended : ((e.noted.runSteps s (some record) walk).run t).1 = .ok results) :
    ∃ logs closed, ((e.noted.runSteps s (some record) walk).run t).2.notes = t.notes ++ (logs ++ closed) ∧
      (∀ call ∈ logs, Within false call.deed) ∧ (∀ call ∈ closed, ∃ r answer, call = .update r answer) ∧
      ∀ i, t.context.recordId = some i → Logged i origin results logs := by
  have answer : (e.noted.host.steps s.id t.host).1 = .ok s.steps :=
    (draws.steps s.id t.host).trans (Catalog.stepsOf_of_scenario? c found)
  unfold runSteps at ended ⊢
  rw [run_bind, run_ask, answer] at ended ⊢
  simp only [run_bind, run_now, run_isCancelled, run_emit, run_pure, Option.forM] at ended ⊢
  generalize host : (e.noted.host.steps s.id t.host).2 = asked at ended ⊢
  obtain ⟨logs, noted, inner⟩ := (walks s.steps).notes { t with host := asked }
  have logged (i : Int) (numbered : t.context.recordId = some i) : Logged i origin results logs := by
    obtain ⟨-, -, calls, notedToo, holds⟩ := keeping i { t with host := asked } numbered inside
    rw [← Except.ok.inj ended, List.append_cancel_left (noted.symm.trans notedToo)]
    exact holds
  generalize (walk s.steps).run { t with host := asked } = walked at noted ⊢
  obtain ⟨answers, u⟩ := walked
  generalize record.finish _ _ _ _ = last
  obtain ⟨closed, place, ran, all, -⟩ := run_closeRecord (e := e) last { u with host := e.noted.host.meanwhile u.host }
  rw [ran]
  refine ⟨logs, closed, ?_, inner, fun call member => ⟨last, all call member⟩, logged⟩
  exact (congrArg (· ++ closed) noted).trans (List.append_assoc ..)

theorem runEntered_logs (draws : e.DrawsFrom c) (found : c.scenario? id = some s)
    (walks : ∀ steps, (walk steps).Uses e.noted (Within false))
    (keeping : ∀ record, (walk s.steps).Keeping record ids (Logged record origin))
    (inside : t.context.executing = ids) (ended : ((e.noted.runEntered true s walk).run t).1 = .ok results) :
    ∃ calls, ((e.noted.runEntered true s walk).run t).2.notes = t.notes ++ calls ∧
      ∀ r i, .create r (.ok i) ∈ calls → ∃ logs, Logged i origin results logs ∧
        calls.filterMap SinkCall.log? = logs.filterMap SinkCall.log? := by
  rcases run_runEntered s walk t with ⟨problem, u, ran, -⟩ | ⟨record, opened, u, ran, noted, still, creates⟩
  · rw [ran] at ended
    cases ended
  · rw [ran] at ended ⊢
    obtain ⟨logs, closed, notedLast, inner, closes, logged⟩ :=
      runSteps_logs draws found walks keeping (still.trans inside) ended
    refine ⟨opened ++ (logs ++ closed), ?_, fun r i member => ⟨logs, logged i ?_, ?_⟩⟩
    · rw [notedLast, noted, List.append_assoc]
    · -- Only the call that opens the record can have been answered with its id.
      rcases List.mem_append.mp member with first | rest
      · obtain ⟨_, _, created, given⟩ := creates _ first
        cases created
        exact (given i rfl).2.2
      · rcases List.mem_append.mp rest with walked | last
        · exact absurd (inner _ walked) Bool.false_ne_true
        · obtain ⟨_, _, updates⟩ := closes _ last
          cases updates
    · have noneOpened : opened.filterMap SinkCall.log? = [] := by
        refine List.filterMap_eq_nil_iff.mpr fun call first => ?_
        obtain ⟨_, _, rfl, -⟩ := creates call first
        rfl
      have noneClosed : closed.filterMap SinkCall.log? = [] := by
        refine List.filterMap_eq_nil_iff.mpr fun call last => ?_
        obtain ⟨_, _, rfl⟩ := closes call last
        rfl
      rw [List.filterMap_append, List.filterMap_append, noneOpened, noneClosed, List.nil_append, List.append_nil]

end

/-- The log calls of a run whose record has been accepted. -/
theorem attempt_logs (draws : e.DrawsFrom c) (kept : e.sink = some place) (apart : c.StepsApart) (id : Int)
    {t : Stage σ (η × List SinkCall)} (idle : t.context.executing = []) {results : List StepResult}
    (ended : ((e.noted.attempt e.noted.nested true id).run t).1 = .ok results) :
    ∃ calls, ((e.noted.attempt e.noted.nested true id).run t).2.notes = t.notes ++ calls ∧
      ∀ r i, .create r (.ok i) ∈ calls → List.Forall₂ (LogOf c i) (calls.filterMap SinkCall.log?) results := by
  rcases run_attempt e.noted.nested id t with ⟨problem, u, ran, -⟩ | ⟨s, u, answer, same, entered, ran⟩
  · rw [ran] at ended
    cases ended
  · rw [ran] at ended ⊢
    have found : c.scenario? id = some s := Except.ok.inj ((draws.scenario id t.host).symm.trans answer)
    have inside : u.context.executing = [id] := by
      rw [entered, idle]
      rfl
    have keeping (record : Int) : (e.noted.dispatchAll e.noted.nested s.steps).Keeping record [id]
        (Logged record fun step => Step.Among s.steps step ∨ Beyond c [id] step) :=
      dispatchAll_keeping kept (fun j => nested_keeping draws kept apart [id] j) s.steps
        (apart_steps apart found (List.mem_singleton.mpr rfl))
    obtain ⟨calls, noted, each⟩ :=
      runEntered_logs draws found (e.noted.dispatchAll_uses e.noted.nested_uses) keeping inside ended
    rw [same] at noted
    refine ⟨calls, noted, fun r i member => ?_⟩
    obtain ⟨logs, logged, sameLogs⟩ := each r i member
    rw [sameLogs]
    refine Logged.logs apart (logged.mono ?_)
    rintro step (among | ⟨j, v, -, foundToo, amongToo⟩)
    · exact ⟨id, s, found, among⟩
    · exact ⟨j, v, foundToo, amongToo⟩

end
end

/-- Where no two scenarios have steps of one id, the logs kept under the record of a run correspond to its results,
    one by one and in order. -/
theorem one_log_per_result {c : Catalog} (apart : c.StepsApart) {world : World σ} {config : Config} {place : Sink η}
    {observed : Bool} {id : Int} {envKey : String} {s : Stage σ (η × List SinkCall)} {results : List StepResult}
    (ended : (((c.engine world config (some place) observed).noted.execute id envKey).run s).1 = .ok results) :
    ∃ calls, (((c.engine world config (some place) observed).noted.execute id envKey).run s).2.notes =
        s.notes ++ calls ∧
      ∀ r i, .create r (.ok i) ∈ calls → List.Forall₂ (LogOf c i) (calls.filterMap SinkCall.log?) results := by
  have draws : (c.engine world config (some place) observed).DrawsFrom c := ⟨fun _ _ => rfl, fun _ _ => rfl⟩
  have limited := (c.engine world config (some place) observed).noted.limitTime_own.ensures
    { s with context := { envKey } }
  have reaches := reaches_of_ok _ ended
  rw [run_execute _ reaches] at ended ⊢
  rw [← notes_begun (e := c.engine world config (some place) observed) envKey s]
  exact attempt_logs draws rfl apart id (congrArg Context.executing limited.context) ended

/-- A script and, inside another scenario, one more. -/
theorem one_log_per_result_of_two :
    let assign : StepRow := { id := 1, kind := .script, control := some (.obj [("script", .str "x = 1")]) }
    let call : StepRow := { id := 2, kind := .scenario, scenarioId := some 2 }
    let inner : StepRow := { id := 3, kind := .script, control := some (.obj [("script", .str "y = 1")]) }
    let c : Catalog := { scenarios := [{ id := 1, name := "Outer", rows := [assign, call] },
      { id := 2, name := "Inner", rows := [inner] }] }
    let e := c.engine (Rehearsal.world (Prepared.runCase [])) {} (some MemoryHistory.sink) false
    let s : Stage (Rehearsal CallLog) (MemoryHistory × List SinkCall) := { host := { services := [] }, kept := ({}, []) }
    let results := [.withMessage 1 "Script" .pass "Script executed successfully",
      .withMessage 3 "Script" .pass "Script executed successfully"]
    ((e.noted.execute 1 "").run s).1 = .ok results ∧
      ∃ calls, ((e.noted.execute 1 "").run s).2.notes = s.notes ++ calls ∧
        ∀ r i, .create r (.ok i) ∈ calls → List.Forall₂ (LogOf c i) (calls.filterMap SinkCall.log?) results := by
  intro assign call inner c e s results
  have ended : ((e.noted.execute 1 "").run s).1 = .ok results := by cbv
  refine ⟨ended, one_log_per_result (Catalog.stepsApart_of_pairwise ?_) ended⟩
  decide

/-- The step that runs another scenario has the id of a step there: the only result is logged under both kinds. -/
theorem nested_result_logged_twice :
    let call : StepRow := { id := 5, kind := .scenario, scenarioId := some 2 }
    let inner : StepRow := { id := 5, kind := .script, control := some (.obj [("script", .str "x = 1")]) }
    let c : Catalog := { scenarios := [{ id := 1, name := "Outer", rows := [call] },
      { id := 2, name := "Inner", rows := [inner] }] }
    let e := c.engine (Rehearsal.world (Prepared.runCase [])) {} (some MemoryHistory.sink) false
    let ran := (e.execute 1 "").run { host := { services := [] }, kept := {} }
    ran.1 = .ok [.withMessage 5 "Script" .pass "Script executed successfully"] ∧
      ran.2.kept.logs.map (fun l => (l.stepId, l.kind)) = [(5, .script), (5, .scenario)] := by
  refine ⟨?_, ?_⟩
  · cbv
  · cbv

end Engine
end TestScenario
