import Mathlib
import TestScenario.Catalog.Parts
import TestScenario.Engine.Rehearsal
import TestScenario.Proofs.Deeds
import TestScenario.Proofs.Naming

/-!
References to the results of test cases. The result of a case can be referred to by the name of its step from the moment
at which it is recorded until a step of this name or of its id starts (`reference_stands`).
-/

namespace TestScenario
variable {σ η : Type}

/-- A result is the last one of a step, and its name refers to this step. -/
structure Stage.Refers (id : Int) (r : StepResult) (s : Stage σ η) : Prop where
  named : s.context.steps.id? r.name = some id
  recorded : s.context.resultFor id = some r

/-- Whether steps of a kind have a name by which they can be referred to. -/
def StepKind.isNamed : StepKind → Bool
  | .testCase => true
  | .script => true
  | .scenario => true
  | _ => false

namespace Engine

/-- The name that a step goes by when it starts on a host: its own one, or else that of its case or of its kind. -/
def effectiveName (e : Engine σ η) (host : σ) (step : Step) : String :=
  match step.row.kind with
  | .testCase =>
    match step.row.caseId.map fun id => (e.host.testCase id (e.host.meanwhile host)).1 with
    | some (.ok (some t)) => step.nameOr t.name
    | _ => step.nameOr "Case"
  | .script => step.nameOr "Script"
  | .scenario => step.nameOr "Nested Scenario"
  | kind => step.nameOr kind.name

/-- At a point of a run, a test case, a script or another scenario starts as a step of an id or of a name. -/
def Starts (e : Engine σ η) {α : Type} (id : Int) (name : String) (p : Act σ η α × Stage σ η) : Prop :=
  ∃ nested step rest, p.1 = e.dispatch nested step >>= rest ∧ ¬ step.isDisabled ∧ step.row.kind.isNamed ∧
    (step.row.id = id ∨ e.effectiveName p.2.host step = name)

end Engine

/-- Whether a happening is not the start of a step of an id or of a name. A blank name may stand for any. -/
def Happening.startsNo (id : Int) (name : String) : Happening → Bool
  | .stepStarted i title => i != id && !Text.isBlankText title && title != name
  | _ => true

namespace Deed

/-- Deeds by which no step is registered and no result is recorded. -/
def Aside : Deed → Prop
  | .register .. | .record .. => False
  | _ => True

/-- Deeds that leave a result and the name of it alone. -/
def Spares (id : Int) (r : StepResult) : Deed → Prop
  | .register i name => i ≠ id ∧ name ≠ r.name
  | .record i _ => i ≠ id
  | _ => True

/-- The results so far after a deed. -/
def history (h : Table Int StepResult) : Deed → Table Int StepResult
  | .record id r => h.put id r
  | _ => h

variable {id i : Int} {r : StepResult} {names : String → Prop} {results : StepResult → Prop} {d : Deed}

theorem Plain.aside (plain : d.Plain) : d.Aside := by
  cases d <;> trivial

theorem Quiet.aside (quiet : d.Quiet) : d.Aside := by
  cases d <;> trivial

theorem Filing.aside (filing : d.Filing) : d.Aside := by
  cases d <;> trivial

theorem Aside.spares (aside : d.Aside) : d.Spares id r := by
  cases d <;> trivial

theorem Aside.ne_record (aside : d.Aside) : d ≠ .record id r := by
  rintro rfl
  exact aside

theorem Of.spares (own : d.Of i names results) (other : i ≠ id) (free : ¬ names r.name) : d.Spares id r := by
  cases d with
  | register j name => exact ⟨own.1 ▸ other, fun same => free (same ▸ own.2)⟩
  | record j q => exact own.1 ▸ other
  | _ => trivial

theorem Of.ne_record (own : d.Of i names results) (foreign : ¬ results r) : d ≠ .record id r := by
  rintro rfl
  exact foreign own.2

end Deed

namespace Engine
variable {e : Engine σ η} {id : Int} {r : StepResult} {d : Deed} {α : Type} {x : Act σ η α}

theorem Does.refers (does : e.Does d x) (spares : d.Spares id r) {s : Stage σ η} (refers : s.Refers id r) :
    (x.run s).2.Refers id r := by
  cases does with
  | register i name => exact ⟨StepIndex.id?_register_of_ne _ refers.named spares.1 spares.2, refers.recorded⟩
  | record i q =>
    refine ⟨refers.named, ?_⟩
    have kept : (s.context.history.put i q).get? id = s.context.history.get? id := by
      rw [Table.get?_put, if_neg spares.symm]
    exact kept.trans refers.recorded
  | tell h =>
    rw [run_emit]
    exact ⟨refers.named, refers.recorded⟩
  | look | scopes | enter | leave | number | check | time | scenario | steps | testCase | vars | execute | evaluate
    | wait | create | update | append => exact ⟨refers.named, refers.recorded⟩

theorem Does.history (does : e.Does d x) (s : Stage σ η) :
    (x.run s).2.context.history = d.history s.context.history := by
  cases does with
  | tell h => rw [run_emit]; rfl
  | look | register | record | scopes | enter | leave | number | check | time | scenario | steps | testCase | vars | execute
    | evaluate | wait | create | update | append => rfl

/-- A step that records a result is no deed of another sort. -/
theorem Does.eq_record (does : e.Does d x) (records : e.Does (.record id r) x) (s : Stage σ η) : d = .record id r := by
  have same := (does.history { s with context := {} }).symm.trans (records.history { s with context := {} })
  cases d with
  | record i q =>
    cases same
    rfl
  | _ => cases same

end Engine

namespace Act
variable {α β γ : Type}

theorem bind_assoc (x : Act σ η α) (f : α → Act σ η β) (g : β → Act σ η γ) :
    x >>= f >>= g = x >>= fun a => f a >>= g := by
  induction x with
  | answer a => rfl
  | step change next ih => exact congrArg (Act.step change) (funext ih)

theorem bind_pure (x : Act σ η α) : x >>= pure = x := by
  induction x with
  | answer a => rfl
  | step change next ih => exact congrArg (Act.step change) (funext ih)

/-- The name of a result refers to it until a step starts that may take its place, and the answer, if it comes before
    that, is of some sort. -/
def Stays (e : Engine σ η) (id : Int) (r : StepResult) (Q : α → Prop) : Act σ η α → Stage σ η → Prop
  | .answer a, s => s.Refers id r ∧ Q a
  | .step change next, s => s.Refers id r ∧
      (e.Starts id r.name (.step change next, s) ∨ (next (change s).1).Stays e id r Q (change s).2)

/-- Once the action has recorded a result for a step, the name of the result refers to it. -/
def Secures (e : Engine σ η) (id : Int) (r : StepResult) (Q : α → Prop) : Act σ η α → Stage σ η → Prop
  | .answer _, _ => True
  | .step change next, s =>
    (e.Does (.record id r) (.step change .answer) → (next (change s).1).Stays e id r Q (change s).2) ∧
      (next (change s).1).Secures e id r Q (change s).2

section
variable {e : Engine σ η} {id : Int} {r : StepResult} {x : Act σ η α} {f : α → Act σ η β} {s : Stage σ η}
  {P : α → Prop} {Q : β → Prop}

theorem starts_bind {name : String} (starts : e.Starts id name (x, s)) (f : α → Act σ η β) :
    e.Starts id name (x >>= f, s) := by
  obtain ⟨nested, step, rest, same, started⟩ := starts
  exact ⟨nested, step, fun results => rest results >>= f, (congrArg (· >>= f) same).trans (bind_assoc ..), started⟩

theorem Stays.bind (first : x.Stays e id r P s)
    (rest : P (x.run s).1 → (x.run s).2.Refers id r → (f (x.run s).1).Stays e id r Q (x.run s).2) :
    (x >>= f).Stays e id r Q s := by
  induction x generalizing s with
  | answer a => exact rest first.2 first.1
  | step change next ih =>
    obtain ⟨refers, starts | later⟩ := first
    · exact ⟨refers, .inl (starts_bind starts f)⟩
    · exact ⟨refers, .inr (ih _ later rest)⟩

/-- An action that leaves the result and its name alone. -/
theorem Stays.of_uses {D : Deed → Prop} (uses : x.Uses e D) (spares : ∀ {d : Deed}, D d → d.Spares id r)
    (refers : s.Refers id r) (answers : P (x.run s).1) : x.Stays e id r P s := by
  induction x generalizing s with
  | answer a => exact ⟨refers, answers⟩
  | step change next ih =>
    obtain ⟨⟨d, allowed, does⟩, later⟩ := uses
    exact ⟨refers, .inr (ih _ (later _) (does.refers (spares allowed) refers) answers)⟩

theorem Stays.after {D : Deed → Prop} (uses : x.Uses e D) (spares : ∀ {d : Deed}, D d → d.Spares id r)
    (refers : s.Refers id r)
    (rest : (x.run s).2.Refers id r → (f (x.run s).1).Stays e id r Q (x.run s).2) : (x >>= f).Stays e id r Q s :=
  .bind (.of_uses (P := fun _ => True) uses spares refers trivial) fun _ still => rest still

/-- Wherever no step has started since, the name refers to the result. -/
theorem Stays.at {y : Act σ η α} {n : Stage σ η} {since after : List (Act σ η α × Stage σ η)} (stays : x.Stays e id r P s)
    (passes : x.points s = since ++ (y, n) :: after) (unstarted : ∀ p ∈ since, ¬ e.Starts id r.name p) :
    n.Refers id r := by
  induction x generalizing s since with
  | answer a => simp [points] at passes
  | step change next ih =>
    cases since with
    | nil =>
      cases (List.cons.inj passes).1
      exact stays.1
    | cons first since =>
      obtain ⟨here, rest⟩ := List.cons.inj passes
      subst here
      rcases stays.2 with starts | later
      · exact absurd starts (unstarted _ List.mem_cons_self)
      · exact ih _ later rest fun p member => unstarted p (List.mem_cons_of_mem _ member)

theorem Secures.bind (first : x.Secures e id r P s)
    (carry : P (x.run s).1 → (x.run s).2.Refers id r → (f (x.run s).1).Stays e id r Q (x.run s).2)
    (rest : (f (x.run s).1).Secures e id r Q (x.run s).2) : (x >>= f).Secures e id r Q s := by
  induction x generalizing s with
  | answer a => exact rest
  | step change next ih =>
    exact ⟨fun records => (first.1 records).bind carry, ih _ first.2 carry rest⟩

/-- An action that does not record the result has nothing to secure. -/
theorem Secures.of_uses {D : Deed → Prop} (uses : x.Uses e D) (other : ∀ {d}, D d → d ≠ .record id r) :
    x.Secures e id r P s := by
  induction x generalizing s with
  | answer a => trivial
  | step change next ih =>
    obtain ⟨⟨d, allowed, does⟩, later⟩ := uses
    exact ⟨fun records => absurd (does.eq_record records s) (other allowed), ih _ (later _)⟩

theorem Secures.after {D : Deed → Prop} (uses : x.Uses e D) (other : ∀ {d}, D d → d ≠ .record id r)
    (rest : (f (x.run s).1).Secures e id r Q (x.run s).2) : (x >>= f).Secures e id r Q s :=
  .bind (.of_uses (P := fun _ => False) uses other) nofun rest

theorem Secures.rest (secures : (x >>= f).Secures e id r Q s) :
    (f (x.run s).1).Secures e id r Q (x.run s).2 := by
  induction x generalizing s with
  | answer a => exact secures
  | step change next ih => exact ih _ secures.2

theorem Secures.of_point {y : Act σ η α} {m : Stage σ η} (secures : x.Secures e id r P s) (passed : (y, m) ∈ x.points s) :
    y.Secures e id r P m := by
  induction x generalizing s with
  | answer a => cases passed
  | step change next ih =>
    rcases List.mem_cons.mp passed with here | later
    · cases here; exact secures
    · exact ih _ secures.2 later

/-! ### Actions that keep references -/

/-- An action leaves a reference alone until a step takes it, and secures it when it records the result. -/
structure Keeps (e : Engine σ η) (id : Int) (r : StepResult) (P : α → Prop) (x : Act σ η α) : Prop where
  stays : ∀ s, s.Refers id r → x.Stays e id r (fun _ => True) s
  secures : ∀ s, x.Secures e id r P s

theorem Keeps.pure (a : α) : (pure a : Act σ η α).Keeps e id r P := ⟨fun _ refers => ⟨refers, trivial⟩, fun _ => trivial⟩

theorem Keeps.bind (first : x.Keeps e id r P)
    (carry : ∀ a s, P a → s.Refers id r → (f a).Stays e id r Q s)
    (rest : ∀ a, (f a).Keeps e id r Q) : (x >>= f).Keeps e id r Q :=
  ⟨fun s refers => (first.stays s refers).bind fun _ still => (rest _).stays _ still,
    fun s => (first.secures s).bind (carry _ _) ((rest _).secures _)⟩

theorem Keeps.before (first : x.Keeps e id r fun _ => True) (rest : ∀ a, (f a).Keeps e id r fun _ => True) :
    (x >>= f).Keeps e id r fun _ => True :=
  .bind first (fun a s _ refers => (rest a).stays s refers) rest

theorem Keeps.after {D : Deed → Prop} (uses : x.Uses e D) (aside : ∀ {d : Deed}, D d → d.Aside)
    (rest : ∀ a, (f a).Keeps e id r Q) : (x >>= f).Keeps e id r Q :=
  ⟨fun _ refers => .after uses (fun allowed => (aside allowed).spares) refers fun still => (rest _).stays _ still,
    fun _ => .after uses (fun allowed => (aside allowed).ne_record) ((rest _).secures _)⟩

theorem Keeps.of_uses {D : Deed → Prop} (uses : x.Uses e D) (aside : ∀ {d : Deed}, D d → d.Aside) : x.Keeps e id r P :=
  ⟨fun _ refers => .of_uses uses (fun allowed => (aside allowed).spares) refers trivial,
    fun _ => .of_uses uses fun allowed => (aside allowed).ne_record⟩

theorem Keeps.ite {p : Prop} [Decidable p] {y : Act σ η α} (left : x.Keeps e id r P) (right : y.Keeps e id r P) :
    (if p then x else y).Keeps e id r P := by
  split
  · exact left
  · exact right

theorem Keeps.map (g : α → β) (keeps : x.Keeps e id r fun _ => True) : (g <$> x).Keeps e id r fun _ => True :=
  keeps.before fun _ => .pure _

theorem Keeps.rounds {body : Nat → Act σ η (Option (List α))} (each : ∀ i, (body i).Keeps e id r fun _ => True)
    (limit round : Nat) : (Act.rounds body limit round).Keeps e id r fun _ => True := by
  induction limit generalizing round with
  | zero => exact .pure []
  | succ limit ih =>
    refine .before (each round) fun first => ?_
    cases first with
    | none => exact .pure []
    | some first => exact .before (ih (round + 1)) fun later => .pure _

end
/-- What is told in the first step of what is left at a point of a run. -/
def tells {α : Type} (p : Act σ η α × Stage σ η) : List Happening :=
  match p.1.trail p.2 with
  | [] => []
  | next :: _ => (next.events.toList.drop p.2.events.size).map (·.happening)

end Act

/-- A result after the checks of a step; what has been skipped is not checked. -/
def Step.checked (step : Step) (c : Context) (result : StepResult) : StepResult :=
  if result.status == .skipped then result
  else Check.applyAll result step.overrides.checks (Reference.resolve c)

theorem Step.checked_name (step : Step) (c : Context) (result : StepResult) :
    (step.checked c result).name = result.name := by
  unfold checked
  split
  · rfl
  · exact Check.applyAll_name ..

namespace Engine
open Act Deed

/-! ### Test cases -/

section
variable (e : Engine σ η)

/-- A case is executed and its result checked. The variables it began with and those it left come along. -/
def judged (step : Step) (t : TestCase) : Act σ η (StepResult × Members × Members) := do
  let name := step.nameOr t.name
  Act.modifyContext (·.registerStep step.row.id name)
  let before := step.overrides.variablesFor (← Act.context).scopes.flatten
  Act.modifyScopes (·.addMissing before)
  let context ← Act.context
  let begun ← e.now
  let ran ← Act.ask (e.host.runCase (context.resolveCase (step.overrides.apply t)) before context.history)
  let result := ran.outcome.result step.row.id name ((← e.now) - begun)
  pure (step.checked context result, before, ran.vars)

/-- Variables are taken over from a case: those it has changed, and those extracted from its result. -/
def adopted (step : Step) (judgement : StepResult × Members × Members) : Act σ η Unit := do
  let (result, before, after) := judgement
  Act.modifyScopes (·.setChanged before after)
  Act.modifyScopes fun s => step.overrides.extract.foldl (fun s rule =>
    match rule.extract result with
    | some v => s.setLocal rule.varName v
    | none => s) s

/-- The result of an executed case is recorded, and variables are taken over. -/
def concluded (step : Step) (judgement : StepResult × Members × Members) : Act σ η (List StepResult) := do
  let results ← e.record step judgement.1
  adopted step judgement
  pure results

theorem runCase_eq (step : Step) (t : TestCase) : e.runCase step t = e.judged step t >>= e.concluded step := rfl

end

section
variable {e : Engine σ η} {id : Int} {r : StepResult} {step : Step} {t : TestCase} {s : Stage σ η}

theorem judged_uses (step : Step) (t : TestCase) :
    (e.judged step t).Uses e (Of step.row.id (· = step.nameOr t.name) fun _ => False) := by
  refine .bind (e.register_uses step rfl) fun _ => .bind (e.context_uses.mono Plain.of) fun c => ?_
  refine .bind ((e.modifyScopes_uses _).mono Plain.of) fun _ => .bind (e.context_uses.mono Plain.of) fun c => ?_
  refine .bind (e.now_uses.mono Plain.of) fun begun => .bind (.deed (.execute _ _ _) trivial) fun ran => ?_
  exact .bind (e.now_uses.mono Plain.of) fun ended => .pure _

/-- What a case results in has the name of its step, and the step has been registered under this name. -/
theorem run_judged (step : Step) (t : TestCase) (s : Stage σ η) :
    ((e.judged step t).run s).1.1.name = step.nameOr t.name ∧
      ((e.judged step t).run s).2.context.steps = s.context.steps.register step.row.id (step.nameOr t.name) := by
  simp only [judged, run_bind, run_pure, run_modifyContext, run_context, run_modifyScopes, run_now, run_ask]
  exact ⟨(Step.checked_name ..).trans (CaseOutcome.result_name ..), rfl⟩

theorem record_stays {q : StepResult} (other : step.row.id ≠ id) (refers : s.Refers id r) :
    (e.record step q).Stays e id r (fun _ => True) s := by
  have uses : (e.record step q).Uses e (Of step.row.id (fun _ => False) fun _ => True) := e.record_uses step trivial
  exact .of_uses uses (fun own => own.spares other fun none => none) refers trivial

theorem record_secures {P : List StepResult → Prop} (coded : r.httpStatus ≠ none) {q : StepResult}
    (codeless : q.httpStatus = none) : (e.record step q).Secures e id r P s := by
  have uses : (e.record step q).Uses e (Of step.row.id (fun _ => False) (·.httpStatus = none)) :=
    e.record_uses step codeless
  exact .of_uses uses fun own => own.ne_record coded

theorem adopted_uses (step : Step) (judgement : StepResult × Members × Members) :
    (adopted step judgement).Uses e Plain := .bind (e.modifyScopes_uses _) fun _ => e.modifyScopes_uses _

theorem concluded_secures (step : Step) {judgement : StepResult × Members × Members}
    (named : judgement.1 = r → s.context.steps.id? r.name = some step.row.id) :
    (e.concluded step judgement).Secures e id r (fun _ => True) s := by
  obtain ⟨result, vars⟩ := judgement
  have tail : ((e.emit (.stepCompleted step.row.id result.name result.status (some result)) >>= fun _ => pure [result])
      >>= fun results => adopted step (result, vars) >>= fun _ => pure results).Uses e Plain :=
    .bind (.bind (e.emit_uses _) fun _ => .pure _) fun results => .bind (adopted_uses _ _) fun _ => .pure results
  refine ⟨fun records => ?_, .of_uses tail fun plain => plain.aside.ne_record⟩
  -- The result that is recorded can only be the one that the step has.
  have same := Does.eq_record (Does.record step.row.id result) records s
  cases same
  refine .of_uses tail (fun plain => plain.aside.spares) ⟨named rfl, ?_⟩ trivial
  exact (Table.get?_put ..).trans (if_pos rfl)

theorem runCase_secures (filled : r.name ≠ "") (step : Step) (t : TestCase) (s : Stage σ η) :
    (e.runCase step t).Secures e id r (fun _ => True) s := by
  obtain ⟨name, registered⟩ := run_judged (e := e) step t s
  rw [runCase_eq]
  refine .after (judged_uses step t) (fun own => own.ne_record fun none => none) (concluded_secures step fun same => ?_)
  rw [registered, ← name, same]
  exact StepIndex.id?_register _ _ filled

theorem caseStep_stays {host : σ} (placed : s.host = e.host.meanwhile host) (kind : step.row.kind = .testCase)
    (other : step.row.id ≠ id) (free : e.effectiveName host step ≠ r.name) (refers : s.Refers id r) :
    (e.caseStep step).Stays e id r (fun _ => True) s := by
  unfold caseStep
  simp only
  split
  · exact record_stays other refers
  · rename_i caseId given
    refine .after (D := Plain) (.deed (.testCase _) trivial) (fun plain => plain.aside.spares) refers fun still => ?_
    split
    · exact record_stays other still
    · exact record_stays other still
    · rename_i t found
      rw [run_ask, placed] at found
      have fetched : (e.host.testCase caseId (e.host.meanwhile host)).1 = .ok (some t) := found
      have name : e.effectiveName host step = step.nameOr t.name := by
        simp only [effectiveName, kind, given, Option.map_some, fetched]
      exact .of_uses (e.runCase_uses step t)
        (fun own => own.spares other fun same => free (name.trans same.symm)) still trivial

theorem caseStep_secures (coded : r.httpStatus ≠ none) (filled : r.name ≠ "") (step : Step) (s : Stage σ η) :
    (e.caseStep step).Secures e id r (fun _ => True) s := by
  unfold caseStep
  simp only
  split
  · exact record_secures coded rfl
  · refine .after (D := Plain) (.deed (.testCase _) trivial) (fun plain => plain.aside.ne_record) ?_
    split
    · exact record_secures coded rfl
    · exact record_secures coded rfl
    · exact runCase_secures filled step _ _

end

/-! ### Steps of all kinds -/

section
variable {e : Engine σ η} {id : Int} {r : StepResult} {body : Act σ η (List StepResult)}
  {nested : Int → Act σ η Ending} {step : Step} {s : Stage σ η}

theorem inScope_keeps (bindings : List (String × Json)) (keeps : body.Keeps e id r fun _ => True) :
    (inScope bindings body).Keeps e id r fun _ => True := by
  refine .after (e.modifyScopes_uses _) Plain.aside fun _ => .before keeps fun results => ?_
  exact .after (e.modifyScopes_uses _) Plain.aside fun _ => .pure results

theorem conditionStep_keeps (step : Step) (keeps : body.Keeps e id r fun _ => True) :
    (e.conditionStep step body).Keeps e id r fun _ => True :=
  .after (e.condition_uses _) Plain.aside fun _ => .ite (inScope_keeps [] keeps) (.pure [])

theorem loopRounds_keeps {goesOn : Act σ η Bool} (asks : goesOn.Uses e Plain) (bindings : Nat → List (String × Json))
    (limit : Nat) (keeps : body.Keeps e id r fun _ => True) :
    (e.loopRounds goesOn bindings limit body).Keeps e id r fun _ => True := by
  refine .rounds (fun round => .after e.isCancelled_uses Plain.aside fun cancelled => .ite (.pure none) ?_) limit 0
  exact .after asks Plain.aside fun holds => .ite (.map some (inScope_keeps (bindings round) keeps)) (.pure none)

theorem loopStep_keeps (step : Step) (keeps : body.Keeps e id r fun _ => True) :
    (e.loopStep step body).Keeps e id r fun _ => True := by
  unfold loopStep
  simp only
  split
  · exact loopRounds_keeps (.pure true) _ _ keeps
  · exact .after e.context_uses Plain.aside fun c => loopRounds_keeps (.pure true) _ _ keeps
  · exact loopRounds_keeps (e.condition_uses _) _ _ keeps

theorem scenarioStep_stays (inside : ∀ j, (nested j).Keeps e id r fun ending => ending.isOk) (other : step.row.id ≠ id)
    (free : step.nameOr "Nested Scenario" ≠ r.name) (refers : s.Refers id r) :
    (e.scenarioStep nested step).Stays e id r (fun _ => True) s := by
  unfold scenarioStep
  simp only
  split
  · exact record_stays other refers
  · rename_i j _
    refine .after e.context_uses (fun plain => plain.aside.spares) refers fun still => ?_
    split
    · exact record_stays other still
    · have registers : (modifyContext (·.registerStep step.row.id (step.nameOr "Nested Scenario")) : Act σ η Unit).Uses e
          (Of step.row.id (· = step.nameOr "Nested Scenario") fun _ => False) := e.register_uses step rfl
      refine .after registers (fun own => own.spares other fun same => free same.symm) still fun still => ?_
      refine .after (e.modifyScopes_uses _) (fun plain => plain.aside.spares) still fun still => ?_
      refine .bind ((inside j).stays _ still) fun _ still => ?_
      refine .after (e.takeOver_uses step _ _) (fun own => own.spares other fun none => none) still fun still => ?_
      refine .after (e.modifyScopes_uses _) (fun plain => plain.aside.spares) still fun still => ?_
      exact ⟨still, trivial⟩

theorem scenarioStep_secures (coded : r.httpStatus ≠ none)
    (inside : ∀ j, (nested j).Keeps e id r fun ending => ending.isOk) (step : Step) (s : Stage σ η) :
    (e.scenarioStep nested step).Secures e id r (fun _ => True) s := by
  unfold scenarioStep
  simp only
  split
  · exact record_secures coded rfl
  · rename_i j _
    refine .after e.context_uses (fun plain => plain.aside.ne_record) ?_
    split
    · exact record_secures coded rfl
    · have registers : (modifyContext (·.registerStep step.row.id (step.nameOr "Nested Scenario")) : Act σ η Unit).Uses e
          (Of step.row.id (fun _ => True) fun _ => False) := e.register_uses step trivial
      refine .after registers (fun own => own.ne_record fun none => none) ?_
      refine .after (e.modifyScopes_uses _) (fun plain => plain.aside.ne_record) ?_
      refine .bind ((inside j).secures _) (fun ended refers => ?_) ?_
      · -- A scenario in which something has been recorded has come to its end, so no failure is recorded for it.
        generalize ((nested j).run _).1 = ending at ended
        cases ending with
        | error problem => cases ended
        | ok results =>
          have ends : (e.takeOver step (step.nameOr "Nested Scenario") (.ok results) >>= fun results =>
              modifyScopes Scopes.dropTop >>= fun _ => pure results).Uses e Plain :=
            .bind (.bind (e.modifyScopes_uses _) fun _ => .pure _) fun _ => .bind (e.modifyScopes_uses _) fun _ => .pure _
          exact .of_uses ends (fun plain => plain.aside.spares) refers trivial
      · refine .after (e.takeOver_uses step _ _) (fun own => own.ne_record coded) ?_
        exact .after (e.modifyScopes_uses _) (fun plain => plain.aside.ne_record) trivial

/-- A step of a name and an id that are not those of the result. -/
theorem proceed_stays (inside : ∀ j, (nested j).Keeps e id r fun ending => ending.isOk)
    (keeps : body.Keeps e id r fun _ => True) {host : σ} (placed : s.host = e.host.meanwhile host)
    (free : step.row.kind.isNamed → step.row.id ≠ id ∧ e.effectiveName host step ≠ r.name) (cancelled : Bool)
    (refers : s.Refers id r) : (e.proceed nested step body cancelled).Stays e id r (fun _ => True) s := by
  have invoked : (e.invoke nested step body).Stays e id r (fun _ => True) s := by
    unfold invoke
    split
    · cases kind : step.row.kind with
      | testCase =>
        obtain ⟨other, differs⟩ := free (congrArg StepKind.isNamed kind)
        exact caseStep_stays placed kind other differs refers
      | group => exact keeps.stays s refers
      | condition => exact (conditionStep_keeps step keeps).stays s refers
      | loop => exact (loopStep_keeps step keeps).stays s refers
      | wait => exact .of_uses (e.waitStep_uses step) (fun plain => plain.aside.spares) refers trivial
      | script =>
        obtain ⟨other, differs⟩ := free (congrArg StepKind.isNamed kind)
        simp only [effectiveName, kind] at differs
        exact .of_uses (e.scriptStep_uses step) (fun own => own.spares other differs.symm) refers trivial
      | scenario =>
        obtain ⟨other, differs⟩ := free (congrArg StepKind.isNamed kind)
        simp only [effectiveName, kind] at differs
        exact scenarioStep_stays inside other differs refers
    · exact ⟨refers, trivial⟩
  unfold proceed passOver
  split
  · split
    · rename_i leaf
      have named : step.row.kind.isNamed := by
        cases kind : step.row.kind <;> first | rfl | (rw [kind] at leaf; cases leaf)
      exact record_stays (free named).1 refers
    · split
      · exact invoked
      · exact ⟨refers, trivial⟩
  · exact invoked

theorem proceed_secures (coded : r.httpStatus ≠ none) (filled : r.name ≠ "")
    (inside : ∀ j, (nested j).Keeps e id r fun ending => ending.isOk) (keeps : body.Keeps e id r fun _ => True)
    (step : Step) (cancelled : Bool) (s : Stage σ η) :
    (e.proceed nested step body cancelled).Secures e id r (fun _ => True) s := by
  have invoked : (e.invoke nested step body).Secures e id r (fun _ => True) s := by
    unfold invoke
    split
    · cases step.row.kind with
      | testCase => exact caseStep_secures coded filled step s
      | group => exact keeps.secures s
      | condition => exact (conditionStep_keeps step keeps).secures s
      | loop => exact (loopStep_keeps step keeps).secures s
      | wait => exact .of_uses (e.waitStep_uses step) fun plain => plain.aside.ne_record
      | script => exact .of_uses (e.scriptStep_uses step) fun own => own.ne_record coded
      | scenario => exact scenarioStep_secures coded inside step s
    · trivial
  unfold proceed passOver
  split
  · split
    · exact record_secures coded rfl
    · split
      · exact invoked
      · trivial
  · exact invoked

theorem perform_keeps (coded : r.httpStatus ≠ none) (filled : r.name ≠ "")
    (inside : ∀ j, (nested j).Keeps e id r fun ending => ending.isOk) (keeps : body.Keeps e id r fun _ => True)
    (same : e.perform nested step body = e.dispatch nested step) :
    (e.perform nested step body).Keeps e id r fun _ => True := by
  by_cases disabled : step.isDisabled
  · rw [perform, if_pos disabled]
    exact .pure []
  · have logged (results : List StepResult) : (e.log step results >>= fun _ => pure results).Uses e Quiet :=
      .bind (e.log_uses step results) fun _ => .pure results
    rw [perform, if_neg disabled] at same ⊢
    refine ⟨fun s refers => ?_, fun s => ?_⟩
    · by_cases taken : step.row.kind.isNamed ∧ (step.row.id = id ∨ e.effectiveName s.host step = r.name)
      · exact ⟨refers, .inl ⟨nested, step, pure, same.trans (bind_pure _).symm, disabled, taken⟩⟩
      · have free (named : step.row.kind.isNamed) : step.row.id ≠ id ∧ e.effectiveName s.host step ≠ r.name :=
          not_or.mp fun either => taken ⟨named, either⟩
        refine .after (e.emit_uses _) (fun plain => plain.aside.spares) refers fun still => ?_
        refine .after e.isCancelled_uses (fun plain => plain.aside.spares) still fun still => ?_
        have placed : (e.isCancelled.run ((e.emit (.stepStarted step.row.id step.row.name)).run s).2).2.host =
            e.host.meanwhile s.host := by
          rw [run_isCancelled, run_emit]
        refine .bind (proceed_stays inside keeps placed free _ still) fun _ still => ?_
        exact .of_uses (logged _) (fun quiet => quiet.aside.spares) still trivial
    · refine .after (e.emit_uses _) (fun plain => plain.aside.ne_record) ?_
      refine .after e.isCancelled_uses (fun plain => plain.aside.ne_record) ?_
      refine .bind (proceed_secures coded filled inside keeps step _ _) (fun _ refers => ?_) ?_
      · exact .of_uses (logged _) (fun quiet => quiet.aside.spares) refers trivial
      · exact .of_uses (logged _) fun quiet => quiet.aside.ne_record

theorem dispatchAll_keeps (coded : r.httpStatus ≠ none) (filled : r.name ≠ "")
    (inside : ∀ j, (nested j).Keeps e id r fun ending => ending.isOk) (steps : List Step) :
    (e.dispatchAll nested steps).Keeps e id r fun _ => True := by
  refine (dispatchAll_induction (P := fun step x => x = e.dispatch nested step ∧ x.Keeps e id r fun _ => True)
    (Q := fun steps x => x = e.dispatchAll nested steps ∧ x.Keeps e id r fun _ => True) ⟨rfl, .pure []⟩ ?_ ?_ steps).2
  · rintro step rest _ _ ⟨rfl, first⟩ ⟨rfl, later⟩
    exact ⟨rfl, .before first fun _ => .before later fun _ => .pure _⟩
  · rintro ⟨row, children⟩ _ ⟨rfl, keeps⟩
    exact ⟨rfl, perform_keeps coded filled inside keeps rfl⟩

/-! ### Scenarios -/

variable {walk : List Step → Act σ η (List StepResult)}

theorem runSteps_keeps (walks : ∀ steps, (walk steps).Keeps e id r fun _ => True) (scenario : Scenario)
    (record : Option RunRecord) : (e.runSteps scenario record walk).Keeps e id r fun ending => ending.isOk := by
  have closed (f : RunRecord → RunRecord) : (record.forM fun q => e.closeRecord (f q)).Uses e Filing :=
    (e.forM_closeRecord_uses record f).mono And.right
  refine .after (D := Plain) (.deed (.steps _) trivial) Plain.aside fun found => ?_
  split
  · exact .after e.now_uses Plain.aside fun time => .after (closed _) Filing.aside fun _ => .pure _
  · refine .after e.now_uses Plain.aside fun begun => ?_
    have ends (results : List StepResult) : (do
        let ended ← e.now
        let cancelled ← e.isCancelled
        record.forM fun q => e.closeRecord (q.finish results (ended - begun) cancelled (Int.ofNat ended))
        e.emit (.scenarioCompleted scenario.id (RunStatus.after results cancelled))
        pure (.ok results) : Act σ η Ending).Uses e Aside := by
      refine .bind (e.now_uses.mono Plain.aside) fun ended => .bind (e.isCancelled_uses.mono Plain.aside) fun _ => ?_
      exact .bind ((closed _).mono Filing.aside) fun _ => .bind ((e.emit_uses _).mono Plain.aside) fun _ => .pure _
    refine .bind (walks _) (fun results s _ refers => ?_) fun results => .of_uses (ends results) fun aside => aside
    exact .of_uses (ends results) Aside.spares refers (by simp only [run_bind, run_pure]; rfl)

theorem attempt_keeps (coded : r.httpStatus ≠ none) (filled : r.name ≠ "")
    (inside : ∀ j, (nested j).Keeps e id r fun ending => ending.isOk) (outermost : Bool) (j : Int) :
    (e.attempt nested outermost j).Keeps e id r fun ending => ending.isOk := by
  have walks := dispatchAll_keeps coded filled inside
  refine .after e.context_uses Plain.aside fun c => .ite (.pure _) (.ite (.pure _) ?_)
  refine .after (D := Plain) (.deed (.scenario _) trivial) Plain.aside fun found => ?_
  split
  · exact .pure _
  · exact .pure _
  · rename_i scenario
    have leaves (ending : Ending) : (modifyContext (·.exit j) >>= fun _ => pure ending : Act σ η Ending).Uses e Aside :=
      .bind (.deed (.leave _) trivial) fun _ => .pure ending
    refine .after (D := Aside) (.deed (.enter _) trivial) (fun aside => aside) fun _ =>
      .bind (P := fun ending => ending.isOk) ?_ ?_ ?_
    · cases outermost with
      | false => exact .after (e.emit_uses _) Plain.aside fun _ => runSteps_keeps walks scenario none
      | true =>
        refine .after (e.loadVariables_uses scenario) Plain.aside fun loaded => ?_
        split
        · exact .pure _
        · refine .after (e.emit_uses _) Plain.aside fun _ => ?_
          exact .after (e.openRecord_uses scenario) Filing.aside fun record => runSteps_keeps walks scenario (some record)
    · exact fun ending s ended refers => .of_uses (leaves ending) Aside.spares refers ended
    · exact fun ending => .of_uses (leaves ending) fun aside => aside

theorem nested_keeps (coded : r.httpStatus ≠ none) (filled : r.name ≠ "") (j : Int) :
    (e.nested j).Keeps e id r fun ending => ending.isOk := by
  unfold nested
  generalize e.config.maxNesting + 1 = levels
  induction levels generalizing j with
  | zero => exact .pure _
  | succ levels ih => exact attempt_keeps coded filled ih false j

end

/-- Whoever observes a run is told of every start. -/
theorem not_starts_of_tells {e : Engine σ η} {α : Type} {id : Int} {name : String} {p : Act σ η α × Stage σ η}
    (observed : e.observed) (told : (tells p).all (·.startsNo id name)) : ¬ e.Starts id name p := by
  rintro ⟨nested, ⟨row, children⟩, rest, begins, enabled, -, taken⟩
  obtain ⟨x, s⟩ := p
  obtain ⟨later, first⟩ : ∃ later, x.trail s = ((e.emit (.stepStarted row.id row.name)).run s).2 :: later := by
    rw [show x = _ from begins, dispatch, perform, if_neg enabled]
    exact ⟨_, rfl⟩
  simp only [tells, first, run_emit, if_pos observed, Array.toList_push] at told
  rw [← Array.length_toList, List.drop_left] at told
  simp only [List.map_cons, List.map_nil, List.all_cons, List.all_nil, Happening.startsNo, Bool.and_true, Bool.and_eq_true,
    bne_iff_ne, Bool.not_eq_true'] at told
  obtain ⟨⟨otherId, filled⟩, otherName⟩ := told
  have own (fallback : String) : (⟨row, children⟩ : Step).nameOr fallback = row.name :=
    if_neg fun blank => Bool.false_ne_true (filled.symm.trans blank)
  rcases taken with same | same
  · exact otherId same
  · refine otherName (Eq.trans ?_ same)
    unfold effectiveName
    split
    · split
      · exact (own _).symm
      · exact (own _).symm
    · exact (own _).symm
    · exact (own _).symm
    · exact (own _).symm

/-- Once a case has been executed, its name refers to its result until a test case, a script or another scenario
    starts as a step of this name or of the same id. -/
theorem reference_stands {e : Engine σ η} {id : Int} {envKey : String} {s m n : Stage σ η} {step : Step} {t : TestCase}
    {rest : List StepResult → Act σ η Ending} {z : Act σ η Ending} {since after : List (Act σ η Ending × Stage σ η)}
    {r : StepResult} {code : Nat}
    (executes : (e.runCase step t >>= rest, m) ∈ (e.attempt e.nested true id).points (e.begun envKey s))
    (results : ((e.runCase step t).run m).1 = [r]) (coded : r.httpStatus = some code)
    (nameable : Reference.Nameable (step.nameOr t.name)) (filled : step.nameOr t.name ≠ "")
    (passes : (e.runCase step t >>= rest).points m = since ++ (z, n) :: after)
    (finished : ((e.runCase step t).points m).length ≤ since.length)
    (unstarted : ∀ p ∈ since, ¬ e.Starts step.row.id (step.nameOr t.name) p) :
    Reference.resolve n.context (Reference.toCode (step.nameOr t.name)) = toString code := by
  obtain ⟨name, -⟩ := run_judged (e := e) step t m
  rw [runCase_eq, run_bind] at results
  have result : ((e.judged step t).run m).1.1 = r := (List.cons.inj results).1
  rw [result] at name
  rw [← name] at nameable filled unstarted ⊢
  have exists_code : r.httpStatus ≠ none := fun none => by rw [coded] at none; cases none
  have keeps : (e.attempt e.nested true id).Keeps e step.row.id r fun ending => ending.isOk :=
    attempt_keeps exists_code filled (nested_keeps exists_code filled) true id
  have secures := (keeps.secures (e.begun envKey s)).of_point executes
  rw [runCase_eq, bind_assoc] at secures passes
  have recording := secures.rest
  rw [points_bind] at passes
  rw [runCase_eq, points_bind, List.length_append] at finished
  generalize (e.judged step t).run m = judged at result recording passes finished
  obtain ⟨⟨q, vars⟩, u⟩ := judged
  obtain rfl : r = q := result.symm
  -- What follows begins by recording the result, and from then on the reference stands.
  have stays := recording.1 (.record step.row.id r)
  have refers : n.Refers step.row.id r := by
    have room : ((e.judged step t).points m).length < since.length := by
      rw [List.length_map] at finished
      exact Nat.lt_of_lt_of_le (Nat.lt_add_of_pos_right (Nat.succ_pos _)) finished
    rcases List.append_eq_append_iff.mp passes with ⟨rest, rfl, later⟩ | ⟨rest, early, -⟩
    · cases rest with
      | nil =>
        rw [List.append_nil, List.length_map] at room
        omega
      | cons p rest =>
        obtain ⟨-, later⟩ := List.cons.inj later
        exact stays.at later fun p member => unstarted p (List.mem_append_right _ (List.mem_cons_of_mem _ member))
    · have lengths := congrArg List.length early
      rw [List.length_map, List.length_append] at lengths
      omega
  have found : n.context.resultByName r.name = some r := by
    rw [Context.resultByName, refers.named]
    exact refers.recorded
  exact Reference.resolve_toCode nameable found coded

/-- A script runs after a case, and the reference to the case stands. -/
theorem reference_stands_during_script :
    let login : Step := ⟨{ id := 1, kind := .testCase, name := "Login", caseId := some 1 }, []⟩
    let assign : Step := ⟨{ id := 2, kind := .script, name := "Assign" }, []⟩
    let t : TestCase := { id := 1, name := "Enter", url := "http://h/login" }
    let r : StepResult := { stepId := 1, name := "Login", status := .pass, httpStatus := some 200 }
    let host : Host Unit :=
      { scenario := fun id s => (.ok (some { id, name := "Outer", rows := [] }), s)
        steps := fun _ s => (.ok [login, assign], s)
        testCase := fun _ s => (.ok (some t), s)
        vars := none
        runCase := fun _ vars _ s => (⟨vars, .finished r⟩, s)
        eval := fun _ vars s => (⟨vars, .ok .null⟩, s)
        wait := fun _ s => (true, s)
        limit := fun _ s => some s
        isCancelled := fun _ => false
        now := fun _ => 0 }
    let e : Engine Unit Unit := { host, observed := true }
    let s : Stage Unit Unit := { host := (), kept := () }
    ∃ rest m since z n after,
      (e.runCase login t >>= rest, m) ∈ (e.attempt e.nested true 1).points (e.begun "" s) ∧
      ((e.runCase login t).run m).1 = [r] ∧
      (e.runCase login t >>= rest).points m = since ++ (z, n) :: after ∧
      ((e.runCase login t).points m).length ≤ since.length ∧
      (∀ p ∈ since, ¬ e.Starts login.row.id (login.nameOr t.name) p) ∧
      Reference.resolve n.context (Reference.toCode (login.nameOr t.name)) = toString 200 := by
  intro login assign t r host e s
  let rest (results : List StepResult) : Act Unit Unit Ending :=
    (((e.log login results >>= fun _ => pure results) >>= fun first => e.dispatchAll e.nested [assign] >>= fun later =>
      pure (first ++ later)) >>= fun results => e.now >>= fun _ => e.isCancelled >>= fun cancelled =>
        e.emit (.scenarioCompleted 1 (RunStatus.after results cancelled)) >>= fun _ => pure (.ok results)) >>= fun ending =>
          modifyContext (·.exit 1) >>= fun _ => pure ending
  let points := (e.attempt e.nested true 1).points (e.begun "" s)
  let m := (points.getD 11 (pure (.ok []), s)).2
  have split : points = points.take 11 ++ (e.runCase login t >>= rest, m) :: points.drop 12 :=
    (List.take_append_drop 11 points).symm.trans (congrArg (points.take 11 ++ ·) rfl)
  have member : (e.runCase login t >>= rest, m) ∈ points := by
    rw [split]
    exact List.mem_append_right _ List.mem_cons_self
  have results : ((e.runCase login t).run m).1 = [r] := by cbv
  have passes : (e.runCase login t >>= rest).points m =
      (points.drop 11).take 14 ++
        ((points.getD 25 (pure (.ok []), s)).1, (points.getD 25 (pure (.ok []), s)).2) :: points.drop 26 :=
    (points_from split).1.trans rfl
  have finished : ((e.runCase login t).points m).length ≤ ((points.drop 11).take 14).length := by decide
  have told : ((points.drop 11).take 14).all (fun p => (tells p).all (·.startsNo 1 (login.nameOr t.name))) = true := by
    decide +kernel
  have unstarted : ∀ p ∈ (points.drop 11).take 14, ¬ e.Starts 1 (login.nameOr t.name) p :=
    fun p member => not_starts_of_tells rfl (List.all_eq_true.mp told p member)
  refine ⟨rest, m, _, _, _, _, member, results, passes, finished, unstarted, ?_⟩
  exact reference_stands member results rfl ⟨by decide, by decide, by decide⟩ (by decide) passes finished unstarted

/-- A script of another scenario that has the id of the step of a case takes its result away, though its name is
    another one. A case without a name cannot be referred to at all. -/
theorem reference_displaced :
    let login : StepRow := { id := 1, kind := .testCase, name := "Login", caseId := some 1 }
    let call : StepRow := { id := 2, kind := .scenario, name := "Call", scenarioId := some 2 }
    let assign : StepRow :=
      { id := 1, kind := .script, name := "Assign", control := some (.obj [("script", .str "x = 1")]) }
    let cases : List TestCase := [{ id := 1, name := "", url := "http://h/login" }]
    let shared : Catalog :=
      { scenarios := [{ id := 1, name := "Outer", rows := [login, call] }, { id := 2, name := "Inner", rows := [assign] }]
        cases }
    let nameless : Catalog := { scenarios := [{ id := 1, name := "Nameless", rows := [{ login with name := "" }] }], cases }
    let run (c : Catalog) : Ending × Stage (Rehearsal CallLog) Unit :=
      ((c.engine (Rehearsal.world (Prepared.runCase [(1, [{ code := some 200 }])])) {} none true).execute 1 "").run
        { host := { services := [] }, kept := () }
    let codes (c : Catalog) := (run c).1.toOption.map (·.map fun r => (r.name, r.httpStatus))
    let started (c : Catalog) :=
      ((run c).2.events.toList.filter (·.happening.kindName == "step_start")).map (·.happening.name?)
    (codes shared = some [("Login", some 200), ("Assign", none)] ∧
      started shared = [some "Login", some "Call", some "Assign"] ∧
      Reference.resolve (run shared).2.context (Reference.toCode "Login") = Reference.toCode "Login") ∧
    (codes nameless = some [("", some 200)] ∧ started nameless = [some ""] ∧
      Reference.resolve (run nameless).2.context (Reference.toCode "") = Reference.toCode "") := by
  intro login call assign cases shared nameless run codes started
  have taken : (codes shared, started shared, (run shared).2.context.resultByName "Login") =
      (some [("Login", some 200), ("Assign", none)], [some "Login", some "Call", some "Assign"], none) := by
    simp only [codes, started, run]
    cbv
  have unnamed : (codes nameless, started nameless, (run nameless).2.context.resultByName "") =
      (some [("", some 200)], [some ""], none) := by
    simp only [codes, started, run]
    cbv
  simp only [Prod.mk.injEq] at taken unnamed
  refine ⟨⟨taken.1, taken.2.1, ?_⟩, unnamed.1, unnamed.2.1, ?_⟩
  · exact Reference.resolve_toCode_of_none ⟨by decide, by decide, by decide⟩ (by decide) taken.2.2
  · exact Reference.resolve_toCode_of_none ⟨by decide, by decide, by decide⟩ (by decide) unnamed.2.2

end Engine
end TestScenario
