import TestScenario.History.Memory
import TestScenario.Proofs.Deeds

/-!
What a run does to its record in a memory that it shares with others. Whatever happens to that memory and to the world
between its steps, the run adds one record at most, changes no other record, and has brought its own one into its last
state when it comes to its end (`execute_files`).
-/

namespace TestScenario
variable {σ η : Type}

/-- What a run finds out that decides how its record ends. -/
inductive Sighting where
  /-- The steps of a scenario are asked for; those of the scenario that is run come first. -/
  | tree (loaded : Bool)
  /-- The run takes a look whether it has been cancelled, for the last time after all steps. -/
  | look (cancelled : Bool)
deriving DecidableEq, Repr

/-- The host with what a run finds out noted. -/
def Host.watched (h : Host σ) : Host (σ × List Sighting) where
  scenario id s := let (answer, inner) := h.scenario id s.1; (answer, (inner, s.2))
  steps id s := let (answer, inner) := h.steps id s.1; (answer, (inner, s.2 ++ [.tree answer.isOk]))
  testCase id s := let (answer, inner) := h.testCase id s.1; (answer, (inner, s.2))
  vars := h.vars.map fun supply project module envKey s =>
    let (answer, inner) := supply project module envKey s.1
    (answer, (inner, s.2))
  runCase t vars history s := let (answer, inner) := h.runCase t vars history s.1; (answer, (inner, s.2))
  eval script vars s := let (answer, inner) := h.eval script vars s.1; (answer, (inner, s.2))
  wait ms s := let (answer, inner) := h.wait ms s.1; (answer, (inner, s.2))
  limit ms s := (h.limit ms s.1).map (·, s.2)
  meanwhile s := let inner := h.meanwhile s.1; (inner, s.2 ++ [.look (h.isCancelled inner)])
  isCancelled s := h.isCancelled s.1
  now s := h.now s.1

/-- The engine with its runs kept in memory and with what they find out noted. -/
def Engine.filing (e : Engine σ η) : Engine (σ × List Sighting) MemoryHistory where
  config := e.config
  kinds := e.kinds
  host := e.host.watched
  sink := some MemoryHistory.sink
  observed := e.observed

/-- Actions and stages of runs that are kept in memory and watched. -/
abbrev WatchedAct (σ α : Type) := Act (σ × List Sighting) MemoryHistory α
@[inherit_doc WatchedAct]
abbrev WatchedStage (σ : Type) := Stage (σ × List Sighting) MemoryHistory

/-- What one step of a run does to the records: nothing, or it adds or replaces the record of the run. -/
inductive Filed (before after : MemoryHistory) : Option RunRecord → Option RunRecord → Prop
  | still (own : Option RunRecord) (same : after.records = before.records) : Filed before after own own
  | added (r : RunRecord) (numbered : r.id = some (before.records.length + 1))
      (added : after.records = before.records ++ [r]) : Filed before after none (some r)
  | replaced (r r' : RunRecord) (same : r'.id = r.id) (replaced : after.records = (before.update r').2.records) :
      Filed before after (some r) (some r')

/-- How the record of a run stands when the run has come to an end and has found some things out. -/
structure RunRecord.Settled (r : RunRecord) (ending : Ending) (seen : List Sighting) : Prop where
  ended : r.status ≠ .running
  /-- The steps could not be loaded, the run was cancelled in the end, or a result has failed. -/
  failed : r.status = .fail ↔
    seen.head? = some (.tree false) ∨ seen.getLast? = some (.look true) ∨
      ∃ results, ending = .ok results ∧ ∃ q ∈ results, q.status = .fail
  counted : ∀ results, ending = .ok results → r.totalSteps = results.length ∧
    r.totalSteps = r.passedSteps + r.failedSteps + results.countP (·.status == .skipped)

namespace Act
variable {α β : Type}

/-- Step by step, the action adds or replaces no record but its own one, and what holds in the end of its answer, its
    record and what it has seen is `post`. Before each step anything may have become of the memory and the world. -/
def Files (post : α → Option RunRecord → List Sighting → Prop) :
    WatchedAct σ α → Option RunRecord → List Sighting → Prop
  | .answer a, own, seen => post a own seen
  | .step change next, own, seen => ∀ s, s.host.2 = seen →
    ∃ own', Filed s.kept (change s).2.kept own own' ∧ (next (change s).1).Files post own' (change s).2.host.2

section
variable {post : α → Option RunRecord → List Sighting → Prop} {x : WatchedAct σ α}
  {own : Option RunRecord} {seen : List Sighting}

theorem Files.mono {weaker : α → Option RunRecord → List Sighting → Prop} (files : x.Files post own seen)
    (sub : ∀ a own seen, post a own seen → weaker a own seen) : x.Files weaker own seen := by
  induction x generalizing own seen with
  | answer a => exact sub _ _ _ files
  | step change next ih =>
    intro s saw
    obtain ⟨own', filed, rest⟩ := files s saw
    exact ⟨own', filed, ih _ rest⟩

theorem Files.pure {a : α} (holds : post a own seen) : (pure a : WatchedAct σ α).Files post own seen := holds

theorem Files.bind {post : β → Option RunRecord → List Sighting → Prop} {f : α → WatchedAct σ β}
    (files : x.Files (fun a => (f a).Files post) own seen) : (x >>= f).Files post own seen := by
  induction x generalizing own seen with
  | answer a => exact files
  | step change next ih =>
    intro s saw
    obtain ⟨own', filed, rest⟩ := files s saw
    exact ⟨own', filed, ih _ rest⟩

/-- An action of one step that concerns no records and finds nothing out. -/
theorem Files.quiet {change : WatchedStage σ → α × WatchedStage σ}
    (same : ∀ s, (change s).2.kept.records = s.kept.records ∧ (change s).2.host.2 = s.host.2)
    (holds : ∀ a, post a own seen) : (Act.step change .answer).Files post own seen := by
  intro s saw
  refine ⟨own, .still own (same s).1, ?_⟩
  rw [(same s).2, saw]
  exact holds _

end
end Act

namespace Engine
open Act
variable {e : Engine σ η} {α : Type} {own : Option RunRecord} {seen : List Sighting}

/-- No deed inside the outermost scenario changes a record, and none forgets what has been found out. -/
theorem Does.within {d : Deed} {x : WatchedAct σ α} (does : e.filing.Does d x) (inner : d.Within false)
    (s : WatchedStage σ) :
    (x.run s).2.kept.records = s.kept.records ∧ s.host.2 <+: (x.run s).2.host.2 := by
  cases does with
  | create | update | number => cases inner
  | append given l =>
    cases given
    exact ⟨rfl, List.prefix_rfl⟩
  | vars given project module envKey =>
    obtain ⟨supply, -, rfl⟩ := Option.map_eq_some_iff.mp given
    exact ⟨rfl, List.prefix_rfl⟩
  | check => exact ⟨rfl, List.prefix_append _ _⟩
  | steps id => exact ⟨rfl, List.prefix_append _ _⟩
  | tell h =>
    rw [run_emit]
    exact ⟨rfl, List.prefix_rfl⟩
  | look | register | record | scopes | enter | leave | time | scenario | testCase | execute | evaluate | wait =>
    exact ⟨rfl, List.prefix_rfl⟩

/-- Inside the outermost scenario a run leaves all records as they are, and what it finds out comes after what it
    knows. -/
theorem files_within {x : WatchedAct σ α} (uses : x.Uses e.filing (Deed.Within false)) :
    x.Files (fun _ own' seen' => own' = own ∧ seen <+: seen') own seen := by
  induction x generalizing seen with
  | answer a => exact ⟨rfl, List.prefix_rfl⟩
  | step change next ih =>
    obtain ⟨⟨d, inner, does⟩, later⟩ := uses
    intro s saw
    obtain ⟨same, longer⟩ := does.within inner s
    refine ⟨own, .still own same, (ih _ (later _)).mono ?_⟩
    rintro _ own' seen' ⟨kept, further⟩
    exact ⟨kept, (saw ▸ longer).trans further⟩

theorem now_files {post : Nat → Option RunRecord → List Sighting → Prop} (holds : ∀ time, post time own seen) :
    e.filing.now.Files post own seen :=
  .quiet (fun _ => ⟨rfl, rfl⟩) holds

theorem modifyContext_files {post : Unit → Option RunRecord → List Sighting → Prop} (f : Context → Context)
    (holds : post () own seen) : (modifyContext f : WatchedAct σ Unit).Files post own seen :=
  .quiet (fun _ => ⟨rfl, rfl⟩) fun _ => holds

theorem emit_files {post : Unit → Option RunRecord → List Sighting → Prop} (holds : post () own seen) (h : Happening) :
    (e.filing.emit h).Files post own seen := by
  refine .quiet (fun s => ?_) fun _ => holds
  split
  · exact ⟨rfl, rfl⟩
  · exact ⟨rfl, rfl⟩

theorem isCancelled_files {post : Bool → Option RunRecord → List Sighting → Prop}
    (holds : ∀ cancelled, post cancelled own (seen ++ [.look cancelled])) :
    e.filing.isCancelled.Files post own seen := by
  intro s saw
  subst saw
  exact ⟨own, .still own rfl, holds _⟩

theorem steps_files {post : Except Fault (List Step) → Option RunRecord → List Sighting → Prop} (id : Int)
    (holds : ∀ answer, post answer own (seen ++ [.tree answer.isOk])) :
    (ask (e.filing.host.steps id)).Files post own seen := by
  intro s saw
  subst saw
  exact ⟨own, .still own rfl, holds _⟩

theorem create_files {post : Except Fault Int → Option RunRecord → List Sighting → Prop} (r : RunRecord)
    (holds : ∀ id, post (.ok id) (some { r with id := some id }) seen) :
    (keep (σ := σ × List Sighting) (MemoryHistory.sink.create r)).Files post none seen := by
  intro s saw
  subst saw
  exact ⟨_, .added _ rfl rfl, holds _⟩

theorem update_files {post : Except Fault Unit → Option RunRecord → List Sighting → Prop} {r r' : RunRecord}
    (same : r'.id = r.id) (holds : ∀ answer, post answer (some r') seen) :
    (keep (σ := σ × List Sighting) (MemoryHistory.sink.update r')).Files post (some r) seen := by
  intro s saw
  subst saw
  exact ⟨_, .replaced r r' same rfl, holds _⟩

theorem closeRecord_files {post : Unit → Option RunRecord → List Sighting → Prop} {r r' : RunRecord}
    (numbered : r.id.isSome) (same : r'.id = r.id) (holds : post () (some r') seen) :
    (e.filing.closeRecord r').Files post (some r) seen := by
  obtain ⟨id, number⟩ := Option.isSome_iff_exists.mp numbered
  have place : e.filing.sink = some MemoryHistory.sink := rfl
  rw [closeRecord, place, same, number]
  exact .bind (update_files same fun _ => .pure holds)

/-- A new record has an id from then on. -/
theorem openRecord_files {post : RunRecord → Option RunRecord → List Sighting → Prop} (scenario : Scenario)
    (holds : ∀ r : RunRecord, r.id.isSome → post r (some r) seen) :
    (e.filing.openRecord scenario).Files post none seen := by
  refine .bind (.quiet (fun _ => ⟨rfl, rfl⟩) fun c => .bind (now_files fun time => .bind (create_files _ fun id => ?_)))
  exact .bind (modifyContext_files _ (.pure (holds _ rfl)))

theorem loadVariables_files {post : Except RunError Unit → Option RunRecord → List Sighting → Prop}
    (scenario : Scenario) (holds : ∀ loaded, post loaded own seen) :
    (e.filing.loadVariables scenario).Files post own seen := by
  unfold loadVariables
  split
  · exact .pure (holds _)
  · rename_i supply given
    obtain ⟨inner, -, rfl⟩ := Option.map_eq_some_iff.mp given
    refine .bind (.quiet (fun _ => ⟨rfl, rfl⟩) fun c => .bind (.quiet (fun _ => ⟨rfl, rfl⟩) fun vars => ?_))
    cases vars with
    | error cause => exact .pure (holds _)
    | ok vars => exact .bind (modifyContext_files _ (.pure (holds _)))

/-- What holds in the end of a run: its record, if it has one, is settled, and it has one if it has come to results. -/
def Settles (ending : Ending) (own : Option RunRecord) (seen : List Sighting) : Prop :=
  (∀ r, own = some r → r.Settled ending seen) ∧ ((∃ results, ending = .ok results) → own.isSome)

theorem settled_abort {r : RunRecord} (time : Int) (problem : RunError) :
    (r.abort time).Settled (.error problem) [.tree false] where
  ended := by simp [RunRecord.abort]
  failed := by simp [RunRecord.abort]
  counted := nofun

theorem countP_statuses (results : List StepResult) :
    results.length = results.countP (·.status == .pass) + results.countP (·.status == .fail) +
      results.countP (·.status == .skipped) := by
  induction results with
  | nil => rfl
  | cons q rest ih =>
    simp only [List.length_cons, List.countP_cons, ih]
    cases q.status <;> simp <;> omega

theorem settled_finish {r : RunRecord} (results : List StepResult) (ms : Nat) (cancelled : Bool) (time : Int)
    {seen : List Sighting} (loaded : [.tree true] <+: seen) :
    (r.finish results ms cancelled time).Settled (.ok results) (seen ++ [.look cancelled]) where
  ended := by
    simp only [RunRecord.finish, RunStatus.after]
    split <;> simp
  failed := by
    obtain ⟨rest, rfl⟩ := loaded
    rw [List.getLast?_concat]
    cases cancelled <;> simp [RunRecord.finish, RunStatus.after]
  counted := by
    rintro _ ⟨⟩
    exact ⟨rfl, countP_statuses results⟩

theorem runSteps_files {walk : List Step → WatchedAct σ (List StepResult)}
    (walks : ∀ steps, (walk steps).Uses e.filing (Deed.Within false)) (scenario : Scenario) {r : RunRecord}
    (numbered : r.id.isSome) : (e.filing.runSteps scenario (some r) walk).Files Settles (some r) [] := by
  refine .bind (steps_files _ fun answer => ?_)
  cases answer with
  | error cause =>
    refine .bind (now_files fun time => .bind (closeRecord_files numbered rfl (.pure ⟨?_, nofun⟩)))
    rintro _ ⟨⟩
    exact settled_abort _ _
  | ok steps =>
    refine .bind (now_files fun begun => .bind ((files_within (walks steps)).mono ?_))
    rintro results own seen ⟨rfl, loaded⟩
    refine .bind (now_files fun ended => .bind (isCancelled_files fun cancelled => ?_))
    refine .bind (closeRecord_files numbered rfl (.bind (emit_files (.pure ⟨?_, fun _ => rfl⟩) _)))
    rintro _ ⟨⟩
    exact settled_finish results _ cancelled _ loaded

theorem runEntered_files {walk : List Step → WatchedAct σ (List StepResult)}
    (walks : ∀ steps, (walk steps).Uses e.filing (Deed.Within false)) (scenario : Scenario) :
    (e.filing.runEntered true scenario walk).Files Settles none [] := by
  refine .bind (loadVariables_files scenario fun loaded => ?_)
  cases loaded with
  | error problem => exact .pure ⟨nofun, nofun⟩
  | ok =>
    refine .bind (emit_files (.bind (openRecord_files scenario fun r numbered => ?_)) _)
    exact runSteps_files walks scenario numbered

theorem enter_files {walk : List Step → WatchedAct σ (List StepResult)}
    (walks : ∀ steps, (walk steps).Uses e.filing (Deed.Within false)) (id : Int) :
    (e.filing.enter true id walk).Files Settles none [] := by
  refine .bind (.quiet (fun _ => ⟨rfl, rfl⟩) fun found => ?_)
  match found with
  | .error _ | .ok none => exact .pure ⟨nofun, nofun⟩
  | .ok (some scenario) =>
    refine .bind (modifyContext_files _ (.bind ((runEntered_files walks scenario).mono ?_)))
    intro ending own seen settled
    exact .bind (modifyContext_files _ (.pure settled))

/-- A run settles its record, whatever else happens to the memory and to the world meanwhile. -/
theorem execute_files (id : Int) (envKey : String) : (e.filing.execute id envKey).Files Settles none [] := by
  have begins : (e.filing.attempt e.filing.nested true id).Files Settles none [] := by
    refine .bind (.quiet (fun _ => ⟨rfl, rfl⟩) fun c => ?_)
    split
    · exact .pure ⟨nofun, nofun⟩
    · split
      · exact .pure ⟨nofun, nofun⟩
      · exact enter_files (e.filing.dispatchAll_uses e.filing.nested_uses) id
  have goesOn (within : Bool) : (if within then e.filing.attempt e.filing.nested true id
      else pure (.error .beyondClock)).Files Settles none [] :=
    match within with
    | true => begins
    | false => .pure ⟨nofun, nofun⟩
  refine .bind (modifyContext_files _ (.bind ?_))
  unfold limitTime
  split
  · exact .pure (goesOn true)
  · rename_i ms _
    refine .quiet (fun s => ⟨rfl, ?_⟩) goesOn
    cases limited : e.host.limit ms s.host.1 with
    | none | some => simp [filing, Host.watched, limited]

end Engine
end TestScenario
