import Mathlib
import TestScenario.Catalog.Parts
import TestScenario.Engine.Rehearsal
import TestScenario.Proofs.Filing

/-!
Runs at the same time, which keep their records in the same memory. They take their steps in any order, and between two
steps of a run anything may happen to the world around it. Still each run adds one record at most, and the record of a
run that has come to its end is in its last state (`records_settled`).
-/

namespace TestScenario
variable {ι σ η : Type}

/-- A run that is asked for. -/
structure Errand (σ : Type) where
  engine : Engine σ MemoryHistory
  id : Int
  envKey : String
  host : σ

/-- A run under way: what it has left to do, and its own part of the stage. The memory is not its own. -/
structure Task (σ : Type) where
  rest : WatchedAct σ Ending
  context : Context := {}
  host : σ
  seen : List Sighting := []
  events : Array Event := #[]

/-- The turn of a run, before which something may happen to the world around it. -/
structure Turn (ι σ : Type) where
  who : ι
  world : σ → σ

/-- Runs under way, and the memory where all of them keep their records. -/
structure Crowd (ι σ : Type) where
  tasks : ι → Task σ
  kept : MemoryHistory := {}

/-- The run as it begins. -/
def Errand.task (errand : Errand σ) : Task σ :=
  { rest := errand.engine.filing.execute errand.id errand.envKey, host := errand.host }

/-- The stage on which a run takes its next step. -/
def Task.stage (task : Task σ) (world : σ → σ) (kept : MemoryHistory) : WatchedStage σ :=
  { context := task.context, host := (world task.host, task.seen), kept, events := task.events }

/-- The run, and what is kept, after its next step. A run that has come to its end stays there. -/
def Task.advance (task : Task σ) (world : σ → σ) (kept : MemoryHistory) : Task σ × MemoryHistory :=
  match task.rest with
  | .answer _ => (task, kept)
  | .step change next =>
    let (answer, after) := change (task.stage world kept)
    let (host, seen) := after.host
    ({ rest := next answer, context := after.context, host, seen, events := after.events }, after.kept)

namespace Crowd
variable [DecidableEq ι]

/-- The crowd after a turn. -/
def advance (c : Crowd ι σ) (turn : Turn ι σ) : Crowd ι σ :=
  let advanced := (c.tasks turn.who).advance turn.world c.kept
  { tasks := Function.update c.tasks turn.who advanced.1, kept := advanced.2 }

/-- The crowd after some turns. -/
def play (c : Crowd ι σ) (turns : List (Turn ι σ)) : Crowd ι σ := turns.foldl advance c

/-- The runs in whose turns records have been added, one for each record. -/
def owners (c : Crowd ι σ) : List (Turn ι σ) → List ι
  | [] => []
  | turn :: rest =>
    let after := c.advance turn
    List.replicate (after.kept.records.length - c.kept.records.length) turn.who ++ after.owners rest

end Crowd

/-- Runs that begin with nothing kept. -/
def Crowd.begin (errands : ι → Errand σ) : Crowd ι σ := { tasks := fun i => (errands i).task }

/-! ### Records and their owners -/

/-- Records one for each of their owners, numbered from one. -/
structure Books (owners : List ι) (records : List RunRecord) (own : ι → Option RunRecord) : Prop where
  once : owners.Nodup
  owned : records.map some = owners.map own
  numbered : ∀ (k : Nat) r, records[k]? = some r → r.id = some (k + 1)
  listed : ∀ i, (own i).isSome → i ∈ owners

namespace MemoryHistory

/-- Among records with ids of their own the one with the id is replaced. -/
theorem replaceFirst_eq_set {r r' : RunRecord} {records : List RunRecord} {k : Nat} (same : r'.id = r.id)
    (here : records[k]? = some r) (numbered : r.id.isSome) (apart : ∀ j s, j < k → records[j]? = some s → s.id ≠ r.id) :
    replaceFirst r' records = some (records.set k r') := by
  induction records generalizing k with
  | nil => simp at here
  | cons first rest ih =>
    unfold replaceFirst
    cases k with
    | zero =>
      cases here
      simp [same, numbered]
    | succ k =>
      have other : first.id ≠ r.id := apart 0 first (Nat.succ_pos k) rfl
      have later := ih here fun j s before at_j => apart (j + 1) s (Nat.succ_lt_succ before) at_j
      simp [same, other, later]

end MemoryHistory

namespace Books
variable {owners : List ι} {records : List RunRecord} {own : ι → Option RunRecord} {i : ι} {r : RunRecord}

/-- Owners and records belong to each other in order. -/
theorem paired (books : Books owners records own) : List.Forall₂ (fun i r => own i = some r) owners records := by
  have equal : List.Forall₂ Eq (owners.map own) (records.map some) := by
    rw [List.forall₂_eq_eq_eq]
    exact books.owned.symm
  exact List.forall₂_map_right_iff.mp (List.forall₂_map_left_iff.mp equal)

/-- A run with a record is the owner of some place, where its record is. -/
theorem place (books : Books owners records own) (has : own i = some r) :
    ∃ k : Nat, owners[k]? = some i ∧ records[k]? = some r := by
  obtain ⟨k, here⟩ := List.getElem?_of_mem (books.listed i (by rw [has]; rfl))
  refine ⟨k, here, ?_⟩
  have both := congrArg (fun l : List (Option RunRecord) => l[k]?) books.owned
  simpa [here, has] using both

/-- A run without a record is no owner. -/
theorem not_mem (books : Books owners records own) (none : own i = none) : i ∉ owners := by
  intro member
  have some : own i ∈ records.map some := by
    rw [books.owned]
    exact List.mem_map_of_mem member
  rw [none] at some
  obtain ⟨r, -, impossible⟩ := List.mem_map.mp some
  cases impossible

/-- The record of a run is found by its id. -/
theorem replaceFirst (books : Books owners records own) {k : Nat} (here : records[k]? = some r) {r' : RunRecord}
    (same : r'.id = r.id) : MemoryHistory.replaceFirst r' records = some (records.set k r') := by
  have number := books.numbered k r here
  refine MemoryHistory.replaceFirst_eq_set same here (by rw [number]; rfl) ?_
  intro j s before there equal
  rw [books.numbered j s there, number] at equal
  simp at equal
  omega

variable [DecidableEq ι]

theorem added (books : Books owners records own) (none : own i = none) (numbered : r.id = some (records.length + 1)) :
    Books (owners ++ [i]) (records ++ [r]) (Function.update own i (some r)) := by
  have fresh := books.not_mem none
  refine ⟨?_, ?_, ?_, ?_⟩
  · rw [← List.concat_eq_append]
    exact books.once.concat fresh
  · have others : owners.map (Function.update own i (some r)) = owners.map own := by
      refine List.map_congr_left fun j member => Function.update_of_ne ?_ _ _
      rintro rfl
      exact fresh member
    rw [List.map_append, List.map_append, others, books.owned, List.map_singleton, List.map_singleton,
      Function.update_self]
  · intro k s here
    rw [List.getElem?_append] at here
    split at here
    · exact books.numbered k s here
    · rename_i late
      have last : k = records.length := by
        have bound := (List.getElem?_eq_some_iff.mp here).1
        simp only [List.length_singleton] at bound
        omega
      subst last
      rw [Nat.sub_self] at here
      cases here
      exact numbered
  · intro j has
    by_cases same : j = i
    · rw [same]
      exact List.mem_append_right _ (List.mem_singleton_self i)
    · rw [Function.update_of_ne same] at has
      exact List.mem_append_left _ (books.listed j has)

theorem replaced (books : Books owners records own) (has : own i = some r) {k : Nat} (owns : owners[k]? = some i)
    (here : records[k]? = some r) {r' : RunRecord} (same : r'.id = r.id) :
    Books owners (records.set k r') (Function.update own i (some r')) := by
  refine ⟨books.once, ?_, ?_, ?_⟩
  · obtain ⟨bound, mine⟩ := List.getElem?_eq_some_iff.mp owns
    rw [List.map_set, books.owned]
    refine List.ext_getElem? fun j => ?_
    by_cases equal : k = j
    · subst equal
      simp [bound, mine]
    · rw [List.getElem?_set_ne equal, List.getElem?_map, List.getElem?_map]
      cases there : owners[j]? with
      | none => rfl
      | some m =>
        have other : m ≠ i := by
          rintro rfl
          exact equal ((List.getElem?_inj bound books.once).mp (owns.trans there.symm))
        rw [Option.map_some, Option.map_some, Function.update_of_ne other]
  · intro j s there
    rw [List.getElem?_set] at there
    split at there
    · rename_i equal
      subst equal
      split at there
      · cases there
        exact same.trans (books.numbered k r here)
      · cases there
    · exact books.numbered j s there
  · intro j other
    by_cases equal : j = i
    · rw [equal]
      exact List.mem_of_getElem? owns
    · rw [Function.update_of_ne equal] at other
      exact books.listed j other

/-- The books after a step of a run. -/
theorem filed {before after : MemoryHistory} {own' : Option RunRecord} (books : Books owners before.records own)
    (filed : Filed before after (own i) own') :
    Books (owners ++ List.replicate (after.records.length - before.records.length) i) after.records
      (Function.update own i own') := by
  generalize has : own i = mine at filed
  cases filed with
  | still own same =>
    rw [same, Nat.sub_self, List.replicate_zero, List.append_nil, ← has, Function.update_eq_self]
    exact books
  | added r numbered added =>
    rw [added, List.length_append, Nat.add_sub_cancel_left]
    exact books.added has numbered
  | replaced r r' same replaced =>
    obtain ⟨k, owns, here⟩ := books.place has
    have found := books.replaceFirst here same
    have records : after.records = before.records.set k r' := by rw [replaced, MemoryHistory.update, found]
    rw [records, List.length_set, Nat.sub_self, List.replicate_zero, List.append_nil]
    exact books.replaced has owns here same

end Books

/-! ### Turn by turn -/

/-- A run that has something left to do takes its next step. -/
theorem Task.advance_step {task : Task σ} {β : Type} {change : WatchedStage σ → β × WatchedStage σ}
    {next : β → WatchedAct σ Ending} (left : task.rest = .step change next) (world : σ → σ) (kept : MemoryHistory) :
    (task.advance world kept).1.rest = next (change (task.stage world kept)).1 ∧
      (task.advance world kept).1.stage id (task.advance world kept).2 = (change (task.stage world kept)).2 := by
  rw [Task.advance, left]
  exact ⟨rfl, rfl⟩

/-- What a run does to its record in a turn. -/
theorem Task.advance_filed {task : Task σ} {post : Ending → Option RunRecord → List Sighting → Prop}
    {own : Option RunRecord} (files : task.rest.Files post own task.seen) (world : σ → σ) (kept : MemoryHistory) :
    ∃ own', Filed kept (task.advance world kept).2 own own' ∧
      (task.advance world kept).1.rest.Files post own' (task.advance world kept).1.seen := by
  obtain ⟨rest, context, host, seen, events⟩ := task
  cases rest with
  | answer ending => exact ⟨own, .still own rfl, files⟩
  | step change next => exact files (Task.stage ⟨_, context, host, seen, events⟩ world kept) rfl

namespace Crowd

/-- Crowds in good order: their records have owners, and every run will settle its own record. -/
structure Orderly (c : Crowd ι σ) (owners : List ι) (own : ι → Option RunRecord) : Prop where
  books : Books owners c.kept.records own
  files : ∀ i, (c.tasks i).rest.Files Engine.Settles (own i) (c.tasks i).seen

theorem begin_orderly (errands : ι → Errand σ) : (begin errands).Orderly [] fun _ => none where
  books := ⟨List.nodup_nil, rfl, nofun, nofun⟩
  files i := Engine.execute_files (errands i).id (errands i).envKey

variable [DecidableEq ι]

theorem tasks_advance_self (c : Crowd ι σ) (turn : Turn ι σ) :
    (c.advance turn).tasks turn.who = ((c.tasks turn.who).advance turn.world c.kept).1 :=
  Function.update_self _ _ _

theorem tasks_advance_of_ne (c : Crowd ι σ) (turn : Turn ι σ) {i : ι} (other : i ≠ turn.who) :
    (c.advance turn).tasks i = c.tasks i :=
  Function.update_of_ne other _ _

/-- A turn keeps the order. -/
theorem Orderly.advance {c : Crowd ι σ} {owners : List ι} {own : ι → Option RunRecord} (orderly : c.Orderly owners own)
    (turn : Turn ι σ) :
    ∃ own', (c.advance turn).Orderly
      (owners ++ List.replicate ((c.advance turn).kept.records.length - c.kept.records.length) turn.who) own' := by
  obtain ⟨mine, filed, rest⟩ := Task.advance_filed (orderly.files turn.who) turn.world c.kept
  refine ⟨Function.update own turn.who mine, orderly.books.filed filed, ?_⟩
  intro i
  by_cases same : i = turn.who
  · rw [same, tasks_advance_self, Function.update_self]
    exact rest
  · rw [tasks_advance_of_ne _ _ same, Function.update_of_ne same]
    exact orderly.files i

theorem Orderly.play {c : Crowd ι σ} {owners : List ι} {own : ι → Option RunRecord} (orderly : c.Orderly owners own)
    (turns : List (Turn ι σ)) : ∃ own', (c.play turns).Orderly (owners ++ c.owners turns) own' := by
  induction turns generalizing c owners own with
  | nil => exact ⟨own, by rwa [Crowd.owners, List.append_nil]⟩
  | cons turn rest ih =>
    obtain ⟨own', first⟩ := orderly.advance turn
    obtain ⟨own'', later⟩ := ih first
    refine ⟨own'', ?_⟩
    rwa [Crowd.owners, ← List.append_assoc]

theorem play_append (c : Crowd ι σ) (first later : List (Turn ι σ)) :
    c.play (first ++ later) = (c.play first).play later := List.foldl_append

/-- As long as others take their turns a run stays where it is. -/
theorem tasks_play_of_others (c : Crowd ι σ) {turns : List (Turn ι σ)} {i : ι} (others : ∀ turn ∈ turns, i ≠ turn.who) :
    (c.play turns).tasks i = c.tasks i := by
  induction turns generalizing c with
  | nil => rfl
  | cons turn rest ih =>
    obtain ⟨here, later⟩ := List.forall_mem_cons.mp others
    exact (ih (c.advance turn) later).trans (tasks_advance_of_ne c turn here)

/-- A run whose turn comes again and again comes to its end. -/
theorem ends (c : Crowd ι σ) (turns : ℕ → Turn ι σ) (i : ι) (fair : ∀ n, ∃ m, n ≤ m ∧ (turns m).who = i) :
    ∃ n ending, ((c.play ((List.range n).map turns)).tasks i).rest = .answer ending := by
  generalize left : (c.tasks i).rest = rest
  induction rest generalizing c turns with
  | answer ending => exact ⟨0, ending, left⟩
  | step change next ih =>
    obtain ⟨m, mine, before⟩ : ∃ m, (turns m).who = i ∧ ∀ k < m, (turns k).who ≠ i := by
      classical
      have some : ∃ m, (turns m).who = i := (fair 0).imp fun _ both => both.2
      exact ⟨Nat.find some, Nat.find_spec some, fun k earlier => Nat.find_min some earlier⟩
    have waiting : (c.play ((List.range m).map turns)).tasks i = c.tasks i := by
      refine c.tasks_play_of_others fun turn member => ?_
      obtain ⟨k, earlier, rfl⟩ := List.mem_map.mp member
      exact (before k (List.mem_range.mp earlier)).symm
    have moved := (Task.advance_step left (turns m).world (c.play ((List.range m).map turns)).kept).1
    rw [← waiting, ← mine, ← tasks_advance_self, mine] at moved
    have again : ∀ n, ∃ k, n ≤ k ∧ (turns (m + 1 + k)).who = i := by
      intro n
      obtain ⟨k, later, own⟩ := fair (m + 1 + n)
      exact ⟨k - (m + 1), by omega, by rwa [Nat.add_sub_cancel' (by omega)]⟩
    obtain ⟨n, ending, ended⟩ := ih _ _ _ again moved
    refine ⟨m + 1 + n, ending, ?_⟩
    rw [List.range_add, List.map_append, play_append, List.map_map, List.range_succ, List.map_append, play_append]
    exact ended

/-- A run that is left alone comes to what it comes to at a stretch. -/
theorem play_alone (c : Crowd ι σ) (i : ι) :
    let ran := (c.tasks i).rest.run ((c.tasks i).stage id c.kept)
    ∃ n, let after := c.play (List.replicate n ⟨i, id⟩)
      (after.tasks i).rest = .answer ran.1 ∧ (after.tasks i).stage id after.kept = ran.2 := by
  generalize left : (c.tasks i).rest = rest
  induction rest generalizing c with
  | answer ending => exact ⟨0, left, rfl⟩
  | step change next ih =>
    obtain ⟨moved, stage⟩ := Task.advance_step left id c.kept
    rw [← tasks_advance_self c ⟨i, id⟩] at moved stage
    obtain ⟨n, ended⟩ := ih _ _ moved
    refine ⟨n + 1, ?_⟩
    rw [List.replicate_succ]
    have staged : ((c.advance ⟨i, id⟩).tasks i).stage id (c.advance ⟨i, id⟩).kept =
        (change ((c.tasks i).stage id c.kept)).2 := stage
    rw [staged] at ended
    exact ended

/-- However the turns of some runs are mixed that keep their records in one memory, every run adds one record at most.
    When it has come to its end, its record is settled; and if it has come to results, it has a record. It comes to
    its end if its turn comes again and again. -/
theorem records_settled (errands : ι → Errand σ) :
    (∀ turns : List (Turn ι σ),
      let c := (begin errands).play turns
      let owners := (begin errands).owners turns
      owners.Nodup ∧
        List.Forall₂ (fun i r => ∀ ending, (c.tasks i).rest = .answer ending →
          RunRecord.Settled r ending (c.tasks i).seen) owners c.kept.records ∧
        ∀ i results, (c.tasks i).rest = .answer (.ok results) → i ∈ owners) ∧
      ∀ (turns : ℕ → Turn ι σ) (i : ι), (∀ n, ∃ m, n ≤ m ∧ (turns m).who = i) →
        ∃ n ending, (((begin errands).play ((List.range n).map turns)).tasks i).rest = .answer ending := by
  refine ⟨fun turns => ?_, (begin errands).ends⟩
  obtain ⟨own, orderly⟩ := (begin_orderly errands).play turns
  rw [List.nil_append] at orderly
  refine ⟨orderly.books.once, ?_, ?_⟩
  · refine orderly.books.paired.imp fun i r mine ending ended => ?_
    have settles := orderly.files i
    rw [ended] at settles
    exact settles.1 r mine
  · intro i results ended
    have settles := orderly.files i
    rw [ended] at settles
    exact orderly.books.listed i (settles.2 ⟨results, rfl⟩)

/-- The steps of one run cannot be loaded, and those of the other run pass while both take turns. -/
theorem records_settled_side_by_side :
    let script : StepRow := { id := 1, kind := .script, control := some (.obj [("script", .str "x = 1")]) }
    let c : Catalog := { scenarios := [{ id := 1, name := "Assign", rows := [script] }] }
    let host : Host (Rehearsal CallLog) := c.host (Rehearsal.world (Prepared.runCase []))
    let broken : Host (Rehearsal CallLog) := { host with steps := fun _ s => (.error (.because "disk on fire"), s) }
    let errands (i : Bool) : Errand (Rehearsal CallLog) :=
      ⟨{ host := if i then broken else host }, 1, "dev", { services := [] }⟩
    let turns : List (Turn Bool (Rehearsal CallLog)) := (List.range 80).map fun n => ⟨n % 2 = 0, id⟩
    let out := (begin errands).play turns
    ∃ r q problem results, out.kept.records = [r, q] ∧ (out.tasks true).rest = .answer (.error problem) ∧
      (out.tasks false).rest = .answer (.ok results) ∧ r.Settled (.error problem) (out.tasks true).seen ∧
      q.Settled (.ok results) (out.tasks false).seen := by
  intro script c host broken errands turns out
  have who : (begin errands).owners turns = [true, false] := by cbv
  obtain ⟨-, settled, -⟩ := (records_settled errands).1 turns
  rw [who] at settled
  obtain ⟨r, rest, here, others, records⟩ := List.forall₂_cons_left_iff.mp settled
  obtain ⟨q, none, there, last, more⟩ := List.forall₂_cons_left_iff.mp others
  cases last
  subst more
  have failed : (out.tasks true).rest = .answer (.error (.steps 1 (.because "disk on fire"))) := by cbv
  have passed : (out.tasks false).rest =
      .answer (.ok [.withMessage 1 "Script" .pass "Script executed successfully"]) := by cbv
  exact ⟨r, q, _, _, records, failed, passed, here _ failed, there _ passed⟩

end Crowd
end TestScenario
