import Mathlib
import TestScenario.Proofs.LoopVariables

/-!
The rounds of a loop that is not cancelled. They are run one after the other, each in a new scope with the variables of
the round and nothing else, as many times as the settings say when the loop begins (`loop_rounds`).
-/

namespace TestScenario
variable {σ η : Type}

/-- A round of a loop. -/
structure LoopRound (σ η : Type) where
  /-- Where the loop is asked whether it goes on. -/
  asked : Stage σ η
  /-- Where it has said so. -/
  before : Stage σ η
  /-- Where the steps inside begin. -/
  begun : Stage σ η
  results : List StepResult
  /-- Where the steps inside have ended. -/
  ended : Stage σ η

/-- The stage with the innermost scope closed. Those of its variables that are new to the scope around go there. -/
def Stage.closed (s : Stage σ η) : Stage σ η :=
  { s with context := s.context.mapScopes fun scopes => (scopes.mergeUp none).dropTop }

/-- The steps inside begin in a new scope that holds some variables and no others. -/
structure LoopRound.Sees (r : LoopRound σ η) (vars : String → Option Json) : Prop where
  fresh : r.begun.context.scopes.below = r.before.context.scopes.all
  holds : ∀ name, r.begun.context.scopes.current.get? name = vars name

/-- The steps inside see the variables of their round, counted from zero. -/
def InOrder (rounds : List (LoopRound σ η)) (vars : Nat → String → Option Json) : Prop :=
  ∀ (i : Nat) (r : LoopRound σ η), rounds[i]? = some r → r.Sees (vars i)

/-- The value is a list of some items, or the text of such a list. -/
inductive Json.Lists : Json → List Json → Prop
  | items (items : List Json) : Lists (.arr items) items
  | text {text : String} {items : List Json} : Json.parse text = some (.arr items) → Lists (.str text) items

theorem Json.items?_eq_some_iff {v : Json} {items : List Json} : v.items? = some items ↔ v.Lists items := by
  constructor
  · intro given
    cases v with
    | arr found =>
      cases given
      exact .items items
    | str text =>
      simp only [Json.items?] at given
      split at given
      · rename_i found parsed
        cases given
        exact .text parsed
      · cases given
    | null | bool _ | num _ | obj _ => cases given
  · rintro (_ | parsed)
    · rfl
    · simp only [Json.items?, parsed]

/-- What a loop over a variable goes through: the items of its list, or nothing if it is none. -/
def Scopes.Items (scopes : Scopes) (name : String) (items : List Json) : Prop :=
  (∃ v, scopes.get? name = some v ∧ v.Lists items) ∨
    items = [] ∧ ∀ v, scopes.get? name = some v → ∀ others, ¬ v.Lists others

theorem Scopes.items (scopes : Scopes) (name : String) :
    scopes.Items name (((scopes.get? name).bind Json.items?).getD []) := by
  cases found : (scopes.get? name).bind Json.items? with
  | none =>
    refine .inr ⟨rfl, ?_⟩
    intro v held others lists
    rw [held, Option.bind_some, Json.items?_eq_some_iff.mpr lists] at found
    cases found
  | some items =>
    obtain ⟨v, held, lists⟩ := Option.bind_eq_some_iff.mp found
    exact .inl ⟨v, held, Json.items?_eq_some_iff.mp lists⟩

theorem Scopes.Items.eq {scopes : Scopes} {name : String} {items others : List Json} {v : Json}
    (through : scopes.Items name items) (held : scopes.get? name = some v) (lists : v.Lists others) :
    items = others := by
  rcases through with ⟨w, found, listed⟩ | ⟨-, never⟩
  · cases held.symm.trans found
    exact Option.some.inj ((Json.items?_eq_some_iff.mpr listed).symm.trans (Json.items?_eq_some_iff.mpr lists))
  · exact absurd lists (never v held others)

/-- The counters of a round, and nothing else. -/
def LoopSettings.counted (i : Nat) (name : String) : Option Json :=
  if name = "loopIndex" then some (.ofNat i) else if name = "loopIteration" then some (.ofNat (i + 1)) else none

theorem LoopSettings.get?_counters (i : Nat) : Dict.get? (counters i).reverse = counted i := by
  funext name
  simp only [counters, List.reverse_cons, List.reverse_nil, List.nil_append, List.cons_append, Dict.get?_cons,
    Dict.get?_nil, counted]
  by_cases index : name = "loopIndex"
  · rw [index]
    rfl
  · rw [if_neg index, if_neg index]

/-- The item of a round under one name and its index under another. If these are the same, the index counts. -/
theorem LoopSettings.get?_item (item index : String) {items : List Json} {i : Nat} (inside : i < items.length)
    (name : String) :
    Dict.get? [(item, items.getD i .null), (index, .ofNat i)].reverse name =
      if name = index then some (.ofNat i) else if name = item then items[i]? else none := by
  rw [List.getElem?_eq_getElem inside, List.getD_eq_getElem _ _ inside]
  simp only [List.reverse_cons, List.reverse_nil, List.nil_append, List.cons_append, Dict.get?_cons, Dict.get?_nil]

namespace Engine
variable (e : Engine σ η)
open Act Stage LoopSettings

/-- The run is cancelled at no moment of an action. -/
def Uncancelled {α : Type} (x : Act σ η α) (s : Stage σ η) : Prop :=
  ∀ m ∈ x.trail s, ¬ e.host.isCancelled m.host

/-- Rounds one after the other, counted from `i`, that lead from one stage to another. Before each of them the run is
    found not to be cancelled and the loop to go on. -/
inductive Rounds (goesOn : Act σ η Bool) (bindings : Nat → List (String × Json))
    (body : Act σ η (List StepResult)) : Nat → Stage σ η → List (LoopRound σ η) → Stage σ η → Prop
  | done (i : Nat) (s : Stage σ η) : Rounds goesOn bindings body i s [] s
  | next {i : Nat} {s t : Stage σ η} {r : LoopRound σ η} {later : List (LoopRound σ η)} :
      e.isCancelled.run s = (false, r.asked) → goesOn.run r.asked = (true, r.before) →
      r.begun = r.before.opened (bindings i) → body.run r.begun = (r.results, r.ended) →
      Rounds goesOn bindings body (i + 1) r.ended.closed later t → Rounds goesOn bindings body i s (r :: later) t

/-- What decides whether a loop goes on. -/
def goesOn (settings : LoopSettings) : Act σ η Bool :=
  match settings.mode with
  | .count | .foreach => pure true
  | .while => e.condition (settings.condition.getD "true")

/-- How many rounds a loop has at most, where it begins with some scopes. -/
def roundLimit (settings : LoopSettings) (scopes : Scopes) : Nat :=
  match settings.mode with
  | .count => settings.count.getD 1
  | .foreach => (((scopes.get? (settings.iterableVar.getD "")).bind Json.items?).getD []).length
  | .while => settings.maxIterations.getD e.config.defaultMaxIterations

variable {e}

theorem uncancelled_of_all {α : Type} {x : Act σ η α} {s : Stage σ η}
    (still : (x.trail s).all (!e.host.isCancelled ·.host) = true) : e.Uncancelled x s := by
  intro m member
  simpa using List.all_eq_true.mp still m member

theorem Uncancelled.left {α β : Type} {x : Act σ η α} {f : α → Act σ η β} {s : Stage σ η}
    (running : e.Uncancelled (x >>= f) s) : e.Uncancelled x s := by
  intro m member
  refine running m ?_
  rw [trail_bind]
  exact List.mem_append_left _ member

theorem Uncancelled.right {α β : Type} {x : Act σ η α} {f : α → Act σ η β} {s : Stage σ η}
    (running : e.Uncancelled (x >>= f) s) : e.Uncancelled (f (x.run s).1) (x.run s).2 := by
  intro m member
  refine running m ?_
  rw [trail_bind]
  exact List.mem_append_right _ member

theorem Uncancelled.look {s : Stage σ η} (running : e.Uncancelled e.isCancelled s) :
    e.isCancelled.run s = (false, (e.isCancelled.run s).2) := by
  have still := running (e.isCancelled.run s).2 List.mem_cons_self
  exact Prod.ext (eq_false_of_ne_true still) rfl

section
variable {goesOn : Act σ η Bool} {bindings : Nat → List (String × Json)} {body : Act σ η (List StepResult)}
  {i : Nat} {s t asked before ended : Stage σ η} {results : List StepResult} {rounds : List (LoopRound σ η)}

theorem round_stops (looked : e.isCancelled.run s = (false, asked)) (stops : goesOn.run asked = (false, before)) :
    (e.round goesOn bindings body i).run s = (none, before) := by
  rw [round, run_bind, looked]
  simp only [Bool.false_eq_true, if_false]
  rw [run_bind, stops]
  rfl

theorem round_runs (looked : e.isCancelled.run s = (false, asked)) (goes : goesOn.run asked = (true, before))
    (ran : body.run (before.opened (bindings i)) = (results, ended)) :
    (e.round goesOn bindings body i).run s = (some results, ended.closed) := by
  rw [round, run_bind, looked]
  simp only [Bool.false_eq_true, if_false]
  rw [run_bind, goes]
  simp only [if_true]
  have inside : (inScope (bindings i) body).run before = (results, ended.closed) := by
    rw [run_inScope]
    exact congrArg (fun p : List StepResult × Stage σ η => (p.1, p.2.closed)) ran
  rw [run_map, inside]

/-- A loop that is not cancelled has all its rounds, or else it is found not to go on after the last one. -/
theorem rounds_run (limit i : Nat) {s : Stage σ η}
    (running : e.Uncancelled (Act.rounds (e.round goesOn bindings body) limit i) s) :
    ∃ rounds last ended, e.Rounds goesOn bindings body i s rounds last ∧
      (Act.rounds (e.round goesOn bindings body) limit i).run s = ((rounds.map (·.results)).flatten, ended) ∧
      (rounds.length = limit ∧ ended = last ∨ rounds.length < limit ∧
        (e.isCancelled.run last).1 = false ∧ goesOn.run (e.isCancelled.run last).2 = (false, ended)) := by
  induction limit generalizing i s with
  | zero => exact ⟨[], s, s, .done i s, rfl, .inl ⟨rfl, rfl⟩⟩
  | succ limit ih =>
    -- No look finds the run cancelled, so only the loop itself can decide that this round is not run.
    have looked := running.left.left.look
    have later := running.right
    rw [Act.rounds, run_bind]
    cases asked : goesOn.run (e.isCancelled.run s).2 with
    | mk answer before =>
      cases answer with
      | false =>
        rw [round_stops looked asked]
        exact ⟨[], s, before, .done i s, rfl, .inr ⟨Nat.succ_pos limit, congrArg Prod.fst looked, asked⟩⟩
      | true =>
        let inside := body.run (before.opened (bindings i))
        have ran : (e.round goesOn bindings body i).run s = (some inside.1, inside.2.closed) :=
          round_runs looked asked rfl
        rw [ran] at later ⊢
        obtain ⟨rounds, last, ended, chain, run, ends⟩ := ih (i + 1) later.left
        refine ⟨⟨_, before, _, inside.1, inside.2⟩ :: rounds, last, ended, .next looked asked rfl rfl chain, ?_, ?_⟩
        · simp only
          rw [run_bind, run]
          rfl
        · rw [List.length_cons, Nat.add_right_cancel_iff, Nat.add_lt_add_iff_right]
          exact ends

namespace Rounds

/-- Every round sees what the loop binds in it. -/
theorem sees (chain : e.Rounds goesOn bindings body i s rounds t) :
    InOrder rounds fun k => Dict.get? (bindings (i + k)).reverse := by
  intro k r kth
  induction chain generalizing k with
  | done i s => cases kth
  | @next i s t first later looked goes begun ran chain ih =>
    cases k with
    | zero =>
      cases kth
      refine ⟨?_, ?_⟩
      · rw [begun]
        exact Scopes.below_setLocals _ _
      · intro name
        rw [begun]
        exact (Scopes.get?_current_setLocals _ _ name).trans Option.or_none
    | succ k =>
      have seen : r.Sees (Dict.get? (bindings (i + 1 + k)).reverse) := ih k kth
      rwa [Nat.add_assoc, Nat.add_comm 1 k] at seen

/-- Before every round the loop goes on. -/
theorem went (chain : e.Rounds goesOn bindings body i s rounds t) :
    ∀ r ∈ rounds, goesOn.run r.asked = (true, r.before) := by
  induction chain with
  | done i s => exact List.forall_mem_nil _
  | next looked goes begun ran chain ih => exact List.forall_mem_cons.mpr ⟨goes, ih⟩

end Rounds

end

/-! ### Loops -/

variable (e) in
/-- Where a loop begins its rounds. -/
def started (step : Step) (s : Stage σ η) : Stage σ η :=
  (e.isCancelled.run ((e.emit (.stepStarted step.row.id step.row.name)).run s).2).2

/-- The run of a loop through some rounds, up to the stage where the loop ends. It has all its rounds, or else it is
    found not to go on after the last one. -/
structure Loops (e : Engine σ η) (step : Step) (s : Stage σ η) (rounds : List (LoopRound σ η))
    (last ended : Stage σ η) : Prop where
  chain : e.Rounds (e.goesOn step.loopSettings) (step.loopSettings.bindings s.context.scopes)
    (e.dispatchAll e.nested step.children) 0 (e.started step s) rounds last
  run : let results := (rounds.map (·.results)).flatten
    (e.dispatch e.nested step).run s = (results, ((e.log step results).run ended).2)
  ends : let limit := e.roundLimit step.loopSettings s.context.scopes
    rounds.length = limit ∧ ended = last ∨ rounds.length < limit ∧ (e.isCancelled.run last).1 = false ∧
      (e.goesOn step.loopSettings).run (e.isCancelled.run last).2 = (false, ended)

theorem started_context (step : Step) (s : Stage σ η) : (e.started step s).context = s.context :=
  ((e.isCancelled_own.ensures _).context).trans ((e.emit_context _).ensures s)

/-- A loop takes what its rounds depend on from the scopes that it begins with. -/
theorem loopStep_eq (step : Step) (body : Act σ η (List StepResult)) (s : Stage σ η) :
    let rounds := e.loopRounds (e.goesOn step.loopSettings) (step.loopSettings.bindings s.context.scopes)
      (e.roundLimit step.loopSettings s.context.scopes) body
    (e.loopStep step body).run s = rounds.run s ∧
      (e.Uncancelled (e.loopStep step body) s → e.Uncancelled rounds s) := by
  unfold loopStep goesOn LoopSettings.bindings roundLimit
  simp only
  cases step.loopSettings.mode with
  | count => exact ⟨rfl, id⟩
  | foreach => exact ⟨rfl, fun running => running.right⟩
  | «while» => exact ⟨rfl, id⟩

/-- A loop that is not cancelled runs through some rounds, whatever its mode is. -/
theorem dispatch_loops (step : Step) (loop : step.row.kind = .loop) (enabled : ¬ step.isDisabled)
    (able : e.kinds.contains .loop) (s : Stage σ η) (running : e.Uncancelled (e.dispatch e.nested step) s) :
    ∃ rounds last ended, e.Loops step s rounds last ended := by
  obtain ⟨row, children⟩ := step
  simp only [dispatch, perform, if_neg enabled] at running
  have looked : e.isCancelled.run ((e.emit (.stepStarted row.id row.name)).run s).2 =
      (false, e.started ⟨row, children⟩ s) := running.right.left.look
  have going := running.right.right
  have invoked : e.proceed e.nested ⟨row, children⟩ (e.dispatchAll e.nested children) false =
      e.loopStep ⟨row, children⟩ (e.dispatchAll e.nested children) := by
    have kind : row.kind = .loop := loop
    simp only [proceed, Bool.false_eq_true, if_false, invoke, kind, able, if_true]
  rw [looked, invoked] at going
  obtain ⟨same, still⟩ := loopStep_eq (e := e) ⟨row, children⟩ (e.dispatchAll e.nested children)
    (e.started ⟨row, children⟩ s)
  rw [started_context] at same still
  obtain ⟨rounds, last, ended, chain, ran, ends⟩ := rounds_run _ 0 (still going.left)
  refine ⟨rounds, last, ended, chain, ?_, ends⟩
  simp only [dispatch, perform, if_neg enabled]
  rw [run_bind, run_bind, looked, invoked, run_bind, same.trans ran, run_bind]
  rfl

/-- A loop that always goes on has all its rounds. -/
theorem length_of_pure {rounds : List (LoopRound σ η)} {limit : Nat} {s t last ended : Stage σ η}
    (ends : rounds.length = limit ∧ ended = last ∨
      rounds.length < limit ∧ (e.isCancelled.run s).1 = false ∧ (pure true : Act σ η Bool).run t = (false, ended)) :
    rounds.length = limit := by
  rcases ends with ⟨all, -⟩ | ⟨-, -, stops⟩
  · exact all
  · exact Bool.noConfusion (congrArg Prod.fst stops)

/-- What a loop does in a run that is not cancelled. Its rounds follow one another, each in a new scope that holds the
    variables of the round and nothing else, and their results are the results of the loop. It counts as many rounds
    as its settings say, or has one for each item that its list had when the loop began, or goes on as long as its
    condition holds, up to a limit. -/
theorem loop_rounds (step : Step) (loop : step.row.kind = .loop) (enabled : ¬ step.isDisabled)
    (able : e.kinds.contains .loop) (s : Stage σ η) (running : e.Uncancelled (e.dispatch e.nested step) s) :
    let settings := step.loopSettings
    ∃ rounds last ended, e.Loops step s rounds last ended ∧
      match settings.mode with
      | .count => rounds.length = settings.count.getD 1 ∧ InOrder rounds counted
      | .foreach => ∃ items, s.context.scopes.Items (settings.iterableVar.getD "") items ∧
          rounds.length = items.length ∧ InOrder rounds fun i name =>
            if name = settings.indexVar.getD "index" then some (.ofNat i)
            else if name = settings.itemVar.getD "item" then items[i]?
            else none
      | .while =>
          let limit := settings.maxIterations.getD e.config.defaultMaxIterations
          let condition := e.condition (settings.condition.getD "true")
          rounds.length ≤ limit ∧ InOrder rounds counted ∧
            (∀ r ∈ rounds, condition.run r.asked = (true, r.before)) ∧
            (rounds.length < limit → (e.isCancelled.run last).1 = false ∧
              condition.run (e.isCancelled.run last).2 = (false, ended)) := by
  intro settings
  obtain ⟨rounds, last, ended, looped⟩ := dispatch_loops step loop enabled able s running
  refine ⟨rounds, last, ended, looped, ?_⟩
  obtain ⟨chain, -, ends⟩ := looped
  have sees := chain.sees
  have went := chain.went
  simp only [LoopSettings.bindings, roundLimit, goesOn, Nat.zero_add] at sees went ends
  cases mode : settings.mode with
  | count =>
    simp only [settings] at mode
    simp only [mode, get?_counters] at sees ends
    exact ⟨length_of_pure ends, sees⟩
  | foreach =>
    simp only [settings] at mode
    simp only [mode] at sees ends
    have count := length_of_pure ends
    refine ⟨_, s.context.scopes.items _, count, ?_⟩
    intro i r ith
    have inside : i < rounds.length := (List.getElem?_eq_some_iff.mp ith).1
    refine ⟨(sees i r ith).fresh, fun name => ((sees i r ith).holds name).trans ?_⟩
    exact get?_item _ _ (inside.trans_eq count) name
  | «while» =>
    simp only [settings] at mode
    simp only [mode, get?_counters] at sees went ends
    refine ⟨?_, sees, went, ?_⟩
    · exact ends.elim (fun all => all.1.le) fun fewer => fewer.1.le
    · intro fewer
      exact (ends.resolve_left fun all => fewer.ne all.1).2

/-- A list that the steps inside replace in their scope is still gone through to its end. -/
theorem replaced_list_rounds :
    let engine : Engine (Rehearsal CallLog) Unit :=
      { host := ({} : Catalog).host (Rehearsal.world (Prepared.runCase [])) }
    let replace : Step := ⟨{ id := 2, kind := .script, control := some (.obj [("script", .str "items = 1")]) }, []⟩
    let settings : Json := .obj [("iterableVar", .str "items"), ("mode", .str "foreach")]
    let loop : Step := ⟨{ id := 1, kind := .loop, control := some settings }, [replace]⟩
    let scopes : Scopes := { globals := [("items", .arr [.str "a", .str "b"])] }
    let s : Stage (Rehearsal CallLog) Unit := { context := { scopes }, host := { services := [] }, kept := () }
    engine.Uncancelled (engine.dispatch engine.nested loop) s ∧
      ∃ rounds last ended, engine.Loops loop s rounds last ended ∧ rounds.length = 2 ∧
        InOrder rounds fun i name =>
          if name = "index" then some (.ofNat i) else if name = "item" then [.str "a", .str "b"][i]? else none := by
  intro engine replace settings loop scopes s
  have running : engine.Uncancelled (engine.dispatch engine.nested loop) s := uncancelled_of_all (by cbv)
  have mode : loop.loopSettings.mode = .foreach := by cbv
  obtain ⟨rounds, last, ended, looped, rest⟩ := loop_rounds loop rfl (by decide) rfl s running
  rw [mode] at rest
  obtain ⟨items, through, count, sees⟩ := rest
  have held : scopes.get? (loop.loopSettings.iterableVar.getD "") = some (.arr [.str "a", .str "b"]) := by cbv
  rw [through.eq held (.items _)] at count sees
  exact ⟨running, rounds, last, ended, looped, count, sees⟩

end Engine
end TestScenario
