import Mathlib
import TestScenario.Proofs.Coincidence
import TestScenario.Proofs.Naming
import TestScenario.Proofs.Rounds

/-!
Conditions of loops. The scope around a loop keeps what it holds, whatever the steps inside do. So a condition that
refers to no step and depends on such variables alone gives the same answer each time, and the loop has no round or
all of them (`condition_frozen`).
-/

namespace TestScenario
variable {σ η : Type}

namespace Dict
variable {α : Type} {d : Dict α} {name : String}

/-- The pairs under a name. Tables in order have one at most. -/
def entries (d : Dict α) (name : String) : Dict α := d.filter (·.1 == name)

theorem get?_eq_entries (d : Dict α) (name : String) : d.get? name = (d.entries name).head?.map (·.2) := by
  induction d with
  | nil => rfl
  | cons pair rest ih =>
    obtain ⟨n, v⟩ := pair
    rw [get?_cons, entries, List.filter_cons]
    by_cases same : name = n
    · simp [same]
    · rw [if_neg same, if_neg (by simpa using Ne.symm same), ih]
      rfl

theorem get?_reverse_eq_entries (d : Dict α) (name : String) :
    get? d.reverse name = (d.entries name).getLast?.map (·.2) := by
  rw [get?_eq_entries, entries, List.filter_reverse, List.head?_reverse]
  rfl

theorem contains_iff_entries : d.contains name ↔ d.entries name ≠ [] := by
  rw [contains, get?_eq_entries]
  cases d.entries name <;> simp

theorem entries_insert {n : String} (other : name ≠ n) (v : α) (d : Dict α) :
    (d.insert n v).entries name = d.entries name := by
  induction d with
  | nil => simp [insert, entries, Ne.symm other]
  | cons pair rest ih =>
    obtain ⟨m, w⟩ := pair
    unfold insert
    split
    · rename_i same
      simp [entries, ← same, Ne.symm other]
    · split
      · simp [entries, Ne.symm other]
      · simp only [entries, List.filter_cons] at ih ⊢
        rw [ih]

end Dict

namespace Scopes
variable {s t : Scopes} {name : String}

/-- Only the innermost scope differs, and what it held under a name it holds still. -/
structure Kept (s t : Scopes) : Prop where
  below : t.below = s.below
  entries : ∀ name, s.current.contains name → t.current.entries name = s.current.entries name

instance : IsPreorder Scopes Kept where
  refl _ := ⟨rfl, fun _ _ => rfl⟩
  trans _ _ _ first second := by
    refine ⟨second.below.trans first.below, ?_⟩
    intro name held
    have same := first.entries name held
    rw [Dict.contains_iff_entries, ← same, ← Dict.contains_iff_entries] at held
    exact (second.entries name held).trans same

theorem entries_exported (only : Option (List String)) (source : Members) {target : Members}
    (held : target.contains name) : (exported only source target).entries name = target.entries name := by
  induction source generalizing target with
  | nil => rfl
  | cons pair rest ih =>
    obtain ⟨n, v⟩ := pair
    rw [exported_cons]
    split
    · rename_i free
      have other : name ≠ n := by
        rintro rfl
        rw [held] at free
        simp at free
      rw [ih (by rw [Dict.contains_insert, held, Bool.or_true]), Dict.entries_insert other]
    · exact ih held

/-- A scope opened inside others and closed again leaves what the scope around it holds as it is. -/
theorem kept_closed (inside : t.below = s.all) : Kept s (t.mergeUp none).dropTop := by
  rw [all_eq] at inside
  obtain ⟨current, below⟩ := parts_of_all (t.all_mergeUp_dropTop none inside)
  refine ⟨below, ?_⟩
  intro name held
  rw [current, entries_exported none _ held]

/-- In the table of all visible variables, one of the innermost scope has its value there. -/
theorem get?_flatten_of_current (held : s.current.contains name) :
    s.flatten.get? name =
      if s.below = [] then s.current.get? name else (s.current.entries name).getLast?.map (·.2) := by
  obtain ⟨globals, inner⟩ := s
  cases inner with
  | nil => rfl
  | cons top inner =>
    have around : (Scopes.mk globals (top :: inner)).below ≠ [] := by simp [below, all]
    have filled : top.entries name ≠ [] := Dict.contains_iff_entries.mp held
    rw [if_neg around]
    refine (Dict.get?_update _ _ name).trans ?_
    rw [Dict.get?_reverse_eq_entries]
    obtain ⟨pair, last⟩ := Option.isSome_iff_exists.mp (List.getLast?_isSome.mpr filled)
    rw [current, List.headD_cons, last]
    rfl

/-- What is kept means the same, in the scopes and in the table of all visible variables. -/
theorem Kept.same (kept : Kept s t) (held : s.current.contains name) :
    t.get? name = s.get? name ∧ t.flatten.get? name = s.flatten.get? name := by
  have still : t.current.contains name := by
    rw [Dict.contains_iff_entries, kept.entries name held, ← Dict.contains_iff_entries]
    exact held
  have value : t.current.get? name = s.current.get? name := by
    rw [Dict.get?_eq_entries, Dict.get?_eq_entries, kept.entries name held]
  refine ⟨?_, ?_⟩
  · rw [get?_eq, get?_eq, value, kept.below]
  · rw [get?_flatten_of_current still, get?_flatten_of_current held, value, kept.below, kept.entries name held]

end Scopes

namespace Engine
variable (e : Engine σ η)
open Act Stage Scopes

/-- What a condition without references to steps comes to over some scopes: a blank one holds, any other is evaluated
    by the host. -/
def verdict (text : String) (scopes : Scopes) (host : σ) : Bool :=
  Text.isBlankText text ||
    match (e.host.eval (Reference.resolveVars scopes text) scopes.flatten host).1.outcome with
    | .ok v => v.holds
    | .error _ => false

/-- The evaluation of a condition depends only on some variables: what it refers to them for in its text, and what
    they are in the table that it is evaluated over. -/
def DependsOn (text : String) (names : String → Prop) : Prop :=
  ∀ (a b : Scopes) (h k : σ),
    (∀ name, names name → a.get? name = b.get? name ∧ a.flatten.get? name = b.flatten.get? name) →
      e.verdict text a h = e.verdict text b k

variable {e}

theorem DependsOn.mono {text : String} {names others : String → Prop} (depends : e.DependsOn text names)
    (sub : ∀ name, names name → others name) : e.DependsOn text others :=
  fun a b h k same => depends a b h k fun name named => same name (sub name named)

/-- Where the host evaluates scripts as the language has it, a condition that is a single expression without
    references depends on the names of the expression. -/
theorem dependsOn_names (evaluates : ∀ script vars h, (e.host.eval script vars h).1 = Script.evaluation script vars)
    {text : String} (unread : '$' ∉ text.toList) {x : Script.Expr} (single : Script.IsExpression text x) :
    e.DependsOn text (· ∈ x.names) := by
  intro a b h k same
  have outcome := single.outcome_congr fun n member => (same n member).2
  rw [verdict, verdict, evaluates, evaluates, Reference.resolveVars_of_absent unread,
    Reference.resolveVars_of_absent unread, outcome]

theorem run_condition {text : String} (plain : Reference.NoSteps text) (s : Stage σ η) :
    ((e.condition text).run s).1 = e.verdict text s.context.scopes s.host := by
  unfold condition verdict
  by_cases blank : Text.isBlankText text
  · rw [if_pos blank, blank]
    rfl
  · have unblank : Text.isBlankText text = false := eq_false_of_ne_true blank
    rw [if_neg blank, unblank, Bool.false_or, run_bind, run_context, run_bind, run_ask, Reference.resolve,
      plain.resolveSteps]
    rfl

/-- A condition over kept variables has kept its answer. -/
theorem condition_kept {text : String} (plain : Reference.NoSteps text) {s t : Stage σ η}
    (depends : e.DependsOn text fun name => s.context.scopes.current.contains name)
    (kept : Kept s.context.scopes t.context.scopes) :
    ((e.condition text).run t).1 = ((e.condition text).run s).1 := by
  rw [run_condition plain, run_condition plain]
  exact depends _ _ _ _ fun name held => kept.same held

/-- Between the rounds of a loop, the scope around it has kept what it held. -/
theorem Rounds.kept {goesOn : Act σ η Bool} {bindings : Nat → List (String × Json)}
    {body : Act σ η (List StepResult)} {i : Nat} {s t : Stage σ η} {rounds : List (LoopRound σ η)}
    (own : goesOn.Along (Agree Stage.own)) (grown : body.Ensures (Framed Grown))
    (chain : e.Rounds goesOn bindings body i s rounds t) :
    (∀ r ∈ rounds, Kept s.context.scopes r.asked.context.scopes) ∧ Kept s.context.scopes t.context.scopes := by
  induction chain with
  | done i s => exact ⟨List.forall_mem_nil _, Std.Refl.refl _⟩
  | @next i s t r later looked goes begun ran chain ih =>
    have asked : r.asked.context = s.context := by
      have same := e.isCancelled_own.ensures s
      rw [looked] at same
      exact same.context
    have before : r.before.context = s.context := by
      have same := own.ensures r.asked
      rw [goes] at same
      exact same.context.trans asked
    -- The steps inside change no scope around their own, and closing that one adds nothing but free names.
    have inside : r.ended.context.scopes.below = s.context.scopes.all := by
      have framed := grown r.begun
      rw [ran] at framed
      rw [framed.scopes.below, begun, ← before]
      exact below_setLocals _ _
    have closed : Kept s.context.scopes r.ended.closed.context.scopes := kept_closed inside
    refine ⟨List.forall_mem_cons.mpr ⟨?_, ?_⟩, IsTrans.trans _ _ _ closed ih.2⟩
    · rw [asked]
      exact Std.Refl.refl _
    · intro r member
      exact IsTrans.trans _ _ _ closed (ih.1 r member)

/-- The condition of a loop that refers to no step, and that depends on variables alone which the scope around the
    loop holds when it begins, gives the same answer whenever it is evaluated. So the loop has no round or as many as
    its limit allows. -/
theorem condition_frozen (step : Step) (loop : step.row.kind = .loop) (enabled : ¬ step.isDisabled)
    (able : e.kinds.contains .loop) (s : Stage σ η) (running : e.Uncancelled (e.dispatch e.nested step) s)
    (mode : step.loopSettings.mode = .while)
    (plain : Reference.NoSteps (step.loopSettings.condition.getD "true"))
    (depends : e.DependsOn (step.loopSettings.condition.getD "true")
      fun name => s.context.scopes.current.contains name) :
    let condition := e.condition (step.loopSettings.condition.getD "true")
    let limit := step.loopSettings.maxIterations.getD e.config.defaultMaxIterations
    ∃ rounds last ended answer, e.Loops step s rounds last ended ∧
      (∀ r ∈ rounds, (condition.run r.asked).1 = answer) ∧
      (rounds.length < limit → (condition.run (e.isCancelled.run last).2).1 = answer) ∧
      rounds.length = if answer then limit else 0 := by
  intro condition limit
  obtain ⟨rounds, last, ended, looped⟩ := dispatch_loops step loop enabled able s running
  have decides : e.goesOn step.loopSettings = condition := by simp only [goesOn, mode, condition]
  have allowed : e.roundLimit step.loopSettings s.context.scopes = limit := by simp only [roundLimit, mode, limit]
  have chain := looped.chain
  have ends := looped.ends
  rw [decides] at chain
  simp only [decides, allowed] at ends
  have keeps := chain.kept (e.condition_own _) (e.dispatchAll_grown e.nested_grown _)
  rw [started_context] at keeps
  have same {t : Stage σ η} (kept : Kept s.context.scopes t.context.scopes) :
      (condition.run t).1 = (condition.run s).1 := condition_kept plain depends kept
  have each : ∀ r ∈ rounds, (condition.run r.asked).1 = (condition.run s).1 :=
    fun r member => same (keeps.1 r member)
  have atEnd : (condition.run (e.isCancelled.run last).2).1 = (condition.run s).1 := by
    refine same ?_
    rw [(e.isCancelled_own.ensures last).context]
    exact keeps.2
  refine ⟨rounds, last, ended, (condition.run s).1, looped, each, fun _ => atEnd, ?_⟩
  cases answer : (condition.run s).1 with
  | true =>
    rcases ends with ⟨all, -⟩ | ⟨-, -, stops⟩
    · exact all
    · rw [stops, answer] at atEnd
      cases atEnd
  | false =>
    cases rounds with
    | nil => rfl
    | cons r later =>
      have held := each r List.mem_cons_self
      rw [chain.went r List.mem_cons_self, answer] at held
      cases held

/-- A variable that the scope around a loop holds does not end the loop, although the steps inside set it. -/
theorem assigned_variable_never_ends :
    let engine : Engine (Rehearsal CallLog) Unit :=
      { host := ({} : Catalog).host (Rehearsal.world (Prepared.runCase [])) }
    let assign : Step := ⟨{ id := 2, kind := .script, control := some (.obj [("script", .str "x = 1")]) }, []⟩
    let settings : Json := .obj [("condition", .str "x < 1"), ("maxIterations", .ofNat 2), ("mode", .str "while")]
    let loop : Step := ⟨{ id := 1, kind := .loop, control := some settings }, [assign]⟩
    let scopes : Scopes := { globals := [("x", .ofNat 0)] }
    let s : Stage (Rehearsal CallLog) Unit := { context := { scopes }, host := { services := [] }, kept := () }
    engine.Uncancelled (engine.dispatch engine.nested loop) s ∧
      ∃ rounds last ended, engine.Loops loop s rounds last ended ∧ rounds.length = 2 := by
  intro engine assign settings loop scopes s
  have running : engine.Uncancelled (engine.dispatch engine.nested loop) s := uncancelled_of_all (by cbv)
  have mode : loop.loopSettings.mode = .while := by cbv
  have text : loop.loopSettings.condition.getD "true" = "x < 1" := by cbv
  have bound : loop.loopSettings.maxIterations.getD engine.config.defaultMaxIterations = 2 := by cbv
  have plain : Reference.NoSteps "x < 1" := .of_absent (by decide)
  have single : Script.IsExpression "x < 1" (.binary .lt (.name "x") (.literal (.int 1))) :=
    ⟨"x < 1".toList, rfl, by cbv, by cbv⟩
  have depends : engine.DependsOn "x < 1" fun name => scopes.current.contains name := by
    refine (dependsOn_names (fun _ _ _ => rfl) (by decide) single).mono ?_
    intro name member
    rw [List.mem_singleton.mp member]
    rfl
  obtain ⟨rounds, last, ended, answer, looped, -, atEnd, count⟩ :=
    condition_frozen loop rfl (by decide) rfl s running mode (by rwa [text]) (by rwa [text])
  rw [bound] at atEnd count
  refine ⟨running, rounds, last, ended, looped, ?_⟩
  cases answer with
  | true => exact count
  | false =>
    -- Without a round the loop would end where it begins, but the condition holds there.
    cases List.length_eq_zero_iff.mp count
    have holds : ((engine.condition (loop.loopSettings.condition.getD "true")).run
        (engine.isCancelled.run (engine.started loop s)).2).1 = true := by cbv
    cases looped.chain
    cases holds.symm.trans (atEnd Nat.two_pos)

end Engine
end TestScenario
