import TestScenario.Proofs.Forest
import TestScenario.Proofs.Observation

/-!
Trees without what does nothing by itself. Groups only hold other steps, and steps that are switched off do nothing at
all. A run over the trees without both comes to the same (`bare_run`), unless it is cancelled between two steps: a group
takes a look whether it has been.
-/

namespace TestScenario
variable {σ η : Type}

namespace Step

mutual
/-- What is left of a step without groups and steps that are switched off: nothing of the latter, and of a group what
    is left of the steps inside it. -/
def bare : Step → List Step
  | ⟨row, children⟩ =>
    if (⟨row, children⟩ : Step).isDisabled then []
    else if row.kind = .group then bareAll children
    else [⟨row, bareAll children⟩]
/-- `bare` of steps one after the other. -/
def bareAll : List Step → List Step
  | [] => []
  | step :: rest => bare step ++ bareAll rest
end

/-- A group that is switched on. -/
def IsOpenGroup (step : Step) : Prop := step.row.kind = .group ∧ ¬ step.isDisabled

instance (step : Step) : Decidable step.IsOpenGroup := inferInstanceAs (Decidable (_ ∧ _))

theorem Among.append_iff {first later : List Step} {step : Step} :
    Among (first ++ later) step ↔ Among first step ∨ Among later step := by
  constructor
  · intro among
    cases among with
    | here member => exact (List.mem_append.mp member).imp .here .here
    | inside member within => exact (List.mem_append.mp member).imp (.inside · within) (.inside · within)
  · rintro (among | among)
    · exact among.mono fun _ => List.mem_append_left _
    · exact among.mono fun _ => List.mem_append_right _

theorem Among.cons_iff {first : Step} {later : List Step} {step : Step} :
    Among (first :: later) step ↔ Among [first] step ∨ Among later step := by
  rw [← append_iff, List.singleton_append]

mutual
/-- Neither groups nor steps that are switched off are left. -/
theorem bare_pure : ∀ {step inner : Step}, Among (bare step) inner → inner.row.kind ≠ .group ∧ ¬ inner.isDisabled
  | ⟨row, children⟩, inner, among => by
    unfold bare at among
    split at among
    · exact absurd among Among.not_nil
    · rename_i enabled
      split at among
      · exact bareAll_pure among
      · rename_i other
        rcases Among.singleton_iff.mp among with same | within
        · subst same
          exact ⟨other, enabled⟩
        · exact bareAll_pure within
/-- Neither groups nor steps that are switched off are left. -/
theorem bareAll_pure : ∀ {steps : List Step} {inner : Step}, Among (bareAll steps) inner →
    inner.row.kind ≠ .group ∧ ¬ inner.isDisabled
  | [], _, among => absurd among Among.not_nil
  | step :: rest, _, among => by
    rcases Among.append_iff.mp among with first | later
    · exact bare_pure first
    · exact bareAll_pure later
end

end Step

/-- Events without some of those that tell of certain happenings. -/
inductive Without (P : Happening → Prop) : List Event → List Event → Prop
  | nil : Without P [] []
  | keep {all kept : List Event} (event : Event) (rest : Without P all kept) : Without P (event :: all) (event :: kept)
  | drop {all kept : List Event} (event : Event) (told : P event.happening) (rest : Without P all kept) :
      Without P (event :: all) kept

theorem Without.append {P : Happening → Prop} {all kept more left : List Event} (first : Without P all kept)
    (later : Without P more left) : Without P (all ++ more) (kept ++ left) := by
  induction first with
  | nil => exact later
  | keep event _ ih => exact .keep event ih
  | drop event told _ ih => exact .drop event told ih

/-- The start of a group that is switched on, among the steps that a host supplies. -/
def Host.StartsGroup (h : Host σ) (happening : Happening) : Prop :=
  ∃ steps group, h.Supplies steps ∧ Step.Among steps group ∧ group.IsOpenGroup ∧
    happening = .stepStarted group.row.id group.row.name

/-- What has been told stays related when the start of a step is told on the first side only. -/
def Step.Droppable (E : Array Event → Array Event → Prop) (observed : Bool) (step : Step) : Prop :=
  ∀ event a b, event.happening = .stepStarted step.row.id step.row.name → E a b →
    E (if observed then a.push event else a) b

namespace Engine
open Act Stage Step
variable {e f : Engine σ η} {nested other : Int → Act σ η Ending}

/-- Steps after others are run after them. -/
theorem run_dispatchAll_append (first later : List Step) (s : Stage σ η) :
    (e.dispatchAll nested (first ++ later)).run s = (do
      let results ← e.dispatchAll nested first
      let more ← e.dispatchAll nested later
      pure (results ++ more) : Act σ η (List StepResult)).run s := by
  induction first generalizing s with
  | nil => simp only [List.nil_append, dispatchAll, run_bind, run_pure]
  | cons step rest ih => simp only [List.cons_append, dispatchAll, run_bind, run_pure, ih, List.append_assoc]

theorem run_dispatchAll_singleton (step : Step) (s : Stage σ η) :
    (e.dispatchAll nested [step]).run s = (e.dispatch nested step).run s := by
  simp only [dispatchAll, run_bind, run_pure, List.append_nil]

/-- A group runs the steps inside it, whether the run has been cancelled or not. -/
theorem proceed_group {step : Step} (known : e.kinds.contains .group) (group : step.row.kind = .group)
    (body : Act σ η (List StepResult)) (cancelled : Bool) : e.proceed nested step body cancelled = body := by
  have invoked : e.invoke nested step body = body := by
    unfold invoke
    rw [group, if_pos known]
  have leafless : ¬ StepKind.group.isLeaf := by decide
  unfold proceed passOver
  rw [invoked, group, if_neg leafless, beq_self_eq_true, if_pos rfl, ite_self]

section
variable {E : Array Event → Array Event → Prop}

/-- A group that runs on one side only. -/
theorem group_pairs (known : e.kinds.contains .group) (still : ∀ s, e.host.meanwhile s = s) {row : StepRow}
    {children : List Step} (group : (⟨row, children⟩ : Step).IsOpenGroup)
    (droppable : (⟨row, children⟩ : Step).Droppable E e.observed) {body again : Act σ η (List StepResult)}
    (pairs : Pairs E Eq body again) :
    Pairs E Eq (e.perform nested ⟨row, children⟩ body) again := by
  obtain ⟨kind, enabled⟩ := group
  unfold perform
  rw [if_neg enabled]
  intro s t like
  rw [run_bind, run_emit]
  have told : ({ s with events := if e.observed then s.events.push ⟨.stepStarted row.id row.name,
      s.context.scopes.flatten, e.host.now s.host⟩ else s.events } : Stage σ η).Like E t :=
    ⟨like.host, like.context, droppable _ _ _ rfl like.events⟩
  have looks : e.isCancelled.Ensures (Like Eq) := by
    intro r
    rw [run_isCancelled, still]
    exact Std.Refl.refl r
  have walked : Pairs E Eq (e.isCancelled >>= fun cancelled =>
      e.proceed nested ⟨row, children⟩ body cancelled >>= fun results =>
        e.log ⟨row, children⟩ results >>= fun _ => pure results) again := by
    refine .left looks fun cancelled => ?_
    rw [proceed_group known kind]
    exact .after pairs fun results => e.log_aside _ results
  exact walked _ t told

/-- Steps run like what is left of them. -/
theorem dispatchAll_bare (known : e.kinds.contains .group) (still : ∀ s, e.host.meanwhile s = s)
    (beside : e.Beside E bareAll f) (inside : ∀ id, Pairs E Eq (nested id) (other id)) (steps : List Step)
    (droppable : ∀ group, Among steps group → group.IsOpenGroup → group.Droppable E e.observed) :
    Pairs E Eq (e.dispatchAll nested steps) (f.dispatchAll other (bareAll steps)) := by
  revert droppable
  refine dispatchAll_induction
    (P := fun step x => (∀ group, Among [step] group → group.IsOpenGroup → group.Droppable E e.observed) →
      Pairs E Eq x (f.dispatchAll other (bare step)))
    (Q := fun steps x => (∀ group, Among steps group → group.IsOpenGroup → group.Droppable E e.observed) →
      Pairs E Eq x (f.dispatchAll other (bareAll steps)))
    (fun _ => .pure rfl) ?_ ?_ steps
  · intro step rest x y first later droppable
    have one := first fun group among => droppable group (Among.cons_iff.mpr (.inl among))
    have others := later fun group among => droppable group (Among.cons_iff.mpr (.inr among))
    rw [bareAll]
    intro s t like
    rw [run_dispatchAll_append]
    exact Pairs.bind one (fun results => .bind others fun more => .pure rfl) s t like
  · intro step body pairs droppable
    obtain ⟨row, children⟩ := step
    have within := pairs fun group among => droppable group (Among.singleton_iff.mpr (.inr among))
    unfold bare
    by_cases disabled : (⟨row, children⟩ : Step).isDisabled
    · rw [if_pos disabled, perform, if_pos disabled]
      exact .pure rfl
    · rw [if_neg disabled]
      by_cases group : row.kind = .group
      · rw [if_pos group]
        exact group_pairs known still ⟨group, disabled⟩
          (droppable _ (Among.singleton_iff.mpr (.inl rfl)) ⟨group, disabled⟩) within
      · rw [if_neg group]
        intro s t like
        rw [run_dispatchAll_singleton]
        exact beside.perform inside row children (bareAll children) within s t like

end

/-- A run over trees without groups and without steps that are switched off comes to the same as a run over the whole
    trees, if it can be cancelled only while something is asked of the world around, as during a case or a wait. The
    end, the calls of services, the world, the variables and the results recorded are the same, and what is told lacks
    only starts of groups. -/
theorem bare_run (host : Host σ) (config : Config) (sink : Option (Sink η)) (observed : Bool) (scenario : Int)
    (envKey : String) (world : σ) (kept : η) :
    let still : Host σ := { host with meanwhile := fun s => s }
    let run (h : Host σ) :=
      (({ config, host := h.noted, sink, observed } : Engine _ η).execute scenario envKey).run { host := (world, []), kept }
    let full := run still
    let bare := run (still.withSteps bareAll)
    (∀ steps step, Among (bareAll steps) step → step.row.kind ≠ .group ∧ ¬ step.isDisabled) ∧
      bare.1 = full.1 ∧
      bare.2.calls = full.2.calls ∧
      bare.2.host.1 = full.2.host.1 ∧
      bare.2.context.scopes = full.2.context.scopes ∧
      bare.2.context.history = full.2.context.history ∧
      Without still.StartsGroup full.2.events.toList bare.2.events.toList := by
  intro still run full bare
  let E (a b : Array Event) : Prop := Without still.StartsGroup a.toList b.toList
  let e : Engine (σ × List ServiceCall) η := { config, host := still.noted, sink, observed }
  let f : Engine (σ × List ServiceCall) η := { config, host := (still.withSteps bareAll).noted, sink, observed }
  have beside : e.Beside E bareAll f := by
    refine ⟨rfl, rfl, rfl, fun event {a b} told => ?_⟩
    show E (if observed then _ else _) (if observed then _ else _)
    cases observed with
    | false => exact told
    | true =>
      show Without _ (a.push event).toList (b.push event).toList
      rw [Array.toList_push, Array.toList_push]
      exact told.append (.keep event .nil)
  have walks : e.Walks E bareAll f := by
    intro nested other inside steps supplied
    obtain ⟨id, place, found⟩ := supplied
    refine dispatchAll_bare rfl (fun _ => rfl) beside inside steps fun group among opened event a b start told => ?_
    show E (if observed then _ else _) _
    cases observed with
    | false => exact told
    | true =>
      show Without _ (a.push event).toList b.toList
      rw [Array.toList_push, ← List.append_nil b.toList]
      exact told.append (.drop event ⟨steps, group, ⟨id, place.1, found⟩, among, opened, start⟩ .nil)
  obtain ⟨answer, like⟩ := beside.execute walks scenario envKey { host := (world, []), kept }
    { host := (world, []), kept } ⟨rfl, ⟨none, rfl⟩, .nil⟩
  exact ⟨fun steps step => bareAll_pure, answer.symm, congrArg Prod.snd like.host, congrArg Prod.fst like.host,
    like.scopes, like.history, like.events⟩

end Engine
end TestScenario
