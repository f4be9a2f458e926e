import Mathlib
import TestScenario.Catalog.Parts
import TestScenario.Engine.Rehearsal
import TestScenario.History.Memory
import TestScenario.Proofs.Notes

/-!
Cancelled runs. From the moment at which it is cancelled, a run only passes over what is left of it: test cases and
scripts are recorded as skipped, loops come to their end, and the run counts as failed (`cancelled_for_good`).
-/

namespace TestScenario
variable {σ η : Type}

/-- A run that has been cancelled stays so, whatever the world around is asked. -/
structure Host.Lasting (h : Host σ) : Prop where
  scenario : ∀ id s, h.isCancelled s → h.isCancelled (h.scenario id s).2
  steps : ∀ id s, h.isCancelled s → h.isCancelled (h.steps id s).2
  testCase : ∀ id s, h.isCancelled s → h.isCancelled (h.testCase id s).2
  vars : ∀ supply, h.vars = some supply → ∀ project module envKey s, h.isCancelled s →
    h.isCancelled (supply project module envKey s).2
  runCase : ∀ t vars history s, h.isCancelled s → h.isCancelled (h.runCase t vars history s).2
  eval : ∀ script vars s, h.isCancelled s → h.isCancelled (h.eval script vars s).2
  wait : ∀ ms s, h.isCancelled s → h.isCancelled (h.wait ms s).2
  meanwhile : ∀ s, h.isCancelled s → h.isCancelled (h.meanwhile s)

/-- The result of a test case or a script that is passed over. -/
def Step.skipped (step : Step) : StepResult :=
  StepResult.withMessage step.row.id (step.nameOr step.row.kind.name) .skipped "Cancelled"

/-- Deeds of a cancelled run: nothing is fetched, executed, evaluated or waited for, and only what is skipped is
    recorded. -/
def Deed.Idle : Deed → Prop
  | .look | .check | .time | .append _ | .tell _ => True
  | .record _ r => r.status = .skipped
  | _ => False

theorem Deed.Quiet.idle {d : Deed} (quiet : d.Quiet) : d.Idle := by
  cases d <;> trivial

namespace Engine
variable (e : Engine σ η)

mutual
/-- The test cases and scripts that a cancelled run passes over at a step: the step itself, or those inside a group. -/
def skips : Step → List Step
  | ⟨row, children⟩ =>
    if (⟨row, children⟩ : Step).isDisabled then []
    else if row.kind.isLeaf then [⟨row, children⟩]
    else if row.kind == .group && e.kinds.contains .group then skipsAll children
    else []
/-- `skips` of steps one after the other. -/
def skipsAll : List Step → List Step
  | [] => []
  | step :: rest => skips step ++ skipsAll rest
end

/-- A round of a loop, which begins with a look whether the run has been cancelled. -/
def round (goesOn : Act σ η Bool) (bindings : Nat → List (String × Json)) (body : Act σ η (List StepResult))
    (round : Nat) : Act σ η (Option (List StepResult)) := do
  if ← e.isCancelled then pure none
  else if ← goesOn then some <$> inScope (bindings round) body
  else pure none

theorem loopRounds_eq_rounds (goesOn : Act σ η Bool) (bindings : Nat → List (String × Json)) (limit : Nat)
    (body : Act σ η (List StepResult)) :
    e.loopRounds goesOn bindings limit body = Act.rounds (e.round goesOn bindings body) limit 0 := rfl

variable {e}

theorem Does.cancelled {d : Deed} {α : Type} {x : Act σ η α} (lasting : e.host.Lasting) (does : e.Does d x)
    {s : Stage σ η} (cancelled : e.host.isCancelled s.host) : e.host.isCancelled (x.run s).2.host := by
  cases does with
  | check => exact lasting.meanwhile _ cancelled
  | scenario id => exact lasting.scenario id _ cancelled
  | steps id => exact lasting.steps id _ cancelled
  | testCase id => exact lasting.testCase id _ cancelled
  | vars given project module envKey => exact lasting.vars _ given project module envKey _ cancelled
  | execute t vars history => exact lasting.runCase t vars history _ cancelled
  | evaluate script vars => exact lasting.eval script vars _ cancelled
  | wait ms => exact lasting.wait ms _ cancelled
  | tell h =>
    simp only [emit, Act.run]
    split
    · exact cancelled
    · exact cancelled
  | look | register | record | scopes | enter | leave | number | time | create | update | append => exact cancelled

end Engine

namespace Act
variable {α β : Type}

/-- On a stage the action does only what a cancelled run does, and it records and tells of some results. -/
structure PassesOver (e : Engine σ η) (results : List StepResult) (x : Act σ η α) (s : Stage σ η) : Prop where
  takes : x.Takes e Deed.Idle s
  context : (x.run s).2.context =
    { s.context with history := results.foldl (fun h r => h.put r.stepId r) s.context.history }
  told : ∃ told : List Event, (x.run s).2.events.toList = s.events.toList ++ told ∧
    told.filterMap (·.happening.result?) = if e.observed then results else []

/-- Some test cases and scripts are all that an action passes over on a stage, and it does nothing else. -/
structure Skips (e : Engine σ η) (steps : List Step) (x : Act σ η (List StepResult)) (s : Stage σ η) : Prop extends
    PassesOver e (steps.map Step.skipped) x s where
  answer : (x.run s).1 = steps.map Step.skipped

section
variable {e : Engine σ η} {x : Act σ η α} {f : α → Act σ η β} {s : Stage σ η} {u v : List StepResult}

theorem PassesOver.cancelled (lasting : e.host.Lasting) (passes : x.PassesOver e u s)
    (cancelled : e.host.isCancelled s.host) : e.host.isCancelled (x.run s).2.host :=
  (passes.takes.preserves (P := fun t => e.host.isCancelled t.host) (fun _ does => does.cancelled lasting) cancelled).1

theorem PassesOver.pure (a : α) : (pure a : Act σ η α).PassesOver e [] s :=
  ⟨trivial, rfl, [], (List.append_nil _).symm, by split <;> rfl⟩

theorem PassesOver.bind (first : x.PassesOver e u s) (rest : (f (x.run s).1).PassesOver e v (x.run s).2) :
    (x >>= f).PassesOver e (u ++ v) s := by
  obtain ⟨told, same, carried⟩ := first.told
  obtain ⟨later, sameLater, carriedLater⟩ := rest.told
  refine ⟨first.takes.bind rest.takes, ?_, told ++ later, ?_, ?_⟩
  · rw [run_bind, rest.context, first.context, List.foldl_append]
  · rw [run_bind, sameLater, same, List.append_assoc]
  · rw [List.filterMap_append, carried, carriedLater]
    split
    · rfl
    · rfl

/-- What only keeps something records nothing. -/
theorem PassesOver.quiet (uses : x.Uses e Deed.Quiet) (own : x.Along (Stage.Agree Stage.own)) : x.PassesOver e [] s := by
  have same := own.ensures s
  refine ⟨(uses.takes s).mono Deed.Quiet.idle, same.context, [], ?_, by split <;> rfl⟩
  rw [List.append_nil]
  exact congrArg (fun p : Context × Array Event => p.2.toList) same

/-- What is told without a result records nothing. -/
theorem PassesOver.emit {h : Happening} (plain : h.result? = none) : (e.emit h).PassesOver e [] s := by
  refine ⟨⟨⟨.tell h, trivial, .tell h⟩, trivial⟩, ?_, ?_⟩
  · exact (e.emit_context h).ensures s
  · by_cases observed : e.observed
    · refine ⟨[⟨h, s.context.scopes.flatten, e.host.now s.host⟩], ?_, ?_⟩
      · simp only [Engine.emit, run, if_pos observed, Array.toList_push]
      · simp only [List.filterMap_cons, plain, List.filterMap_nil, ite_self]
    · refine ⟨[], ?_, by rw [if_neg observed]; rfl⟩
      simp only [Engine.emit, run, if_neg observed, List.append_nil]

theorem Skips.nil : (pure [] : Act σ η (List StepResult)).Skips e [] s := ⟨.pure [], rfl⟩

theorem Skips.after {f : α → Act σ η (List StepResult)} {steps : List Step} (first : x.PassesOver e [] s)
    (rest : (f (x.run s).1).Skips e steps (x.run s).2) : (x >>= f).Skips e steps s := by
  refine ⟨first.bind rest.toPassesOver, ?_⟩
  rw [run_bind]
  exact rest.answer

end
end Act

namespace Engine
variable {e : Engine σ η}
open Act Deed

/-! ### Steps in a cancelled run -/

section
variable {nested : Int → Act σ η Ending} {body : Act σ η (List StepResult)} {step : Step}

end

/-! ### Loops in a cancelled run -/

section
variable {walk : List Step → Act σ (η × List SinkCall) (List StepResult)} {scenario : Scenario} {record : RunRecord}
  {s t : Stage σ (η × List SinkCall)}

end

/-- What is asked of the place where a failed run is kept: its record is kept in its last state as failed, if it has
    been kept before. -/
structure KeptAsFailed (calls : List SinkCall) : Prop where
  updates : ∀ r answer, .update r answer ∈ calls → r.status = .fail
  created : ∀ r i, .create r (.ok i) ∈ calls → ∃ last answer, .update last answer ∈ calls ∧ last.id = some i

theorem KeptAsFailed.nil : KeptAsFailed [] := ⟨nofun, nofun⟩

section
variable {walk : List Step → Act σ (η × List SinkCall) (List StepResult)} {s t : Stage σ (η × List SinkCall)}

end

end Engine
end TestScenario
