import TestScenario.Engine.Config
import TestScenario.Engine.Event
import TestScenario.Engine.Host
import TestScenario.History.Sink

/-!
The engine with what it works with, and the actions that steps are made of.

An action changes the stage and returns a value; actions that run steps return the results of these steps in order.
-/

namespace TestScenario

/-- The engine: its settings, the kinds of steps it can run, the world around it, whose state is of type `σ`, and the
    place where it keeps its runs, whose state is of type `η`. -/
structure Engine (σ η : Type) where
  config : Config := {}
  kinds : List StepKind := StepKind.all
  host : Host σ
  sink : Option (Sink η) := none
  /-- Whether anyone is told what happens. -/
  observed : Bool := false

/-- Everything that changes during a run. -/
structure Stage (σ η : Type) where
  context : Context := {}
  host : σ
  kept : η
  /-- What has happened so far. -/
  events : Array Event := #[]

/-- An action on a stage, as the steps that it takes: it answers, or it changes the stage once and goes on with what
    came of that. -/
inductive Act (σ η α : Type) : Type 1 where
  | answer (a : α)
  | step {β : Type} (change : Stage σ η → β × Stage σ η) (next : β → Act σ η α)

namespace Act
variable {σ η α β : Type}

/-- An action followed by one that depends on its answer. -/
protected def bind : Act σ η α → (α → Act σ η β) → Act σ η β
  | .answer a, f => f a
  | .step change next, f => .step change fun b => (next b).bind f

instance : Monad (Act σ η) where
  pure := .answer
  bind := .bind

/-- The answer of an action on a stage, and the stage afterwards. -/
def run : Act σ η α → Stage σ η → α × Stage σ η
  | .answer a, s => (a, s)
  | .step change next, s =>
    let changed := change s
    (next changed.1).run changed.2

/-- The stages that an action passes through: one after each of its steps. -/
def trail : Act σ η α → Stage σ η → List (Stage σ η)
  | .answer _, _ => []
  | .step change next, s =>
    let changed := change s
    changed.2 :: (next changed.1).trail changed.2

@[simp] theorem run_pure (a : α) (s : Stage σ η) : (pure a : Act σ η α).run s = (a, s) := rfl
@[simp] theorem trail_pure (a : α) (s : Stage σ η) : (pure a : Act σ η α).trail s = [] := rfl

@[simp] theorem run_bind (x : Act σ η α) (f : α → Act σ η β) (s : Stage σ η) :
    (x >>= f).run s = (f (x.run s).1).run (x.run s).2 := by
  induction x generalizing s with
  | answer a => rfl
  | step change next ih => exact ih (change s).1 (change s).2

@[simp] theorem trail_bind (x : Act σ η α) (f : α → Act σ η β) (s : Stage σ η) :
    (x >>= f).trail s = x.trail s ++ (f (x.run s).1).trail (x.run s).2 := by
  induction x generalizing s with
  | answer a => rfl
  | step change next ih => exact congrArg ((change s).2 :: ·) (ih (change s).1 (change s).2)

@[simp] theorem run_map (f : α → β) (x : Act σ η α) (s : Stage σ η) :
    (f <$> x).run s = (f (x.run s).1, (x.run s).2) := run_bind x (fun a => pure (f a)) s

@[simp] theorem trail_map (f : α → β) (x : Act σ η α) (s : Stage σ η) : (f <$> x).trail s = x.trail s :=
  (trail_bind x (fun a => pure (f a)) s).trans (List.append_nil _)

/-- The context. -/
def context : Act σ η Context := .step (fun s => (s.context, s)) .answer

/-- The context changed by `f`. -/
def modifyContext (f : Context → Context) : Act σ η Unit :=
  .step (fun s => ((), { s with context := f s.context })) .answer

/-- The scopes changed by `f`. -/
def modifyScopes (f : Scopes → Scopes) : Act σ η Unit := modifyContext (·.mapScopes f)

/-- A call of the world around. -/
def ask (call : σ → α × σ) : Act σ η α :=
  .step (fun s =>
    let (a, host) := call s.host
    (a, { s with host })) .answer

/-- A call of the place where runs are kept. -/
def keep (call : η → α × η) : Act σ η α :=
  .step (fun s =>
    let (a, kept) := call s.kept
    (a, { s with kept })) .answer

@[simp] theorem run_context (s : Stage σ η) : (context : Act σ η Context).run s = (s.context, s) := rfl

@[simp] theorem run_modifyContext (f : Context → Context) (s : Stage σ η) :
    (modifyContext f : Act σ η Unit).run s = ((), { s with context := f s.context }) := rfl

@[simp] theorem run_modifyScopes (f : Scopes → Scopes) (s : Stage σ η) :
    (modifyScopes f : Act σ η Unit).run s = ((), { s with context := s.context.mapScopes f }) := rfl

@[simp] theorem run_ask (call : σ → α × σ) (s : Stage σ η) :
    (ask call : Act σ η α).run s = ((call s.host).1, { s with host := (call s.host).2 }) := rfl

@[simp] theorem run_keep (call : η → α × η) (s : Stage σ η) :
    (keep call : Act σ η α).run s = ((call s.kept).1, { s with kept := (call s.kept).2 }) := rfl

/-- An action again and again, with the number of the round, counted from zero, until it answers `none`; `limit`
    bounds the number of rounds. -/
def rounds (body : Nat → Act σ η (Option (List α))) : (limit : Nat) → (round : Nat) → Act σ η (List α)
  | 0, _ => pure []
  | limit + 1, round => do
    match ← body round with
    | none => pure []
    | some first =>
      let later ← rounds body limit (round + 1)
      pure (first ++ later)

end Act

namespace Engine
variable {σ η α : Type} (e : Engine σ η)

/-- Whether the run has been cancelled by now. -/
def isCancelled : Act σ η Bool := Act.ask fun host =>
  let host := e.host.meanwhile host
  (e.host.isCancelled host, host)

/-- The time. -/
def now : Act σ η Nat := Act.ask fun host => (e.host.now host, host)

/-- Tell the observer, if there is one. -/
def emit (happening : Happening) : Act σ η Unit :=
  .step (fun s =>
    if e.observed then
      let event : Event := ⟨happening, s.context.scopes.flatten, e.host.now s.host⟩
      ((), { s with events := s.events.push event })
    else ((), s)) .answer

/-- Record the result of a step and tell the observer. -/
def record (step : Step) (result : StepResult) : Act σ η (List StepResult) := do
  Act.modifyContext (·.recordResult step.row.id result)
  e.emit (.stepCompleted step.row.id result.name result.status (some result))
  pure [result]

/-- Record that a step has failed. -/
def recordFailure (step : Step) (name message : String) : Act σ η (List StepResult) :=
  e.record step (StepResult.withMessage step.row.id name .fail message)

/-- Keep logs of results under the id of a record. -/
def appendLogs (sink : Sink η) (record : Int) (step : Step) : List StepResult → Act σ η Unit
  | [] => pure ()
  | r :: rest => do
    let time ← e.now
    let _ ← Act.keep (sink.append (StepLog.ofResult record step r (Int.ofNat time)))
    appendLogs sink record step rest

/-- Keep logs of those results that carry the id of a step, if the run is kept at all. -/
def log (step : Step) (results : List StepResult) : Act σ η Unit := do
  match e.sink, (← Act.context).recordId with
  | some sink, some record => e.appendLogs sink record step (results.filter (·.stepId == step.row.id))
  | _, _ => pure ()

/-- Run some steps in a scope of their own that begins with some variables. Afterwards variables that are new to the
    scope around it go there. -/
def inScope (bindings : List (String × Json)) (body : Act σ η (List StepResult)) : Act σ η (List StepResult) := do
  Act.modifyScopes (·.push.setLocals bindings)
  let results ← body
  Act.modifyScopes fun s => (s.mergeUp none).dropTop
  pure results

theorem run_inScope (bindings : List (String × Json)) (body : Act σ η (List StepResult)) (s : Stage σ η) :
    (inScope bindings body).run s =
      let inner := body.run { s with context := s.context.mapScopes (·.push.setLocals bindings) }
      (inner.1, { inner.2 with context := inner.2.context.mapScopes fun s => (s.mergeUp none).dropTop }) := by
  simp only [inScope, Act.run_bind, Act.run_modifyScopes, Act.run_pure]

end Engine
end TestScenario
