import TestScenario.Engine.Stage
import TestScenario.Json.Reader
import TestScenario.Run.Reference

/-!
Steps that run scripts, wait, or run other steps on a condition or again and again.
-/

namespace TestScenario

/-- Those variables of a table that differ from an earlier one, set in the innermost scope. -/
def Scopes.setAssigned (before vars : Members) (s : Scopes) : Scopes :=
  vars.foldl (fun s (n, v) => if (before.get? n).any (Json.same v) then s else s.setLocal n v) s

/-- The items of a list, or of the text of one. -/
def Json.items? : Json → Option (List Json)
  | .arr items => some items
  | .str text =>
    match Json.parse text with
    | some (.arr items) => some items
    | _ => none
  | _ => none

/-- The variables that tell the round of a loop. -/
def LoopSettings.counters (round : Nat) : List (String × Json) :=
  [("loopIndex", .ofNat round), ("loopIteration", .ofNat (round + 1))]

namespace Engine
variable {σ η : Type} (e : Engine σ η)

/-- A step that runs a script; what it assigns is set in the innermost scope, even if it fails later on. -/
def scriptStep (step : Step) : Act σ η (List StepResult) := do
  let name := step.nameOr "Script"
  Act.modifyContext (·.registerStep step.row.id name)
  match step.scriptSettings.script.filter (!Text.isBlankText ·) with
  | none => e.record step (StepResult.withMessage step.row.id name .skipped "Empty script")
  | some script =>
    let before := (← Act.context).scopes.flatten
    let ran ← Act.ask (e.host.eval script before)
    Act.modifyScopes (·.setAssigned before ran.vars)
    e.record step (match ran.outcome with
      | .ok _ => StepResult.withMessage step.row.id name .pass "Script executed successfully"
      | .error cause =>
        StepResult.withMessage step.row.id name .fail ("Script execution error: " ++ cause.chain))

/-- Whether a condition holds: a blank one does, one that cannot be evaluated does not. -/
def condition (text : String) : Act σ η Bool := do
  if Text.isBlankText text then pure true
  else
    let context ← Act.context
    let ran ← Act.ask (e.host.eval (Reference.resolve context text) context.scopes.flatten)
    pure (match ran.outcome with
      | .ok v => v.holds
      | .error _ => false)

/-- A step that runs others on a condition. -/
def conditionStep (step : Step) (body : Act σ η (List StepResult)) : Act σ η (List StepResult) := do
  if ← e.condition (step.conditionSettings.condition.getD "") then inScope [] body else pure []

/-- The rounds of a loop: as long as the run is not cancelled and the loop goes on, the steps inside are run in a
    scope of their own, with variables of the round. -/
def loopRounds (goesOn : Act σ η Bool) (bindings : Nat → List (String × Json)) (limit : Nat)
    (body : Act σ η (List StepResult)) : Act σ η (List StepResult) :=
  Act.rounds (fun round => do
    if ← e.isCancelled then pure none
    else if ← goesOn then some <$> inScope (bindings round) body
    else pure none) limit 0

/-- A loop that counts its rounds. -/
def countLoop (settings : LoopSettings) : Act σ η (List StepResult) → Act σ η (List StepResult) :=
  e.loopRounds (pure true) LoopSettings.counters (settings.count.getD 1)

/-- A loop over the items of a list. -/
def itemLoop (settings : LoopSettings) (body : Act σ η (List StepResult)) : Act σ η (List StepResult) := do
  let target := (← Act.context).scopes.get? (settings.iterableVar.getD "")
  let items := (target.bind Json.items?).getD []
  let bindings (round : Nat) :=
    [(settings.itemVar.getD "item", items.getD round .null), (settings.indexVar.getD "index", .ofNat round)]
  e.loopRounds (pure true) bindings items.length body

/-- A loop that goes on as long as its condition holds. -/
def conditionLoop (settings : LoopSettings) : Act σ η (List StepResult) → Act σ η (List StepResult) :=
  e.loopRounds (e.condition (settings.condition.getD "true")) LoopSettings.counters
    (settings.maxIterations.getD e.config.defaultMaxIterations)

/-- A step that runs others again and again. -/
def loopStep (step : Step) (body : Act σ η (List StepResult)) : Act σ η (List StepResult) :=
  let settings := step.loopSettings
  match settings.mode with
  | .count => e.countLoop settings body
  | .foreach => e.itemLoop settings body
  | .while => e.conditionLoop settings body

/-- A step that waits. -/
def waitStep (step : Step) : Act σ η (List StepResult) := do
  if ← Act.ask (e.host.wait (step.waitSettings.waitMs.getD e.config.defaultWaitMs)) then
    e.emit (.stepCompleted step.row.id step.row.name .pass none)
  pure []

end Engine
end TestScenario
