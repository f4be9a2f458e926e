import TestScenario.Engine.Host
import TestScenario.Run.Clock
import TestScenario.Run.Reference

/-!
Rehearsals: runs on a clock that moves only when something waits, and with prepared answers in place of the execution
of test cases.
-/

namespace TestScenario

/-- A world with a clock and with services, whose state is of type `κ`, that execute cases. -/
structure Rehearsal (κ : Type) where
  clock : Clock := {}
  services : κ

namespace Rehearsal
variable {κ : Type}

/-- The world of a rehearsal. -/
def world (runCase : TestCase → Members → Table Int StepResult → Rehearsal κ → CaseRun × Rehearsal κ) :
    World (Rehearsal κ) where
  runCase := runCase
  eval script vars r := (Script.evaluation script vars, r)
  wait ms r :=
    let (clock, ended) := r.clock.wait ms
    (ended, { r with clock })
  limit ms r := (r.clock.limit ms).map ({ r with clock := · })
  isCancelled r := r.clock.isCancelled
  now r := r.clock.now

end Rehearsal

/-- A prepared answer to the execution of a case. -/
structure Prepared where
  status : StepStatus := .pass
  message : Option String := none
  detail : Option String := none
  code : Option Nat := none
  body : Option String := none
  headers : Dict String := []
  /-- Variables that the case sets. -/
  set : Members := []
  delayMs : Nat := 0
  /-- The fault with which the execution ends. -/
  error : Option String := none

/-- The cases executed so far, with the ids of the steps that had results then. -/
abbrev CallLog := List (TestCase × List Int)

namespace Prepared

/-- The answer to the call of an index, where the last of several answers goes on. -/
def atCall (answers : List Prepared) (index : Nat) : Prepared :=
  answers.getD (min index (answers.length - 1)) {}

/-- A case after its setup script, with all references to variables replaced. -/
def expanded (t : TestCase) (vars : Members) : TestCase :=
  { t with
    url := Reference.expand vars t.url
    headers := t.headers.mapValues (Reference.expand vars)
    body := t.body.map (Reference.expand vars) }

/-- The result that an answer stands for. -/
def result (p : Prepared) (t : TestCase) : StepResult :=
  { stepId := t.id
    name := t.name
    status := p.status
    message := p.message
    detail := p.detail
    httpStatus := p.code
    responseBody := p.body
    responseHeaders := p.headers
    requestUrl := some t.url
    requestMethod := some t.method
    requestBody := t.body }

/-- The execution of a case by prepared answers under the ids of cases. -/
def runCase (answers : Table Int (List Prepared)) (t : TestCase) (vars : Members) (history : Table Int StepResult)
    (r : Rehearsal CallLog) : CaseRun × Rehearsal CallLog :=
  let setup : Evaluation := match t.setupScript with
    | none => ⟨vars, .ok .null⟩
    | some script => Script.evaluation script vars
  match setup.outcome with
  | .error cause => (⟨setup.vars, .failed cause⟩, r)
  | .ok _ =>
    let sent := expanded t setup.vars
    let answer := atCall ((answers.get? t.id).getD []) (r.services.countP (·.1.id == t.id))
    let (clock, ended) := r.clock.wait answer.delayMs
    let r := { r with clock, services := r.services ++ [(sent, history.map (·.1))] }
    if ended then
      let vars := setup.vars.update answer.set
      match answer.error with
      | some text => (⟨vars, .failed (.because text)⟩, r)
      | none => (⟨vars, .finished (answer.result sent)⟩, r)
    else (⟨setup.vars, .cancelled⟩, r)

end Prepared

/-- A call of a part of the host. -/
inductive HostCall where
  | scenario
  | steps
  | testCase
  | vars
deriving DecidableEq, Repr

namespace Parts
variable {σ : Type}

/-- Parts of which one call always fails. -/
def failing (p : Parts σ) (call : HostCall) (cause : Fault) : Parts σ :=
  match call with
  | .scenario => { p with scenarios := p.scenarios.map ({ · with scenario := fun _ s => (.error cause, s) }) }
  | .steps => { p with scenarios := p.scenarios.map ({ · with steps := fun _ s => (.error cause, s) }) }
  | .testCase => { p with cases := p.cases.map ({ · with testCase := fun _ s => (.error cause, s) }) }
  | .vars => { p with vars := p.vars.map fun _ _ _ _ s => (.error cause, s) }

end Parts
end TestScenario
