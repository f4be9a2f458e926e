import Mathlib
import TestScenario.Catalog.Parts
import TestScenario.Engine.Rehearsal
import TestScenario.Proofs.Assignments

/-!
What a step that calls a test case does to the variables. They are set three times: parameters with new names before the
case is executed, then what the execution has changed, then what is extracted from the answer. All of this goes to the
innermost scope, and together it gives each name one value (`case_variables`).
-/

namespace TestScenario
variable {σ η : Type}

/-- The value that the last rule for a variable to take anything takes from a result. -/
def ExtractRule.lastFor (rules : List ExtractRule) (r : StepResult) (name : String) : Option Json :=
  rules.reverse.findSome? fun rule => if rule.varName = name then rule.extract r else none

namespace Scopes
variable {s : Scopes} {r : StepResult}

/-- Variables set as rules take them from a result, one after the other. -/
def setExtracted (rules : List ExtractRule) (r : StepResult) (s : Scopes) : Scopes :=
  rules.foldl (fun s rule =>
    match rule.extract r with
    | some v => s.setLocal rule.varName v
    | none => s) s

theorem setExtracted_append (first later : List ExtractRule) (r : StepResult) (s : Scopes) :
    s.setExtracted (first ++ later) r = (s.setExtracted first r).setExtracted later r := List.foldl_append

/-- A rule that takes nothing sets nothing. -/
theorem setExtracted_of_none {rule : ExtractRule} (nothing : rule.extract r = none) (rules : List ExtractRule)
    (s : Scopes) : s.setExtracted (rule :: rules) r = s.setExtracted rules r := by
  rw [setExtracted, List.foldl_cons, nothing]
  rfl

theorem setExtracted_of_some {rule : ExtractRule} {v : Json} (taken : rule.extract r = some v)
    (rules : List ExtractRule) (s : Scopes) :
    s.setExtracted (rule :: rules) r = (s.setLocal rule.varName v).setExtracted rules r := by
  rw [setExtracted, List.foldl_cons, taken]
  rfl

@[simp] theorem below_setExtracted (rules : List ExtractRule) (r : StepResult) (s : Scopes) :
    (s.setExtracted rules r).below = s.below := by
  induction rules generalizing s with
  | nil => rfl
  | cons rule rest ih =>
    cases taken : rule.extract r with
    | none => rw [setExtracted_of_none taken, ih]
    | some v => rw [setExtracted_of_some taken, ih, below_setLocal]

theorem Ordered.setExtracted (ordered : s.Ordered) (rules : List ExtractRule) (r : StepResult) :
    (s.setExtracted rules r).Ordered := by
  induction rules generalizing s with
  | nil => exact ordered
  | cons rule rest ih =>
    cases taken : rule.extract r with
    | none =>
      rw [setExtracted_of_none taken]
      exact ih ordered
    | some v =>
      rw [setExtracted_of_some taken]
      exact ih (ordered.setLocal rule.varName v)

/-- Of several values that are taken for one variable the last one counts. -/
theorem get?_setExtracted (rules : List ExtractRule) (r : StepResult) (s : Scopes) (name : String) :
    (s.setExtracted rules r).get? name = (ExtractRule.lastFor rules r name).or (s.get? name) := by
  induction rules generalizing s with
  | nil => rfl
  | cons rule rest ih =>
    have last : ExtractRule.lastFor (rule :: rest) r name =
        (ExtractRule.lastFor rest r name).or (if rule.varName = name then rule.extract r else none) := by
      simp only [ExtractRule.lastFor, List.reverse_cons, List.findSome?_append, List.findSome?_cons, List.findSome?_nil]
      cases (if rule.varName = name then rule.extract r else none) <;> rfl
    rw [last, Option.or_assoc]
    cases taken : rule.extract r with
    | none =>
      rw [setExtracted_of_none taken, ih]
      simp
    | some v =>
      rw [setExtracted_of_some taken, ih, get?_setLocal]
      by_cases same : rule.varName = name
      · simp [same]
      · simp [same, Ne.symm same]

end Scopes

/-- A name has a value in a table that is the same, by comparison, as the one in a table before. -/
def Members.sameAt (before vars : Members) (name : String) : Bool :=
  (vars.get? name).any fun v => (before.get? name).any v.same

/-- The value of a name after the execution of a case, given all visible variables, the variables that the case begins
    with, and those that it leaves: what it leaves under a new name or a name that it has changed, and otherwise what
    there has been. -/
def Members.taken (visible given left : Members) (name : String) : Option Json :=
  if visible.contains name && given.sameAt left name then visible.get? name else left.get? name

/-- The context in which a case is executed for a step. -/
def Step.caseContext (step : Step) (t : TestCase) (c : Context) : Context :=
  (c.registerStep step.row.id (step.nameOr t.name)).mapScopes
    (·.addMissing (step.overrides.variablesFor c.scopes.flatten))

namespace Scopes
variable {s : Scopes} {given left : Members}

/-- Variables set for a case before its execution and after it, over visible variables that the case begins with but
    for its parameters. -/
theorem get?_setChanged_addMissing (ordered : s.Ordered) (grown : s.flatten.Extends given) (keeps : given.Extends left)
    (name : String) :
    let after := ((s.addMissing given).setChanged given left).get? name
    Option.Rel Json.Equal (Members.taken s.flatten given left name) after ∧
      (s.flatten.contains name → after = Members.taken s.flatten given left name) := by
  intro after
  have value : after = ((left.get? name).filter fun v =>
      !((given.get? name).any (Json.same v) && ((s.get? name).or (given.get? name)).isSome)).or
        ((s.get? name).or (given.get? name)) := by
    simp only [after, get?_setChanged keeps.ordered, get?_addMissing grown.ordered, contains]
  have visible := grown.names name
  have remains := keeps.names name
  simp only [Members.taken, Members.sameAt, Dict.contains, get?_flatten ordered] at visible remains ⊢
  rw [value]
  cases held : s.get? name with
  | some w =>
    obtain ⟨v, before⟩ := Option.isSome_iff_exists.mp (visible (by rw [held]; rfl))
    obtain ⟨u, leaves⟩ := Option.isSome_iff_exists.mp (remains (by rw [before]; rfl))
    by_cases same : u.same v
    · simp [before, leaves, same, Json.Equal, Option.filter_some]
    · simp [before, leaves, same, Json.Equal, Option.filter_some]
  | none =>
    cases before : given.get? name with
    | some v =>
      obtain ⟨u, leaves⟩ := Option.isSome_iff_exists.mp (remains (by rw [before]; rfl))
      by_cases same : u.same v
      · simp [leaves, same, Json.Equal, Option.filter_some]
      · simp [leaves, same, Json.Equal, Option.filter_some]
    | none =>
      cases leaves : left.get? name with
      | some u => simp [Json.Equal, Option.filter_some]
      | none => simp

end Scopes

/-- A rehearsed case removes no variable: it sets some by its setup script and some by its answer. -/
theorem Prepared.extends_runCase (answers : Table Int (List Prepared)) (t : TestCase) {given : Members}
    (ordered : Dict.Ordered given) (history : Table Int StepResult) (r : Rehearsal CallLog) :
    given.Extends (runCase answers t given history r).1.vars := by
  unfold runCase
  extract_lets setup
  have prepared : given.Extends setup.vars := by
    unfold setup
    cases t.setupScript with
    | none => exact ordered.extends_update []
    | some script =>
      obtain ⟨made, -, left⟩ := Script.evaluation_executes script given
      simp only [left]
      exact ordered.extends_update made
  clear_value setup
  obtain ⟨vars, outcome⟩ := setup
  cases outcome with
  | error cause => exact prepared
  | ok _ =>
    simp only
    split
    · split
      · exact prepared.update _
      · exact prepared.update _
    · exact prepared

namespace Engine
variable {e : Engine σ η}
open Act Stage

/-- How a case is executed for a step in a context, by a host in some state. -/
def caseRun (e : Engine σ η) (step : Step) (t : TestCase) (c : Context) (host : σ) : CaseRun :=
  (e.host.runCase ((step.caseContext t c).resolveCase (step.overrides.apply t))
    (step.overrides.variablesFor c.scopes.flatten) c.history host).1

/-- The scopes after a case are those before with the variables that are set for it. -/
theorem run_runCase (step : Step) (t : TestCase) (s : Stage σ η) :
    let given := step.overrides.variablesFor s.context.scopes.flatten
    ∃ r, ((e.runCase step t).run s).1 = [r] ∧
      ((e.runCase step t).run s).2.context.scopes =
        (((s.context.scopes.addMissing given).setChanged given (e.caseRun step t s.context s.host).vars).setExtracted
          step.overrides.extract r) := by
  intro given
  simp only [runCase, run_bind, run_modifyContext, run_context, run_modifyScopes, run_now, run_ask, run_pure]
  refine ⟨_, record_answer step _ _, ?_⟩
  exact congrArg
    (fun scopes : Scopes => (scopes.setChanged given (e.caseRun step t s.context s.host).vars).setExtracted
      step.overrides.extract _) (record_scopes step _ _)

/-- What a step that calls a case does to the variables, where the execution removes none of them. A name means from
    then on what the last rule to extract anything for it has extracted, or else what the case has left if this is new
    or has changed, or else what it meant before; so a parameter that only stands in for a variable leaves it as it
    was. New values are told from old ones by comparison. No scope but the innermost one is touched. -/
theorem case_variables {step : Step} {id : Int} {t : TestCase} {s : Stage σ η} (referenced : step.row.caseId = some id)
    (found : (e.host.testCase id s.host).1 = .ok (some t)) (ordered : s.context.scopes.Ordered)
    (keeps : (step.overrides.variablesFor s.context.scopes.flatten).Extends
      (e.caseRun step t s.context (e.host.testCase id s.host).2).vars) :
    let before := s.context.scopes.flatten
    let given := step.overrides.variablesFor before
    let left := (e.caseRun step t s.context (e.host.testCase id s.host).2).vars
    let after := ((e.caseStep step).run s).2.context.scopes
    after.below = s.context.scopes.below ∧
      ∃ r, ((e.caseStep step).run s).1 = [r] ∧ ∀ name,
        let meant := (ExtractRule.lastFor step.overrides.extract r name).or (Members.taken before given left name)
        Option.Rel Json.Equal meant (after.flatten.get? name) ∧
          (before.contains name → after.flatten.get? name = meant) := by
  intro before given left after
  have ran : (e.caseStep step).run s = (e.runCase step t).run { s with host := (e.host.testCase id s.host).2 } := by
    simp only [caseStep, referenced, run_bind, run_ask, found]
  obtain ⟨r, alone, scopes⟩ := run_runCase (e := e) step t { s with host := (e.host.testCase id s.host).2 }
  rw [← ran] at alone scopes
  have set : after = ((s.context.scopes.addMissing given).setChanged given left).setExtracted step.overrides.extract r :=
    scopes
  have grown : before.Extends given := ordered.flatten.extends_update _
  have changed : ((s.context.scopes.addMissing given).setChanged given left).Ordered :=
    (ordered.addMissing given).setChanged given left
  refine ⟨?_, r, alone, ?_⟩
  · rw [set, Scopes.below_setExtracted, Scopes.setChanged_eq, Scopes.addMissing_eq, Scopes.below_setUnless,
      Scopes.below_setUnless]
  · intro name meant
    obtain ⟨equal, same⟩ := Scopes.get?_setChanged_addMissing ordered grown keeps name
    have value : after.flatten.get? name = (ExtractRule.lastFor step.overrides.extract r name).or
        (((s.context.scopes.addMissing given).setChanged given left).get? name) := by
      rw [set, Scopes.get?_flatten (changed.setExtracted _ r), Scopes.get?_setExtracted]
    rw [value]
    constructor
    · cases extracted : ExtractRule.lastFor step.overrides.extract r name with
      | some v => simp [meant, extracted, Json.Equal]
      | none => simpa [meant, extracted] using equal
    · intro held
      rw [same held]

/-- One parameter stands in for a variable and another one is new; the case changes a variable of two scopes, and what
    it leaves under a new name is replaced by what is extracted from its answer. -/
theorem case_variables_of_login :
    let t : TestCase := { id := 7, name := "Login", url := "http://h/" }
    let answer : Prepared := { headers := [("X-Token", "abc")], set := [("hidden", .ofNat 3), ("made", .ofNat 4)] }
    let engine : Engine (Rehearsal CallLog) Unit :=
      { host := ({ cases := [t] } : Catalog).host (Rehearsal.world (Prepared.runCase [(7, [answer])])) }
    let rule : Json := .obj [("varName", .str "made"), ("type", .str "HEADER"), ("expression", .str "X-Token")]
    let params : Json := .obj [("fresh", .str "new"), ("kept", .str "given")]
    let overrides : Json := .obj [("params", params), ("extract", .arr [rule])]
    let step : Step := ⟨{ id := 1, kind := .testCase, caseId := some 7, overrides := some overrides }, []⟩
    let scopes : Scopes :=
      { globals := [("hidden", .ofNat 1), ("kept", .str "old")], inner := [[("hidden", .ofNat 2)]] }
    let s : Stage (Rehearsal CallLog) Unit := { context := { scopes }, host := { services := [] }, kept := () }
    let after := ((engine.caseStep step).run s).2.context.scopes
    scopes.Ordered ∧ after.below = [scopes.globals] ∧
      after.flatten.get? "kept" = some (.str "old") ∧ after.flatten.get? "hidden" = some (.ofNat 3) ∧
      Option.Rel Json.Equal (some (.str "new")) (after.flatten.get? "fresh") ∧
      Option.Rel Json.Equal (some (.str "abc")) (after.flatten.get? "made") := by
  intro t answer engine rule params overrides step scopes s after
  have ordered : scopes.Ordered := by decide
  have keeps : (step.overrides.variablesFor scopes.flatten).Extends (engine.caseRun step t s.context s.host).vars :=
    Prepared.extends_runCase _ _ (ordered.flatten.update _) _ _
  have found : (engine.host.testCase 7 s.host).1 = .ok (some t) := rfl
  have referenced : step.row.caseId = some 7 := rfl
  obtain ⟨below, r, alone, meant⟩ := case_variables (s := s) referenced found ordered keeps
  let given : Members := [("fresh", .str "new"), ("hidden", .ofNat 2), ("kept", .str "given")]
  let vars : Members := [("fresh", .str "new"), ("hidden", .ofNat 3), ("kept", .str "given"), ("made", .ofNat 4)]
  let result : StepResult := {
    stepId := 1
    name := "Login"
    status := .pass
    responseHeaders := [("X-Token", "abc")]
    requestUrl := some "http://h/"
    requestMethod := some "GET" }
  let token : ExtractRule := { varName := "made", kind := .header, expressionText := some "X-Token" }
  have begun : step.overrides.variablesFor scopes.flatten = given := by cbv
  have left : (engine.caseRun step t s.context s.host).vars = vars := by cbv
  have rules : step.overrides.extract = [token] := by cbv
  have answered : ((engine.caseStep step).run s).1 = [result] := by decide +kernel
  obtain rfl : r = result := List.singleton_injective (alone.symm.trans answered)
  let means (name : String) : Option Json :=
    (ExtractRule.lastFor [token] result name).or (Members.taken scopes.flatten given vars name)
  have value (name : String) : Option.Rel Json.Equal (means name) (after.flatten.get? name) ∧
      (Dict.contains scopes.flatten name → after.flatten.get? name = means name) := by
    unfold means
    rw [← begun, ← left, ← rules]
    exact meant name
  have kept : means "kept" = some (.str "old") := by cbv
  have hidden : means "hidden" = some (.ofNat 3) := by cbv
  have fresh : means "fresh" = some (.str "new") := by cbv
  have made : means "made" = some (.str "abc") := by cbv
  refine ⟨ordered, below, ((value "kept").2 rfl).trans kept, ((value "hidden").2 rfl).trans hidden, ?_, ?_⟩
  · rw [← fresh]
    exact (value "fresh").1
  · rw [← made]
    exact (value "made").1

end Engine
end TestScenario
