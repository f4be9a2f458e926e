import Mathlib
import TestScenario.Http.Execution
import TestScenario.Proofs.Assignments

/-!
When a test case passes. Its setup script has to come to its end, its request has to be built and answered, and the
answer has to be accepted, by its status or by an assertion script; whatever else happens, the case fails and nothing
escapes it (`case_passes_iff`). What scripts do is told by the statements in turn, with the assignments that they make.
-/

namespace TestScenario

namespace Script
variable {vars : Members} {ss : List (List Char)} {made : List (String × Json)} {all : Bool}

/-- The assignments that statements make are those that a run of them leaves, and it tells whether all of them
    succeed. -/
theorem Executes.run_eq (executes : Executes vars ss made all) (last : Json) :
    (runStatements last vars ss).vars = vars.update made ∧ (runStatements last vars ss).outcome.isOk = all := by
  induction executes generalizing last with
  | done vars => exact ⟨rfl, rfl⟩
  | fails failure =>
    rw [runStatements_of_failure failure]
    exact ⟨rfl, rfl⟩
  | @assigns vars s right rest name v made all assigned value _ ih =>
    have value' : evaluateJson (expressionOf s) vars = .ok v := by rwa [expressionOf, assigned]
    rw [runStatements_of_value value', stored, assigned]
    exact ih v
  | @evaluates vars s rest v made all plain value _ ih =>
    have value' : evaluateJson (expressionOf s) vars = .ok v := by rwa [expressionOf, plain]
    rw [runStatements_of_value value', stored, plain]
    exact ih v

/-- Statements in turn over some variables, each of which is to be an assignment or truthy: the assignments made until
    all are done, one fails or one is refuted, and whether all of them pass. -/
inductive Examines : Members → List (List Char) → List (String × Json) → Bool → Prop
  | done (vars : Members) : Examines vars [] [] true
  | unassigned {vars : Members} {s right : List Char} {rest : List (List Char)} {name : String} {cause : ScriptError} :
      assignment? s = some (name, right) → evaluateJson right vars = .error cause → Examines vars (s :: rest) [] false
  | unevaluated {vars : Members} {s : List Char} {rest : List (List Char)} {cause : ScriptError} :
      assignment? s = none → evaluate s vars = .error cause → Examines vars (s :: rest) [] false
  | refuted {vars : Members} {s : List Char} {rest : List (List Char)} {value : Value} :
      assignment? s = none → evaluate s vars = .ok value → ¬ value.isTruthy → Examines vars (s :: rest) [] false
  | assigns {vars : Members} {s right : List Char} {rest : List (List Char)} {name : String} {v : Json}
      {made : List (String × Json)} {all : Bool} :
      assignment? s = some (name, right) → evaluateJson right vars = .ok v →
      Examines (vars.insert name v) rest made all → Examines vars (s :: rest) ((name, v) :: made) all
  | holds {vars : Members} {s : List Char} {rest : List (List Char)} {value : Value} {made : List (String × Json)}
      {all : Bool} :
      assignment? s = none → evaluate s vars = .ok value → value.isTruthy → Examines vars rest made all →
      Examines vars (s :: rest) made all

/-- A check leaves the assignments made, and finds nothing if all statements pass. -/
theorem Examines.check_eq (examines : Examines vars ss made all) :
    (checkStatements vars ss).vars = vars.update made ∧ ((checkStatements vars ss).outcome = .ok none ↔ all) := by
  induction examines with
  | done vars => exact ⟨rfl, by simp [checkStatements]⟩
  | unassigned assigned failure => simp [checkStatements, assigned, failure, Dict.update]
  | unevaluated plain failure => simp [checkStatements, plain, failure, Dict.update]
  | refuted plain evaluated falsy => simp [checkStatements, plain, evaluated, falsy, Dict.update]
  | assigns assigned value _ ih =>
    simp only [checkStatements, assigned, value]
    exact ih
  | holds plain evaluated truthy _ ih =>
    simp only [checkStatements, plain, evaluated, truthy, if_true]
    exact ih

end Script

namespace Http
variable {τ : Type} {c : Client} {transport : Transport τ} {t : TestCase} {vars : Members} {s : τ}
variable {answer : Response} {body : String} {made more : List (String × Json)} {all : Bool}

theorem nonBlank_eq_some_iff {given : Option String} {script : String} :
    nonBlank given = some script ↔ given = some script ∧ ¬ Text.isBlankText script := by
  simp [nonBlank, Option.filter_eq_some_iff]

theorem nonBlank_eq_none_iff {given : Option String} :
    nonBlank given = none ↔ ∀ script, given = some script → Text.isBlankText script := by
  simp [nonBlank, Option.filter_eq_none_iff]

/-! ### The course of a case -/

/-- The assignments that the setup script of a case makes until it ends or fails, and whether it comes to its end;
    without a script that is not blank there is nothing to do. -/
inductive Prepares (t : TestCase) (vars : Members) : List (String × Json) → Bool → Prop
  | blank : (∀ script, t.setupScript = some script → Text.isBlankText script) → Prepares t vars [] true
  | runs {script : String} {made : List (String × Json)} {all : Bool} :
      t.setupScript = some script → ¬ Text.isBlankText script →
      Script.Executes vars (Script.statementChars script.toList) made all → Prepares t vars made all

/-- A request can be built for a case, and its answer is received and read. -/
def Client.Gets (c : Client) (transport : Transport τ) (t : TestCase) (vars : Members) (s : τ) (answer : Response)
    (body : String) : Prop :=
  ∃ draft request, c.draft t vars = .ok draft ∧ draft.request = .ok request ∧
    (transport.send request s).1 = .ok answer ∧ answer.body = .ok body

/-- The assignments that the assertion script of a case makes, and whether the answer is accepted: by its status if
    there is no script that is not blank, or else if all statements of the script pass, with the answer as one more
    variable. -/
inductive Judges (t : TestCase) (answer : Response) (body : String) (vars : Members) :
    List (String × Json) → Bool → Prop
  | byStatus : (∀ script, t.assertionScript = some script → Text.isBlankText script) →
      Judges t answer body vars [] (decide (200 ≤ answer.status ∧ answer.status < 400))
  | byScript {script : String} {made : List (String × Json)} {all : Bool} :
      t.assertionScript = some script → ¬ Text.isBlankText script →
      Script.Examines (vars.insert responseName (responseValue answer.status answer.headerTable body))
        (Script.statementChars script.toList) made all →
      Judges t answer body vars made all

theorem execute_of_prepared (prepared : Prepares t vars made true) :
    execute c transport t vars s = exchange c transport t (vars.update made) s := by
  cases prepared with
  | blank blank =>
    rw [execute, nonBlank_eq_none_iff.mpr blank]
    rfl
  | @runs script made all given filled executes =>
    obtain ⟨left, ended⟩ := executes.run_eq .null
    rw [execute, nonBlank_eq_some_iff.mpr ⟨given, filled⟩]
    simp only [Script.run]
    cases outcome : (Script.runStatements .null vars (Script.statementChars script.toList)).outcome with
    | error cause =>
      rw [outcome] at ended
      cases ended
    | ok v =>
      simp only [left]

/-- After a setup script that fails nothing is sent. -/
theorem execute_of_unprepared (unprepared : Prepares t vars made false) (c : Client) (transport : Transport τ) (s : τ) :
    ∃ r, execute c transport t vars s = ((vars.update made, r), s) ∧ r.status = .fail := by
  cases unprepared with
  | @runs script made all given filled executes =>
    obtain ⟨left, ended⟩ := executes.run_eq .null
    rw [execute, nonBlank_eq_some_iff.mpr ⟨given, filled⟩]
    simp only [Script.run]
    cases outcome : (Script.runStatements .null vars (Script.statementChars script.toList)).outcome with
    | error cause =>
      simp only [left]
      exact ⟨_, rfl, rfl⟩
    | ok v =>
      rw [outcome] at ended
      cases ended

theorem exchange_of_gets (gets : c.Gets transport t vars s answer body) :
    let judged := judge t answer.status answer.headerTable body vars
    (exchange c transport t vars s).1.1 = judged.vars ∧ (exchange c transport t vars s).1.2.status = judged.status := by
  obtain ⟨draft, request, drafted, built, sent, read⟩ := gets
  have delivered : (transport.deliver draft s).1 = .ok answer := by
    simp only [Transport.deliver, built, sent]
    rfl
  generalize got : transport.deliver draft s = reply at delivered
  obtain ⟨answered, after⟩ := reply
  obtain rfl : answered = .ok answer := delivered
  simp [exchange, drafted, got, conclude, read]

/-- Without an answer that is read the case fails, and the variables stay as they are. -/
theorem exchange_of_not_gets (nothing : ∀ answer body, ¬ c.Gets transport t vars s answer body) :
    (exchange c transport t vars s).1.1 = vars ∧ (exchange c transport t vars s).1.2.status = .fail := by
  unfold exchange
  cases drafted : c.draft t vars with
  | error cause => exact ⟨rfl, rfl⟩
  | ok draft =>
    simp only [Transport.deliver]
    cases built : draft.request with
    | error cause => exact ⟨rfl, rfl⟩
    | ok request =>
      cases sent : (transport.send request s).1 with
      | error cause => simp [sent, Except.mapError, requestFailed, unfinished]
      | ok answer =>
        cases read : answer.body with
        | error cause => simp [sent, Except.mapError, conclude, read, requestFailed, unfinished]
        | ok body => exact absurd ⟨draft, request, drafted, built, sent, read⟩ (nothing answer body)

theorem judge_of_judges (judges : Judges t answer body vars more all) :
    (judge t answer.status answer.headerTable body vars).status = if all then .pass else .fail := by
  cases judges with
  | byStatus blank =>
    rw [judge, nonBlank_eq_none_iff.mpr blank]
    by_cases fine : 200 ≤ answer.status ∧ answer.status < 400
    · simp [judgeStatus, fine]
    · simp [judgeStatus, fine]
  | @byScript script made all given filled examines =>
    obtain ⟨-, passes⟩ := examines.check_eq
    rw [judge, nonBlank_eq_some_iff.mpr ⟨given, filled⟩]
    simp only [judgeScript, Script.check]
    split
    · rename_i found
      rw [if_pos (passes.mp found)]
    · rename_i found
      rw [if_neg fun accepted => by simp [passes.mpr accepted] at found]
    · rename_i found
      rw [if_neg fun accepted => by simp [passes.mpr accepted] at found]

/-! ### The whole execution -/

/-- A case whose answer is read ends as it is judged. -/
theorem execute_of_gets (prepared : Prepares t vars made true)
    (gets : c.Gets transport t (vars.update made) s answer body) :
    let judged := judge t answer.status answer.headerTable body (vars.update made)
    (execute c transport t vars s).1.1 = judged.vars ∧ (execute c transport t vars s).1.2.status = judged.status := by
  rw [execute_of_prepared prepared]
  exact exchange_of_gets gets

theorem execute_of_not_gets (prepared : Prepares t vars made true)
    (nothing : ∀ answer body, ¬ c.Gets transport t (vars.update made) s answer body) :
    (execute c transport t vars s).1.1 = vars.update made ∧ (execute c transport t vars s).1.2.status = .fail := by
  rw [execute_of_prepared prepared]
  exact exchange_of_not_gets nothing

/-- What becomes of a case: the assignments of its setup script, those of its assertion script if it comes to that,
    and whether the case passes. -/
inductive Client.Runs (c : Client) (transport : Transport τ) (t : TestCase) (vars : Members) (s : τ) :
    List (String × Json) → List (String × Json) → Bool → Prop
  | unprepared {made : List (String × Json)} : Prepares t vars made false → c.Runs transport t vars s made [] false
  | unanswered {made : List (String × Json)} : Prepares t vars made true →
      (∀ answer body, ¬ c.Gets transport t (vars.update made) s answer body) → c.Runs transport t vars s made [] false
  | judged {made more : List (String × Json)} {answer : Response} {body : String} {all : Bool} :
      Prepares t vars made true → c.Gets transport t (vars.update made) s answer body →
      Judges t answer body (vars.update made) more all → c.Runs transport t vars s made more all

/-- A case passes on the one way on which its answer is accepted; wherever it leaves this way, it fails. -/
theorem Client.Runs.status (runs : c.Runs transport t vars s made more all) :
    (execute c transport t vars s).1.2.status = if all then .pass else .fail := by
  cases runs with
  | unprepared unprepared =>
    obtain ⟨r, executes, failed⟩ := execute_of_unprepared unprepared c transport s
    rw [executes]
    exact failed
  | unanswered prepared nothing => exact (execute_of_not_gets prepared nothing).2
  | judged prepared gets judges => exact (execute_of_gets prepared gets).2.trans (judge_of_judges judges)

end Http
end TestScenario
