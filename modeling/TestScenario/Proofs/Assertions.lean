import Mathlib
import TestScenario.Proofs.Assignments

/-!
Checks of a script beside runs of it.

A check goes through the statements of a script as a run does, but stops at the first one that is no assignment and
whose value is not truthy. So a check of a script that runs without a failure finds that statement, and leaves the
variables that the run has before it (`check_follows_run`).
-/

namespace TestScenario.Script
variable {last v : Json} {vars : Members} {s : List Char} {ss : List (List Char)}

/-- In a run without a failure each statement has a value. -/
theorem value_of_succeeds (succeeds : (runStatements last vars (s :: ss)).outcome.isOk) :
    ∃ v, evaluateJson (expressionOf s) vars = .ok v := by
  cases value : evaluateJson (expressionOf s) vars with
  | ok v => exact ⟨v, rfl⟩
  | error cause =>
    rw [runStatements_of_failure value] at succeeds
    cases succeeds

/-- A run without a failure comes to each statement with the variables that the ones before it leave. -/
theorem runStatements_append {before after : List (List Char)}
    (succeeds : (runStatements last vars (before ++ after)).outcome.isOk) :
    ∃ latest, runStatements last vars (before ++ after) =
      runStatements latest (runStatements last vars before).vars after := by
  induction before generalizing last vars with
  | nil => exact ⟨last, rfl⟩
  | cons s before ih =>
    rw [List.cons_append] at succeeds ⊢
    obtain ⟨v, value⟩ := value_of_succeeds succeeds
    rw [runStatements_of_value value] at succeeds ⊢
    rw [runStatements_of_value value]
    exact ih succeeds

/-! ### Statements that pass -/

/-- A statement is an assignment, or its value is truthy. -/
def Passes (vars : Members) (s : List Char) : Prop :=
  assignment? s = none → ∃ value, evaluate s vars = .ok value ∧ value.isTruthy

/-- A statement is no assignment, and its value is not truthy. -/
def Refuted (vars : Members) (s : List Char) : Prop :=
  assignment? s = none ∧ ∃ value, evaluate s vars = .ok value ∧ ¬ value.isTruthy

theorem Refuted.not_passes (refuted : Refuted vars s) : ¬ Passes vars s := by
  intro passes
  obtain ⟨plain, value, evaluated, falsy⟩ := refuted
  obtain ⟨other, same, truthy⟩ := passes plain
  obtain rfl := Except.ok.inj (evaluated.symm.trans same)
  exact falsy truthy

theorem evaluate_of_json {expression : List Char} (json : evaluateJson expression vars = .ok v) :
    ∃ value, evaluate expression vars = .ok value := by
  cases evaluated : evaluate expression vars with
  | ok value => exact ⟨value, rfl⟩
  | error cause =>
    rw [evaluateJson, evaluated] at json
    cases json

/-- A check goes on behind a statement that passes and stops at any other. -/
theorem check_statement (value : evaluateJson (expressionOf s) vars = .ok v) (rest : List (List Char)) :
    Passes vars s ∧ checkStatements vars (s :: rest) = checkStatements (stored vars s v) rest ∨
      Refuted vars s ∧ checkStatements vars (s :: rest) = ⟨vars, .ok (some (String.ofList s))⟩ := by
  cases assigned : assignment? s with
  | some assignment =>
    obtain ⟨name, right⟩ := assignment
    have json : evaluateJson right vars = .ok v := by simpa [expressionOf, assigned] using value
    refine .inl ⟨fun plain => ?_, ?_⟩
    · rw [assigned] at plain
      cases plain
    · simp [checkStatements, stored, assigned, json]
  | none =>
    have json : evaluateJson s vars = .ok v := by simpa [expressionOf, assigned] using value
    obtain ⟨w, evaluated⟩ := evaluate_of_json json
    by_cases truthy : w.isTruthy
    · exact .inl ⟨fun _ => ⟨w, evaluated, truthy⟩, by simp [checkStatements, stored, assigned, evaluated, truthy]⟩
    · exact .inr ⟨⟨assigned, w, evaluated, truthy⟩, by simp [checkStatements, assigned, evaluated, truthy]⟩

/-- Each of some statements passes with the variables that the ones before it leave. -/
def AllPass (last : Json) (vars : Members) (ss : List (List Char)) : Prop :=
  ∀ before s after, ss = before ++ s :: after → Passes (runStatements last vars before).vars s

theorem allPass_cons (value : evaluateJson (expressionOf s) vars = .ok v) :
    AllPass last vars (s :: ss) ↔ Passes vars s ∧ AllPass v (stored vars s v) ss := by
  constructor
  · intro all
    refine ⟨all [] s ss rfl, fun before t after split => ?_⟩
    have passes := all (s :: before) t after (by rw [split, List.cons_append])
    rwa [runStatements_of_value value] at passes
  · rintro ⟨here, later⟩ before t after split
    cases before with
    | nil =>
      obtain ⟨rfl, -⟩ := List.cons.inj split
      exact here
    | cons first before =>
      obtain ⟨rfl, rest⟩ := List.cons.inj split
      rw [runStatements_of_value value]
      exact later before t after rest

/-- A check of statements that run without a failure comes to their end, or stops at the first one that is refuted. -/
theorem check_of_succeeds (succeeds : (runStatements last vars ss).outcome.isOk) :
    AllPass last vars ss ∧ checkStatements vars ss = ⟨(runStatements last vars ss).vars, .ok none⟩ ∨
      ∃ before s after, ss = before ++ s :: after ∧ AllPass last vars before ∧
        Refuted (runStatements last vars before).vars s ∧
        checkStatements vars ss = ⟨(runStatements last vars before).vars, .ok (some (String.ofList s))⟩ := by
  induction ss generalizing last vars with
  | nil => exact .inl ⟨by simp [AllPass], rfl⟩
  | cons s ss ih =>
    obtain ⟨v, value⟩ := value_of_succeeds succeeds
    rw [runStatements_of_value value] at succeeds ⊢
    rcases check_statement value ss with ⟨passes, goesOn⟩ | ⟨refuted, stops⟩
    · rw [goesOn]
      rcases ih succeeds with ⟨all, ended⟩ | ⟨before, t, after, split, all, refuted, stops⟩
      · exact .inl ⟨(allPass_cons value).mpr ⟨passes, all⟩, ended⟩
      · refine .inr ⟨s :: before, t, after, by rw [split, List.cons_append], (allPass_cons value).mpr ⟨passes, all⟩, ?_⟩
        rw [runStatements_of_value value]
        exact ⟨refuted, stops⟩
    · exact .inr ⟨[], s, ss, rfl, by simp [AllPass], refuted, stops⟩

/-- A script that runs without a failure is checked without a failure. The run comes to each statement with the
    variables that the statements before it leave. The check finds nothing exactly if every statement passes with
    those variables, and then leaves the same variables as the run; otherwise it finds the first statement that is
    refuted, and leaves the variables with which the run comes to it. -/
theorem check_follows_run (script : String) (vars : Members) (succeeds : (run script vars).outcome.isOk) :
    let ss := statementChars script.toList
    let table := fun before => (runStatements .null vars before).vars
    (∀ before after, ss = before ++ after → ∃ latest, run script vars = runStatements latest (table before) after) ∧
      ∃ found, (check script vars).outcome = .ok found ∧
        (found = none ↔ ∀ before s after, ss = before ++ s :: after → Passes (table before) s) ∧
        (found = none → (check script vars).vars = (run script vars).vars) ∧
        ∀ text, found = some text → ∃ before s after, ss = before ++ s :: after ∧ text = String.ofList s ∧
          (∀ earlier t later, before = earlier ++ t :: later → Passes (table earlier) t) ∧
          Refuted (table before) s ∧ (check script vars).vars = table before := by
  intro ss table
  refine ⟨fun before after split => ?_, ?_⟩
  · rw [run] at succeeds ⊢
    have parts : statementChars script.toList = before ++ after := split
    rw [parts] at succeeds ⊢
    exact runStatements_append succeeds
  · rcases check_of_succeeds succeeds with ⟨all, ended⟩ | ⟨before, s, after, split, all, refuted, stops⟩
    · have checked : check script vars = ⟨(run script vars).vars, .ok none⟩ := ended
      rw [checked]
      refine ⟨none, rfl, ⟨fun _ => all, fun _ => rfl⟩, fun _ => rfl, ?_⟩
      intro text found
      cases found
    · have checked : check script vars = ⟨table before, .ok (some (String.ofList s))⟩ := stops
      rw [checked]
      refine ⟨some (String.ofList s), rfl, ⟨?_, ?_⟩, ?_, ?_⟩
      · intro none
        cases none
      · intro all
        exact absurd (all before s after split) refuted.not_passes
      · intro none
        cases none
      · intro text found
        cases found
        exact ⟨before, s, after, split, rfl, all, refuted, rfl⟩

/-- A check stops at a comparison that fails, before a variable is assigned once more. -/
theorem check_stops_before_run :
    let script := "x = 1\nx == 2\nx = 3"
    (run script []).outcome.isOk ∧ run script [] = ⟨[("x", .ofNat 3)], .ok (.ofNat 3)⟩ ∧
      check script [] = ⟨[("x", .ofNat 1)], .ok (some "x == 2")⟩ ∧
      ∃ before s after, statementChars script.toList = before ++ s :: after ∧ "x == 2" = String.ofList s ∧
        Refuted (runStatements .null [] before).vars s ∧ (runStatements .null [] before).vars = [("x", .ofNat 1)] := by
  intro script
  have ran : run script [] = ⟨[("x", .ofNat 3)], .ok (.ofNat 3)⟩ := by cbv
  have checked : check script [] = ⟨[("x", .ofNat 1)], .ok (some "x == 2")⟩ := by cbv
  have succeeds : (run script []).outcome.isOk := by rw [ran]; rfl
  obtain ⟨-, found, answer, -, -, stops⟩ := check_follows_run script [] succeeds
  rw [checked] at answer stops
  obtain rfl := Except.ok.inj answer
  obtain ⟨before, s, after, split, text, -, refuted, table⟩ := stops "x == 2" rfl
  exact ⟨succeeds, ran, checked, before, s, after, split, text, refuted, table.symm⟩

end TestScenario.Script
