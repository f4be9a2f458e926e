import Mathlib
import TestScenario.Proofs.Absence

/-!
The checks of an answer and what they report. Each check is held against the result as it was before all of them. Those
that fail are reported in order, below a heading, and any of them lets the result fail (`failed_checks_reported`).
-/

namespace TestScenario

namespace Text

theorem splitOnce_isSome_iff {part cs : List Char} : (splitOnce part cs).isSome ↔ part <:+: cs := by
  induction cs with
  | nil =>
    rw [splitOnce, List.infix_nil]
    cases part <;> simp
  | cons c rest ih =>
    rw [splitOnce, List.infix_cons_iff, ← List.isPrefixOf_iff_prefix]
    by_cases begins : part.isPrefixOf (c :: rest)
    · simp [begins]
    · simp [begins, ih]

/-- A text contains another one if this stands somewhere in it. -/
theorem contains_iff {s part : String} : contains s part ↔ part.toList <:+: s.toList := splitOnce_isSome_iff

end Text

/-- What is found compares as it should with what is expected. Nothing found reads as `null` and a path without a
    match as `PROPERTY_NOT_FOUND` where texts are compared, but neither of them counts as being there, or as a
    number. -/
def Found.Meets (found : Found) (expected : String) : Comparison → Prop
  | .equals => found.shown = expected
  | .notEquals => found.shown ≠ expected
  | .contains => expected.toList <:+: found.shown.toList
  | .notContains => ¬ expected.toList <:+: found.shown.toList
  | .present => ∃ s, found = .text s
  | .absent => ∀ s, found ≠ .text s
  | .greaterThan => ∃ x y, Check.numbers found.shown expected = some (x, y) ∧ x > y
  | .lessThan => ∃ x y, Check.numbers found.shown expected = some (x, y) ∧ x < y
  | .unknown => False

theorem Found.isText_iff {found : Found} : found.isText ↔ ∃ s, found = .text s := by
  cases found <;> simp [isText]

namespace Check
variable {r : StepResult} {resolve : String → String} {c : Check} {checks : List Check}

theorem compare_iff {found : Found} {expected : String} {comparison : Comparison} :
    compare found expected comparison ↔ found.Meets expected comparison := by
  cases comparison with
  | equals => exact beq_iff_eq
  | notEquals => exact bne_iff_ne
  | contains => exact Text.contains_iff
  | notContains => rw [compare, Bool.not_eq_true', ← Bool.not_eq_true, Text.contains_iff, Found.Meets]
  | present => exact Found.isText_iff
  | absent =>
    rw [compare, Bool.not_eq_true', ← Bool.not_eq_true, Found.isText_iff, not_exists, Found.Meets]
  | greaterThan => simp [compare, Found.Meets, Option.any_eq_true]
  | lessThan => simp [compare, Found.Meets, Option.any_eq_true]
  | unknown => simp [compare, Found.Meets]

instance : Decidable (c.Passes r resolve) := inferInstanceAs (Decidable (_ = true))

/-- The entry about a check that fails. -/
def entry (r : StepResult) (resolve : String → String) (c : Check) : String :=
  "- [" ++ c.source.name ++ "] " ++ c.property ++ " " ++ c.comparison.name ++ " " ++ resolve c.expectedText
    ++ " (Actual: " ++ (find r c.source c.property).shown ++ ")\n"

/-- A detail with entries about failed checks behind it, below their heading; without any it stays as it is. -/
def reported (detail : Option String) (entries : List String) : Option String :=
  if entries = [] then detail else some (detail.elim "" (· ++ "\n") ++ (heading ++ String.join entries))

/-- One check adds its entry if it fails, and nothing if it passes. -/
theorem failure?_eq : failure? r resolve c = if c.Passes r resolve then none else some (entry r resolve c) := rfl

/-- Checks gone through in turn leave the entries of those that fail. -/
theorem failures_eq (r : StepResult) (resolve : String → String) (checks : List Check) :
    checks.filterMap (failure? r resolve) =
      (checks.filter fun c => ¬ c.Passes r resolve).map (entry r resolve) := by
  induction checks with
  | nil => rfl
  | cons c rest ih =>
    by_cases passes : c.Passes r resolve
    · simp [failure?_eq, passes, ih]
    · simp [failure?_eq, passes, ih]

theorem failures_eq_nil_iff (r : StepResult) (resolve : String → String) (checks : List Check) :
    (checks.filter fun c => ¬ c.Passes r resolve).map (entry r resolve) = [] ↔ ∀ c ∈ checks, c.Passes r resolve := by
  simp [List.filter_eq_nil_iff]

/-- The checks touch nothing but the status and the detail. -/
theorem applyAll_eq (r : StepResult) (checks : List Check) (resolve : String → String) :
    applyAll r checks resolve =
      { r with
        status := if ∀ c ∈ checks, c.Passes r resolve then r.status else .fail
        detail := reported r.detail ((checks.filter fun c => ¬ c.Passes r resolve).map (entry r resolve)) } := by
  have nothing := failures_eq_nil_iff r resolve checks
  rw [applyAll, failures_eq]
  generalize (checks.filter fun c => ¬ c.Passes r resolve).map (entry r resolve) = entries at nothing
  cases entries with
  | nil =>
    rw [if_pos (nothing.mp rfl)]
    rfl
  | cons first later =>
    have fails : ¬ ∀ c ∈ checks, c.Passes r resolve := fun all => List.cons_ne_nil _ _ (nothing.mpr all)
    rw [if_neg fails]
    cases r.detail <;> simp [reported]

/-- Checks change a result in its status and its detail at most. It fails if any of them does, and keeps its status
    otherwise. The detail stays as it is if none fails; if any does, there is a heading behind the old detail, then
    one entry for each check that fails, in their order. Each of them is held against the result before all checks: in
    another order the same ones fail, with the same entries. -/
theorem failed_checks_reported (r : StepResult) (checks : List Check) (resolve : String → String) :
    let after := applyAll r checks resolve
    let entries := (checks.filter fun c => ¬ c.Passes r resolve).map (entry r resolve)
    (∀ c : Check, c.Passes r resolve ↔ (find r c.source c.property).Meets (resolve c.expectedText) c.comparison) ∧
      after = { r with status := after.status, detail := after.detail } ∧
      (after.status = if ∀ c ∈ checks, c.Passes r resolve then r.status else .fail) ∧
      after.detail = reported r.detail entries ∧
      ∀ others, others.Perm checks → ∃ arranged, arranged.Perm entries ∧
        applyAll r others resolve = { after with detail := reported r.detail arranged } := by
  intro after entries
  have judged : after = _ := applyAll_eq r checks resolve
  refine ⟨fun c => compare_iff, ?_, ?_, ?_, ?_⟩
  · rw [judged]
  · rw [judged]
  · rw [judged]
  · intro others order
    have same : (∀ c ∈ others, c.Passes r resolve) ↔ ∀ c ∈ checks, c.Passes r resolve :=
      forall_congr' fun c => imp_congr_left order.mem_iff
    refine ⟨_, (order.filter fun c => ¬ c.Passes r resolve).map (entry r resolve), ?_⟩
    rw [applyAll_eq r others, judged]
    simp only [same]

/-- Of three checks, in either order, the first and the last one fail: the status is not the one that a variable
    holds, and there is no such header. -/
theorem failed_checks_reported_either_way :
    let r : StepResult :=
      { stepId := 1, name := "Get", status := .pass, detail := some "Assertions passed", httpStatus := some 200 }
    let resolve := Reference.expand [("expected", .ofNat 201)]
    let checks : List Check := [⟨.statusCode, "", .equals, .str "$\x7bexpected\x7d"⟩,
      ⟨.statusCode, "", .lessThan, .ofNat 300⟩, ⟨.responseHeader, "X-Id", .present, .null⟩]
    let entries := ["- [STATUS_CODE]  EQUALS 201 (Actual: 200)\n", "- [RESPONSE_HEADER] X-Id EXISTS  (Actual: null)\n"]
    let after := applyAll r checks resolve
    checks.reverse.Perm checks ∧ after.status = .fail ∧ after.detail = reported (some "Assertions passed") entries ∧
      ∃ arranged, arranged.Perm entries ∧
        applyAll r checks.reverse resolve = { after with detail := reported r.detail arranged } := by
  intro r resolve checks entries after
  have order : checks.reverse.Perm checks := List.reverse_perm checks
  obtain ⟨-, -, status, detail, any⟩ := failed_checks_reported r checks resolve
  have failing : (checks.filter fun c => ¬ c.Passes r resolve).map (entry r resolve) = entries := by decide +kernel
  rw [failing] at detail any
  have fails : ¬ ∀ c ∈ checks, c.Passes r resolve := by decide +kernel
  rw [if_neg fails] at status
  exact ⟨order, status, detail, any _ order⟩

end Check
end TestScenario
