import Mathlib
import TestScenario.Proofs.Naming
import TestScenario.Proofs.Phrases
import TestScenario.Run.Extraction

/-!
References to bodies beside rules that take values from them. Behind the name of a step and the word for its body, a
suffix that begins with a dot reads what a rule takes whose expression is a dollar sign and this suffix. A suffix that
begins in any other way makes no reference to a body, and stays (`body_reference_reads`).
-/

namespace TestScenario

namespace Text

theorem splitOnce_append {part : List Char} (filled : part ≠ []) (rest : List Char) :
    splitOnce part (part ++ rest) = some ([], rest) := by
  obtain ⟨c, tail, rfl⟩ := List.exists_cons_of_ne_nil filled
  have begins : (c :: tail).isPrefixOf (c :: tail ++ rest) = true :=
    List.isPrefixOf_iff_prefix.mpr (List.prefix_append _ _)
  rw [List.cons_append, splitOnce, ← List.cons_append, if_pos begins, List.drop_left]

/-- A part stands at the beginning of a text if nothing comes before its first place. -/
theorem prefix_of_splitOnce {part cs rest : List Char} (found : splitOnce part cs = some ([], rest)) : part <+: cs := by
  cases cs with
  | nil =>
    rw [splitOnce] at found
    split at found
    · rename_i empty
      rw [List.isEmpty_iff.mp empty]
    · cases found
  | cons c tail =>
    rw [splitOnce] at found
    split at found
    · rename_i begins
      exact List.isPrefixOf_iff_prefix.mp begins
    · obtain ⟨_, -, same⟩ := Option.map_eq_some_iff.mp found
      cases same

end Text

theorem ExtractRule.extract_eq_some_iff {rule : ExtractRule} (kind : rule.kind = .json) {r : StepResult} {v : Json} :
    rule.extract r = some v ↔
      ∃ body, r.responseBody = some body ∧ Json.selectText body rule.expression = .ok v ∧ v ≠ .null := by
  simp only [extract, kind, Option.bind_eq_bind, Option.bind_eq_some_iff]
  refine exists_congr fun body => and_congr_right fun _ => ?_
  split
  · rename_i selected
    rw [selected, Except.ok.injEq]
    exact ⟨nofun, fun ⟨same, filled⟩ => absurd same.symm filled⟩
  · rename_i w filled selected
    rw [selected, Except.ok.injEq, Option.some.injEq]
    exact ⟨fun same => ⟨same, same ▸ filled⟩, And.left⟩
  · rename_i selected
    rw [selected]
    exact ⟨nofun, nofun⟩

namespace Reference

/-- A suffix that the contents of a reference can end with: not empty, without blanks around it and without a closing
    brace. -/
structure IsSuffix (suffix : String) : Prop where
  filled : suffix ≠ ""
  trimmed : Text.trimmed suffix = suffix
  braceless : '\x7d' ∉ suffix.toList

/-- A reference to what a suffix of a path selects in the body of the result of a step. -/
def toBody (name suffix : String) : String := "\x7b\x7b" ++ name ++ ".response.body" ++ suffix ++ "\x7d\x7d"

/-- What such a reference reads in a result. -/
def bodyPath (suffix : String) : List Char := "response.body".toList ++ suffix.toList

theorem toList_toBody (name suffix : String) :
    (toBody name suffix).toList = Signs.ofSteps.around (name.toList ++ '.' :: bodyPath suffix) := by
  have word : ".response.body".toList = '.' :: "response.body".toList := by decide
  have opening : "\x7b\x7b".toList = ['{', '{'] := by decide
  have closing : "\x7d\x7d".toList = ['}', '}'] := by decide
  unfold toBody bodyPath Signs.around Signs.ofSteps
  simp only [String.toList_append, word, opening, closing, List.append_assoc, List.cons_append]

variable {name suffix : String}

theorem IsSuffix.toList_ne_nil (isSuffix : IsSuffix suffix) : suffix.toList ≠ [] :=
  fun empty => isSuffix.filled (String.toList_eq_nil_iff.mp empty)

theorem IsSuffix.trim_toList (isSuffix : IsSuffix suffix) : Text.trim suffix.toList = suffix.toList := by
  have same := congrArg String.toList isSuffix.trimmed
  rwa [Text.trimmed, String.toList_ofList] at same

theorem IsSuffix.isPath (isSuffix : IsSuffix suffix) : IsPath (bodyPath suffix) := by
  have word : '}' ∉ "response.body".toList := by decide
  have solid : Script.Solid (Text.trim suffix.toList) :=
    Script.Solid.trim (isSuffix.trim_toList.symm ▸ isSuffix.toList_ne_nil)
  obtain ⟨last, ends, dark⟩ := solid.last
  rw [isSuffix.trim_toList] at ends
  unfold bodyPath
  refine ⟨?_, last, ?_, dark⟩
  · rw [List.mem_append]
    exact not_or.mpr ⟨word, isSuffix.braceless⟩
  · rw [List.getLast?_append, ends]
    rfl

/-- What the path to a body reads: the part that the suffix selects if a dot comes first, and else nothing. -/
theorem readResult_body (r : StepResult) (isSuffix : IsSuffix suffix) :
    readResult r (bodyPath suffix) =
      if suffix.toList.head? = some '.' then
        r.responseBody.bind fun body => (Json.selectText body ("$" ++ suffix)).toOption.map Json.text
      else none := by
  have code : "response.body".toList ++ suffix.toList ≠ "response.code".toList := by
    intro same
    have letter := congrArg (fun cs : List Char => cs[9]?) same
    simp at letter
  have longer : "response.body".toList ++ suffix.toList ≠ "response.body".toList := by
    intro same
    exact isSuffix.toList_ne_nil (List.append_cancel_left (same.trans (List.append_nil _).symm))
  have header : ¬ "response.headers.".toList <+: "response.body".toList ++ suffix.toList := by
    rintro ⟨rest, same⟩
    have letter := congrArg (fun cs : List Char => cs[9]?) same
    simp at letter
  unfold readResult bodyPath
  rw [if_neg code, if_neg longer]
  split
  · rename_i found
    exact absurd (Text.prefix_of_splitOnce found) header
  · by_cases dotted : suffix.toList.head? = some '.'
    · obtain ⟨rest, same⟩ := List.head?_eq_some_iff.mp dotted
      have dot : "response.body".toList ++ '.' :: rest = "response.body.".toList ++ rest := rfl
      have expression : "$." ++ String.ofList rest = "$" ++ suffix := by
        rw [← String.toList_inj, String.toList_append, String.toList_append, String.toList_ofList, same]
        simp
      rw [if_pos dotted, same, dot, Text.splitOnce_append (by decide)]
      simp only [expression, Option.bind_eq_bind, Option.map_eq_bind]
      rfl
    · rw [if_neg dotted]
      split
      · rename_i rest found
        obtain ⟨tail, same⟩ := Text.prefix_of_splitOnce found
        have dot : "response.body.".toList ++ tail = "response.body".toList ++ '.' :: tail := rfl
        rw [dot, List.append_cancel_left_eq] at same
        rw [← same] at dotted
        exact absurd rfl dotted
      · rfl

/-- Where a rule takes a value from a body by a dollar sign and a suffix, the reference to the body with this suffix
    stands for the text of the value if the suffix begins with a dot, and else for nothing. -/
theorem body_reference_reads (nameable : Nameable name) (isSuffix : IsSuffix suffix) {c : Context} {r : StepResult}
    (found : c.resultByName name = some r) {rule : ExtractRule} (kind : rule.kind = .json)
    (expression : rule.expression = "$" ++ suffix) {v : Json} (taken : rule.extract r = some v) :
    resolveSteps c (toBody name suffix) =
      if suffix.toList.head? = some '.' then v.text else toBody name suffix := by
  obtain ⟨body, answered, selected, -⟩ := (ExtractRule.extract_eq_some_iff kind).mp taken
  rw [expression] at selected
  rw [resolveSteps_path nameable isSuffix.isPath (toList_toBody name suffix), found, Option.bind_some,
    readResult_body r isSuffix]
  split
  · rw [answered, Option.bind_some, selected]
    rfl
  · rfl

/-- A suffix with two dots, behind the word for a body that is an array. -/
theorem body_reference_reads_ids :
    let r : StepResult := { stepId := 1, name := "List", status := .pass,
                            responseBody := some "[\x7b\"id\":1\x7d,\x7b\"id\":2\x7d]" }
    let c : Context := (({} : Context).registerStep 1 "List").recordResult 1 r
    let rule : ExtractRule := { varName := "ids", expressionText := some "$..id" }
    let v : Json := .arr [.ofNat 1, .ofNat 2]
    Nameable "List" ∧ IsSuffix "..id" ∧ c.resultByName "List" = some r ∧ rule.kind = .json ∧
      rule.expression = "$" ++ "..id" ∧ rule.extract r = some v ∧ resolveSteps c (toBody "List" "..id") = "[1,2]" := by
  intro r c rule v
  have nameable : Nameable "List" := ⟨by cbv, by decide, by decide⟩
  have isSuffix : IsSuffix "..id" := ⟨by decide, by cbv, by decide⟩
  have found : c.resultByName "List" = some r := rfl
  have expression : rule.expression = "$" ++ "..id" := by cbv
  have taken : rule.extract r = some v := by cbv
  refine ⟨nameable, isSuffix, found, rfl, expression, taken, ?_⟩
  rw [body_reference_reads nameable isSuffix found rfl expression taken]
  cbv

/-- A bracket behind the word for a body makes no reference, though a rule takes a value by it: an item of a body that
    is an array cannot be referred to by its position. -/
theorem bracket_behind_body_stays :
    let r : StepResult :=
      { stepId := 1, name := "List", status := .pass, responseBody := some "[\x7b\"id\":7\x7d]" }
    let c : Context := (({} : Context).registerStep 1 "List").recordResult 1 r
    let rule : ExtractRule := { varName := "id", expressionText := some "$[0].id" }
    Nameable "List" ∧ IsSuffix "[0].id" ∧ c.resultByName "List" = some r ∧ rule.kind = .json ∧
      rule.expression = "$" ++ "[0].id" ∧ rule.extract r = some (.ofNat 7) ∧
      resolveSteps c (toBody "List" "[0].id") = toBody "List" "[0].id" ∧
      toBody "List" "[0].id" ≠ (Json.ofNat 7).text := by
  intro r c rule
  have nameable : Nameable "List" := ⟨by cbv, by decide, by decide⟩
  have isSuffix : IsSuffix "[0].id" := ⟨by decide, by cbv, by decide⟩
  have found : c.resultByName "List" = some r := rfl
  have expression : rule.expression = "$" ++ "[0].id" := by cbv
  have taken : rule.extract r = some (.ofNat 7) := by cbv
  have stays : resolveSteps c (toBody "List" "[0].id") = toBody "List" "[0].id" := by
    rw [resolveSteps_path nameable isSuffix.isPath (toList_toBody _ _), found, Option.bind_some,
      readResult_body r isSuffix, if_neg (by decide), Option.getD_none]
  have other : toBody "List" "[0].id" ≠ (Json.ofNat 7).text := by
    have text : (Json.ofNat 7).text = "7" := by cbv
    rw [text]
    decide
  exact ⟨nameable, isSuffix, found, rfl, expression, taken, stays, other⟩

end Reference
end TestScenario
