import Mathlib
import TestScenario.Proofs.Registration
import TestScenario.Proofs.Statements
import TestScenario.Proofs.Substitution

/-!
What references to steps mean. A reference to a step stands for what its path reads in the result of the step of the
name (`resolveSteps_path`), one to the status code for this code (`resolve_toCode`).
-/

namespace TestScenario

namespace Reference

/-- A name that a reference can hold: trimmed, without a dot and without a closing brace. -/
structure Nameable (name : String) : Prop where
  trimmed : Text.trimmed name = name
  dotless : '.' ∉ name.toList
  braceless : '\x7d' ∉ name.toList

/-- A reference to the status code of the result of a step. -/
def toCode (name : String) : String := "\x7b\x7b" ++ name ++ ".response.code\x7d\x7d"

theorem splitOnce_dot (before after : List Char) (absent : '.' ∉ before) :
    Text.splitOnce ['.'] (before ++ '.' :: after) = some (before, after) := by
  induction before with
  | nil => rfl
  | cons c rest ih =>
    rw [List.mem_cons, not_or] at absent
    have other : ['.'].isPrefixOf (c :: (rest ++ '.' :: after)) = false := by simp [List.isPrefixOf, absent.1]
    rw [List.cons_append, Text.splitOnce, other, if_neg Bool.false_ne_true, ih absent.2]
    rfl

/-- A text that trimming leaves alone begins with no blank, whatever follows it. -/
theorem dropWhile_isBlank_append {cs : List Char} (trimmed : Text.trim cs = cs) {next : Char}
    (dark : ¬ Text.isBlank next) (rest : List Char) :
    (cs ++ next :: rest).dropWhile Text.isBlank = cs ++ next :: rest := by
  have shorter : (Text.trim cs).length ≤ (cs.dropWhile Text.isBlank).length := by
    unfold Text.trim Text.trimEnd
    have cut : (cs.dropWhile Text.isBlank).reverse.dropWhile Text.isBlank <:+ (cs.dropWhile Text.isBlank).reverse :=
      List.dropWhile_suffix Text.isBlank
    have less := cut.length_le
    rw [List.length_reverse] at less
    rwa [List.length_reverse]
  rw [trimmed] at shorter
  have suffix : cs.dropWhile Text.isBlank <:+ cs := List.dropWhile_suffix Text.isBlank
  have same := suffix.eq_of_length (Nat.le_antisymm suffix.length_le shorter)
  cases cs with
  | nil => exact List.dropWhile_cons_of_neg dark
  | cons c tail =>
    have darkFirst : ¬ Text.isBlank c := fun blank => by
      rw [List.dropWhile_cons_of_pos blank] at same
      have shrunk : tail.dropWhile Text.isBlank <:+ tail := List.dropWhile_suffix Text.isBlank
      have less := shrunk.length_le
      rw [same, List.length_cons] at less
      omega
    exact List.dropWhile_cons_of_neg darkFirst

/-- A path that can stand behind the name of a step: it holds no closing brace and does not end with a blank. -/
structure IsPath (path : List Char) : Prop where
  braceless : '\x7d' ∉ path
  ended : ∃ last, path.getLast? = some last ∧ Text.isBlank last = false

section
variable {name : String} (nameable : Nameable name) {path : List Char} (isPath : IsPath path)
include nameable

theorem Nameable.trim_toList : Text.trim name.toList = name.toList := by
  have same := congrArg String.toList nameable.trimmed
  rwa [Text.trimmed, String.toList_ofList] at same

include isPath

theorem Nameable.isContent_path : IsContent (name.toList ++ '.' :: path) := by
  refine ⟨List.append_ne_nil_of_right_ne_nil _ (List.cons_ne_nil _ _), ?_⟩
  rw [List.mem_append, List.mem_cons]
  rintro (early | dot | late)
  · exact nameable.braceless early
  · exact absurd dot (by decide)
  · exact isPath.braceless late

theorem Nameable.trim_path : Text.trim (name.toList ++ '.' :: path) = name.toList ++ '.' :: path := by
  obtain ⟨last, ends, dark⟩ := isPath.ended
  have ended : (name.toList ++ '.' :: path).getLast? = some last := by
    rw [List.getLast?_append, List.getLast?_cons, ends]
    rfl
  rw [Text.trim, dropWhile_isBlank_append nameable.trim_toList (by decide), Script.trimEnd_of_dark ended dark]

/-- A reference to a step stands for what its path reads in the result of the step; where that is nothing, it stays. -/
theorem resolveSteps_path {text : String} (written : text.toList = Signs.ofSteps.around (name.toList ++ '.' :: path))
    (c : Context) : resolveSteps c text = ((c.resultByName name).bind fun r => readResult r path).getD text := by
  have meaning : stepMeaning c (Text.trim (name.toList ++ '.' :: path)) =
      ((c.resultByName name).bind fun r => readResult r path).map String.toList := by
    rw [nameable.trim_path isPath, stepMeaning, splitOnce_dot _ _ nameable.dotless]
    show (c.resultByName (String.ofList (Text.trim name.toList))).bind _ = _
    rw [nameable.trim_toList, String.ofList_toList, Option.map_bind]
    rfl
  have replaced : substitute _ _ (stepMeaning c) (Signs.ofSteps.around (name.toList ++ '.' :: path) ++ []) = _ :=
    Signs.substitute_around (nameable.isContent_path isPath)
  rw [List.append_nil, ← written, meaning, substitute, List.append_nil] at replaced
  have resolved : resolveSteps c text = String.ofList _ := congrArg String.ofList replaced
  rw [resolved]
  cases (c.resultByName name).bind fun r => readResult r path with
  | none => exact String.ofList_toList
  | some value => exact String.ofList_toList

end

/-- The contents of a reference to a status code. -/
def codePath (name : String) : List Char := name.toList ++ '.' :: "response.code".toList

theorem toList_toCode (name : String) : (toCode name).toList = Signs.ofSteps.around (codePath name) := by
  simp [toCode, codePath, Signs.around, Signs.ofSteps]

/-- A reference to the status code of a step means that code; where there is none, the reference stays. -/
theorem resolveSteps_toCode {name : String} (nameable : Nameable name) (c : Context) :
    resolveSteps c (toCode name) = (((c.resultByName name).bind (·.httpStatus)).map toString).getD (toCode name) := by
  have isPath : IsPath "response.code".toList := ⟨by decide, 'e', by decide, by decide⟩
  have read (r : StepResult) : readResult r "response.code".toList = r.httpStatus.map toString := if_pos rfl
  rw [resolveSteps_path nameable isPath (toList_toCode name)]
  simp only [read]
  cases c.resultByName name with
  | none => rfl
  | some r => rfl

/-- A text without the sign that opens a reference stays as it is. -/
theorem substitute_of_absent {sign : Char} {opening closing : List Char} {meaning : List Char → Option (List Char)}
    {cs : List Char} (absent : sign ∉ cs) : substitute (sign :: opening) closing meaning cs = cs := by
  refine substitute_of_unread fun before after split => ?_
  cases leads : leading? (sign :: opening) closing after with
  | none => rfl
  | some found =>
    obtain ⟨-, -, same⟩ := leading?_eq_some leads
    rw [split, same] at absent
    simp at absent

/-- A text without references to steps: nowhere do two opening braces, something else without closing braces and two
    closing braces follow one another. -/
def NoSteps (text : String) : Prop :=
  ∀ before content rest, content ≠ [] → '\x7d' ∉ content →
    text.toList ≠ before ++ ['\x7b', '\x7b'] ++ content ++ ['\x7d', '\x7d'] ++ rest

/-- Without an opening brace there is no reference to a step. -/
theorem NoSteps.of_absent {text : String} (absent : '\x7b' ∉ text.toList) : NoSteps text := by
  intro before content rest filled braceless split
  rw [split] at absent
  simp at absent

/-- A text without references to steps stays as it is when these are replaced. -/
theorem NoSteps.resolveSteps {text : String} (plain : NoSteps text) (c : Context) : resolveSteps c text = text := by
  rw [Reference.resolveSteps, substitute_of_unread, String.ofList_toList]
  intro before after split
  cases leads : leading? ['\x7b', '\x7b'] ['\x7d', '\x7d'] after with
  | none => rfl
  | some found =>
    obtain ⟨content, rest⟩ := found
    obtain ⟨filled, braceless, same⟩ := leading?_eq_some leads
    refine absurd ?_ (plain before content rest filled braceless)
    rw [split, same]
    simp only [List.append_assoc]

/-- A text without a dollar sign refers to no variables. -/
theorem resolveVars_of_absent {text : String} (absent : '$' ∉ text.toList) (s : Scopes) : resolveVars s text = text := by
  rw [resolveVars, expandWith, substitute_of_absent absent, String.ofList_toList]

theorem resolve_toCode {name : String} (nameable : Nameable name) {c : Context} {r : StepResult} {code : Nat}
    (found : c.resultByName name = some r) (coded : r.httpStatus = some code) : resolve c (toCode name) = toString code := by
  have digits : '$' ∉ (toString code).toList := by
    intro member
    rw [Nat.toString_eq_ofList_toDigits, String.toList_ofList] at member
    have digit := Nat.isDigit_of_mem_toDigits (by omega) (by omega) member
    exact absurd digit (by decide)
  have meant : resolveSteps c (toCode name) = toString code := by
    rw [resolveSteps_toCode nameable, found, Option.bind_some, coded]
    rfl
  rw [resolve, meant, resolveVars_of_absent digits]

/-- A reference to a step that is not known stays as it is. -/
theorem resolve_toCode_of_none {name : String} (nameable : Nameable name) (plain : '$' ∉ (toCode name).toList) {c : Context}
    (unknown : c.resultByName name = none) : resolve c (toCode name) = toCode name := by
  have meant : resolveSteps c (toCode name) = toCode name := by
    rw [resolveSteps_toCode nameable, unknown]
    rfl
  rw [resolve, meant, resolveVars_of_absent plain]

end Reference
end TestScenario
