import Mathlib
import TestScenario.Run.Reference

/-!
References replaced in one pass from left to right. A text is cut at its references, each time at the first place where
one begins; there is one way to do so, whatever the references mean (`exists_cut`, `Cut.unique`). Replacing fills in
what is known of them and copies all else, so that inserted text is not looked at again
(`references_replaced_in_one_pass`).
-/

namespace TestScenario.Reference

/-- The signs around a reference. The closing one begins with a closing brace. -/
structure Signs where
  opening : List Char
  closing : List Char
  closes : closing.head? = some '}'

/-- The signs around references to steps. -/
def Signs.ofSteps : Signs := ⟨['{', '{'], ['}', '}'], rfl⟩

/-- The signs around references to variables. -/
def Signs.ofVariables : Signs := ⟨['$', '{'], ['}'], rfl⟩

/-- What a reference can hold. -/
structure IsContent (content : List Char) : Prop where
  filled : content ≠ []
  braceless : '}' ∉ content

/-- A part of a text: what is copied, or a reference with its content. -/
inductive Part where
  | copied (cs : List Char)
  | reference (content : List Char)

namespace Signs
variable (signs : Signs)

/-- A reference as it is written. -/
def around (content : List Char) : List Char := signs.opening ++ content ++ signs.closing

/-- A text begins with a reference. -/
def Begins (cs : List Char) : Prop := ∃ content rest, IsContent content ∧ cs = signs.around content ++ rest

/-- A text cut at its references from left to right: what comes before the first one, in which none begins, the first
    one, and what is behind it cut in the same way; without references the text is whole. -/
inductive Cut : List Char → List Part → Prop
  | whole {cs : List Char} : (∀ late, late <:+ cs → ¬ signs.Begins late) → Cut cs [.copied cs]
  | first {before content after : List Char} {parts : List Part} : IsContent content →
      (∀ late, late <:+ before → late ≠ [] → ¬ signs.Begins (late ++ (signs.around content ++ after))) →
      Cut after parts → Cut (before ++ (signs.around content ++ after)) (.copied before :: .reference content :: parts)

end Signs

/-- A part as it is written. -/
def Part.written (signs : Signs) : Part → List Char
  | .copied cs => cs
  | .reference content => signs.around content

/-- A part with what a reference means in its place. -/
def Part.filled (signs : Signs) (meaning : List Char → Option (List Char)) : Part → List Char
  | .copied cs => cs
  | .reference content => (meaning (Text.trim content)).getD (signs.around content)

/-- The result of replacing references in one pass from left to right: the parts of the text, of which there is one
    way to cut it, filled in; if nothing is known of any reference, or no opening sign is there at all, the text as it
    was. -/
structure OnePass (signs : Signs) (meaning : List Char → Option (List Char)) (text result : String) : Prop where
  filled : ∃ parts, (∀ other, signs.Cut text.toList other ↔ other = parts) ∧
    result.toList = parts.flatMap (Part.filled signs meaning)
  missed : ∀ parts, signs.Cut text.toList parts →
    (∀ content, .reference content ∈ parts → meaning (Text.trim content) = none) → result = text
  unopened : ¬ signs.opening <:+: text.toList → result = text

/-! ### References at the beginning of a text -/

/-- What a text begins with when it begins with a reference. -/
theorem leading?_eq_some {opening closing cs content rest : List Char}
    (leads : leading? opening closing cs = some (content, rest)) :
    content ≠ [] ∧ '\x7d' ∉ content ∧ cs = opening ++ content ++ closing ++ rest := by
  unfold leading? at leads
  split at leads
  · rename_i begins
    dsimp only at leads
    split at leads
    · rename_i ends
      cases leads
      rw [Bool.and_eq_true, Bool.not_eq_true', List.isEmpty_eq_false_iff, List.isPrefixOf_iff_prefix] at ends
      rw [List.isPrefixOf_iff_prefix] at begins
      refine ⟨ends.1, ?_, ?_⟩
      · intro member
        exact absurd (List.mem_takeWhile_imp member) (by decide)
      · rw [List.append_assoc, List.append_assoc, List.prefix_iff_eq_append.mp ends.2, List.takeWhile_append_dropWhile,
          List.prefix_iff_eq_append.mp begins]
    · cases leads
  · cases leads

/-- A text stays as it is if no reference begins at any place of it. -/
theorem substitute_of_unread {opening closing : List Char} {meaning : List Char → Option (List Char)} {cs : List Char}
    (unread : ∀ before after, cs = before ++ after → leading? opening closing after = none) :
    substitute opening closing meaning cs = cs := by
  induction cs with
  | nil => rw [substitute]
  | cons c tail ih =>
    rw [substitute]
    split
    · rename_i leads
      rw [unread [] _ rfl] at leads
      cases leads
    · rw [ih fun before after split => unread (c :: before) after (congrArg (c :: ·) split)]

namespace Signs
variable {signs : Signs} {cs content rest : List Char} {parts : List Part}

theorem leading?_eq_some_iff :
    leading? signs.opening signs.closing cs = some (content, rest) ↔
      IsContent content ∧ cs = signs.around content ++ rest := by
  constructor
  · intro leads
    obtain ⟨filled, braceless, same⟩ := leading?_eq_some leads
    exact ⟨⟨filled, braceless⟩, same⟩
  · rintro ⟨⟨filled, braceless⟩, rfl⟩
    obtain ⟨closing, closes⟩ := List.head?_eq_some_iff.mp signs.closes
    have inner : ∀ c ∈ content, (c != '}') = true := by
      intro c member
      exact bne_iff_ne.mpr fun same => braceless (same ▸ member)
    have opened : signs.opening.isPrefixOf (signs.around content ++ rest) = true := by
      rw [List.isPrefixOf_iff_prefix, around, List.append_assoc, List.append_assoc]
      exact List.prefix_append _ _
    have body : (signs.around content ++ rest).drop signs.opening.length = content ++ (signs.closing ++ rest) := by
      rw [around, List.append_assoc, List.append_assoc, List.drop_left]
    have taken : (content ++ (signs.closing ++ rest)).takeWhile (· != '}') = content := by
      rw [closes, List.takeWhile_append_of_pos inner]
      exact List.append_nil _
    have dropped : (content ++ (signs.closing ++ rest)).dropWhile (· != '}') = signs.closing ++ rest := by
      rw [closes, List.dropWhile_append_of_pos inner]
      rfl
    have closed : (!content.isEmpty && signs.closing.isPrefixOf (signs.closing ++ rest)) = true := by
      rw [Bool.and_eq_true, Bool.not_eq_true', List.isEmpty_eq_false_iff, List.isPrefixOf_iff_prefix]
      exact ⟨filled, List.prefix_append _ _⟩
    unfold leading?
    rw [if_pos opened]
    simp only [body, taken, dropped, if_pos closed, List.drop_left]

theorem leading?_eq_none_iff : leading? signs.opening signs.closing cs = none ↔ ¬ signs.Begins cs := by
  rw [← not_iff_not, not_not, ← ne_eq, Option.ne_none_iff_exists']
  constructor
  · rintro ⟨⟨content, rest⟩, leads⟩
    obtain ⟨isContent, same⟩ := leading?_eq_some_iff.mp leads
    exact ⟨content, rest, isContent, same⟩
  · rintro ⟨content, rest, isContent, same⟩
    exact ⟨(content, rest), leading?_eq_some_iff.mpr ⟨isContent, same⟩⟩

/-- A text does not begin with two references. -/
theorem around_inj {content' rest' : List Char} (isContent : IsContent content) (isContent' : IsContent content')
    (same : signs.around content ++ rest = signs.around content' ++ rest') : content = content' ∧ rest = rest' := by
  have leads := leading?_eq_some_iff.mpr ⟨isContent, same.symm⟩
  rw [leading?_eq_some_iff.mpr ⟨isContent', rfl⟩] at leads
  cases leads
  exact ⟨rfl, rfl⟩

/-! ### Cutting a text -/

/-- A character at which no reference begins goes to what is copied. -/
theorem Cut.cons {c : Char} (none : ¬ signs.Begins (c :: cs)) (cut : signs.Cut cs parts) :
    ∃ parts, signs.Cut (c :: cs) parts := by
  cases cut with
  | whole unread =>
    refine ⟨_, .whole fun late suffix => ?_⟩
    rcases List.suffix_cons_iff.mp suffix with rfl | further
    · exact none
    · exact unread late further
  | @first before content after parts isContent unread cut =>
    refine ⟨_, @Cut.first signs (c :: before) content after parts isContent (fun late suffix filled => ?_) cut⟩
    rcases List.suffix_cons_iff.mp suffix with rfl | further
    · exact none
    · exact unread late further filled

theorem exists_cut (signs : Signs) (cs : List Char) : ∃ parts, signs.Cut cs parts := by
  by_cases begins : signs.Begins cs
  · obtain ⟨content, rest, isContent, same⟩ := begins
    have shorter := leading?_shorter (leading?_eq_some_iff.mpr ⟨isContent, same⟩)
    obtain ⟨parts, cut⟩ := exists_cut signs rest
    refine ⟨.copied [] :: .reference content :: parts, ?_⟩
    rw [same]
    refine @Cut.first signs [] content rest parts isContent (fun late suffix filled => ?_) cut
    exact absurd (List.suffix_nil.mp suffix) filled
  · cases cs with
    | nil => exact ⟨_, .whole fun late suffix => List.suffix_nil.mp suffix ▸ begins⟩
    | cons c tail =>
      obtain ⟨parts, cut⟩ := exists_cut signs tail
      exact cut.cons begins
termination_by cs.length

/-- Where a text has a first reference, it is the same in whatever way the text is cut. -/
theorem before_eq {before before' late late' : List Char} (same : before ++ late = before' ++ late')
    (begins : signs.Begins late) (unread' : ∀ gap, gap <:+ before' → gap ≠ [] → ¬ signs.Begins (gap ++ late')) :
    before'.length ≤ before.length := by
  by_contra shorter
  rcases List.append_eq_append_iff.mp same with ⟨gap, rfl, rfl⟩ | ⟨gap, rfl, rfl⟩
  · refine unread' gap (List.suffix_append _ _) ?_ begins
    rintro rfl
    simp at shorter
  · simp at shorter

theorem Cut.unique {parts' : List Part} (cut : signs.Cut cs parts) (cut' : signs.Cut cs parts') : parts = parts' := by
  induction cut generalizing parts' with
  | whole unread =>
    cases cut' with
    | whole => rfl
    | first isContent _ _ => exact absurd ⟨_, _, isContent, rfl⟩ (unread _ (List.suffix_append _ _))
  | @first before content after parts isContent unread cut ih =>
    generalize text : before ++ (signs.around content ++ after) = cs at cut'
    cases cut' with
    | whole unread' =>
      exact absurd ⟨_, _, isContent, rfl⟩ (unread' _ (text ▸ List.suffix_append _ _))
    | @first before' content' after' parts' isContent' unread' cut' =>
      have here := before_eq text ⟨_, _, isContent, rfl⟩ unread'
      have there := before_eq text.symm ⟨_, _, isContent', rfl⟩ unread
      obtain ⟨rfl, same⟩ := List.append_inj text (Nat.le_antisymm there here)
      obtain ⟨rfl, rfl⟩ := around_inj isContent isContent' same
      rw [ih cut']

/-- The parts make up the text. -/
theorem Cut.written (cut : signs.Cut cs parts) : parts.flatMap (Part.written signs) = cs := by
  induction cut with
  | whole => exact List.append_nil _
  | first _ _ _ ih => rw [List.flatMap_cons, List.flatMap_cons, ih, Part.written, Part.written]

/-! ### Replacing references -/

variable {meaning : List Char → Option (List Char)}

theorem substitute_around (isContent : IsContent content) :
    substitute signs.opening signs.closing meaning (signs.around content ++ rest) =
      (meaning (Text.trim content)).getD (signs.around content) ++
        substitute signs.opening signs.closing meaning rest := by
  have leads : leading? signs.opening signs.closing (signs.around content ++ rest) = some (content, rest) :=
    leading?_eq_some_iff.mpr ⟨isContent, rfl⟩
  generalize text : signs.around content ++ rest = cs at leads
  cases cs with
  | nil => simp [around, isContent.filled] at text
  | cons c tail =>
    rw [substitute]
    split
    · rename_i found
      rw [leads] at found
      cases found
      rfl
    · rename_i found
      rw [leads] at found
      cases found

theorem substitute_append {before late : List Char}
    (unread : ∀ gap, gap <:+ before → gap ≠ [] → ¬ signs.Begins (gap ++ late)) :
    substitute signs.opening signs.closing meaning (before ++ late) =
      before ++ substitute signs.opening signs.closing meaning late := by
  induction before with
  | nil => rfl
  | cons c before ih =>
    have none := leading?_eq_none_iff.mpr (unread _ List.suffix_rfl (List.cons_ne_nil c before))
    rw [List.cons_append] at none ⊢
    rw [substitute]
    split
    · rename_i leads
      rw [none] at leads
      cases leads
    · rw [ih fun gap suffix => unread gap (suffix.trans (List.suffix_cons c before)), List.cons_append]

/-- The parts of a text are filled in, whatever way has led to them. -/
theorem Cut.substitute_eq (cut : signs.Cut cs parts) :
    substitute signs.opening signs.closing meaning cs = parts.flatMap (Part.filled signs meaning) := by
  induction cut with
  | @whole cs unread =>
    rw [substitute_of_unread fun before after split =>
      leading?_eq_none_iff.mpr (unread after ⟨before, split.symm⟩)]
    exact (List.append_nil cs).symm
  | first isContent unread _ ih =>
    rw [substitute_append unread, substitute_around isContent, ih, List.flatMap_cons, List.flatMap_cons]
    rfl

theorem filled_of_missed (unknown : ∀ content, .reference content ∈ parts → meaning (Text.trim content) = none) :
    parts.flatMap (Part.filled signs meaning) = parts.flatMap (Part.written signs) := by
  refine List.flatMap_congr fun part member => ?_
  cases part with
  | copied cs => rfl
  | reference content => rw [Part.filled, unknown content member, Option.getD_none, Part.written]

theorem onePass_substitute (text : String) :
    OnePass signs meaning text (String.ofList (substitute signs.opening signs.closing meaning text.toList)) := by
  obtain ⟨parts, cut⟩ := exists_cut signs text.toList
  refine ⟨⟨parts, fun other => ⟨fun cut' => cut'.unique cut, fun same => same ▸ cut⟩, ?_⟩, ?_, ?_⟩
  · rw [String.toList_ofList, cut.substitute_eq]
  · intro parts cut unknown
    rw [cut.substitute_eq, filled_of_missed unknown, cut.written, String.ofList_toList]
  · intro unopened
    rw [substitute_of_unread, String.ofList_toList]
    intro before after split
    refine leading?_eq_none_iff.mpr ?_
    rintro ⟨content, rest, -, rfl⟩
    refine unopened ⟨before, content ++ signs.closing ++ rest, ?_⟩
    rw [split, around]
    simp only [List.append_assoc]

end Signs

/-- References to steps, and references to variables, are replaced in one pass from left to right. -/
theorem references_replaced_in_one_pass :
    (∀ c text, OnePass .ofSteps (stepMeaning c) text (resolveSteps c text)) ∧
      ∀ (vars : Members) text, OnePass .ofVariables
        (fun content => (vars.get? (String.ofList content)).map (·.text.toList)) text (expand vars text) :=
  ⟨fun _ => Signs.onePass_substitute, fun _ => Signs.onePass_substitute⟩

/-- The value of `a` is not looked at again, the second reference begins before the third one does, and the last one
    is not closed. -/
example : expand [("a", .str "$\x7bb\x7d"), ("b", .ofNat 1)] "$\x7ba\x7d $\x7b$\x7ba\x7d $\x7b b \x7d $\x7bb" =
    "$\x7bb\x7d $\x7b$\x7ba\x7d 1 $\x7bb" := by cbv

end TestScenario.Reference
