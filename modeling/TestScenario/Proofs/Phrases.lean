import Mathlib
import TestScenario.Proofs.Boundaries

/-!
What the statements of a script say.

Texts that are statements by themselves can be joined by newlines and semicolons and are found again
(`statements_joined`). And whatever a script is, its statements hold every character of it but blanks, semicolons and
comments, once and in order (`statements_keep_text`).
-/

namespace TestScenario.Script
open Cursor

/-! ### Joining -/

/-- A text that is one statement wherever a statement may stand. -/
structure Standing (s : String) : Prop where
  nonempty : s ≠ ""
  trimmed : Text.trimmed s = s
  uncommented : ¬ ['/', '/'] <+: s.toList
  fresh : ∀ operator ∈ continuations, ¬ operator <+: s.toList
  plain : ∀ p c q, s.toList = p ++ c :: q → (Cursor.start.after p).InCode → c ≠ '\n' ∧ c ≠ ';'
  outside : Cursor.start.after s.toList = .start

/-- Statements joined by newlines and semicolons in any mixture. -/
inductive Joined : List String → String → Prop
  | none : Joined [] ""
  | one (s : String) : Joined [s] s
  | more (s : String) {t separator text : String} {ss : List String} : separator = "\n" ∨ separator = ";" →
      Joined (t :: ss) text → Joined (s :: t :: ss) (s ++ separator ++ text)

theorem Standing.stretches_eq {s : String} (standing : Standing s) : stretches .start s.toList = [s.toList] := by
  have plain : Cursor.start.Throughout (fun p c => p.InCode → c ≠ '\n' ∧ c ≠ ';') s.toList :=
    Throughout.iff_forall.mpr standing.plain
  have whole : Whole .start s.toList := by
    refine whole_iff.mpr (Throughout.mono ?_ plain)
    intro place c code
    constructor
    · intro ends
      rcases ends_iff.mp ends with ⟨rfl, inCode⟩ | ⟨rfl, rfl⟩
      · exact (code inCode).2 rfl
      · exact (code trivial).1 rfl
    · cases place with
      | literal quote escaped depth => rfl
      | code depth => simp [Cursor.shown, (code trivial).1]
  rw [stretches, whole]

theorem Standing.statement?_eq {s : String} (standing : Standing s) : statement? s.toList = some s.toList := by
  have trimmed : Text.trim s.toList = s.toList := by
    rw [← String.toList_ofList (l := Text.trim s.toList)]
    exact congrArg String.toList standing.trimmed
  have nonempty : s.toList.isEmpty = false := by simpa using standing.nonempty
  have uncommented : ['/', '/'].isPrefixOf s.toList = false :=
    Bool.eq_false_iff.mpr fun begins => standing.uncommented (List.isPrefixOf_iff_prefix.mp begins)
  simp [statement?, trimmed, nonempty, uncommented]

theorem Standing.not_continues {s : String} (standing : Standing s) : ¬ continues s.toList := by
  intro goesOn
  obtain ⟨operator, member, begins⟩ := List.any_eq_true.mp goesOn
  exact standing.fresh operator member (List.isPrefixOf_iff_prefix.mp begins)

theorem foldl_attach_of_fresh (found : List (List Char)) {ss : List (List Char)} (fresh : ∀ s ∈ ss, ¬ continues s) :
    ss.foldl attach found = ss.reverse ++ found := by
  induction ss generalizing found with
  | nil => rfl
  | cons s ss ih =>
    obtain ⟨here, later⟩ := List.forall_mem_cons.mp fresh
    have attached : attach found s = s :: found := by
      cases found with
      | nil => rfl
      | cons latest older => simp [attach, here]
    rw [List.foldl_cons, attached, ih (s :: found) later]
    simp

/-- Each of the joined statements is a stretch of its own. -/
theorem Joined.stretches_eq {ss : List String} {text : String} (joined : Joined ss text)
    (standing : ∀ s ∈ ss, Standing s) (some : ss ≠ []) : stretches .start text.toList = ss.map String.toList := by
  induction joined with
  | none => exact absurd rfl some
  | one s => exact (standing s (by simp)).stretches_eq
  | @more s t separator text ss separates joined ih =>
    obtain ⟨first, others⟩ := List.forall_mem_cons.mp standing
    have rest := ih others (List.cons_ne_nil t ss)
    have apart (c : Char) (ends : Cursor.start.ends c) (anew : Cursor.start.step c = .start) :
        stretches .start (s.toList ++ c :: text.toList) = (s :: t :: ss).map String.toList := by
      rw [stretches_append_of_ends .start (by rwa [first.outside]), first.outside, anew, first.stretches_eq, rest]
      rfl
    rcases separates with rfl | rfl
    · simpa using apart '\n' rfl rfl
    · simpa using apart ';' rfl rfl

/-- Splitting a script gives back the statements that were joined in it by newlines and semicolons. -/
theorem statements_joined {ss : List String} {text : String} (joined : Joined ss text)
    (standing : ∀ s ∈ ss, Standing s) : statements text = ss := by
  by_cases none : ss = []
  · subst none
    cases joined
    rfl
  · have found : (ss.map String.toList).filterMap statement? = ss.map String.toList := by
      have each : ∀ s ∈ ss, (statement? ∘ String.toList) s = (some ∘ String.toList) s :=
        fun s member => (standing s member).statement?_eq
      rw [List.filterMap_map, List.filterMap_congr each, List.filterMap_eq_map]
    have fresh : ∀ s ∈ ss.map String.toList, ¬ continues s := by
      simpa using fun s member => (standing s member).not_continues
    rw [statements, statementChars_eq, joined.stretches_eq standing none, assemble, found,
      foldl_attach_of_fresh [] fresh]
    simp

/-- Statements with a semicolon and a newline in literals, joined in both ways. -/
theorem statements_joined_of_three :
    let ss := ["x = 'a;\nb'", "f(x)[0] > 1", "\x7d y"]
    let text := "x = 'a;\nb'" ++ ";" ++ ("f(x)[0] > 1" ++ "\n" ++ "\x7d y")
    Joined ss text ∧ (∀ s ∈ ss, Standing s) ∧ statements text = ss := by
  intro ss text
  have joined : Joined ss text := .more _ (.inr rfl) (.more _ (.inl rfl) (.one _))
  have standing : ∀ s ∈ ss, Standing s := by
    have each : ∀ s ∈ ss, s ≠ "" ∧ Text.trimmed s = s ∧ ¬ ['/', '/'] <+: s.toList ∧
        (∀ operator ∈ continuations, ¬ operator <+: s.toList) ∧
        Cursor.start.Throughout (fun p c => p.InCode → c ≠ '\n' ∧ c ≠ ';') s.toList ∧
        Cursor.start.after s.toList = .start := by decide
    intro s member
    obtain ⟨nonempty, trimmed, uncommented, fresh, plain, outside⟩ := each s member
    exact ⟨nonempty, trimmed, uncommented, fresh, Throughout.iff_forall.mp plain, outside⟩
  exact ⟨joined, standing, statements_joined joined standing⟩

/-! ### Blank ends -/

/-- A text with characters at both ends that are not blank. -/
structure Solid (cs : List Char) : Prop where
  first : ∃ c, cs.head? = some c ∧ Text.isBlank c = false
  last : ∃ c, cs.getLast? = some c ∧ Text.isBlank c = false

namespace Solid

theorem trim_eq {cs : List Char} (solid : Solid cs) : Text.trim cs = cs := by
  obtain ⟨⟨first, begins, dark⟩, last, ends, darkToo⟩ := solid
  exact trim_of_dark begins ends dark darkToo

theorem ne_nil {cs : List Char} (solid : Solid cs) : cs ≠ [] := by
  rintro rfl
  obtain ⟨c, begins, -⟩ := solid.first
  cases begins

theorem append {a b : List Char} (left : Solid a) (middle : List Char) (right : Solid b) : Solid (a ++ (middle ++ b)) := by
  obtain ⟨c, begins, dark⟩ := left.first
  obtain ⟨d, ends, darkToo⟩ := right.last
  refine ⟨⟨c, ?_, dark⟩, d, ?_, darkToo⟩
  · rw [List.head?_append, begins]
    rfl
  · rw [List.getLast?_append, List.getLast?_append, ends]
    rfl

/-- A trimmed text that is not empty has no blanks at its ends. -/
theorem trim {cs : List Char} (some : Text.trim cs ≠ []) : Solid (Text.trim cs) := by
  have dark {p : Char → Bool} {cs : List Char} {c : Char} (begins : (cs.dropWhile p).head? = .some c) : p c = false := by
    have head := List.head?_dropWhile_not p cs
    rwa [begins] at head
  cases rest : cs.dropWhile Text.isBlank with
  | nil =>
    rw [Text.trim, rest] at some
    exact absurd rfl some
  | cons c tail =>
    have darkFirst : Text.isBlank c = false := dark (by rw [rest, List.head?_cons])
    refine ⟨⟨c, ?_, darkFirst⟩, ?_⟩
    · rw [Text.trim, rest, trimEnd_cons darkFirst, List.head?_cons]
    · obtain ⟨d, ends⟩ := Option.isSome_iff_exists.mp (List.getLast?_isSome.mpr some)
      refine ⟨d, ends, ?_⟩
      rw [Text.trim, Text.trimEnd, List.getLast?_reverse] at ends
      exact dark ends

end Solid

theorem solid_of_statement? {stretch s : List Char} (found : statement? stretch = some s) : Solid s := by
  simp only [statement?] at found
  split at found
  · cases found
  · rename_i kept
    obtain rfl := Option.some.inj found
    rw [Bool.or_eq_true, not_or, List.isEmpty_iff] at kept
    exact Solid.trim kept.1

theorem phrase_cons (s t : List Char) (group : List (List Char)) :
    phrase (s :: t :: group) = s ++ ([' '] ++ phrase (t :: group)) := by
  rw [phrase, List.intercalate_cons_cons, List.append_assoc]
  rfl

theorem solid_phrase {group : List (List Char)} (some : group ≠ []) (solid : ∀ s ∈ group, Solid s) :
    Solid (phrase group) := by
  induction group with
  | nil => exact absurd rfl some
  | cons s group ih =>
    obtain ⟨here, later⟩ := List.forall_mem_cons.mp solid
    cases group with
    | nil => simpa [phrase] using here
    | cons t group =>
      rw [phrase_cons]
      exact here.append [' '] (ih (List.cons_ne_nil t group) later)

/-! ### Kept text -/

/-- A character that splitting a script keeps. -/
def isInk (c : Char) : Bool := !Text.isBlank c && c != ';'

/-- A stretch that is a comment. -/
def IsComment (stretch : List Char) : Prop := ['/', '/'] <+: Text.trim stretch

instance : DecidablePred IsComment := fun _ => inferInstanceAs (Decidable (_ <+: _))

theorem filter_dropWhile {keep drop : Char → Bool} (apart : ∀ c, drop c → keep c = false) (cs : List Char) :
    (cs.dropWhile drop).filter keep = cs.filter keep := by
  induction cs with
  | nil => rfl
  | cons c cs ih =>
    by_cases dropped : drop c
    · rw [List.dropWhile_cons_of_pos dropped, ih, List.filter_cons_of_neg (by simp [apart c dropped])]
    · rw [List.dropWhile_cons_of_neg dropped]

theorem ink_trim (cs : List Char) : (Text.trim cs).filter isInk = cs.filter isInk := by
  have blank (c : Char) (isBlank : Text.isBlank c) : isInk c = false := by simp [isInk, isBlank]
  rw [Text.trim, Text.trimEnd, List.filter_reverse, filter_dropWhile blank, List.filter_reverse, List.reverse_reverse,
    filter_dropWhile blank]

/-- Of a character that ends a statement nothing is kept, and any other is shown as it is unless it is blank. -/
theorem ink_stretches (place : Cursor) (cs : List Char) :
    (stretches place cs).flatten.filter isInk = cs.filter isInk := by
  induction cs generalizing place with
  | nil => rfl
  | cons c cs ih =>
    have rest := ih (place.step c)
    rw [stretches_cons]
    by_cases ends : place.ends c
    · have gone : isInk c = false := by
        rcases ends_iff.mp ends with ⟨rfl, -⟩ | ⟨rfl, -⟩ <;> rfl
      rw [if_pos ends, List.flatten_cons, List.nil_append, rest, List.filter_cons_of_neg (by simp [gone])]
    · have shown : [place.shown c].filter isInk = [c].filter isInk := by
        cases place with
        | literal quote escaped depth => rfl
        | code depth =>
          by_cases newline : c = '\n'
          · subst newline
            rfl
          · simp [Cursor.shown, newline]
      have joined : ((place.shown c :: (cut (place.step c) cs).1) :: (cut (place.step c) cs).2).flatten =
          [place.shown c] ++ (stretches (place.step c) cs).flatten := rfl
      rw [if_neg ends, joined, List.filter_append, shown, rest, ← List.filter_append, List.singleton_append]

theorem ink_phrase (group : List (List Char)) : (phrase group).filter isInk = group.flatten.filter isInk := by
  induction group with
  | nil => rfl
  | cons s group ih =>
    cases group with
    | nil => simp [phrase]
    | cons t group =>
      have gap : [' '].filter isInk = [] := rfl
      rw [phrase_cons, List.filter_append, List.filter_append, gap, ih, List.nil_append, ← List.filter_append,
        ← List.flatten_cons]

theorem ink_phrases (groups : List (List (List Char))) :
    (groups.map phrase).flatten.filter isInk = groups.flatten.flatten.filter isInk := by
  induction groups with
  | nil => rfl
  | cons group groups ih =>
    rw [List.map_cons, List.flatten_cons, List.filter_append, ink_phrase, ih, List.flatten_cons, List.flatten_append,
      List.filter_append]

/-- Of a stretch that is no comment everything is kept but blanks. -/
theorem ink_filterMap_statement? (parts : List (List Char)) : (parts.filterMap statement?).flatten.filter isInk =
    (parts.filter fun stretch => ¬ IsComment stretch).flatten.filter isInk := by
  induction parts with
  | nil => rfl
  | cons stretch parts ih =>
    by_cases comment : IsComment stretch
    · have none : statement? stretch = none := by
        simp [statement?, List.isPrefixOf_iff_prefix.mpr comment]
      rw [List.filterMap_cons_none none, ih, List.filter_cons_of_neg (by simpa using comment)]
    · have uncommented : ['/', '/'].isPrefixOf (Text.trim stretch) = false :=
        Bool.eq_false_iff.mpr fun begins => comment (List.isPrefixOf_iff_prefix.mp begins)
      have kept := ink_trim stretch
      rw [List.filter_cons_of_pos (by simpa using comment), List.flatten_cons, List.filter_append, ← kept, ← ih]
      by_cases blank : Text.trim stretch = []
      · have none : statement? stretch = none := by simp [statement?, blank]
        rw [List.filterMap_cons_none none, blank]
        rfl
      · have some : statement? stretch = some (Text.trim stretch) := by simp [statement?, blank, uncommented]
        rw [List.filterMap_cons_some some, List.flatten_cons, List.filter_append]

/-- The text that is kept of a script is that of its stretches without comments. -/
theorem ink_statements (script : String) : (String.join (statements script)).toList.filter isInk =
    ((stretches .start script.toList).filter fun stretch => ¬ IsComment stretch).flatten.filter isInk := by
  obtain ⟨groups, -, all, made⟩ := statements_grouped script
  have written : (String.join (statements script)).toList = (groups.map phrase).flatten := by
    rw [made, String.toList_join, List.flatMap_map, List.flatMap_def]
    simp
  rw [written, ink_phrases, all, ink_filterMap_statement?]

/-! ### Two slashes -/

theorem eq_slash_of_shown {place : Cursor} {c : Char} (slash : place.shown c = '/') : c = '/' := by
  cases place with
  | literal quote escaped depth => exact slash
  | code depth =>
    simp only [Cursor.shown] at slash
    split at slash
    · cases slash
    · exact slash

theorem eq_slash_of_cut {place : Cursor} {cs : List Char} (begins : ['/'] <+: (cut place cs).1) : ['/'] <+: cs := by
  cases cs with
  | nil => exact begins
  | cons c cs =>
    by_cases ends : place.ends c
    · simp [cut, ends] at begins
    · simp only [cut, if_neg ends] at begins
      obtain ⟨slash, -⟩ := List.cons_prefix_cons.mp begins
      exact List.cons_prefix_cons.mpr ⟨(eq_slash_of_shown slash.symm).symm, List.nil_prefix⟩

/-- Two slashes next to each other in a stretch are so in the text. -/
theorem slashes_of_stretch {place : Cursor} {cs stretch : List Char} (member : stretch ∈ stretches place cs)
    (slashes : ['/', '/'] <:+: stretch) : ['/', '/'] <:+: cs := by
  induction cs generalizing place stretch with
  | nil =>
    obtain rfl := List.mem_singleton.mp member
    exact slashes
  | cons c cs ih =>
    have later {inside : List Char} (among : inside ∈ stretches (place.step c) cs) (both : ['/', '/'] <:+: inside) :
        ['/', '/'] <:+: c :: cs := (ih among both).trans (List.suffix_cons c cs).isInfix
    rw [stretches_cons] at member
    by_cases ends : place.ends c
    · rw [if_pos ends] at member
      rcases List.mem_cons.mp member with rfl | behind
      · simp at slashes
      · exact later behind slashes
    · rw [if_neg ends] at member
      rcases List.mem_cons.mp member with rfl | behind
      · rcases List.infix_cons_iff.mp slashes with begins | inside
        · obtain ⟨first, second⟩ := List.cons_prefix_cons.mp begins
          obtain rfl := eq_slash_of_shown first.symm
          exact (List.cons_prefix_cons.mpr ⟨rfl, eq_slash_of_cut second⟩).isInfix
        · exact later (List.mem_cons_self ..) inside
      · exact later (List.mem_cons_of_mem _ behind) slashes

theorem isInfix_trim (cs : List Char) : Text.trim cs <:+: cs := by
  have ended : Text.trim cs <+: cs.dropWhile Text.isBlank := by
    have shorter := List.dropWhile_suffix Text.isBlank (l := (cs.dropWhile Text.isBlank).reverse)
    rw [Text.trim, Text.trimEnd]
    exact List.reverse_suffix.mp (by rwa [List.reverse_reverse])
  exact ended.isInfix.trans (List.dropWhile_suffix Text.isBlank).isInfix

/-- The statements of a script are trimmed and not empty. If no two slashes are next to each other in the script, they
    say everything that it says, except for blanks and semicolons, once and in order. -/
theorem statements_keep_text (script : String) :
    (∀ s ∈ statements script, s ≠ "" ∧ Text.trimmed s = s) ∧
      (¬ ['/', '/'] <:+: script.toList →
        (String.join (statements script)).toList.filter isInk = script.toList.filter isInk) := by
  constructor
  · intro s member
    obtain ⟨groups, grouped, all, made⟩ := statements_grouped script
    rw [made] at member
    obtain ⟨group, among, rfl⟩ := List.mem_map.mp member
    have solid : Solid (phrase group) := by
      refine solid_phrase (grouped.nonempty group among) fun t inside => ?_
      have found : t ∈ groups.flatten := List.mem_flatten.mpr ⟨group, among, inside⟩
      rw [all] at found
      obtain ⟨stretch, -, some⟩ := List.mem_filterMap.mp found
      exact solid_of_statement? some
    refine ⟨?_, by rw [Text.trimmed, String.toList_ofList, solid.trim_eq]⟩
    intro empty
    have none := congrArg String.toList empty
    rw [String.toList_ofList] at none
    exact solid.ne_nil none
  · intro free
    have uncommented : ∀ stretch ∈ stretches .start script.toList, ¬ IsComment stretch := fun stretch member comment =>
      free (slashes_of_stretch member (comment.isInfix.trans (isInfix_trim stretch)))
    have all : (stretches .start script.toList).filter (fun stretch => ¬ IsComment stretch) =
        stretches .start script.toList := List.filter_eq_self.mpr (by simpa using uncommented)
    rw [ink_statements, all, ink_stretches]

/-- A script with an operator in front, a bracket closed too often, a line that continues another one and a string
    literal that is never closed. -/
theorem statements_keep_text_unclosed :
    let script := "&& a); b\n  . c;; d = \"x;\n y "
    ¬ ['/', '/'] <:+: script.toList ∧
      (String.join (statements script)).toList.filter isInk = script.toList.filter isInk ∧
      statements script = ["&& a)", "b . c", "d = \"x;\n y"] := by
  intro script
  have free : ¬ ['/', '/'] <:+: script.toList := by decide
  exact ⟨free, (statements_keep_text script).2 free, by decide⟩

end TestScenario.Script
