import Mathlib
import TestScenario.Script.Run

/-!
Where the statements of a script end. A script is read character by character, and nothing but the place, that is the
depth of brackets and the string literal, is carried along; so what follows a place depends on that place alone
(`stretches_append`).

Comments are dropped only after the script has been cut into statements. So a comment line changes nothing if it has no
statement when read by itself and ends outside string literals and brackets, and only then (`comment_inert_iff`).
-/

namespace TestScenario.Script

namespace Cursor

/-- The place after some characters. -/
def after (place : Cursor) (cs : List Char) : Cursor := cs.foldl step place

/-- A literal is closed by a quote like the one that opened it. -/
def Quoted : Cursor → Prop
  | .code _ => True
  | .literal quote _ _ => quote = '"' ∨ quote = '\''

@[simp] theorem after_cons (place : Cursor) (c : Char) (cs : List Char) :
    place.after (c :: cs) = (place.step c).after cs := rfl

theorem after_append (place : Cursor) (a b : List Char) : place.after (a ++ b) = (place.after a).after b :=
  List.foldl_append

theorem quoted_start : start.Quoted := trivial

theorem Quoted.step {place : Cursor} (quoted : place.Quoted) (c : Char) : (place.step c).Quoted := by
  cases place with
  | literal quote escaped depth =>
    cases escaped with
    | true => exact quoted
    | false =>
      simp only [Cursor.step]
      split
      · exact quoted
      · split
        · trivial
        · exact quoted
  | code depth =>
    simp only [Cursor.step]
    split
    · rename_i opens
      rwa [Bool.or_eq_true, beq_iff_eq, beq_iff_eq] at opens
    · split
      · trivial
      · split <;> trivial

theorem Quoted.after {place : Cursor} (quoted : place.Quoted) (cs : List Char) : (place.after cs).Quoted := by
  induction cs generalizing place with
  | nil => exact quoted
  | cons c cs ih => exact ih (quoted.step c)

end Cursor

open Cursor

/-! ### Stretches -/

/-- The stretches between the ends of statements. -/
def stretches (place : Cursor) (cs : List Char) : List (List Char) := (cut place cs).1 :: (cut place cs).2

theorem statementChars_eq (script : List Char) : statementChars script = assemble (stretches .start script) := rfl

theorem stretches_cons (place : Cursor) (c : Char) (cs : List Char) :
    stretches place (c :: cs) =
      if place.ends c then [] :: stretches (place.step c) cs
      else (place.shown c :: (cut (place.step c) cs).1) :: (cut (place.step c) cs).2 := by
  simp only [stretches, cut]
  split <;> rfl

/-- What follows a place goes on with the last stretch before it. -/
theorem stretches_append (place : Cursor) (a : List Char) :
    ∃ earlier last, ∀ b, stretches place (a ++ b) =
      earlier ++ (last ++ (cut (place.after a) b).1) :: (cut (place.after a) b).2 := by
  induction a generalizing place with
  | nil => exact ⟨[], [], fun b => rfl⟩
  | cons c a ih =>
    obtain ⟨earlier, last, split⟩ := ih (place.step c)
    by_cases ends : place.ends c
    · refine ⟨[] :: earlier, last, fun b => ?_⟩
      rw [List.cons_append, stretches_cons, if_pos ends, split b]
      rfl
    · cases earlier with
      | nil =>
        refine ⟨[], place.shown c :: last, fun b => ?_⟩
        obtain ⟨first, rest⟩ := List.cons.inj (split b)
        rw [List.cons_append, stretches_cons, if_neg ends, first, rest]
        rfl
      | cons head earlier =>
        refine ⟨(place.shown c :: head) :: earlier, last, fun b => ?_⟩
        obtain ⟨first, rest⟩ := List.cons.inj (split b)
        rw [List.cons_append, stretches_cons, if_neg ends, first, rest]
        rfl

/-- After the end of a statement the reading begins anew. -/
theorem stretches_append_of_ends (place : Cursor) {a : List Char} {c : Char} (ends : (place.after a).ends c)
    (b : List Char) : stretches place (a ++ c :: b) = stretches place a ++ stretches ((place.after a).step c) b := by
  obtain ⟨earlier, last, split⟩ := stretches_append place a
  have alone := split []
  rw [List.append_nil] at alone
  have cutHere : cut (place.after a) (c :: b) = ([], stretches ((place.after a).step c) b) := by
    simp only [cut, ends, stretches, if_true]
  rw [split, alone, cutHere]
  simp [cut]

/-- Outside string literals and brackets a new line begins a new statement. -/
theorem stretches_lines {a : List Char} (outside : Cursor.start.after a = .start) (b : List Char) :
    stretches .start (a ++ '\n' :: b) = stretches .start a ++ stretches .start b := by
  have ends : (Cursor.start.after a).ends '\n' = true := by rw [outside]; rfl
  have anew : (Cursor.start.after a).step '\n' = .start := by rw [outside]; rfl
  rw [stretches_append_of_ends _ ends, anew]

/-- A literal or a bracket that is open goes over the ends of lines. -/
theorem cut_inside {place : Cursor} (quoted : place.Quoted) (inside : place ≠ .start) :
    (cut place ['\n', 'x', '\n', 'y']).2 = [] := by
  cases place with
  | code depth =>
    cases depth with
    | zero => exact absurd rfl inside
    | succ depth => simp [cut, step, ends]
  | literal quote escaped depth => rcases quoted with rfl | rfl <;> cases escaped <;> rfl

/-! ### Statements in stretches -/

theorem attach_ne_nil (found : List (List Char)) (s : List Char) : attach found s ≠ [] := by
  unfold attach
  split
  · nofun
  · split <;> nofun

theorem length_attach_le (found : List (List Char)) (s : List Char) :
    (attach found s).length ≤ found.length + 1 := by
  unfold attach
  split
  · exact Nat.le_refl _
  · split
    · exact Nat.le_succ _
    · exact Nat.le_refl _

theorem assemble_append_of_none {skipped : List (List Char)} (none : skipped.filterMap statement? = [])
    (earlier later : List (List Char)) : assemble (earlier ++ (skipped ++ later)) = assemble (earlier ++ later) := by
  simp only [assemble, List.filterMap_append, none, List.nil_append]

theorem assemble_eq_nil_iff (parts : List (List Char)) : assemble parts = [] ↔ parts.filterMap statement? = [] := by
  rw [assemble, List.reverse_eq_nil_iff]
  constructor
  · intro empty
    rcases List.eq_nil_or_concat (parts.filterMap statement?) with none | ⟨init, last, some⟩
    · exact none
    · rw [some, List.concat_eq_append, List.foldl_append] at empty
      exact absurd empty (attach_ne_nil _ last)
  · intro none
    rw [none]
    rfl

/-- There are no more statements than stretches that hold one. -/
theorem length_assemble_le (parts : List (List Char)) :
    (assemble parts).length ≤ (parts.filterMap statement?).length := by
  have more (found : List (List Char)) (ss : List (List Char)) :
      (ss.foldl attach found).length ≤ found.length + ss.length := by
    induction ss generalizing found with
    | nil => exact Nat.le_refl _
    | cons s ss ih =>
      have here := length_attach_le found s
      have later := ih (attach found s)
      rw [List.foldl_cons, List.length_cons]
      omega
  rw [assemble, List.length_reverse]
  exact Nat.le_trans (more [] _) (Nat.le_of_eq (Nat.zero_add _))

/-! ### Comments -/

/-- Reading some lines by themselves ends outside string literals and brackets and finds no statement. -/
structure Closed (lines : List Char) : Prop where
  outside : Cursor.start.after lines = .start
  empty : statementChars lines = []

/-- Some lines between others change no statement. -/
def Inert (lines : List Char) : Prop :=
  ∀ a b, Cursor.start.after a = .start →
    statementChars (a ++ '\n' :: (lines ++ '\n' :: b)) = statementChars (a ++ '\n' :: b)

theorem Closed.inert {lines : List Char} (closed : Closed lines) : Inert lines := by
  intro a b outside
  have none := (assemble_eq_nil_iff _).mp ((statementChars_eq lines).symm.trans closed.empty)
  rw [statementChars_eq, statementChars_eq, stretches_lines outside, stretches_lines closed.outside,
    stretches_lines outside, assemble_append_of_none none]

theorem Inert.closed {lines : List Char} (inert : Inert lines) : Closed lines := by
  obtain ⟨earlier, last, split⟩ := stretches_append .start lines
  have between (b : List Char) :
      assemble ([] :: stretches .start (lines ++ '\n' :: b)) = statementChars ('\n' :: b) := inert [] b rfl
  have dropped := (assemble_eq_nil_iff _).mp (between [])
  rw [List.filterMap_cons_none rfl] at dropped
  by_cases outside : Cursor.start.after lines = .start
  · refine ⟨outside, (assemble_eq_nil_iff _).mpr ?_⟩
    rw [stretches_lines outside, List.filterMap_append] at dropped
    exact (List.append_eq_nil_iff.mp dropped).1
  · -- The two lines that follow are read as one.
    exfalso
    rw [split, List.filterMap_append] at dropped
    have none := (List.append_eq_nil_iff.mp dropped).1
    have one := cut_inside (quoted_start.after lines) outside
    have two := between ['x', '\n', 'y']
    rw [split, one] at two
    have few := length_assemble_le ([] :: (earlier ++
      [last ++ (cut (Cursor.start.after lines) ['\n', 'x', '\n', 'y']).1]))
    rw [two, List.filterMap_cons_none rfl, List.filterMap_append, none, List.nil_append] at few
    have both : (statementChars ['\n', 'x', '\n', 'y']).length = 2 := by decide
    have single : (statementChars ['\n', 'x', '\n', 'y']).length ≤ 1 :=
      Nat.le_trans few (List.length_filterMap_le _ _)
    omega

theorem trimEnd_cons {c : Char} (dark : Text.isBlank c = false) (cs : List Char) :
    Text.trimEnd (c :: cs) = c :: Text.trimEnd cs := by
  have alone : [c].dropWhile Text.isBlank = [c] := List.dropWhile_cons_of_neg (by simp [dark])
  rw [Text.trimEnd, Text.trimEnd, List.reverse_cons, List.dropWhile_append, alone]
  split
  · rename_i blank
    rw [List.isEmpty_iff.mp blank]
    rfl
  · rw [List.reverse_append]
    rfl

/-- A text that ends with no blank has none to lose there. -/
theorem trimEnd_of_dark {cs : List Char} {last : Char} (ends : cs.getLast? = some last)
    (dark : Text.isBlank last = false) : Text.trimEnd cs = cs := by
  obtain ⟨init, rfl⟩ := List.getLast?_eq_some_iff.mp ends
  rw [Text.trimEnd, List.reverse_concat, List.dropWhile_cons_of_neg (by simp [dark]), List.reverse_cons,
    List.reverse_reverse]

theorem trim_of_dark {cs : List Char} {first last : Char} (begins : cs.head? = some first)
    (ends : cs.getLast? = some last) (dark : Text.isBlank first = false) (darkToo : Text.isBlank last = false) :
    Text.trim cs = cs := by
  obtain ⟨rest, rfl⟩ := List.head?_eq_some_iff.mp begins
  rw [Text.trim, List.dropWhile_cons_of_neg (by simp [dark]), trimEnd_of_dark ends darkToo]

/-- A stretch that begins with two slashes is a comment. -/
theorem statement?_slashes (cs : List Char) : statement? ('/' :: '/' :: cs) = none := by
  have trimmed : Text.trim ('/' :: '/' :: cs) = '/' :: '/' :: Text.trimEnd cs := by
    rw [Text.trim, List.dropWhile_cons_of_neg (by decide), trimEnd_cons (by decide), trimEnd_cons (by decide)]
  rw [statement?, trimmed]
  rfl

/-- The characters that open a string literal or a bracket or end a statement. -/
def signs : List Char := ['"', '\'', '(', '[', '{', ';', '\n']

/-- Without such characters a text is a single stretch. -/
theorem read_unsigned {cs : List Char} (plain : ∀ c ∈ cs, c ∉ signs) :
    Cursor.start.after cs = .start ∧ cut .start cs = (cs, []) := by
  induction cs with
  | nil => exact ⟨rfl, rfl⟩
  | cons c cs ih =>
    obtain ⟨here, later⟩ := List.forall_mem_cons.mp plain
    obtain ⟨outside, whole⟩ := ih later
    simp only [signs, List.mem_cons, List.not_mem_nil, or_false, not_or] at here
    obtain ⟨double, single, round, square, curly, semicolon, newline⟩ := here
    have still : Cursor.start.step c = .start := by simp [start, step, double, single, round, square, curly]
    have goesOn : Cursor.start.ends c = false := by simp [start, ends, semicolon, newline]
    have same : Cursor.start.shown c = c := by simp [start, shown, newline]
    rw [after_cons, still]
    refine ⟨outside, ?_⟩
    simp [cut, still, goesOn, same, whole]

theorem closed_of_unsigned {cs : List Char} (plain : ∀ c ∈ cs, c ∉ signs) : Closed ('/' :: '/' :: cs) := by
  have all : ∀ c ∈ '/' :: '/' :: cs, c ∉ signs :=
    List.forall_mem_cons.mpr ⟨by decide, List.forall_mem_cons.mpr ⟨by decide, plain⟩⟩
  obtain ⟨outside, whole⟩ := read_unsigned all
  refine ⟨outside, ?_⟩
  rw [statementChars_eq, assemble_eq_nil_iff, stretches, whole, List.filterMap_cons_none (statement?_slashes cs)]
  rfl

/-- A comment line changes no statement of any script, wherever it is added outside string literals and brackets, if
    and only if reading it by itself ends outside of both again and finds no statement. Then whatever is run or
    checked stays the same. Every comment is like that in which no string literal, bracket or further statement
    begins. -/
theorem comment_inert_iff (c : String) :
    ((∀ a b, Cursor.start.after a.toList = .start →
        statements (a ++ "\n//" ++ c ++ "\n" ++ b) = statements (a ++ "\n" ++ b)) ↔ Closed ('/' :: '/' :: c.toList)) ∧
      (Closed ('/' :: '/' :: c.toList) → ∀ a b vars, Cursor.start.after a.toList = .start →
        run (a ++ "\n//" ++ c ++ "\n" ++ b) vars = run (a ++ "\n" ++ b) vars ∧
          check (a ++ "\n//" ++ c ++ "\n" ++ b) vars = check (a ++ "\n" ++ b) vars) ∧
      ((∀ ch ∈ c.toList, ch ∉ signs) → Closed ('/' :: '/' :: c.toList)) := by
  have written (a b : String) : (a ++ "\n//" ++ c ++ "\n" ++ b).toList =
      a.toList ++ '\n' :: ('/' :: '/' :: c.toList ++ '\n' :: b.toList) := by simp
  have plain (a b : String) : (a ++ "\n" ++ b).toList = a.toList ++ '\n' :: b.toList := by simp
  refine ⟨⟨?_, ?_⟩, ?_, closed_of_unsigned⟩
  · intro same
    refine Inert.closed fun a b outside => ?_
    have texts := same (String.ofList a) (String.ofList b) (by rwa [String.toList_ofList])
    rw [statements, statements, written, plain, String.toList_ofList, String.toList_ofList] at texts
    exact List.map_injective_iff.mpr (fun _ _ => String.ofList_injective) texts
  · intro closed a b outside
    rw [statements, statements, written, plain, closed.inert _ _ outside]
  · intro closed a b vars outside
    rw [run, run, check, check, written, plain, closed.inert _ _ outside]
    exact ⟨rfl, rfl⟩

/-- A comment may hold quotes and brackets that are closed again. -/
theorem quoted_comment_inert :
    let comment := " it's (one of) John's"
    Closed ('/' :: '/' :: comment.toList) ∧
      statements ("x = 1" ++ "\n//" ++ comment ++ "\n" ++ "y = 2") = statements ("x = 1" ++ "\n" ++ "y = 2") ∧
      statements ("x = 1" ++ "\n" ++ "y = 2") = ["x = 1", "y = 2"] := by
  intro comment
  have closed : Closed ('/' :: '/' :: comment.toList) := ⟨by decide, by decide⟩
  exact ⟨closed, (comment_inert_iff comment).1.mpr closed "x = 1" "y = 2" (by decide), by decide⟩

/-- An apostrophe in a comment opens a string literal that swallows the statement behind the comment, so that a check
    that fails without the comment passes; what stands behind a semicolon in a comment is run. -/
theorem comment_changes_statements :
    Cursor.start.after "x = 1".toList = .start ∧
      statements ("x = 1" ++ "\n//" ++ " it isn't 2" ++ "\n" ++ "x == 2") = ["x = 1"] ∧
      statements ("x = 1" ++ "\n//" ++ " once; x = 2" ++ "\n" ++ "x == 2") = ["x = 1", "x = 2", "x == 2"] ∧
      statements ("x = 1" ++ "\n" ++ "x == 2") = ["x = 1", "x == 2"] ∧
      (check ("x = 1" ++ "\n//" ++ " it isn't 2" ++ "\n" ++ "x == 2") []).outcome = .ok none ∧
      (check ("x = 1" ++ "\n//" ++ " once; x = 2" ++ "\n" ++ "x == 2") []).outcome = .ok none ∧
      (check ("x = 1" ++ "\n" ++ "x == 2") []).outcome = .ok (some "x == 2") := by
  refine ⟨by decide, by decide, by decide, by decide, ?_, ?_, ?_⟩
  · cbv
  · cbv
  · cbv

end TestScenario.Script
