import Mathlib
import TestScenario.Proofs.Coincidence
import TestScenario.Proofs.Literals

/-!
What other names of functions do to string literals. The names are replaced in the text of an expression before it is
read, wherever one of them stands by itself before a parenthesis, and so also inside of string literals. A literal is
read as it is written if no name in it is replaced, and only then (`literal_read_iff`).
-/

namespace TestScenario.Script

/-! ### Names that are replaced -/

/-- The other names, and the usual ones that they are replaced by. -/
inductive Alias : List Char → List Char → Prop
  | size : Alias ['l', 'e', 'n'] ['s', 'i', 'z', 'e']
  | type : Alias ['t', 'y', 'p', 'e'] ['t', 'y', 'p', 'e', '_', 'o', 'f']

theorem Alias.longer {word usual : List Char} (named : Alias word usual) : word.length < usual.length := by
  cases named <;> decide

/-- One of the other names stands in a text before a parenthesis, and no word goes on there from what is before it. -/
def Aliased (previous : Option Char) (cs : List Char) : Prop :=
  ∃ before word usual after, Alias word usual ∧ cs = before ++ (word ++ '(' :: after) ∧
    isEdge (before.getLast?.or previous)

/-- A text begins with a name that is replaced. -/
def Replaced (previous : Option Char) (cs : List Char) : Prop :=
  isEdge previous ∧ ∃ word usual after, Alias word usual ∧ cs = word ++ '(' :: after

variable {previous : Option Char} {word usual cs rest : List Char} {c : Char}

/-- What stands last in a longer text. -/
theorem last_cons (c : Char) (cs : List Char) (previous : Option Char) :
    (c :: cs).getLast?.or previous = cs.getLast?.or (some c) := by
  rw [List.getLast?_cons]
  cases cs.getLast? <;> rfl

theorem aliased_cons_iff :
    Aliased previous (c :: rest) ↔ Replaced previous (c :: rest) ∨ Aliased (some c) rest := by
  constructor
  · rintro ⟨before, word, usual, after, named, split, edge⟩
    cases before with
    | nil => exact .inl ⟨edge, word, usual, after, named, split⟩
    | cons d before =>
      obtain ⟨rfl, later⟩ := List.cons.inj split
      rw [last_cons] at edge
      exact .inr ⟨before, word, usual, after, named, later, edge⟩
  · rintro (⟨edge, word, usual, after, named, split⟩ | ⟨before, word, usual, after, named, split, edge⟩)
    · exact ⟨[], word, usual, after, named, split, edge⟩
    · refine ⟨c :: before, word, usual, after, named, congrArg (c :: ·) split, ?_⟩
      rwa [last_cons]

theorem unalias_replaced (edge : isEdge previous) (named : Alias word usual) (after : List Char) :
    unalias previous (word ++ '(' :: after) = usual ++ '(' :: unalias (some '(') after := by
  cases named with
  | size =>
    simp [unalias, edge]
  | type =>
    simp [unalias, edge]

/-- Any other character stays, also one that begins such a name in the middle of a word. -/
theorem unalias_kept (kept : ¬ Replaced previous (c :: rest)) :
    unalias previous (c :: rest) = c :: unalias (some c) rest := by
  by_cases size : ∃ after, c :: rest = 'l' :: 'e' :: 'n' :: '(' :: after
  · obtain ⟨after, written⟩ := size
    have inside : ¬ isEdge previous := fun edge => kept ⟨edge, _, _, after, .size, written⟩
    cases written
    simp [unalias, inside]
  · by_cases type : ∃ after, c :: rest = 't' :: 'y' :: 'p' :: 'e' :: '(' :: after
    · obtain ⟨after, written⟩ := type
      have inside : ¬ isEdge previous := fun edge => kept ⟨edge, _, _, after, .type, written⟩
      cases written
      simp [unalias, inside]
    · rw [unalias]
      · rintro after rfl rfl
        exact size ⟨after, rfl⟩
      · rintro after rfl rfl
        exact type ⟨after, rfl⟩

/-- Induction along a text in which names are replaced. -/
theorem unalias_induction {motive : Option Char → List Char → Prop} (nil : ∀ previous, motive previous [])
    (replaced : ∀ {previous word usual} after, isEdge previous → Alias word usual → motive (some '(') after →
      motive previous (word ++ '(' :: after))
    (kept : ∀ {previous c rest}, ¬ Replaced previous (c :: rest) → motive (some c) rest → motive previous (c :: rest))
    (previous : Option Char) (cs : List Char) : motive previous cs := by
  induction length : cs.length using Nat.strong_induction_on generalizing previous cs with
  | h n ih =>
    subst length
    cases cs with
    | nil => exact nil previous
    | cons c rest =>
      by_cases here : Replaced previous (c :: rest)
      · obtain ⟨edge, word, usual, after, named, split⟩ := here
        rw [split] at ih ⊢
        refine replaced after edge named (ih after.length ?_ _ after rfl)
        simp
        omega
      · exact kept here (ih rest.length (Nat.lt_succ_self _) _ rest rfl)

theorem length_unalias (previous : Option Char) (cs : List Char) : cs.length ≤ (unalias previous cs).length := by
  induction previous, cs using unalias_induction with
  | nil previous => exact Nat.le_refl _
  | replaced after edge named ih =>
    have longer := named.longer
    rw [unalias_replaced edge named]
    simp only [List.length_append, List.length_cons]
    omega
  | kept here ih =>
    rw [unalias_kept here]
    exact Nat.succ_le_succ ih

/-- A text stays as it is if no name in it is replaced, and only then. -/
theorem unalias_eq_self_iff (previous : Option Char) (cs : List Char) :
    unalias previous cs = cs ↔ ¬ Aliased previous cs := by
  induction previous, cs using unalias_induction with
  | nil previous =>
    refine iff_of_true rfl ?_
    rintro ⟨before, word, usual, after, -, split, -⟩
    cases before <;> cases word <;> cases split
  | @replaced previous word usual after edge named ih =>
    refine iff_of_false ?_ ?_
    · intro same
      have longer := named.longer
      have more := length_unalias (some '(') after
      have equal := congrArg List.length same
      rw [unalias_replaced edge named] at equal
      simp only [List.length_append, List.length_cons] at equal
      omega
    · intro unaliased
      exact unaliased ⟨[], word, usual, after, named, rfl, edge⟩
  | @kept previous c rest here ih =>
    rw [unalias_kept here, aliased_cons_iff, List.cons.injEq, ih]
    simp [here]

/-- What a text begins with before a quote does not depend on what stands behind it. -/
theorem replaced_append_quote {more : List Char} (here : Replaced previous (cs ++ '"' :: more)) :
    Replaced previous cs := by
  obtain ⟨edge, word, usual, after, named, split⟩ := here
  have joined : cs ++ '"' :: more = (word ++ ['(']) ++ after := by rw [split, List.append_assoc, List.singleton_append]
  rcases List.append_eq_append_iff.mp joined with ⟨beyond, whole, quoted⟩ | ⟨left, whole, -⟩
  · cases beyond with
    | nil =>
      rw [List.append_nil] at whole
      exact ⟨edge, word, usual, [], named, whole.symm⟩
    | cons q beyond =>
      obtain ⟨rfl, -⟩ := List.cons.inj quoted
      have within : '"' ∈ word ++ ['('] := by rw [whole]; simp
      cases named with
      | size => exact absurd within (by decide)
      | type => exact absurd within (by decide)
  · exact ⟨edge, word, usual, left, named, by rw [whole, List.append_assoc, List.singleton_append]⟩

/-- Nothing is replaced across a quote. -/
theorem unalias_append_quote (previous : Option Char) (cs more : List Char) :
    unalias previous (cs ++ '"' :: more) = unalias previous cs ++ '"' :: unalias (some '"') more := by
  induction previous, cs using unalias_induction with
  | nil previous =>
    have kept : ¬ Replaced previous ('"' :: more) := by
      intro here
      have alone : Replaced previous [] := replaced_append_quote here
      obtain ⟨-, word, usual, after, named, split⟩ := alone
      cases named <;> cases split
    exact unalias_kept kept
  | replaced after edge named ih =>
    rw [unalias_replaced edge named, List.append_assoc, List.cons_append, unalias_replaced edge named, ih,
      List.append_assoc, List.cons_append]
  | @kept previous c rest here ih =>
    have still : ¬ Replaced previous (c :: (rest ++ '"' :: more)) := fun there => here (replaced_append_quote there)
    rw [List.cons_append, unalias_kept still, unalias_kept here, ih, List.cons_append]

/-- Without a parenthesis there is nothing to replace. -/
theorem unalias_of_no_parenthesis (none : '(' ∉ cs) : unalias previous cs = cs := by
  rw [unalias_eq_self_iff]
  rintro ⟨before, word, usual, after, -, rfl, -⟩
  simp at none

theorem Alias.plain {word usual : List Char} (named : Alias word usual) : ∀ c ∈ usual, Plain c := by
  cases named <;> simp [Plain]

theorem unalias_plain {previous : Option Char} (plain : ∀ c ∈ cs, Plain c) : ∀ c ∈ unalias previous cs, Plain c := by
  induction previous, cs using unalias_induction with
  | nil previous => exact plain
  | replaced after edge named ih =>
    rw [unalias_replaced edge named]
    have usual := named.plain
    have later : ∀ c ∈ after, Plain c := fun c member => plain c (by simp [member])
    exact List.forall_mem_append.mpr ⟨usual, List.forall_mem_cons.mpr ⟨by decide, ih later⟩⟩
  | kept here ih =>
    rw [unalias_kept here]
    obtain ⟨first, later⟩ := List.forall_mem_cons.mp plain
    exact List.forall_mem_cons.mpr ⟨first, ih later⟩

theorem unalias_literal {before more : List Char} (none : '(' ∉ before) (noneToo : '(' ∉ more) (previous : Option Char)
    (cs : List Char) :
    unalias previous (before ++ (literal cs ++ more)) = before ++ (literal (unalias (some '"') cs) ++ more) := by
  have text (cs : List Char) : before ++ (literal cs ++ more) = before ++ '"' :: (cs ++ '"' :: more) := by simp [literal]
  rw [text, unalias_append_quote, unalias_append_quote, unalias_of_no_parenthesis none,
    unalias_of_no_parenthesis noneToo, text]

/-! ### Scripts of one statement -/

section
variable {script : String} (term : Term script.toList) (unassigned : assignment? script.toList = none)
include term unassigned

theorem run_of_term {vars : Members} {v : Json} (value : evaluateJson script.toList vars = .ok v) :
    run script vars = ⟨vars, .ok v⟩ := by
  simp only [run, term.statement, runStatements, unassigned, value]

theorem check_of_term {vars : Members} {v : Value} (value : evaluate script.toList vars = .ok v) :
    check script vars = ⟨vars, .ok (if v.isTruthy then none else some script)⟩ := by
  simp only [check, term.statement, checkStatements, unassigned, value, String.ofList_toList]
  split <;> rfl

end

section
variable {s name : String} (plain : ∀ c ∈ s.toList, Plain c) (vars : Members)
include plain

theorem evaluateJson_literal :
    evaluateJson (literal s.toList) vars = .ok (.str (String.ofList (unalias (some '"') s.toList))) := by
  have around : unalias none ([] ++ (literal s.toList ++ [])) = [] ++ (literal (unalias (some '"') s.toList) ++ []) :=
    unalias_literal List.not_mem_nil List.not_mem_nil none s.toList
  have source : unalias none (literal s.toList) = literal (unalias (some '"') s.toList) := by simpa using around
  simp only [evaluateJson, evaluate, source, ofText_literal (unalias_plain plain)]
  rfl

theorem evaluate_equation (named : IsName name) {vars : Members} (held : Dict.get? vars name = some (.str s)) :
    let same := String.ofList (unalias (some '"') s.toList) == s
    evaluate (equation (literal s.toList) name.toList) vars = .ok (.bool same) ∧
      evaluate (equation name.toList (literal s.toList)) vars = .ok (.bool same) := by
  intro same
  have env : (envOf vars).lookup name = some (.str s) := by
    rw [lookup_envOf, held]
    rfl
  have code : '(' ∉ name.toList := by
    intro member
    exact absurd (named.parts '(' member) (by decide)
  have first : unalias none (equation (literal s.toList) name.toList) =
      equation (literal (unalias (some '"') s.toList)) name.toList :=
    unalias_literal List.not_mem_nil (by simp [code]) none s.toList
  have second : unalias none (equation name.toList (literal s.toList)) =
      equation name.toList (literal (unalias (some '"') s.toList)) := by
    have before : '(' ∉ name.toList ++ [' ', '=', '=', ' '] := by simp [code]
    have around := unalias_literal before List.not_mem_nil none s.toList
    simpa [equation] using around
  constructor
  · have value (v : String) :
        (Expr.binary .eq (.literal (.str v)) (.name name)).eval (envOf vars) = .ok (.bool (v == s)) := by
      simp only [Expr.eval, env]
      rfl
    simp only [evaluate, first, ofText_literal_equation (unalias_plain plain) named, value]
    rfl
  · have value (v : String) :
        (Expr.binary .eq (.name name) (.literal (.str v))).eval (envOf vars) = .ok (.bool (v == s)) := by
      rw [BEq.comm]
      simp only [Expr.eval, env]
      rfl
    simp only [evaluate, second, ofText_equation_literal (unalias_plain plain) named, value]
    rfl

end

/-- A literal between double quotes is read with the names in it replaced, by itself and in an equation with a
    variable. So it is what is written, and equals a variable with that text, if no name in it is replaced, and only
    then. -/
theorem literal_read_iff (s : String) (plain : ∀ c ∈ s.toList, Plain c) :
    let written := "\"" ++ s ++ "\""
    let read := String.ofList (unalias (some '"') s.toList)
    (∀ vars, run written vars = ⟨vars, .ok (.str read)⟩) ∧
      (read = s ↔ ¬ Aliased (some '"') s.toList) ∧
      ∀ name vars, IsName name → Dict.get? vars name = some (.str s) →
        ∀ script ∈ [written ++ " == " ++ name, name ++ " == " ++ written],
          check script vars = ⟨vars, .ok (if read = s then none else some script)⟩ := by
  intro written read
  have text : written.toList = literal s.toList := by simp [written, literal]
  refine ⟨?_, ?_, ?_⟩
  · intro vars
    refine run_of_term ?_ ?_ ?_
    · rw [text]
      exact term_literal plain
    · rw [text, ← List.append_nil (literal s.toList)]
      exact assignment?_literal s.toList []
    · rw [text]
      exact evaluateJson_literal plain vars
  · rw [← unalias_eq_self_iff]
    constructor
    · intro same
      have characters := congrArg String.toList same
      simpa [read] using characters
    · intro same
      simp [read, same]
  · intro name vars named held script member
    have truth : (Value.bool (read == s)).isTruthy = true ↔ read = s := by simp [Value.isTruthy, Value.isZero]
    obtain ⟨left, right⟩ := evaluate_equation plain named held
    simp only [List.mem_cons, List.not_mem_nil, or_false] at member
    rcases member with rfl | rfl
    · have shown : (written ++ " == " ++ name).toList = equation (literal s.toList) name.toList := by
        simp [text, equation]
      rw [← shown] at left
      rw [check_of_term ?_ ?_ left]
      · simp only [truth, read]
      · rw [shown]
        exact (term_literal plain).equation (term_name named)
      · rw [shown]
        exact assignment?_literal s.toList _
    · have shown : (name ++ " == " ++ written).toList = equation name.toList (literal s.toList) := by
        simp [text, equation]
      rw [← shown] at right
      rw [check_of_term ?_ ?_ right]
      · simp only [truth, read]
      · rw [shown]
        exact (term_name named).equation (term_literal plain)
      · rw [shown]
        exact assignment?_equation named _

/-- Longer words and words before a blank are left alone. -/
theorem literal_read_of_words :
    let s := "strlen(x) of type (y)"
    ¬ Aliased (some '"') s.toList ∧ run ("\"" ++ s ++ "\"") [] = ⟨[], .ok (.str s)⟩ ∧
      check ("\"" ++ s ++ "\"" ++ " == " ++ "v") [("v", .str s)] = ⟨[("v", .str s)], .ok none⟩ := by
  intro s
  have plain : ∀ c ∈ s.toList, Plain c := by simp [s, Plain]
  have named : IsName "v" := ⟨⟨'v', [], rfl, by decide⟩, List.all_eq_true.mp rfl, by decide⟩
  obtain ⟨runs, same, checks⟩ := literal_read_iff s plain
  have read : String.ofList (unalias (some '"') s.toList) = s := by cbv
  refine ⟨same.mp read, ?_, ?_⟩
  · rw [runs, read]
  · rw [checks "v" [("v", .str s)] named rfl _ List.mem_cons_self, if_pos read]

/-- A literal is not always read as what is written: a name in it is replaced as it would be in a call. -/
theorem literal_of_call_replaced :
    (run "\"len(x)\"" []).outcome = .ok (.str "size(x)") ∧
      (check "\"len(x)\" == v" [("v", .str "len(x)")]).outcome = .ok (some "\"len(x)\" == v") := by
  constructor
  · cbv
  · cbv

end TestScenario.Script
