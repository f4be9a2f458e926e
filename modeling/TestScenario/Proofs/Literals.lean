import Mathlib
import TestScenario.Proofs.Boundaries

/-!
How a string literal between double quotes is read, by itself and in an equation with a name: it is one statement, one
token and one operand, and its value is made of the characters between the quotes.
-/

namespace TestScenario.Script

/-! ### Literals and names -/

/-- A character that stands for itself between double quotes. -/
def Plain (c : Char) : Prop := c ≠ '"' ∧ c ≠ '\\' ∧ c ≠ '\n' ∧ c ≠ '\r'

instance : DecidablePred Plain :=
  fun c => inferInstanceAs (Decidable (c ≠ '"' ∧ c ≠ '\\' ∧ c ≠ '\n' ∧ c ≠ '\r'))

/-- A literal between double quotes. -/
def literal (cs : List Char) : List Char := '"' :: (cs ++ ['"'])

/-- A name of a variable, as expressions write it. -/
structure IsName (name : String) : Prop where
  start : ∃ c rest, name.toList = c :: rest ∧ Token.isNameStart c
  parts : ∀ c ∈ name.toList, Token.isNamePart c
  free : name ∉ Token.words

theorem dark_of_part {c : Char} (part : Token.isNamePart c) : Text.isBlank c = false := by
  simp only [Token.isNamePart, Char.isAlphanum, Char.isAlpha, Char.isUpper, Char.isLower, Char.isDigit, Bool.or_eq_true,
    Bool.and_eq_true, decide_eq_true_eq, beq_iff_eq, UInt32.le_iff_toNat_le] at part
  simp only [Text.isBlank, Char.toNat]
  rcases part with ((⟨low, high⟩ | ⟨low, high⟩) | ⟨low, high⟩) | rfl
  · simp at low high ⊢
    omega
  · simp at low high ⊢
    omega
  · simp at low high ⊢
    omega
  · rfl

/-- An equality sign between two texts. -/
def equation (left right : List Char) : List Char := left ++ ' ' :: '=' :: '=' :: ' ' :: right

/-! ### Statements -/

theorem inner_of_plain {cs : List Char} (plain : ∀ c ∈ cs, Plain c) : Inner '"' cs := by
  induction cs with
  | nil => exact .nil
  | cons c cs ih =>
    obtain ⟨⟨quote, slash, -⟩, later⟩ := List.forall_mem_cons.mp plain
    exact .char quote slash (ih later)

theorem whole_literal {cs : List Char} (plain : ∀ c ∈ cs, Plain c) :
    Whole .start (literal cs) ∧ Cursor.start.after (literal cs) = .start := by
  have written : IsLiteral (literal cs) := ⟨'"', by decide, cs, inner_of_plain plain, rfl⟩
  have quoted : ∀ c ∈ quotes, ¬ (Cursor.code 0).ends c ∧ (Cursor.code 0).shown c = c := by
    simp [quotes, Cursor.ends, Cursor.shown]
  obtain ⟨each, closed⟩ := written.throughout (P := fun p c => ¬ p.ends c ∧ p.shown c = c) quoted
    fun quote escaped c => ⟨Bool.false_ne_true, rfl⟩
  exact ⟨whole_iff.mpr each, closed⟩

/-- A text that is read as a whole and has characters at both ends that are neither blank nor begin a comment. -/
structure Term (cs : List Char) : Prop where
  whole : Whole .start cs
  outside : Cursor.start.after cs = .start
  first : ∃ c, cs.head? = some c ∧ Text.isBlank c = false ∧ c ≠ '/'
  last : ∃ c, cs.getLast? = some c ∧ Text.isBlank c = false

/-- Such a text is the only statement in it. -/
theorem Term.statement {cs : List Char} (term : Term cs) : statementChars cs = [cs] := by
  obtain ⟨whole, -, ⟨first, begins, dark, code⟩, last, ends, darkToo⟩ := term
  have found : statement? cs = some cs := by
    obtain ⟨rest, rfl⟩ := List.head?_eq_some_iff.mp begins
    have uncommented : ['/', '/'].isPrefixOf (first :: rest) = false := by simp [List.isPrefixOf, code.symm]
    simp [statement?, trim_of_dark begins ends dark darkToo, uncommented]
  have alone : stretches .start cs = [cs] := by rw [stretches, whole]
  rw [statementChars_eq, alone, assemble, List.filterMap_cons_some found]
  rfl

theorem Term.equation {a b : List Char} (left : Term a) (right : Term b) : Term (equation a b) := by
  obtain ⟨whole, outside, ⟨c, begins, dark⟩, -⟩ := left
  obtain ⟨wholeToo, outsideToo, -, d, ends, darkToo⟩ := right
  have sign : Whole .start [' ', '=', '=', ' '] ∧ Cursor.start.after [' ', '=', '=', ' '] = .start := ⟨rfl, rfl⟩
  have text : Script.equation a b = a ++ ([' ', '=', '=', ' '] ++ b) := rfl
  refine ⟨?_, ?_, ⟨c, ?_, dark⟩, d, ?_, darkToo⟩
  · rw [text]
    refine whole.append ?_
    rw [outside]
    exact sign.1.append (by rwa [sign.2])
  · rw [text, Cursor.after_append, outside, Cursor.after_append, sign.2, outsideToo]
  · rw [text, List.head?_append, begins]
    rfl
  · rw [text, List.getLast?_append, List.getLast?_append, ends]
    rfl

theorem term_literal {w : List Char} (plain : ∀ c ∈ w, Plain c) : Term (literal w) := by
  obtain ⟨whole, outside⟩ := whole_literal plain
  refine ⟨whole, outside, ⟨'"', rfl, by decide, by decide⟩, '"', ?_, by decide⟩
  rw [literal, ← List.cons_append, List.getLast?_concat]

theorem term_name {name : String} (named : IsName name) : Term name.toList := by
  obtain ⟨⟨c, rest, written, starts⟩, parts, -⟩ := named
  have unsigned : ∀ c ∈ name.toList, c ∉ signs := by
    intro c member sign
    have part := parts c member
    simp only [signs, List.mem_cons, List.not_mem_nil, or_false] at sign
    rcases sign with rfl | rfl | rfl | rfl | rfl | rfl | rfl <;> exact absurd part (by decide)
  obtain ⟨outside, whole⟩ := read_unsigned unsigned
  refine ⟨whole, outside, ⟨c, by rw [written]; rfl, dark_of_part (parts c (by simp [written])), ?_⟩, ?_⟩
  · rintro rfl
    exact absurd starts (by decide)
  · have nonempty : name.toList ≠ [] := by simp [written]
    obtain ⟨d, ends⟩ := Option.isSome_iff_exists.mp (List.getLast?_isSome.mpr nonempty)
    exact ⟨d, ends, dark_of_part (parts d (List.mem_of_getLast? ends))⟩

theorem assignment?_literal (cs more : List Char) : assignment? (literal cs ++ more) = none := by
  have text : literal cs ++ more = '"' :: (cs ++ '"' :: more) := by simp [literal]
  rw [text]
  rfl

/-- After a name an equality sign is no equals sign, even if the name is a keyword of assignments. -/
theorem afterKeyword?_equation {keyword : List Char} (key : keyword.all Token.isNamePart) {name : String}
    (named : IsName name) (more : List Char) :
    (afterKeyword? keyword (equation name.toList more)).bind plainAssignment? = none := by
  unfold afterKeyword?
  split
  · rename_i begins
    obtain ⟨left, split⟩ := List.isPrefixOf_iff_prefix.mp begins
    have behind : (equation name.toList more).drop keyword.length = left := by rw [← split, List.drop_left]
    rw [behind]
    rcases List.append_eq_append_iff.mp split with ⟨beyond, whole, rfl⟩ | ⟨beyond, whole, blank⟩
    · cases beyond with
      | nil => rfl
      | cons d beyond =>
        have dark : Text.isBlank d = false := dark_of_part (named.parts d (by simp [whole]))
        simp [dark]
    · cases beyond with
      | nil =>
        rw [List.nil_append] at blank
        rw [← blank]
        rfl
      | cons d beyond =>
        obtain ⟨rfl, -⟩ := List.cons.inj blank
        exact absurd (List.all_eq_true.mp key ' ' (by simp [whole])) (by decide)
  · rfl

theorem assignment?_equation {name : String} (named : IsName name) (more : List Char) :
    assignment? (equation name.toList more) = none := by
  have plain : plainAssignment? (equation name.toList more) = none := by
    obtain ⟨c, rest, written, starts⟩ := named.start
    have behind : (equation name.toList more).dropWhile isNamePart = ' ' :: '=' :: '=' :: ' ' :: more := by
      have parts : ∀ c ∈ name.toList, isNamePart c := named.parts
      rw [equation, List.dropWhile_append_of_pos parts]
      rfl
    have text : equation name.toList more = c :: (rest ++ ' ' :: '=' :: '=' :: ' ' :: more) := by
      rw [equation, written, List.cons_append]
    rw [plainAssignment?.eq_def, behind, text]
    simp only
    split
    · rfl
    · rfl
  have undeclared : (afterKeyword? ['l', 'e', 't'] (equation name.toList more) <|>
      afterKeyword? ['v', 'a', 'r'] (equation name.toList more)).bind plainAssignment? = none := by
    have first : (afterKeyword? ['l', 'e', 't'] (equation name.toList more)).bind plainAssignment? = none :=
      afterKeyword?_equation rfl named more
    cases declared : afterKeyword? ['l', 'e', 't'] (equation name.toList more) with
    | some right => rwa [declared] at first
    | none => exact afterKeyword?_equation rfl named more
  rw [assignment?, undeclared, plain]
  rfl

/-! ### Tokens -/

theorem lineLength_plain {w : List Char} (plain : ∀ c ∈ w, Plain c) (more : List Char) :
    Token.lineLength false '"' 0 (w ++ '"' :: more) = some (w.length + 1) := by
  induction w with
  | nil => rfl
  | cons c w ih =>
    obtain ⟨⟨quote, slash, newline, feed⟩, later⟩ := List.forall_mem_cons.mp plain
    simp [Token.lineLength, quote, slash, newline, feed, ih later]

/-- The longest literal at a place ends at the next quote, unless this is an empty literal before one more quote. -/
theorem first_literal {w : List Char} (plain : ∀ c ∈ w, Plain c) {more : List Char} (ended : more.head? ≠ some '"') :
    Token.first (literal w ++ more) = some (.str (literal w), w.length + 2) := by
  have single : ['"', '"'].isPrefixOf (w ++ '"' :: more) = false := by
    cases w with
    | nil =>
      cases more with
      | nil => rfl
      | cons c more =>
        have other : '"' ≠ c := fun same => ended (congrArg some same.symm)
        simp [List.isPrefixOf, other]
    | cons c w =>
      have other : '"' ≠ c := fun same => (List.forall_mem_cons.mp plain).1.1 same.symm
      simp [List.isPrefixOf, other]
  have text : literal w ++ more = '"' :: (w ++ '"' :: more) := by simp [literal]
  have length : Token.stringLength (literal w ++ more) = some (w.length + 2) := by
    rw [text]
    simp [Token.stringLength, Token.quotedLength, lineLength_plain plain, single]
  have written : (literal w ++ more).take (w.length + 2) = literal w := List.take_left' (by simp [literal])
  have token : Token.literalToken (literal w ++ more) = some (.str (literal w), w.length + 2) := by
    have unmarked : Token.literalToken (literal w ++ more) =
        (Token.stringLength (literal w ++ more)).map fun n => (.str ((literal w ++ more).take n), n) := by
      rw [text]
      rfl
    rw [unmarked, length, Option.map_some, written]
  rw [Token.first, token]
  rfl

theorem string_literal {w : List Char} (plain : ∀ c ∈ w, Plain c) :
    Literal.string (literal w) = some (String.ofList w) := by
  have inside (fuel : Nat) : ∀ w : List Char, (∀ c ∈ w, Plain c) → w.length < fuel →
      Literal.quoted (some '"') fuel (w ++ ['"']) = some w := by
    induction fuel with
    | zero => nofun
    | succ fuel ih =>
      intro w plain enough
      cases w with
      | nil => cases fuel <;> rfl
      | cons c w =>
        obtain ⟨⟨quote, slash, -⟩, later⟩ := List.forall_mem_cons.mp plain
        simp [Literal.quoted, quote, slash, ih w later (Nat.lt_of_succ_lt_succ enough)]
  have opened := inside (w.length + 1) w plain (Nat.lt_succ_self _)
  simp [literal, Literal.string, Literal.quoted, opened]

/-- However much fuel there is, a text is read as some tokens. -/
def Scans (cs : List Char) (ts : List Token) : Prop := ∀ fuel, cs.length ≤ fuel → Token.scan fuel cs = some ts

theorem scans_nil : Scans [] [] := fun fuel _ => by cases fuel <;> rfl

theorem Scans.gap {cs : List Char} {ts : List Token} (scans : Scans cs ts) {c : Char} (gap : Token.isGap c) :
    Scans (c :: cs) ts := by
  intro fuel enough
  cases fuel with
  | zero => cases enough
  | succ fuel =>
    rw [Token.scan, if_pos gap]
    exact scans fuel (Nat.le_of_succ_le_succ enough)

theorem Scans.token {cs written : List Char} {ts : List Token} {t : Token} {c : Char} (scans : Scans cs ts)
    (begins : written.head? = some c) (dense : ¬ Token.isGap c) (code : c ≠ '/')
    (first : Token.first (written ++ cs) = some (t, written.length)) : Scans (written ++ cs) (t :: ts) := by
  obtain ⟨rest, rfl⟩ := List.head?_eq_some_iff.mp begins
  intro fuel enough
  cases fuel with
  | zero => cases enough
  | succ fuel =>
    have uncommented : ¬ ['/', '/'].isPrefixOf (c :: (rest ++ cs)) := by simp [List.isPrefixOf, code.symm]
    rw [List.cons_append] at first ⊢
    rw [Token.scan, if_neg dense, if_neg uncommented, first]
    have shorter : cs.length ≤ fuel := by
      simp at enough
      omega
    have left : ((c :: rest) ++ cs).drop (c :: rest).length = cs := List.drop_left
    rw [List.cons_append] at left
    simp only [left, scans fuel shorter, Option.map_some]

/-- A character is no quote. -/
def Unquoted (c : Char) : Prop := c ≠ '"' ∧ c ≠ '\''

theorem unquoted_of_part {c : Char} (part : Token.isNamePart c) : Unquoted c := by
  constructor
  · rintro rfl
    exact absurd part (by decide)
  · rintro rfl
    exact absurd part (by decide)

theorem quotedLength_none {raw : Bool} {cs : List Char} (free : ∀ c ∈ cs.take 1, Unquoted c) :
    Token.quotedLength raw cs = none := by
  cases cs with
  | nil => rfl
  | cons c cs =>
    obtain ⟨double, single⟩ := free c (by simp)
    simp [Token.quotedLength, double, single]

theorem stringLength_none {cs : List Char} (free : ∀ c ∈ cs.take 2, Unquoted c) : Token.stringLength cs = none := by
  cases cs with
  | nil => rfl
  | cons c cs =>
    rw [List.take_succ_cons] at free
    obtain ⟨here, later⟩ := List.forall_mem_cons.mp free
    rw [Token.stringLength, quotedLength_none later, quotedLength_none (by simpa using here)]
    simp

theorem literalToken_none {cs : List Char} (free : ∀ c ∈ cs.take 3, Unquoted c) : Token.literalToken cs = none := by
  have plain : Token.stringLength cs = none :=
    stringLength_none fun c member => free c (List.take_subset_take_left cs (by decide) member)
  cases cs with
  | nil => rfl
  | cons c cs =>
    rw [List.take_succ_cons] at free
    obtain ⟨-, later⟩ := List.forall_mem_cons.mp free
    have unmarked : Token.stringLength cs = none := stringLength_none later
    unfold Token.literalToken
    split
    · rename_i marked
      cases marked
      simp [plain, unmarked]
    · rename_i marked
      cases marked
      simp [plain, unmarked]
    · simp [plain]

/-- No number begins with a character that is neither a digit nor a point. -/
theorem numberToken_none {c : Char} (cs : List Char) (digit : ¬ c.isDigit) (point : c ≠ '.') :
    Token.numberToken (c :: cs) = none := by
  have zero : c ≠ '0' := by
    rintro rfl
    exact digit (by decide)
  have whole : (c :: cs).takeWhile Char.isDigit = [] := List.takeWhile_cons_of_neg digit
  have fraction : Token.pointLength (c :: cs) = 0 := by
    unfold Token.pointLength
    split
    · rename_i same
      exact absurd (List.cons.inj same).1 point
    · rfl
  unfold Token.numberToken
  simp [whole, fraction, zero]

theorem digit_of_start {c : Char} (starts : Token.isNameStart c) : ¬ c.isDigit := by
  simp only [Token.isNameStart, Char.isAlpha, Char.isUpper, Char.isLower, Bool.or_eq_true, Bool.and_eq_true,
    decide_eq_true_eq, beq_iff_eq, UInt32.le_iff_toNat_le] at starts
  simp only [Char.isDigit, Bool.and_eq_true, decide_eq_true_eq, UInt32.le_iff_toNat_le]
  rcases starts with (⟨low, high⟩ | ⟨low, high⟩) | rfl
  · simp at low high ⊢
    omega
  · simp at low high ⊢
    omega
  · decide

theorem first_name {name : String} (named : IsName name) {more : List Char}
    (ended : ∀ c, more.head? = some c → ¬ Token.isNamePart c) (unquoted : ∀ c ∈ more.take 2, Unquoted c) :
    Token.first (name.toList ++ more) = some (.name name, name.toList.length) := by
  obtain ⟨⟨c, rest, written, starts⟩, parts, free⟩ := named
  have behind : more.takeWhile Token.isNamePart = [] := by
    cases more with
    | nil => rfl
    | cons d more => exact List.takeWhile_cons_of_neg (ended d rfl)
  have longest : (name.toList ++ more).takeWhile Token.isNamePart = name.toList := by
    rw [List.takeWhile_append_of_pos parts, behind, List.append_nil]
  have literal : Token.literalToken (name.toList ++ more) = none := by
    refine literalToken_none fun d member => ?_
    rw [written, List.cons_append, List.take_succ_cons, List.take_append] at member
    have inside : d ∈ name.toList ∨ d ∈ more.take 2 := by
      rw [written]
      rcases List.mem_cons.mp member with rfl | later
      · exact .inl List.mem_cons_self
      · rcases List.mem_append.mp later with near | far
        · exact .inl (List.mem_cons_of_mem _ (List.mem_of_mem_take near))
        · exact .inr (List.take_subset_take_left more (Nat.sub_le _ _) far)
    rcases inside with near | far
    · exact unquoted_of_part (parts d near)
    · exact unquoted d far
  have number : Token.numberToken (name.toList ++ more) = none := by
    rw [written]
    refine numberToken_none _ (digit_of_start starts) ?_
    rintro rfl
    exact absurd starts (by decide)
  have word : Token.nameToken (name.toList ++ more) = some (.name name, name.toList.length) := by
    have unmarked : Token.words.contains name = false := by simpa using free
    unfold Token.nameToken
    rw [longest, String.ofList_toList]
    rw [written, List.cons_append]
    simp only [starts, if_true, unmarked]
    rw [← written, String.length_toList]
    rfl
  rw [Token.first, literal, number, word]
  rfl

theorem Scans.literal {w cs : List Char} {ts : List Token} (scans : Scans cs ts) (plain : ∀ c ∈ w, Plain c)
    (ended : cs.head? ≠ some '"') : Scans (literal w ++ cs) (.str (literal w) :: ts) := by
  have begins : (Script.literal w).head? = some '"' := rfl
  refine scans.token begins (by decide) (by decide) ?_
  rw [first_literal plain ended]
  simp [Script.literal]

theorem Scans.name {name : String} {cs : List Char} {ts : List Token} (scans : Scans cs ts) (named : IsName name)
    (ended : ∀ c, cs.head? = some c → ¬ Token.isNamePart c) (unquoted : ∀ c ∈ cs.take 2, Unquoted c) :
    Scans (name.toList ++ cs) (.name name :: ts) := by
  obtain ⟨c, rest, written, starts⟩ := named.start
  have begins : name.toList.head? = some c := by rw [written]; rfl
  refine scans.token begins ?_ ?_ (first_name named ended unquoted)
  · intro gap
    simp only [Token.isGap, Bool.or_eq_true, beq_iff_eq] at gap
    rcases gap with (((rfl | rfl) | rfl) | rfl) | rfl <;> exact absurd starts (by decide)
  · rintro rfl
    exact absurd starts (by decide)

theorem first_equality (more : List Char) : Token.first ('=' :: '=' :: ' ' :: more) = some (.symbol "==", 2) := by
  have literal : Token.literalToken ('=' :: '=' :: ' ' :: more) = none := literalToken_none (by simp [Unquoted])
  have number : Token.numberToken ('=' :: '=' :: ' ' :: more) = none := numberToken_none _ (by decide) (by decide)
  have name : Token.nameToken ('=' :: '=' :: ' ' :: more) = none := rfl
  rw [Token.first, literal, number, name]
  rfl

theorem Scans.equality {cs : List Char} {ts : List Token} (scans : Scans (' ' :: cs) ts) :
    Scans (['=', '='] ++ ' ' :: cs) (.symbol "==" :: ts) :=
  scans.token rfl (by decide) (by decide) (first_equality cs)

/-! ### Expressions -/

namespace Expr
variable {d here : Nesting} {f k : Nat} {ts rest : List Token} {e a b : Expr} {t l r : Token}

/-- A token that is an operand by itself: a string literal or a name. -/
inductive Operand : Token → Expr → Prop
  | str {w : List Char} {s : String} : Literal.string w = some s → Operand (.str w) (.literal (.str s))
  | name (name : String) : Operand (.name name) (.name name)

/-- Nothing follows an operand, or an equality does. -/
def Closes (rest : List Token) : Prop := rest = [] ∨ ∃ more, rest = .symbol "==" :: more

theorem prefixed_operand (operand : Operand t e) (closes : Closes rest) (here : Nesting) (f : Nat) :
    prefixed here (f + 3) (t :: rest) = some (e, rest) := by
  have ended (e : Expr) : followed e here (f + 1) rest = some (e, rest) := by
    rcases closes with rfl | ⟨more, rfl⟩
    · rfl
    · simp [followed]
  cases operand with
  | @str w s string =>
    have value : literal? false (.str w) = some (.str s) := by rw [literal?, string]; rfl
    have first : prefixed here (f + 3) (.str w :: rest) =
        ((literal? false (.str w)).map fun v => (Expr.literal v, rest)).bind
          fun p => followed p.1 here (f + 1) p.2 := rfl
    rw [first, value]
    exact ended _
  | name name =>
    have alone : primary here (f + 1) (.name name :: rest) = some (.name name, rest) := by
      rcases closes with rfl | ⟨more, rfl⟩
      · rfl
      · simp [primary]
    have first : prefixed here (f + 3) (.name name :: rest) =
        (primary here (f + 1) (.name name :: rest)).bind fun p => followed p.1 here (f + 1) p.2 := rfl
    rw [first, alone]
    exact ended _

theorem level_of_left (weak : k < operators.length) (opened : d.level k = some here)
    (left : level (k + 1) here f ts = some (a, rest)) : level k d (f + 1) ts = operations k a here f rest := by
  rw [level, if_pos weak, opened]
  simp [left]

theorem operations_of_closes (closes : Closes rest) (weaker : operator? k (.symbol "==") = none) (e : Expr)
    (here : Nesting) (f : Nat) : operations k e here (f + 1) rest = some (e, rest) := by
  rcases closes with rfl | ⟨more, rfl⟩
  · rfl
  · rw [operations, weaker]

/-- An operand by itself is a sum. -/
theorem sum_of_operand (operand : Operand t e) (closes : Closes rest) (opened : d.level 3 = some here) (f : Nat) :
    level 3 d (f + 6) (t :: rest) = some (e, rest) := by
  have strongest : level 5 here (f + 4) (t :: rest) = some (e, rest) := prefixed_operand operand closes here f
  have product : level 4 here (f + 5) (t :: rest) = some (e, rest) := by
    rw [level_of_left (by decide) rfl strongest]
    exact operations_of_closes closes (by decide) e here (f + 3)
  rw [level_of_left (by decide) opened product]
  exact operations_of_closes closes (by decide) e here (f + 4)

/-- A comparison by itself is an expression. -/
theorem expression_of_comparison (compared : level 2 ⟨1, 0, 0⟩ (f + 7) ts = some (e, [])) :
    expression {} (f + 10) ts = some (e, []) := by
  have conjunction : level 1 ⟨1, 0, 0⟩ (f + 8) ts = some (e, []) := level_of_left (by decide) rfl compared
  have disjunction : level 0 ⟨1, 0, 0⟩ (f + 9) ts = some (e, []) := level_of_left (by decide) rfl conjunction
  rw [expression, show Nesting.expression {} = some ⟨1, 0, 0⟩ from rfl]
  simp [disjunction]

theorem expression_of_operand (operand : Operand t e) (f : Nat) : expression {} (f + 10) [t] = some (e, []) := by
  have sum : level 3 ⟨1, 1, 0⟩ (f + 6) [t] = some (e, []) := sum_of_operand operand (.inl rfl) rfl f
  exact expression_of_comparison (level_of_left (by decide) rfl sum)

theorem expression_of_equation (left : Operand l a) (right : Operand r b) (f : Nat) :
    expression {} (f + 11) [l, .symbol "==", r] = some (.binary .eq a b, []) := by
  have first : level 3 ⟨1, 1, 0⟩ (f + 7) [l, .symbol "==", r] = some (a, [.symbol "==", r]) :=
    sum_of_operand left (.inr ⟨_, rfl⟩) rfl (f + 1)
  have second : level 3 ⟨1, 2, 0⟩ (f + 6) [r] = some (b, []) := sum_of_operand right (.inl rfl) rfl f
  have equality : operator? 2 (.symbol "==") = some .eq := by decide
  have compared : level 2 ⟨1, 0, 0⟩ (f + 8) [l, .symbol "==", r] = some (.binary .eq a b, []) := by
    rw [level_of_left (by decide) rfl first, operations, equality]
    simp only [show Nesting.operand 2 ⟨1, 1, 0⟩ = some ⟨1, 2, 0⟩ from rfl, second, Option.bind_eq_bind, Option.bind_some]
    rfl
  exact expression_of_comparison compared

theorem ofText_of_scans {cs : List Char} {ts : List Token} (scans : Scans cs ts) {e : Expr}
    (parsed : expression {} (16 * ts.length + 16) ts = some (e, [])) : ofText (String.ofList cs) = some e := by
  have tokens : Token.ofText (String.ofList cs) = some ts := by
    rw [Token.ofText, String.toList_ofList]
    exact scans _ (Nat.le_refl _)
  rw [ofText, tokens]
  simp [parsed]

end Expr

section
variable {w : List Char} {name : String} (plain : ∀ c ∈ w, Plain c) (named : IsName name)
include plain

theorem ofText_literal : Expr.ofText (String.ofList (literal w)) = some (.literal (.str (String.ofList w))) := by
  have scans : Scans (literal w ++ []) [.str (literal w)] := scans_nil.literal plain nofun
  rw [List.append_nil] at scans
  exact Expr.ofText_of_scans scans (Expr.expression_of_operand (.str (string_literal plain)) 22)

include named

theorem ofText_literal_equation : Expr.ofText (String.ofList (equation (literal w) name.toList)) =
    some (.binary .eq (.literal (.str (String.ofList w))) (.name name)) := by
  have last : Scans (name.toList ++ []) [.name name] := scans_nil.name named nofun nofun
  rw [List.append_nil] at last
  have scans : Scans (equation (literal w) name.toList) [.str (literal w), .symbol "==", .name name] :=
    .literal (.gap (.equality (.gap last rfl)) rfl) plain (by simp)
  exact Expr.ofText_of_scans scans (Expr.expression_of_equation (.str (string_literal plain)) (.name name) 53)

theorem ofText_equation_literal : Expr.ofText (String.ofList (equation name.toList (literal w))) =
    some (.binary .eq (.name name) (.literal (.str (String.ofList w)))) := by
  have last : Scans (literal w ++ []) [.str (literal w)] := scans_nil.literal plain nofun
  rw [List.append_nil] at last
  have scans : Scans (equation name.toList (literal w)) [.name name, .symbol "==", .str (literal w)] :=
    .name (.gap (.equality (.gap last rfl)) rfl) named (by simp +decide) (by simp [Unquoted])
  exact Expr.ofText_of_scans scans (Expr.expression_of_equation (.name name) (.str (string_literal plain)) 53)

end
end TestScenario.Script
