import Mathlib
import TestScenario.Json.Path

/-!
The grammar of paths, and that reading a path follows it. A path is a dollar sign, which may be missing, and segments,
or a name and segments; a segment is a name after one or two dots or a bracket, which two dots may precede. Reading
succeeds on the texts of the grammar and on no others, and gives the segments that they are made of
(`parse_iff_written`).

The relations below say what may stand where and what it means, one after the other as the text goes on: a segment ends
where the rest begins.
-/

namespace TestScenario

/-- One or more decimal digits. -/
structure Decimal.Digits (cs : List Char) : Prop where
  filled : cs ≠ []
  digits : ∀ c ∈ cs, c.isDigit

/-- A whole number in decimal digits, with a sign or without. -/
inductive Decimal.Whole : List Char → Int → Prop
  | unsigned {cs : List Char} : Decimal.Digits cs → Whole cs (Nat.ofDigitChars 10 cs 0)
  | plus {cs : List Char} : Decimal.Digits cs → Whole ('+' :: cs) (Nat.ofDigitChars 10 cs 0)
  | minus {cs : List Char} : Decimal.Digits cs → Whole ('-' :: cs) (-Nat.ofDigitChars 10 cs 0)

namespace Json.Path

/-- A name is not empty, holds neither a dot nor an opening bracket, and goes on up to one of them or to the end. -/
structure Name (name rest : List Char) : Prop where
  filled : name ≠ []
  free : ∀ c ∈ name, c ≠ '.' ∧ c ≠ '['
  ended : ∀ c, rest.head? = some c → c = '.' ∨ c = '['

/-- What a name without quotes means: an asterisk means all nodes. -/
inductive NameMeans : List Char → Selector → Prop
  | all : NameMeans ['*'] .all
  | key {name : List Char} : name ≠ ['*'] → NameMeans name (.name (String.ofList name))

/-- What the inside of a bracket without quotes means: all nodes, or the node at a position of 64 bits. -/
inductive InnerMeans : List Char → Selector → Prop
  | all : InnerMeans ['*'] .all
  | index {inner : List Char} {n : Int} : Decimal.Whole inner n → -2 ^ 63 ≤ n ∧ n < 2 ^ 63 → InnerMeans inner (.index n)

/-- What may stand between brackets, and what it means: a name in quotes, or something between blanks. -/
inductive Inside : List Char → Selector → Prop
  | quoted {quote : Char} {name : List Char} : quote = '\'' ∨ quote = '"' → quote ∉ name →
      Inside (quote :: (name ++ [quote])) (.name (String.ofList name))
  | unquoted {inner : List Char} {s : Selector} : ']' ∉ inner → (∀ c, inner.head? = some c → c ≠ '\'' ∧ c ≠ '"') →
      InnerMeans (Text.trim inner) s → Inside inner s

/-- A text that begins with a segment, what that means, and what follows it. -/
inductive Begins : List Char → Segment → List Char → Prop
  | name {name rest : List Char} {s : Selector} : Name name rest → NameMeans name s →
      Begins ('.' :: (name ++ rest)) (.child s) rest
  | deepName {name rest : List Char} {s : Selector} : Name name rest → NameMeans name s →
      Begins ('.' :: '.' :: (name ++ rest)) (.descendant s) rest
  | bracket {inner rest : List Char} {s : Selector} : Inside inner s →
      Begins ('[' :: (inner ++ ']' :: rest)) (.child s) rest
  | deepBracket {inner rest : List Char} {s : Selector} : Inside inner s →
      Begins ('.' :: '.' :: '[' :: (inner ++ ']' :: rest)) (.descendant s) rest

/-- A text that consists of segments. -/
inductive Segments : List Char → List Segment → Prop
  | nil : Segments [] []
  | cons {cs rest : List Char} {s : Segment} {later : List Segment} : Begins cs s rest → Segments rest later →
      Segments cs (s :: later)

/-- A text that writes a path. -/
inductive Written : List Char → List Segment → Prop
  | rooted {cs : List Char} {segments : List Segment} : Segments cs segments → Written ('$' :: cs) segments
  | rootless {cs : List Char} {segments : List Segment} : Segments cs segments → Written cs segments
  | named {name rest : List Char} {s : Selector} {later : List Segment} : Name name rest → name.head? ≠ some '$' →
      NameMeans name s → Segments rest later → Written (name ++ rest) (.child s :: later)

end Json.Path

/-! ### Whole numbers -/

namespace Decimal

theorem ofDigitChars_eq (cs : List Char) (n : Nat) :
    Nat.ofDigitChars 10 cs n = (cs.map (·.toNat - 48)).foldl (fun m d => m * 10 + d) n := by
  induction cs generalizing n with
  | nil => rfl
  | cons c cs ih => rw [Nat.ofDigitChars_cons, ih, List.map_cons, List.foldl_cons, Nat.mul_comm]; rfl

theorem mapM_digitValue_eq_some_iff {cs : List Char} {ds : List Nat} :
    cs.mapM digitValue = some ds ↔ (∀ c ∈ cs, c.isDigit) ∧ ds = cs.map (·.toNat - 48) := by
  induction cs generalizing ds with
  | nil => exact ⟨fun read => ⟨nofun, (Option.some.inj read).symm⟩, fun ⟨_, same⟩ => congrArg some same.symm⟩
  | cons c cs ih =>
    rw [List.mapM_cons, List.forall_mem_cons]
    by_cases digit : c.isDigit
    · have here : digitValue c = some (c.toNat - 48) := if_pos digit
      rw [here, Option.bind_eq_bind, Option.bind_some, Option.bind_eq_bind, Option.bind_eq_some_iff]
      constructor
      · rintro ⟨_, read, same⟩
        obtain ⟨all, rfl⟩ := ih.mp read
        exact ⟨⟨digit, all⟩, (Option.some.inj same).symm⟩
      · rintro ⟨⟨-, all⟩, rfl⟩
        exact ⟨_, ih.mpr ⟨all, rfl⟩, rfl⟩
    · have here : digitValue c = none := if_neg digit
      rw [here]
      exact ⟨nofun, fun ⟨⟨isDigit, _⟩, _⟩ => absurd isDigit digit⟩

theorem readNat_eq_some_iff {cs : List Char} {n : Nat} :
    readNat cs = some n ↔ Digits cs ∧ n = Nat.ofDigitChars 10 cs 0 := by
  cases cs with
  | nil => exact ⟨nofun, fun ⟨digits, _⟩ => absurd rfl digits.filled⟩
  | cons c cs =>
    show ((c :: cs).mapM digitValue).map (ofDigits 10) = some n ↔ _
    rw [Option.map_eq_some_iff, ofDigitChars_eq]
    constructor
    · rintro ⟨ds, read, rfl⟩
      obtain ⟨all, rfl⟩ := mapM_digitValue_eq_some_iff.mp read
      exact ⟨⟨List.cons_ne_nil _ _, all⟩, rfl⟩
    · rintro ⟨digits, rfl⟩
      exact ⟨_, mapM_digitValue_eq_some_iff.mpr ⟨digits.digits, rfl⟩, rfl⟩

theorem ofSigned_eq_ok_iff {negative : Bool} {cs : List Char} {n : Int} :
    ofSigned minInt64 maxInt64 negative cs = .ok n ↔ (Digits cs ∧
      (if negative then -(Nat.ofDigitChars 10 cs 0 : Int) else Nat.ofDigitChars 10 cs 0) = n) ∧
        -2 ^ 63 ≤ n ∧ n < 2 ^ 63 := by
  unfold ofSigned
  cases read : readNat cs with
  | none =>
    refine ⟨nofun, ?_⟩
    rintro ⟨⟨digits, -⟩, -⟩
    rw [readNat_eq_some_iff.mpr ⟨digits, rfl⟩] at read
    cases read
  | some m =>
    obtain ⟨digits, rfl⟩ := readNat_eq_some_iff.mp read
    simp only [Int.ofNat_eq_natCast, digits, true_and, minInt64, maxInt64]
    generalize (if negative then -(Nat.ofDigitChars 10 cs 0 : Int) else Nat.ofDigitChars 10 cs 0) = value
    split
    · refine ⟨nofun, ?_⟩
      omega
    · split
      · refine ⟨nofun, ?_⟩
        omega
      · rw [Except.ok.injEq]
        omega

theorem readInt64_unsigned {c : Char} (plus : c ≠ '+') (minus : c ≠ '-') (cs : List Char) :
    readInt64 (c :: cs) = ofSigned minInt64 maxInt64 false (c :: cs) := by
  rw [readInt64, readWhole]
  · exact nofun
  · rintro ds ⟨⟩
    exact plus rfl
  · rintro ds ⟨⟩
    exact minus rfl

/-- Reading a number of 64 bits follows its grammar. -/
theorem readInt64_eq_ok_iff {cs : List Char} {n : Int} :
    readInt64 cs = .ok n ↔ Whole cs n ∧ -2 ^ 63 ≤ n ∧ n < 2 ^ 63 := by
  constructor
  · intro read
    cases cs with
    | nil => cases read
    | cons c cs =>
      by_cases plus : c = '+'
      · subst plus
        obtain ⟨⟨digits, rfl⟩, bounds⟩ := ofSigned_eq_ok_iff.mp (show ofSigned _ _ false cs = .ok n from read)
        exact ⟨.plus digits, bounds⟩
      · by_cases minus : c = '-'
        · subst minus
          obtain ⟨⟨digits, rfl⟩, bounds⟩ := ofSigned_eq_ok_iff.mp (show ofSigned _ _ true cs = .ok n from read)
          exact ⟨.minus digits, bounds⟩
        · rw [readInt64_unsigned plus minus] at read
          obtain ⟨⟨digits, rfl⟩, bounds⟩ := ofSigned_eq_ok_iff.mp read
          exact ⟨.unsigned digits, bounds⟩
  · rintro ⟨whole, bounds⟩
    cases whole with
    | plus digits =>
      show ofSigned _ _ false _ = _
      exact ofSigned_eq_ok_iff.mpr ⟨⟨digits, rfl⟩, bounds⟩
    | minus digits =>
      show ofSigned _ _ true _ = _
      exact ofSigned_eq_ok_iff.mpr ⟨⟨digits, rfl⟩, bounds⟩
    | unsigned digits =>
      cases cs with
      | nil => exact absurd rfl digits.filled
      | cons c cs =>
        have first := digits.digits c List.mem_cons_self
        rw [readInt64_unsigned (by rintro rfl; cases first) (by rintro rfl; cases first)]
        exact ofSigned_eq_ok_iff.mpr ⟨⟨digits, rfl⟩, bounds⟩

end Decimal

namespace Json.Path

/-! ### Names and brackets -/

/-- The longest beginning of a text whose characters are of some kind. -/
theorem span_append {p : Char → Bool} {a b : List Char} (inner : ∀ c ∈ a, p c) (ended : ∀ c, b.head? = some c → ¬ p c) :
    (a ++ b).takeWhile p = a ∧ (a ++ b).dropWhile p = b := by
  rw [List.takeWhile_append_of_pos inner, List.dropWhile_append_of_pos inner]
  cases b with
  | nil => exact ⟨List.append_nil a, rfl⟩
  | cons c b =>
    have stop := ended c rfl
    rw [List.takeWhile_cons_of_neg stop, List.dropWhile_cons_of_neg stop, List.append_nil]
    exact ⟨rfl, rfl⟩

/-- What is left behind the longest beginning starts with a character of another kind. -/
theorem head?_dropWhile {p : Char → Bool} {cs : List Char} {c : Char} (first : (cs.dropWhile p).head? = some c) :
    ¬ p c := by
  have stop := List.head?_dropWhile_not p cs
  rw [first] at stop
  exact ne_true_of_eq_false stop

theorem isNameChar_iff {c : Char} : isNameChar c ↔ c ≠ '.' ∧ c ≠ '[' := by
  simp [isNameChar]

theorem ofName_means (name : List Char) : NameMeans name (ofName name) := by
  unfold ofName
  split
  · rename_i star
    rw [beq_iff_eq] at star
    subst star
    exact .all
  · rename_i key
    exact .key (by simpa using key)

theorem NameMeans.eq_ofName {name : List Char} {s : Selector} (means : NameMeans name s) : s = ofName name := by
  cases means with
  | all => rfl
  | key other => rw [ofName, if_neg (by simpa using other)]

/-- A name that the text begins with. -/
theorem span_name {cs : List Char} (filled : cs.takeWhile isNameChar ≠ []) :
    Name (cs.takeWhile isNameChar) (cs.dropWhile isNameChar) := by
  refine ⟨filled, fun c member => isNameChar_iff.mp (List.mem_takeWhile_imp member), ?_⟩
  intro c first
  have stop := head?_dropWhile first
  rw [isNameChar_iff, not_and_or, not_not, not_not] at stop
  exact stop

theorem Name.span {name rest : List Char} (named : Name name rest) :
    (name ++ rest).takeWhile isNameChar = name ∧ (name ++ rest).dropWhile isNameChar = rest := by
  refine span_append (fun c member => isNameChar_iff.mpr (named.free c member)) ?_
  intro c first nameChar
  obtain ⟨dot, bracket⟩ := isNameChar_iff.mp nameChar
  exact (named.ended c first).elim dot bracket

theorem name_eq_ok_iff {fault : PathFault} {cs rest : List Char} {s : Selector} :
    name fault cs = .ok (s, rest) ↔ ∃ n, cs = n ++ rest ∧ Name n rest ∧ NameMeans n s := by
  unfold name
  constructor
  · intro read
    split at read
    · cases read
    · rename_i filled
      cases read
      exact ⟨_, List.takeWhile_append_dropWhile.symm, span_name filled, ofName_means _⟩
  · rintro ⟨n, rfl, named, means⟩
    obtain ⟨taken, dropped⟩ := named.span
    rw [taken, dropped, means.eq_ofName]
    split
    · exact absurd rfl named.filled
    · rfl

theorem quoted_eq_ok_iff {quote : Char} {cs rest : List Char} {s : Selector} :
    quoted quote cs = .ok (s, rest) ↔
      ∃ n, cs = n ++ quote :: ']' :: rest ∧ quote ∉ n ∧ s = .name (String.ofList n) := by
  unfold quoted
  constructor
  · intro read
    split at read
    · cases read
    · rename_i c _ dropped
      cases read
      have closes := head?_dropWhile (p := (· != quote)) (congrArg List.head? dropped)
      have same : c = quote := by simpa using closes
      rw [same] at dropped
      refine ⟨cs.takeWhile (· != quote), ?_, ?_, rfl⟩
      · rw [← dropped, List.takeWhile_append_dropWhile]
      · intro member
        simpa using List.mem_takeWhile_imp member
    · cases read
  · rintro ⟨n, rfl, absent, rfl⟩
    have inner : ∀ c ∈ n, (c != quote) = true := by
      intro c member
      exact bne_iff_ne.mpr fun same => absent (same ▸ member)
    obtain ⟨taken, dropped⟩ := span_append (b := quote :: ']' :: rest) inner (by simp)
    simp only [taken, dropped]

theorem ofInner_eq_ok_iff {inner : List Char} {s : Selector} : ofInner inner = .ok s ↔ InnerMeans inner s := by
  unfold ofInner
  constructor
  · intro read
    split at read
    · rename_i star
      rw [beq_iff_eq] at star
      cases read
      exact star ▸ .all
    · split at read
      · rename_i n number
        cases read
        obtain ⟨whole, bounds⟩ := Decimal.readInt64_eq_ok_iff.mp number
        exact .index whole bounds
      · cases read
  · intro means
    cases means with
    | all => rfl
    | index whole bounds =>
      have other : (inner == ['*']) = false := by
        refine beq_false_of_ne ?_
        rintro rfl
        cases whole with
        | unsigned digits => exact absurd (digits.digits '*' List.mem_cons_self) (by decide)
      rw [other, if_neg Bool.false_ne_true, Decimal.readInt64_eq_ok_iff.mpr ⟨whole, bounds⟩]

theorem unquoted_eq_ok_iff {cs rest : List Char} {s : Selector} :
    unquoted cs = .ok (s, rest) ↔
      ∃ inner, cs = inner ++ ']' :: rest ∧ ']' ∉ inner ∧ InnerMeans (Text.trim inner) s := by
  unfold unquoted
  constructor
  · intro read
    split at read
    · cases read
    · rename_i c _ dropped
      have closes := head?_dropWhile (p := (· != ']')) (congrArg List.head? dropped)
      have same : c = ']' := by simpa using closes
      rw [same] at dropped
      cases meaning : ofInner (Text.trim (cs.takeWhile (· != ']'))) with
      | error fault => rw [meaning] at read; cases read
      | ok t =>
        rw [meaning] at read
        cases read
        refine ⟨cs.takeWhile (· != ']'), ?_, ?_, ofInner_eq_ok_iff.mp meaning⟩
        · rw [← dropped, List.takeWhile_append_dropWhile]
        · intro member
          simpa using List.mem_takeWhile_imp member
  · rintro ⟨inner, rfl, absent, means⟩
    have inside : ∀ c ∈ inner, (c != ']') = true := by
      intro c member
      exact bne_iff_ne.mpr fun same => absent (same ▸ member)
    obtain ⟨taken, dropped⟩ := span_append (b := ']' :: rest) inside (by simp)
    simp only [taken, dropped, ofInner_eq_ok_iff.mpr means]
    rfl

theorem bracket_quote {quote : Char} (isQuote : quote = '\'' ∨ quote = '"') (cs : List Char) :
    bracket (quote :: cs) = quoted quote cs := by
  rcases isQuote with rfl | rfl <;> rfl

theorem bracket_unquoted {cs : List Char} (unquote : ∀ c, cs.head? = some c → c ≠ '\'' ∧ c ≠ '"') :
    bracket cs = unquoted cs := by
  unfold bracket
  split
  · exact absurd rfl (unquote _ rfl).1
  · exact absurd rfl (unquote _ rfl).2
  · rfl

/-- What follows an opening bracket. -/
theorem bracket_eq_ok_iff {cs rest : List Char} {s : Selector} :
    bracket cs = .ok (s, rest) ↔ ∃ inner, cs = inner ++ ']' :: rest ∧ Inside inner s := by
  constructor
  · intro read
    by_cases quotes : ∃ quote tail, (quote = '\'' ∨ quote = '"') ∧ cs = quote :: tail
    · obtain ⟨quote, tail, isQuote, rfl⟩ := quotes
      rw [bracket_quote isQuote] at read
      obtain ⟨n, rfl, absent, rfl⟩ := quoted_eq_ok_iff.mp read
      exact ⟨quote :: (n ++ [quote]), by simp, .quoted isQuote absent⟩
    · have unquote : ∀ c, cs.head? = some c → c ≠ '\'' ∧ c ≠ '"' := by
        intro c first
        obtain ⟨tail, rfl⟩ := List.head?_eq_some_iff.mp first
        rw [← not_or]
        exact fun isQuote => quotes ⟨c, tail, isQuote, rfl⟩
      rw [bracket_unquoted unquote] at read
      obtain ⟨inner, rfl, absent, means⟩ := unquoted_eq_ok_iff.mp read
      refine ⟨inner, rfl, .unquoted absent (fun c first => unquote c ?_) means⟩
      rw [List.head?_append, first]
      rfl
  · rintro ⟨inner, rfl, inside⟩
    cases inside with
    | quoted isQuote absent =>
      rw [List.cons_append, bracket_quote isQuote]
      exact quoted_eq_ok_iff.mpr ⟨_, by simp, absent, rfl⟩
    | unquoted absent unquote means =>
      rw [bracket_unquoted]
      · exact unquoted_eq_ok_iff.mpr ⟨inner, rfl, absent, means⟩
      · intro c first
        cases inner with
        | nil => cases first; decide
        | cons d inner => exact unquote c first

/-! ### Segments and paths -/

theorem map_ok_iff {α β : Type} {x : Except PathFault (α × List Char)} {f : α → β} {b : β} {rest : List Char} :
    (x.map fun (a, rest) => (f a, rest)) = .ok (b, rest) ↔ ∃ a, x = .ok (a, rest) ∧ f a = b := by
  cases x with
  | error fault => exact ⟨nofun, fun ⟨_, read, _⟩ => by cases read⟩
  | ok pair =>
    constructor
    · intro read; cases read; exact ⟨_, rfl, rfl⟩
    · rintro ⟨a, read, rfl⟩; cases read; rfl

theorem segment_name {c : Char} (other : c ≠ '.') (cs : List Char) :
    segment ('.' :: c :: cs) = (name .emptyName (c :: cs)).map fun (s, rest) => (.child s, rest) :=
  segment.eq_3 (c :: cs) (fun _ same => other (List.cons.inj same).1) fun _ same => other (List.cons.inj same).1

theorem segment_deepName {c : Char} (other : c ≠ '[') (cs : List Char) :
    segment ('.' :: '.' :: c :: cs) = (name .emptyDescendantName (c :: cs)).map fun (s, rest) => (.descendant s, rest) :=
  segment.eq_2 (c :: cs) fun _ same => other (List.cons.inj same).1

theorem segment_eq_ok_iff {cs rest : List Char} {s : Segment} : segment cs = .ok (s, rest) ↔ Begins cs s rest := by
  constructor
  · intro read
    unfold segment at read
    split at read
    · obtain ⟨t, inner, rfl⟩ := map_ok_iff.mp read
      obtain ⟨inner, rfl, inside⟩ := bracket_eq_ok_iff.mp inner
      exact .deepBracket inside
    · obtain ⟨t, named, rfl⟩ := map_ok_iff.mp read
      obtain ⟨n, rfl, named, means⟩ := name_eq_ok_iff.mp named
      exact .deepName named means
    · obtain ⟨t, named, rfl⟩ := map_ok_iff.mp read
      obtain ⟨n, rfl, named, means⟩ := name_eq_ok_iff.mp named
      exact .name named means
    · obtain ⟨t, inner, rfl⟩ := map_ok_iff.mp read
      obtain ⟨inner, rfl, inside⟩ := bracket_eq_ok_iff.mp inner
      exact .bracket inside
    · cases read
  · intro begins
    cases begins with
    | deepBracket inside => exact map_ok_iff.mpr ⟨_, bracket_eq_ok_iff.mpr ⟨_, rfl, inside⟩, rfl⟩
    | bracket inside => exact map_ok_iff.mpr ⟨_, bracket_eq_ok_iff.mpr ⟨_, rfl, inside⟩, rfl⟩
    | deepName named means =>
      obtain ⟨c, n, rfl⟩ := List.exists_cons_of_ne_nil named.filled
      rw [List.cons_append, segment_deepName (named.free c List.mem_cons_self).2]
      exact map_ok_iff.mpr ⟨_, name_eq_ok_iff.mpr ⟨_, rfl, named, means⟩, rfl⟩
    | name named means =>
      obtain ⟨c, n, rfl⟩ := List.exists_cons_of_ne_nil named.filled
      rw [List.cons_append, segment_name (named.free c List.mem_cons_self).1]
      exact map_ok_iff.mpr ⟨_, name_eq_ok_iff.mpr ⟨_, rfl, named, means⟩, rfl⟩

/-- A segment begins with a dot or a bracket. -/
theorem Begins.head {cs rest : List Char} {s : Segment} (begins : Begins cs s rest) :
    cs.head? = some '.' ∨ cs.head? = some '[' := by
  cases begins with
  | name | deepName | deepBracket => exact .inl rfl
  | bracket => exact .inr rfl

theorem segmentsOf_nil : segmentsOf [] = .ok [] := by
  rw [segmentsOf]
  rfl

theorem segmentsOf_eq_ok_iff {cs : List Char} {segments : List Segment} :
    segmentsOf cs = .ok segments ↔ Segments cs segments := by
  constructor
  · intro read
    fun_induction segmentsOf cs generalizing segments with
    | case1 cs empty =>
      rw [List.isEmpty_iff] at empty
      cases read
      exact empty ▸ .nil
    | case2 cs filled fault found => cases read
    | case3 cs filled s rest found ih =>
      cases later : segmentsOf rest with
      | error fault => rw [later] at read; cases read
      | ok segments =>
        rw [later] at read
        cases read
        exact .cons (segment_eq_ok_iff.mp found) (ih later)
  · intro written
    induction written with
    | nil => exact segmentsOf_nil
    | cons begins _ ih =>
      rename_i cs rest s later _
      have filled : ¬ cs.isEmpty = true := by
        rw [List.isEmpty_iff]
        rintro rfl
        exact begins.head.elim nofun nofun
      rw [segmentsOf, if_neg filled]
      split
      · rename_i found
        rw [segment_eq_ok_iff.mpr begins] at found
        cases found
      · rename_i found
        rw [segment_eq_ok_iff.mpr begins] at found
        cases found
        rw [ih]
        rfl

/-- Where there are segments or nothing, no name stands. -/
theorem Segments.takeWhile {cs : List Char} {segments : List Segment} (written : Segments cs segments) :
    cs.takeWhile isNameChar = [] ∧ cs.head? ≠ some '$' := by
  cases written with
  | nil => exact ⟨rfl, nofun⟩
  | cons begins =>
    rcases begins.head with dot | opening
    · obtain ⟨tail, rfl⟩ := List.head?_eq_some_iff.mp dot
      exact ⟨rfl, nofun⟩
    · obtain ⟨tail, rfl⟩ := List.head?_eq_some_iff.mp opening
      exact ⟨rfl, nofun⟩

/-- A path without a dollar sign. -/
theorem segmentsOfText_rootless {cs : List Char} (rootless : cs.head? ≠ some '$') :
    segmentsOfText cs =
      match cs.takeWhile isNameChar with
      | [] => segmentsOf cs
      | n => (segmentsOf (cs.dropWhile isNameChar)).map (.child (ofName n) :: ·) := by
  unfold segmentsOfText
  split
  · exact absurd rfl rootless
  · rfl

theorem segmentsOfText_eq_ok_iff {cs : List Char} {segments : List Segment} :
    segmentsOfText cs = .ok segments ↔ Written cs segments := by
  constructor
  · intro read
    by_cases rootless : cs.head? = some '$'
    · obtain ⟨tail, rfl⟩ := List.head?_eq_some_iff.mp rootless
      exact .rooted (segmentsOf_eq_ok_iff.mp read)
    · rw [segmentsOfText_rootless rootless] at read
      split at read
      · exact .rootless (segmentsOf_eq_ok_iff.mp read)
      · rename_i filled
        have named : Name (cs.takeWhile isNameChar) (cs.dropWhile isNameChar) := span_name filled
        have first : (cs.takeWhile isNameChar).head? ≠ some '$' := by
          intro dollar
          obtain ⟨tail, taken⟩ := List.head?_eq_some_iff.mp dollar
          rw [← List.takeWhile_append_dropWhile (p := isNameChar) (l := cs), taken] at rootless
          exact rootless rfl
        cases later : segmentsOf (cs.dropWhile isNameChar) with
        | error fault => rw [later] at read; cases read
        | ok segments =>
          rw [later] at read
          cases read
          have written := Written.named named first (ofName_means _) (segmentsOf_eq_ok_iff.mp later)
          rwa [List.takeWhile_append_dropWhile] at written
  · intro written
    cases written with
    | rooted written => exact segmentsOf_eq_ok_iff.mpr written
    | rootless written =>
      obtain ⟨none, rootless⟩ := written.takeWhile
      rw [segmentsOfText_rootless rootless, none]
      exact segmentsOf_eq_ok_iff.mpr written
    | @named name rest s later named first means written =>
      obtain ⟨taken, dropped⟩ := named.span
      have rootless : (name ++ rest).head? ≠ some '$' := by
        obtain ⟨c, name, rfl⟩ := List.exists_cons_of_ne_nil named.filled
        exact first
      rw [segmentsOfText_rootless rootless, taken, dropped, segmentsOf_eq_ok_iff.mpr written, means.eq_ofName]
      split
      · exact absurd rfl named.filled
      · rfl

/-- A path is read if and only if its text without blanks around it follows the grammar, and then the segments are
    those that the text writes. Any other text has a fault in its syntax. -/
theorem parse_iff_written (text : String) :
    (∀ path, parse text = .ok path ↔
        path.text = Text.trimmed text ∧ Written (Text.trim text.toList) path.segments) ∧
      ((∃ fault, parse text = .error (.syntaxFault (Text.trimmed text) fault)) ↔
        ¬ ∃ segments, Written (Text.trim text.toList) segments) := by
  have raw : (Text.trimmed text).toList = Text.trim text.toList := String.toList_ofList
  simp only [parse, raw]
  cases read : segmentsOfText (Text.trim text.toList) with
  | ok segments =>
    have written := segmentsOfText_eq_ok_iff.mp read
    refine ⟨fun path => ⟨?_, ?_⟩, nofun, fun none => absurd ⟨segments, written⟩ none⟩
    · rintro ⟨⟩
      exact ⟨rfl, written⟩
    · rintro ⟨same, other⟩
      rw [← segmentsOfText_eq_ok_iff, read] at other
      cases other
      rw [← same]
  | error fault =>
    have unwritten : ¬ ∃ segments, Written (Text.trim text.toList) segments := by
      rintro ⟨segments, written⟩
      rw [← segmentsOfText_eq_ok_iff, read] at written
      cases written
    refine ⟨fun path => ⟨nofun, ?_⟩, fun _ => unwritten, fun _ => ⟨fault, rfl⟩⟩
    rintro ⟨-, written⟩
    exact absurd ⟨_, written⟩ unwritten

example : (parse " items['*'][ -1 ]..* ").map Path.segments =
    .ok [.child (.name "items"), .child (.name "*"), .child (.index (-1)), .descendant .all] := by cbv

end Json.Path
end TestScenario
