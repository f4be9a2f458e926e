import Mathlib
import TestScenario.Proofs.Statements

/-!
Which characters end a statement, and what becomes of string literals and bracketed text.

A stretch ends exactly at a newline outside string literals and brackets, and at a semicolon outside string literals. So
a string literal is never taken apart, and bracketed text only by a semicolon in it (`statement_ends`).
-/

namespace TestScenario.Script

namespace Cursor

/-- A place outside string literals. -/
def InCode : Cursor → Prop
  | .code _ => True
  | .literal .. => False

instance : DecidablePred InCode
  | .code _ => .isTrue trivial
  | .literal .. => .isFalse id

theorem ends_iff {place : Cursor} {c : Char} :
    place.ends c ↔ c = ';' ∧ place.InCode ∨ c = '\n' ∧ place = .start := by
  cases place with
  | literal quote escaped depth => simp [ends, InCode, start]
  | code depth => simp [ends, InCode, start]

/-- The characters of a text as statements show them. -/
def shows : Cursor → List Char → List Char
  | _, [] => []
  | place, c :: cs => place.shown c :: shows (place.step c) cs

/-- Something holds of each character of a text together with the place before it. -/
def Throughout (P : Cursor → Char → Prop) : Cursor → List Char → Prop
  | _, [] => True
  | place, c :: cs => P place c ∧ Throughout P (place.step c) cs

namespace Throughout
variable {P Q R : Cursor → Char → Prop}

instance decidable [∀ place c, Decidable (P place c)] (place : Cursor) (cs : List Char) :
    Decidable (Throughout P place cs) :=
  match cs with
  | [] => .isTrue trivial
  | c :: cs => @instDecidableAnd _ _ _ (decidable (place.step c) cs)

/-- At whatever character a text is taken apart, it holds of that character with the place behind the part in front. -/
theorem iff_forall {place : Cursor} {cs : List Char} :
    Throughout P place cs ↔ ∀ p c q, cs = p ++ c :: q → P (place.after p) c := by
  induction cs generalizing place with
  | nil => simp [Throughout]
  | cons c cs ih =>
    rw [Throughout, ih]
    constructor
    · rintro ⟨here, later⟩ p d q split
      cases p with
      | nil =>
        obtain ⟨rfl, -⟩ := List.cons.inj split
        exact here
      | cons e p =>
        obtain ⟨rfl, rest⟩ := List.cons.inj split
        exact later p d q rest
    · intro each
      exact ⟨each [] c cs rfl, fun p d q split => each (c :: p) d q (by rw [split, List.cons_append])⟩

theorem append_iff {place : Cursor} {a b : List Char} :
    Throughout P place (a ++ b) ↔ Throughout P place a ∧ Throughout P (place.after a) b := by
  induction a generalizing place with
  | nil => simp [Throughout, after]
  | cons c a ih => rw [List.cons_append, Throughout, Throughout, ih, after_cons, and_assoc]

theorem mono (weaker : ∀ place c, P place c → Q place c) {place : Cursor} {cs : List Char}
    (holds : Throughout P place cs) : Throughout Q place cs := by
  induction cs generalizing place with
  | nil => trivial
  | cons c cs ih => exact ⟨weaker place c holds.1, ih holds.2⟩

theorem both (joined : ∀ place c, P place c → Q place c → R place c) {place : Cursor} {cs : List Char}
    (one : Throughout P place cs) (other : Throughout Q place cs) : Throughout R place cs := by
  induction cs generalizing place with
  | nil => trivial
  | cons c cs ih => exact ⟨joined place c one.1 other.1, ih one.2 other.2⟩

end Throughout

/-- No statement ends in a text that begins at some place. -/
def Unbroken (place : Cursor) (cs : List Char) : Prop := place.Throughout (fun p c => ¬ p.ends c) cs

/-- No semicolon of a text stands outside string literals. -/
def Unparted (place : Cursor) (cs : List Char) : Prop := place.Throughout (fun p c => ¬ (c = ';' ∧ p.InCode)) cs

/-- The characters of a text belong to one string literal or bracket: between any two of them is no place outside of
    both. -/
def Within (place : Cursor) : List Char → Prop
  | [] => True
  | c :: cs => (place.step c).Throughout (fun p _ => p ≠ .start) cs

instance (place : Cursor) (cs : List Char) : Decidable (place.Unbroken cs) :=
  inferInstanceAs (Decidable (Throughout _ place cs))

instance (place : Cursor) (cs : List Char) : Decidable (place.Unparted cs) :=
  inferInstanceAs (Decidable (Throughout _ place cs))

instance (place : Cursor) (cs : List Char) : Decidable (place.Within cs) :=
  match cs with
  | [] => .isTrue trivial
  | c :: cs => inferInstanceAs (Decidable (Throughout _ (place.step c) cs))

/-- Only a semicolon outside string literals can end a statement between characters of one literal or bracket. -/
theorem Within.unbroken_iff {place : Cursor} {cs : List Char} (within : place.Within cs) (two : 2 ≤ cs.length) :
    place.Unbroken cs ↔ place.Unparted cs := by
  constructor
  · exact Throughout.mono fun p c goesOn semicolon => goesOn (ends_iff.mpr (.inl semicolon))
  · intro unparted
    cases cs with
    | nil => trivial
    | cons c cs =>
      refine ⟨?_, Throughout.both ?_ within unparted.2⟩
      · intro ends
        rcases ends_iff.mp ends with semicolon | ⟨rfl, rfl⟩
        · exact unparted.1 semicolon
        · -- A newline at the outermost level leads to no literal or bracket.
          cases cs with
          | nil => simp at two
          | cons d cs => exact within.1 rfl
      · intro p d inside plain ends
        rcases ends_iff.mp ends with semicolon | ⟨-, outside⟩
        · exact plain semicolon
        · exact inside outside

end Cursor

open Cursor

/-! ### Stretches of texts put together -/

theorem stretches_ne_nil (place : Cursor) (cs : List Char) : stretches place cs ≠ [] := List.cons_ne_nil _ _

theorem length_stretches_cons (place : Cursor) (c : Char) (cs : List Char) :
    (stretches place (c :: cs)).length =
      (if place.ends c then 1 else 0) + (stretches (place.step c) cs).length := by
  rw [stretches_cons]
  split
  · rw [List.length_cons]
    omega
  · simp [stretches]

/-- The last stretch of a text and the first one of what follows are one. -/
theorem stretches_join {place : Cursor} {a b : List Char} {earlier later : List (List Char)} {last first : List Char}
    (before : stretches place a = earlier ++ [last]) (behind : stretches (place.after a) b = first :: later) :
    stretches place (a ++ b) = earlier ++ (last ++ first) :: later := by
  obtain ⟨earlier', last', split⟩ := stretches_append place a
  have alone : stretches place a = earlier' ++ [last'] := by simpa [cut] using split []
  obtain ⟨rfl, rest⟩ := List.append_inj' (before.symm.trans alone) rfl
  obtain rfl := List.singleton_inj.mp rest
  obtain ⟨rfl, rfl⟩ := List.cons.inj behind
  exact split b

theorem length_stretches_append (place : Cursor) (a b : List Char) :
    (stretches place (a ++ b)).length + 1 = (stretches place a).length + (stretches (place.after a) b).length := by
  induction a generalizing place with
  | nil => exact Nat.add_comm _ _
  | cons c a ih =>
    have rest := ih (place.step c)
    rw [List.cons_append, length_stretches_cons, length_stretches_cons, after_cons]
    omega

theorem stretches_of_unbroken {place : Cursor} {cs : List Char} (unbroken : place.Unbroken cs) :
    stretches place cs = [place.shows cs] := by
  induction cs generalizing place with
  | nil => rfl
  | cons c cs ih =>
    have rest := ih unbroken.2
    obtain ⟨first, others⟩ := List.cons.inj rest
    rw [stretches_cons, if_neg unbroken.1, first, others, shows]

theorem unbroken_of_length {place : Cursor} {cs : List Char} (one : (stretches place cs).length = 1) :
    place.Unbroken cs := by
  induction cs generalizing place with
  | nil => trivial
  | cons c cs ih =>
    have some := List.length_pos_iff.mpr (stretches_ne_nil (place.step c) cs)
    rw [length_stretches_cons] at one
    by_cases ends : place.ends c
    · rw [if_pos ends] at one
      omega
    · rw [if_neg ends, Nat.zero_add] at one
      exact ⟨ends, ih one⟩

/-- A text is a single stretch from some place on. -/
def Whole (place : Cursor) (cs : List Char) : Prop := cut place cs = (cs, [])

theorem whole_iff {place : Cursor} {cs : List Char} :
    Whole place cs ↔ place.Throughout (fun p c => ¬ p.ends c ∧ p.shown c = c) cs := by
  induction cs generalizing place with
  | nil => simp [Whole, cut, Throughout]
  | cons c cs ih =>
    rw [Throughout, ← ih]
    by_cases ends : place.ends c
    · simp [Whole, cut, ends]
    · simp [Whole, cut, ends, Prod.ext_iff, and_assoc]

theorem Whole.append {place : Cursor} {a b : List Char} (first : Whole place a) (later : Whole (place.after a) b) :
    Whole place (a ++ b) :=
  whole_iff.mpr (Throughout.append_iff.mpr ⟨whole_iff.mp first, whole_iff.mp later⟩)

/-- A statement ends at a character of a script: what stands before it and what follows are cut by themselves. -/
def EndsAt (script a : List Char) (c : Char) (b : List Char) : Prop :=
  script = a ++ c :: b ∧
    stretches .start script = stretches .start a ++ stretches (Cursor.start.after (a ++ [c])) b

instance (script a : List Char) (c : Char) (b : List Char) : Decidable (EndsAt script a c b) :=
  inferInstanceAs (Decidable (_ ∧ _))

theorem endsAt_iff (script a : List Char) (c : Char) (b : List Char) :
    EndsAt script a c b ↔ script = a ++ c :: b ∧
      (c = ';' ∧ (Cursor.start.after a).InCode ∨ c = '\n' ∧ Cursor.start.after a = .start) := by
  have behind : Cursor.start.after (a ++ [c]) = (Cursor.start.after a).step c := Cursor.after_append _ _ _
  rw [← ends_iff, EndsAt, behind]
  refine and_congr_right ?_
  rintro rfl
  constructor
  · intro apart
    have whole := length_stretches_append .start a (c :: b)
    rw [apart, List.length_append, length_stretches_cons] at whole
    by_contra goesOn
    rw [if_neg goesOn] at whole
    omega
  · intro ends
    exact stretches_append_of_ends .start ends b

/-- Some characters of a script are in one stretch, behind what the last stretch before them has and before what the
    first stretch after them has. -/
def Together (script a cs b : List Char) : Prop :=
  script = a ++ (cs ++ b) ∧ ∃ earlier before after later, stretches .start a = earlier ++ [before] ∧
    stretches (Cursor.start.after (a ++ cs)) b = after :: later ∧
    stretches .start script = earlier ++ (before ++ ((Cursor.start.after a).shows cs ++ after)) :: later

theorem together_iff (script a cs b : List Char) :
    Together script a cs b ↔ script = a ++ (cs ++ b) ∧ (Cursor.start.after a).Unbroken cs := by
  refine and_congr_right ?_
  rintro rfl
  constructor
  · rintro ⟨earlier, before, after, later, left, right, whole⟩
    have first := length_stretches_append .start a (cs ++ b)
    have second := length_stretches_append (Cursor.start.after a) cs b
    rw [← Cursor.after_append, right, List.length_cons] at second
    rw [whole, left] at first
    simp only [List.length_append, List.length_cons, List.length_nil] at first
    exact unbroken_of_length (by omega)
  · intro unbroken
    obtain ⟨earlier, before, left⟩ := (List.eq_nil_or_concat _).resolve_left (stretches_ne_nil .start a)
    obtain ⟨after, later, right⟩ := List.exists_cons_of_ne_nil
      (stretches_ne_nil (Cursor.start.after (a ++ cs)) b)
    rw [List.concat_eq_append] at left
    have inside : stretches (Cursor.start.after a) cs = [] ++ [(Cursor.start.after a).shows cs] :=
      stretches_of_unbroken unbroken
    have behind := stretches_join inside (by rwa [← Cursor.after_append])
    exact ⟨earlier, before, after, later, left, right, stretches_join left behind⟩

/-! ### String literals and brackets -/

/-- What opens and closes a string literal. -/
def quotes : List Char := ['"', '\'']

/-- What opens a bracket. -/
def openings : List Char := ['(', '[', '{']

/-- What closes a bracket, of whatever kind it is. -/
def closings : List Char := [')', ']', '}']

/-- Characters between two quotes: each stands for itself or behind a backslash. -/
inductive Inner (quote : Char) : List Char → Prop
  | nil : Inner quote []
  | char {c : Char} {cs : List Char} : c ≠ quote → c ≠ '\\' → Inner quote cs → Inner quote (c :: cs)
  | escape {c : Char} {cs : List Char} : Inner quote cs → Inner quote ('\\' :: c :: cs)

/-- A string literal. -/
def IsLiteral (cs : List Char) : Prop :=
  ∃ quote ∈ quotes, ∃ inner, Inner quote inner ∧ cs = quote :: (inner ++ [quote])

/-- A text with all its string literals closed and its brackets in pairs, whatever their kinds. -/
inductive Balanced : List Char → Prop
  | nil : Balanced []
  | char {c : Char} {cs : List Char} : c ∉ quotes → c ∉ openings → c ∉ closings → Balanced cs → Balanced (c :: cs)
  | literal {literal cs : List Char} : IsLiteral literal → Balanced cs → Balanced (literal ++ cs)
  | bracket {left right : Char} {inner cs : List Char} : left ∈ openings → right ∈ closings → Balanced inner →
      Balanced cs → Balanced (left :: (inner ++ right :: cs))

/-- A text in brackets. -/
def Bracketed (cs : List Char) : Prop :=
  ∃ left ∈ openings, ∃ right ∈ closings, ∃ inner, Balanced inner ∧ cs = left :: (inner ++ [right])

namespace Cursor
variable {depth : Nat}

theorem step_quote {c : Char} (quote : c ∈ quotes) : (code depth).step c = .literal c false depth := by
  simp only [quotes, List.mem_cons, List.not_mem_nil, or_false] at quote
  rcases quote with rfl | rfl <;> rfl

theorem step_opening {c : Char} (opening : c ∈ openings) : (code depth).step c = .code (depth + 1) := by
  simp only [openings, List.mem_cons, List.not_mem_nil, or_false] at opening
  rcases opening with rfl | rfl | rfl <;> rfl

theorem step_closing {c : Char} (closing : c ∈ closings) : (code depth).step c = .code (depth - 1) := by
  simp only [closings, List.mem_cons, List.not_mem_nil, or_false] at closing
  rcases closing with rfl | rfl | rfl <;> rfl

theorem step_plain {c : Char} (quote : c ∉ quotes) (opening : c ∉ openings) (closing : c ∉ closings) :
    (code depth).step c = .code depth := by
  simp only [quotes, openings, closings, List.mem_cons, List.not_mem_nil, or_false, not_or] at quote opening closing
  simp [step, quote, opening, closing]

end Cursor

section
variable {P : Cursor → Char → Prop} {depth : Nat}

/-- All of the characters between two quotes, and the second quote, stand in the literal. -/
theorem Inner.throughout {quote : Char} {inner : List Char} (written : Inner quote inner)
    (inside : ∀ escaped c, P (.literal quote escaped depth) c) :
    (Cursor.literal quote false depth).Throughout P (inner ++ [quote]) ∧
      (Cursor.literal quote false depth).after inner = .literal quote false depth := by
  induction written with
  | nil => exact ⟨⟨inside _ _, trivial⟩, rfl⟩
  | @char c cs other plain written ih =>
    have still : (Cursor.literal quote false depth).step c = .literal quote false depth := by
      simp [Cursor.step, other, plain]
    rw [List.cons_append, Cursor.Throughout, Cursor.after_cons, still]
    exact ⟨⟨inside _ _, ih.1⟩, ih.2⟩
  | @escape c cs written ih => exact ⟨⟨inside _ _, inside _ _, ih.1⟩, ih.2⟩

theorem IsLiteral.throughout {cs : List Char} (literal : IsLiteral cs) (here : ∀ c ∈ quotes, P (.code depth) c)
    (inside : ∀ quote escaped c, P (.literal quote escaped depth) c) :
    (Cursor.code depth).Throughout P cs ∧ (Cursor.code depth).after cs = .code depth := by
  obtain ⟨quote, member, inner, written, rfl⟩ := literal
  obtain ⟨each, unclosed⟩ := written.throughout (inside quote)
  have opened : (Cursor.code depth).step quote = .literal quote false depth := Cursor.step_quote member
  rw [Cursor.Throughout, Cursor.after_cons, opened, Cursor.after_append, unclosed]
  refine ⟨⟨here quote member, each⟩, ?_⟩
  simp only [quotes, List.mem_cons, List.not_mem_nil, or_false] at member
  rcases member with rfl | rfl <;> rfl

/-- Balanced text leads back to the depth at which it begins and does not leave it meanwhile. -/
theorem Balanced.throughout {cs : List Char} (balanced : Balanced cs)
    (code : ∀ deeper, depth ≤ deeper → ∀ c, P (.code deeper) c)
    (inside : ∀ quote escaped deeper c, P (.literal quote escaped deeper) c) :
    (Cursor.code depth).Throughout P cs ∧ (Cursor.code depth).after cs = .code depth := by
  induction balanced generalizing depth with
  | nil => exact ⟨trivial, rfl⟩
  | @char c cs quote opening closing balanced ih =>
    rw [Cursor.Throughout, Cursor.after_cons, Cursor.step_plain quote opening closing]
    exact ⟨⟨code depth (Nat.le_refl _) c, (ih code).1⟩, (ih code).2⟩
  | @literal literal cs written balanced ih =>
    obtain ⟨each, closed⟩ := written.throughout (fun c _ => code depth (Nat.le_refl _) c)
      fun quote escaped => inside quote escaped depth
    rw [Cursor.Throughout.append_iff, Cursor.after_append, closed]
    exact ⟨⟨each, (ih code).1⟩, (ih code).2⟩
  | @bracket left right inner cs opening closing balanced later ihInner ihLater =>
    obtain ⟨each, back⟩ := ihInner fun deeper le => code deeper (Nat.le_of_succ_le le)
    have opened : (Cursor.code depth).step left = .code (depth + 1) := Cursor.step_opening opening
    have closed : (Cursor.code (depth + 1)).step right = .code depth := Cursor.step_closing closing
    rw [Cursor.Throughout, Cursor.after_cons, opened, Cursor.Throughout.append_iff, Cursor.after_append, back,
      Cursor.Throughout, Cursor.after_cons, closed]
    exact ⟨⟨code depth (Nat.le_refl _) left, each, code (depth + 1) (Nat.le_succ _) right, (ihLater code).1⟩,
      (ihLater code).2⟩

end

theorem IsLiteral.two_le_length {cs : List Char} (literal : IsLiteral cs) : 2 ≤ cs.length := by
  obtain ⟨quote, -, inner, -, rfl⟩ := literal
  simp

theorem Bracketed.two_le_length {cs : List Char} (bracketed : Bracketed cs) : 2 ≤ cs.length := by
  obtain ⟨left, -, right, -, inner, -, rfl⟩ := bracketed
  simp

theorem IsLiteral.within {cs : List Char} (literal : IsLiteral cs) {place : Cursor} (code : place.InCode) :
    place.Within cs := by
  obtain ⟨quote, member, inner, written, rfl⟩ := literal
  cases place with
  | literal => exact code.elim
  | code depth =>
    have inside (escaped : Bool) (c : Char) : Cursor.literal quote escaped depth ≠ .start := Cursor.noConfusion
    rw [Within, Cursor.step_quote member]
    exact (written.throughout (P := fun p _ => p ≠ .start) inside).1

theorem IsLiteral.unparted {cs : List Char} (literal : IsLiteral cs) {place : Cursor} (code : place.InCode) :
    place.Unparted cs := by
  cases place with
  | literal => exact code.elim
  | code depth =>
    have noQuote : ∀ c ∈ quotes, ¬ (c = ';' ∧ (Cursor.code depth).InCode) := by
      rintro c quote ⟨rfl, -⟩
      exact absurd quote (by decide)
    exact (literal.throughout noQuote fun quote escaped c semicolon => semicolon.2).1

theorem Bracketed.within {cs : List Char} (bracketed : Bracketed cs) {place : Cursor} (code : place.InCode) :
    place.Within cs := by
  obtain ⟨left, opening, right, -, inner, balanced, rfl⟩ := bracketed
  cases place with
  | literal => exact code.elim
  | code depth =>
    have deeper (level : Nat) (inside : depth + 1 ≤ level) (c : Char) : Cursor.code level ≠ .start := by
      rintro ⟨⟩
      omega
    have inside (quote : Char) (escaped : Bool) (level : Nat) (c : Char) :
        Cursor.literal quote escaped level ≠ .start := Cursor.noConfusion
    obtain ⟨each, back⟩ := balanced.throughout (P := fun p _ => p ≠ .start) deeper inside
    rw [Within, Cursor.step_opening opening, Throughout.append_iff, back]
    exact ⟨each, deeper _ (Nat.le_refl _) right, trivial⟩

/-! ### Statements made of stretches -/

/-- Texts in groups: one that begins with an operator is in the group of the one before it, and any other begins a
    group of its own. -/
structure Grouped (groups : List (List (List Char))) : Prop where
  nonempty : ∀ group ∈ groups, group ≠ []
  heads : ∀ group ∈ groups.tail, ∀ s ∈ group.head?, ¬ continues s
  tails : ∀ group ∈ groups, ∀ s ∈ group.tail, continues s

/-- The texts of a group as one statement. -/
def phrase (group : List (List Char)) : List Char := [' '].intercalate group

theorem phrase_concat {group : List (List Char)} (nonempty : group ≠ []) (s : List Char) :
    phrase (group ++ [s]) = phrase group ++ ' ' :: s := by
  unfold phrase
  induction group with
  | nil => exact absurd rfl nonempty
  | cons first rest ih =>
    cases rest with
    | nil => simp
    | cons second rest =>
      have longer := ih (List.cons_ne_nil second rest)
      rw [List.cons_append, List.cons_append, List.intercalate_cons_cons, ← List.cons_append, longer,
        List.intercalate_cons_cons]
      simp

namespace Grouped
variable {earlier : List (List (List Char))} {latest : List (List Char)} {s : List Char}

theorem single (s : List Char) : Grouped [[s]] := ⟨by simp, by simp, by simp⟩

/-- A text that begins with no operator begins a group. -/
theorem begin_group (grouped : Grouped earlier) (fresh : ¬ continues s) : Grouped (earlier ++ [[s]]) := by
  obtain ⟨nonempty, heads, tails⟩ := grouped
  refine ⟨?_, ?_, ?_⟩
  · exact List.forall_mem_append.mpr ⟨nonempty, by simp⟩
  · cases earlier with
    | nil => nofun
    | cons first earlier => exact List.forall_mem_append.mpr ⟨heads, by simpa using fresh⟩
  · exact List.forall_mem_append.mpr ⟨tails, by simp⟩

/-- A text that begins with an operator goes on with the latest group. -/
theorem extend_group (grouped : Grouped (earlier ++ [latest])) (operator : continues s) :
    Grouped (earlier ++ [latest ++ [s]]) := by
  obtain ⟨nonempty, heads, tails⟩ := grouped
  obtain ⟨nonemptyEarlier, some⟩ := List.forall_mem_append.mp nonempty
  obtain ⟨tailsEarlier, tailsLatest⟩ := List.forall_mem_append.mp tails
  obtain ⟨head, rest, rfl⟩ := List.exists_cons_of_ne_nil (some latest (by simp))
  refine ⟨?_, ?_, ?_⟩
  · exact List.forall_mem_append.mpr ⟨nonemptyEarlier, by simp⟩
  · cases earlier with
    | nil => nofun
    | cons first earlier =>
      obtain ⟨headsEarlier, headLatest⟩ := List.forall_mem_append.mp heads
      exact List.forall_mem_append.mpr ⟨headsEarlier, by simpa using headLatest⟩
  · refine List.forall_mem_append.mpr ⟨tailsEarlier, ?_⟩
    have before : ∀ t ∈ rest, continues t := tailsLatest (head :: rest) (by simp)
    have all : ∀ t ∈ rest ++ [s], continues t := List.forall_mem_append.mpr ⟨before, by simpa using operator⟩
    simpa using all

end Grouped

/-- Texts found one after the other become statements group by group. -/
theorem exists_grouped (found : List (List Char)) :
    ∃ groups, Grouped groups ∧ groups.flatten = found ∧ found.foldl attach [] = (groups.map phrase).reverse := by
  induction found using List.reverseRecOn with
  | nil => exact ⟨[], ⟨nofun, nofun, nofun⟩, rfl, rfl⟩
  | append_singleton found s ih =>
    obtain ⟨groups, grouped, rfl, made⟩ := ih
    rw [List.foldl_append, made, List.foldl_cons, List.foldl_nil]
    rcases List.eq_nil_or_concat groups with rfl | ⟨earlier, latest, rfl⟩
    · exact ⟨[[s]], .single s, rfl, by simp [attach, phrase]⟩
    · rw [List.concat_eq_append] at grouped ⊢
      have some : latest ≠ [] := grouped.nonempty latest (by simp)
      by_cases operator : continues s
      · refine ⟨earlier ++ [latest ++ [s]], grouped.extend_group operator, by simp, ?_⟩
        simp [attach, operator, phrase_concat some]
      · refine ⟨earlier ++ [latest] ++ [[s]], grouped.begin_group operator, by simp, ?_⟩
        have alone : phrase [s] = s := List.intercalate_singleton
        simp [attach, operator, alone]

/-- The statements of a script are groups of its stretches, except for those that are blank or a comment. -/
theorem statements_grouped (script : String) :
    ∃ groups, Grouped groups ∧ groups.flatten = (stretches .start script.toList).filterMap statement? ∧
      statements script = groups.map fun group => String.ofList (phrase group) := by
  obtain ⟨groups, grouped, all, made⟩ := exists_grouped ((stretches .start script.toList).filterMap statement?)
  refine ⟨groups, grouped, all, ?_⟩
  rw [statements, statementChars_eq, assemble, made, List.reverse_reverse, List.map_map]
  rfl

/-! ### Where statements end -/

/-- Where the statements of a script end. Its stretches, trimmed and without those that are blank or a comment, become
    its statements, each as a whole and in order; one that begins with an operator goes on with the statement before
    it. A stretch ends at a newline outside string literals and brackets and at a semicolon outside string literals,
    and nowhere else. So characters of one string literal or bracket, closed or not, are in one stretch exactly if no
    semicolon among them stands outside string literals; those of a closed string literal always are. -/
theorem statement_ends (script : String) :
    (∃ groups, Grouped groups ∧ groups.flatten = (stretches .start script.toList).filterMap statement? ∧
      statements script = groups.map fun group => String.ofList (phrase group)) ∧
    (∀ a c b, EndsAt script.toList a c b ↔ script.toList = a ++ c :: b ∧
      (c = ';' ∧ (Cursor.start.after a).InCode ∨ c = '\n' ∧ Cursor.start.after a = .start)) ∧
    ∀ a span b, script.toList = a ++ (span ++ b) →
      (2 ≤ span.length → (Cursor.start.after a).Within span →
        (Together script.toList a span b ↔ (Cursor.start.after a).Unparted span)) ∧
      ((Cursor.start.after a).InCode → IsLiteral span ∨ Bracketed span →
        2 ≤ span.length ∧ (Cursor.start.after a).Within span) ∧
      ((Cursor.start.after a).InCode → IsLiteral span → Together script.toList a span b) := by
  refine ⟨statements_grouped script, endsAt_iff script.toList, fun a span b parts => ⟨?_, ?_, ?_⟩⟩
  · intro two within
    rw [together_iff, within.unbroken_iff two, and_iff_right parts]
  · rintro code (literal | bracketed)
    · exact ⟨literal.two_le_length, literal.within code⟩
    · exact ⟨bracketed.two_le_length, bracketed.within code⟩
  · intro code literal
    rw [together_iff, (literal.within code).unbroken_iff literal.two_le_length]
    exact ⟨parts, literal.unparted code⟩

/-- A bracket over two lines with a semicolon in a string literal, and a literal that is never closed. -/
theorem statement_ends_outside_brackets :
    let script := "x = [1,\n 'a;b']; y = \"z; 2\ny"
    let a := "x = ".toList
    let bracket := "[1,\n 'a;b']".toList
    let unclosed := "\"z; 2\ny".toList
    2 ≤ bracket.length ∧ (Cursor.start.after a).Within bracket ∧
      Together script.toList a bracket ("; y = ".toList ++ unclosed) ∧
      (Cursor.start.after "x = [1,\n 'a;b']; y = ".toList).Within unclosed ∧
      Together script.toList "x = [1,\n 'a;b']; y = ".toList unclosed [] ∧
      statements script = ["x = [1,  'a;b']", "y = \"z; 2\ny"] := by
  intro script a bracket unclosed
  have within : (Cursor.start.after a).Within bracket := by decide
  have unclosedWithin : (Cursor.start.after "x = [1,\n 'a;b']; y = ".toList).Within unclosed := by decide
  have together := (statement_ends script).2.2
  exact ⟨by decide, within, ((together a bracket _ (by decide)).1 (by decide) within).mpr (by decide), unclosedWithin,
    ((together _ unclosed [] (by decide)).1 (by decide) unclosedWithin).mpr (by decide), by decide⟩

/-- A semicolon ends a statement inside brackets, so that a bracketed text comes apart. -/
theorem semicolon_parts_brackets :
    let script := "x = [1; 2]"
    EndsAt script.toList "x = [1".toList ';' " 2]".toList ∧ Cursor.start.after "x = [1".toList ≠ .start ∧
      (Cursor.start.after "x = ".toList).InCode ∧ Bracketed "[1; 2]".toList ∧
      ¬ Together script.toList "x = ".toList "[1; 2]".toList [] ∧ statements script = ["x = [1", "2]"] := by
  intro script
  have inner : Balanced "1; 2".toList :=
    .char (by decide) (by decide) (by decide) <| .char (by decide) (by decide) (by decide) <|
      .char (by decide) (by decide) (by decide) <| .char (by decide) (by decide) (by decide) .nil
  refine ⟨by decide, by decide, by decide, ⟨'[', by decide, ']', by decide, _, inner, rfl⟩, ?_, by decide⟩
  rw [together_iff]
  decide

end TestScenario.Script
