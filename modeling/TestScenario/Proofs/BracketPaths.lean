import Mathlib
import TestScenario.Proofs.Absence
import TestScenario.Proofs.Literals
import TestScenario.Proofs.Paths

/-!
Paths of brackets. Names in quotes and positions in decimal digits, each in a bracket of its own, lead to the node that
is reached on a walk by these names and positions, and where the walk fails no node is found (`bracket_path_walks`). A
name in quotes may hold whatever has a meaning elsewhere in a path, so that every node of a document has such a path.
-/

namespace TestScenario

/-! ### Positions in decimal digits -/

namespace Decimal

theorem digits_toDigits (n : Nat) : Digits (Nat.toDigits 10 n) :=
  ⟨Nat.toDigits_ne_nil, fun _ member => Nat.isDigit_of_mem_toDigits (by decide) (by decide) member⟩

theorem whole_toString (n : Int) : Whole (toString n).toList n := by
  cases n with
  | ofNat n =>
    have written : (toString (Int.ofNat n)).toList = Nat.toDigits 10 n := Nat.toList_repr
    have whole := Whole.unsigned (digits_toDigits n)
    rwa [Nat.ofDigitChars_ten_toDigits, ← written] at whole
  | negSucc n =>
    have written : (toString (Int.negSucc n)).toList = '-' :: Nat.toDigits 10 (n + 1) := by
      show ("-" ++ (n + 1).repr).toList = _
      rw [String.toList_append, Nat.toList_repr]
      rfl
    have whole := Whole.minus (digits_toDigits (n + 1))
    rwa [Nat.ofDigitChars_ten_toDigits, ← written] at whole

theorem Whole.ne_nil {cs : List Char} {n : Int} (whole : Whole cs n) : cs ≠ [] := by
  cases whole with
  | unsigned digits => exact digits.filled
  | plus | minus => exact List.cons_ne_nil _ _

theorem Whole.mem {cs : List Char} {n : Int} (whole : Whole cs n) {c : Char} (member : c ∈ cs) :
    c.isDigit ∨ c = '+' ∨ c = '-' := by
  cases whole with
  | unsigned digits => exact .inl (digits.digits c member)
  | plus digits =>
    rcases List.mem_cons.mp member with sign | later
    · exact .inr (.inl sign)
    · exact .inl (digits.digits c later)
  | minus digits =>
    rcases List.mem_cons.mp member with sign | later
    · exact .inr (.inr sign)
    · exact .inl (digits.digits c later)

/-- A number is none of the other signs of a bracket. -/
theorem Whole.plain {cs : List Char} {n : Int} (whole : Whole cs n) {c : Char} (member : c ∈ cs) :
    Text.isBlank c = false ∧ c ≠ ']' ∧ c ≠ '\'' ∧ c ≠ '"' := by
  rcases whole.mem member with digit | rfl | rfl
  · refine ⟨Script.dark_of_part (by simp [Script.Token.isNamePart, Char.isAlphanum, digit]), ?_, ?_, ?_⟩
    all_goals
      rintro rfl
      exact absurd digit (by decide)
  · decide
  · decide

theorem Whole.trim_eq {cs : List Char} {n : Int} (whole : Whole cs n) : Text.trim cs = cs := by
  obtain ⟨first, rest, rfl⟩ := List.exists_cons_of_ne_nil whole.ne_nil
  obtain ⟨last, ends⟩ := Option.isSome_iff_exists.mp (List.getLast?_isSome.mpr whole.ne_nil)
  exact Script.trim_of_dark rfl ends (whole.plain List.mem_cons_self).1 (whole.plain (List.mem_of_getLast? ends)).1

end Decimal

namespace Json

/-! ### Brackets and walks -/

/-- A bracket of a path: a name in quotes of a kind that the name does not hold, or a position of 64 bits. -/
inductive Bracket where
  | name (name : String) (quote : Char) (isQuote : quote = '\'' ∨ quote = '"') (free : quote ∉ name.toList)
  | index (position : Int64)

namespace Bracket

/-- What stands between the brackets. -/
def inner : Bracket → List Char
  | .name n quote _ _ => quote :: (n.toList ++ [quote])
  | .index i => (toString i.toInt).toList

/-- The bracket as it is written. -/
def written (b : Bracket) : List Char := '[' :: (b.inner ++ [']'])

/-- What the bracket means. -/
def selector : Bracket → Selector
  | .name n _ _ _ => .name n
  | .index i => .index i.toInt

/-- The node that a bracket leads to: the value under a name in an object, or the item at a position in an array. Of
    `n` items the one at the position `-k` is that at `n - k`. -/
def step? : Bracket → Json → Option Json
  | .name n _ _ _, .obj members => Dict.get? members n
  | .index i, .arr items =>
    match i.toInt with
    | .ofNat k => items[k]?
    | .negSucc k => if k + 1 ≤ items.length then items[items.length - (k + 1)]? else none
  | _, _ => none

end Bracket

/-- The node that is reached on a walk from another one, bracket by bracket. -/
def walk : List Bracket → Json → Option Json
  | [], v => some v
  | b :: rest, v => (b.step? v).bind (walk rest)

/-- The path of a walk: a dollar sign and the brackets. -/
def bracketPath (way : List Bracket) : String := String.ofList ('$' :: way.flatMap Bracket.written)

/-! ### Reading the path -/

theorem Bracket.inside (b : Bracket) : Path.Inside b.inner b.selector := by
  cases b with
  | name n quote isQuote free =>
    have inside := Path.Inside.quoted isQuote free
    rwa [String.ofList_toList] at inside
  | index i =>
    have whole := Decimal.whole_toString i.toInt
    refine .unquoted (fun closing => (whole.plain closing).2.1 rfl) (fun c first => ?_) ?_
    · exact (whole.plain (List.mem_of_head? first)).2.2
    · rw [inner, whole.trim_eq]
      exact .index whole ⟨i.le_toInt, i.toInt_lt⟩

theorem segments_written (way : List Bracket) :
    Path.Segments (way.flatMap Bracket.written) (way.map fun b => .child b.selector) := by
  induction way with
  | nil => exact .nil
  | cons b rest ih =>
    have split : (b :: rest).flatMap Bracket.written = '[' :: (b.inner ++ ']' :: rest.flatMap Bracket.written) := by
      simp [Bracket.written]
    rw [split]
    exact .cons (.bracket b.inside) ih

/-- No blanks stand around a path of brackets. -/
theorem trim_bracketPath (way : List Bracket) :
    Text.trim ('$' :: way.flatMap Bracket.written) = '$' :: way.flatMap Bracket.written := by
  cases way using List.reverseRecOn with
  | nil => rfl
  | append_singleton init b =>
    have split : '$' :: (init ++ [b]).flatMap Bracket.written =
        '$' :: init.flatMap Bracket.written ++ '[' :: b.inner ++ [']'] := by
      simp [Bracket.written]
    have ends : ('$' :: (init ++ [b]).flatMap Bracket.written).getLast? = some ']' := by
      rw [split, List.getLast?_concat]
    exact Script.trim_of_dark rfl ends (by decide) (by decide)

theorem parse_bracketPath (way : List Bracket) :
    Path.parse (bracketPath way) = .ok ⟨bracketPath way, way.map fun b => .child b.selector⟩ := by
  have raw : Text.trimmed (bracketPath way) = bracketPath way := by
    rw [Text.trimmed, bracketPath, String.toList_ofList, trim_bracketPath]
  have read : Path.segmentsOfText (bracketPath way).toList = .ok (way.map fun b => .child b.selector) := by
    rw [bracketPath, String.toList_ofList]
    exact Path.segmentsOfText_eq_ok_iff.mpr (.rooted (segments_written way))
  simp only [Path.parse, raw, read]

theorem isDefinite_brackets (text : String) (way : List Bracket) :
    Path.isDefinite ⟨text, way.map fun b => .child b.selector⟩ := by
  rw [Path.isDefinite, List.all_map, List.all_eq_true]
  intro b _
  cases b with
  | name | index => rfl

/-! ### Following the path -/

theorem item?_negSucc (items : List Json) (k : Nat) :
    item? items (.negSucc k) = if k + 1 ≤ items.length then items[items.length - (k + 1)]? else none := by
  simp only [item?, Int.negSucc_lt_zero, if_true, Int.ofNat_eq_natCast]
  by_cases inside : k + 1 ≤ items.length
  · have place : (items.length : Int) + Int.negSucc k = (items.length - (k + 1) : Nat) := by omega
    rw [if_pos inside, place, if_neg (by omega), Int.toNat_natCast]
  · rw [if_neg inside, if_pos (by omega)]

theorem Bracket.pick_selector (b : Bracket) (v : Json) : b.selector.pick v = (b.step? v).toList := by
  cases b with
  | name n quote isQuote free => cases v <;> rfl
  | index i =>
    cases v with
    | arr items =>
      show (item? items i.toInt).toList = _
      rw [step?]
      cases i.toInt with
      | ofNat k => rfl
      | negSucc k => rw [item?_negSucc]
    | null | bool | num | str | obj => rfl

theorem follow_brackets (way : List Bracket) (root : Json) :
    follow (way.map fun b => .child b.selector) root = (walk way root).toList := by
  induction way generalizing root with
  | nil => rfl
  | cons b rest ih =>
    rw [List.map_cons, follow_cons, Segment.pick, b.pick_selector, walk]
    cases b.step? root with
    | none => rfl
    | some node =>
      rw [Option.toList_some, List.flatMap_singleton, ih]
      rfl

/-- A path of brackets can be read and leads to one node at most: to the one that is reached by its names and
    positions, and if there is none, that is the error. -/
theorem bracket_path_walks (way : List Bracket) :
    (∃ p, Path.parse (bracketPath way) = .ok p ∧ p.isDefinite) ∧
      ∀ root, select root (bracketPath way) =
        match walk way root with
        | some v => .ok v
        | none => .error (.notFound (bracketPath way)) := by
  have definite := isDefinite_brackets (bracketPath way) way
  refine ⟨⟨_, parse_bracketPath way, definite⟩, fun root => ?_⟩
  have selected : select root (bracketPath way) =
      Path.select ⟨bracketPath way, way.map fun b => .child b.selector⟩ root := by
    rw [select, parse_bracketPath]
    rfl
  rw [selected, Path.select, if_pos definite, follow_brackets]
  cases walk way root with
  | none => rfl
  | some v => rfl

example : select (.obj [("", .obj [("*", .obj [("a.b", .obj [("x]", .arr [.ofNat 1, .ofNat 2])])])])])
    "$['']['*'][\"a.b\"]['x]'][-2]" = .ok (.ofNat 1) := by cbv

end Json
end TestScenario
