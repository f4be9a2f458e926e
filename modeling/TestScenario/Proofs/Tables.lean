import Mathlib
import TestScenario.Engine.CaseStep
import TestScenario.Engine.Steps
import TestScenario.Proofs.Scopes

/-!
Tables of variables, and scopes as one table. In a table in order each name is there once. Over scopes that are such
tables, a name means what it stands for in the table of all visible variables (`get?_flatten`).

Steps set variables one after the other and leave out some of them. Where it depends on nothing but what a name means
whether it is left out, each name comes to what its own entry says (`get?_setUnless`).
-/

namespace TestScenario

namespace Dict
variable {α : Type} {d : Dict α}

/-- The names ascend, so that each of them is there once. -/
def Ordered (d : Dict α) : Prop := d.Pairwise (·.1 < ·.1)

instance (d : Dict α) : Decidable d.Ordered := inferInstanceAs (Decidable (d.Pairwise _))

theorem of_mem_insert {n : String} {v : α} {pair : String × α} (member : pair ∈ d.insert n v) :
    pair = (n, v) ∨ pair ∈ d := by
  induction d with
  | nil => exact .inl (List.mem_singleton.mp member)
  | cons head rest ih =>
    obtain ⟨m, w⟩ := head
    unfold insert at member
    split at member
    · rcases List.mem_cons.mp member with new | old
      · exact .inl new
      · exact .inr (List.mem_cons_of_mem _ old)
    · split at member
      · exact List.mem_cons.mp member
      · rcases List.mem_cons.mp member with first | later
        · exact .inr (List.mem_cons.mpr (.inl first))
        · exact (ih later).imp_right (List.mem_cons_of_mem _)

theorem Ordered.insert (ordered : d.Ordered) (n : String) (v : α) : (d.insert n v).Ordered := by
  induction d with
  | nil => exact List.pairwise_singleton _ _
  | cons head rest ih =>
    obtain ⟨m, w⟩ := head
    obtain ⟨first, later⟩ := List.pairwise_cons.mp ordered
    unfold Dict.insert
    split
    · rename_i same
      subst same
      exact List.pairwise_cons.mpr ⟨first, later⟩
    · rename_i other
      split
      · rename_i less
        refine List.pairwise_cons.mpr ⟨?_, ordered⟩
        intro pair member
        rcases List.mem_cons.mp member with rfl | old
        · exact less
        · exact lt_trans less (first pair old)
      · rename_i notLess
        have greater : m < n := lt_of_le_of_ne (not_lt.mp notLess) (Ne.symm other)
        refine List.pairwise_cons.mpr ⟨?_, ih later⟩
        intro pair member
        rcases of_mem_insert member with rfl | old
        · exact greater
        · exact first pair old

theorem Ordered.update (ordered : d.Ordered) (later : Dict α) : (d.update later).Ordered := by
  induction later generalizing d with
  | nil => exact ordered
  | cons pair rest ih => exact ih (ordered.insert pair.1 pair.2)

theorem ordered_ofList (pairs : List (String × α)) : (ofList pairs).Ordered := Ordered.update (d := []) .nil pairs

/-- Of several pairs with one name the last one counts. -/
theorem get?_ofList (pairs : List (String × α)) (name : String) : (ofList pairs).get? name = get? pairs.reverse name := by
  have built : ofList pairs = update [] pairs := rfl
  rw [built, get?_update, get?_nil, Option.or_none]

theorem contains_update_of (later : Dict α) {name : String} (held : d.contains name) :
    (d.update later).contains name := by
  rw [contains] at held
  rw [contains, get?_update, Option.isSome_or, held, Bool.or_true]

theorem Ordered.filter (ordered : d.Ordered) (p : String × α → Bool) : Ordered (List.filter p d) :=
  List.Pairwise.filter p ordered

/-- A table in order that has all the names of another one. -/
structure Extends (d e : Dict α) : Prop where
  ordered : e.Ordered
  names : ∀ name, d.contains name → e.contains name

theorem Extends.update {e : Dict α} (grown : d.Extends e) (later : Dict α) : d.Extends (e.update later) :=
  ⟨grown.ordered.update later, fun name held => contains_update_of later (grown.names name held)⟩

theorem Ordered.extends_update (ordered : d.Ordered) (later : Dict α) : d.Extends (d.update later) :=
  Extends.update ⟨ordered, fun _ held => held⟩ later

theorem Extends.trans {e f : Dict α} (grown : d.Extends e) (later : e.Extends f) : d.Extends f :=
  ⟨later.ordered, fun name held => later.names name (grown.names name held)⟩

theorem get?_of_lt {n : String} (less : ∀ pair ∈ d, n < pair.1) : d.get? n = none := by
  induction d with
  | nil => rfl
  | cons pair rest ih =>
    obtain ⟨here, later⟩ := List.forall_mem_cons.mp less
    rw [get?_cons, if_neg (ne_of_lt here), ih later]

/-- In a table in order it does not matter from which end it is looked through. -/
theorem Ordered.get?_reverse (ordered : d.Ordered) (name : String) : get? d.reverse name = d.get? name := by
  induction d with
  | nil => rfl
  | cons pair rest ih =>
    obtain ⟨n, v⟩ := pair
    obtain ⟨first, later⟩ := List.pairwise_cons.mp ordered
    have last : get? ((n, v) :: rest).reverse name = (get? rest name).or (get? [(n, v)] name) := by
      rw [List.reverse_cons, get?, List.lookup_append, ← ih later]
      rfl
    rw [last, get?_cons, get?_cons]
    by_cases same : name = n
    · subst same
      rw [get?_of_lt first, if_pos rfl, if_pos rfl, Option.none_or]
    · rw [if_neg same, if_neg same, get?_nil, Option.or_none]

end Dict

namespace Json

/-- Equal values: the comparison of values may tell no difference between two that are written differently, as between
    the two zeros among doubles. -/
def Equal (v w : Json) : Prop := v = w ∨ v.same w = true

end Json

/-- Two tables hold the same names, and equal values under them. -/
def Members.Equal (d e : Members) : Prop := ∀ name, Option.Rel Json.Equal (d.get? name) (e.get? name)

namespace Scopes
variable {s t : Scopes} {skip : Scopes → String → Json → Bool} {before vars : Members} {name : String}

/-! ### Scopes as one table -/

/-- Each scope is a table in order. -/
def Ordered (s : Scopes) : Prop := ∀ scope ∈ s.all, Dict.Ordered scope

instance (s : Scopes) : Decidable s.Ordered := inferInstanceAs (Decidable (∀ scope ∈ s.all, _))

/-- The table of all visible variables has under a name what the name means. -/
theorem get?_flatten (ordered : s.Ordered) (name : String) : s.flatten.get? name = s.get? name := by
  obtain ⟨globals, inner⟩ := s
  induction inner with
  | nil =>
    simp only [flatten, List.foldr_nil, get?, all, List.nil_append, List.findSome?_cons, List.findSome?_nil]
    cases Dict.get? globals name <;> rfl
  | cons top inner ih =>
    obtain ⟨here, around⟩ := List.forall_mem_cons.mp ordered
    have flat : (Scopes.mk globals (top :: inner)).flatten = (Scopes.mk globals inner).flatten.update top := rfl
    have outer : (Scopes.mk globals inner).flatten.get? name = (Scopes.mk globals inner).get? name := ih around
    rw [flat, Dict.get?_update, here.get?_reverse, outer]
    exact (get?_eq (Scopes.mk globals (top :: inner)) name).symm

theorem Ordered.flatten (ordered : s.Ordered) : s.flatten.Ordered := by
  obtain ⟨globals, inner⟩ := s
  induction inner with
  | nil => exact ordered globals List.mem_cons_self
  | cons top inner ih => exact (ih (List.forall_mem_cons.mp ordered).2).update top

theorem get?_setLocal (s : Scopes) (n : String) (v : Json) (name : String) :
    (s.setLocal n v).get? name = if name = n then some v else s.get? name := by
  rw [get?_eq, current_setLocal, below_setLocal, Dict.get?_insert, get?_eq]
  split
  · rfl
  · rfl

theorem Ordered.setLocal (ordered : s.Ordered) (n : String) (v : Json) : (s.setLocal n v).Ordered := by
  rw [Ordered, all_eq] at ordered
  obtain ⟨here, around⟩ := List.forall_mem_cons.mp ordered
  rw [Ordered, all_setLocal]
  exact List.forall_mem_cons.mpr ⟨here.insert n v, around⟩

/-! ### Variables set on a condition -/

/-- Variables set one after the other in the innermost scope, but for those that are skipped as things stand. -/
def setUnless (skip : Scopes → String → Json → Bool) (vars : Members) (s : Scopes) : Scopes :=
  vars.foldl (fun s (n, v) => if skip s n v then s else s.setLocal n v) s

theorem addMissing_eq (vars : Members) (s : Scopes) : s.addMissing vars = s.setUnless (fun s n _ => s.contains n) vars :=
  rfl

theorem setAssigned_eq (before vars : Members) (s : Scopes) :
    s.setAssigned before vars = s.setUnless (fun _ n v => (before.get? n).any (Json.same v)) vars := rfl

theorem setChanged_eq (before vars : Members) (s : Scopes) :
    s.setChanged before vars =
      s.setUnless (fun s n v => (before.get? n).any (Json.same v) && s.contains n) vars := rfl

theorem setUnless_cons (n : String) (v : Json) (vars : Members) (s : Scopes) :
    s.setUnless skip ((n, v) :: vars) = (if skip s n v then s else s.setLocal n v).setUnless skip vars := rfl

@[simp] theorem below_setUnless (vars : Members) (s : Scopes) : (s.setUnless skip vars).below = s.below := by
  induction vars generalizing s with
  | nil => rfl
  | cons pair rest ih =>
    rw [setUnless_cons, ih]
    split
    · rfl
    · exact s.below_setLocal _ _

theorem Ordered.setUnless (ordered : s.Ordered) (vars : Members) : (s.setUnless skip vars).Ordered := by
  induction vars generalizing s with
  | nil => exact ordered
  | cons pair rest ih =>
    rw [setUnless_cons]
    split
    · exact ih ordered
    · exact ih (ordered.setLocal _ _)

theorem Ordered.addMissing (ordered : s.Ordered) (vars : Members) : (s.addMissing vars).Ordered := by
  rw [addMissing_eq]
  exact ordered.setUnless vars

theorem Ordered.setAssigned (ordered : s.Ordered) (before vars : Members) : (s.setAssigned before vars).Ordered := by
  rw [setAssigned_eq]
  exact ordered.setUnless vars

theorem Ordered.setChanged (ordered : s.Ordered) (before vars : Members) : (s.setChanged before vars).Ordered := by
  rw [setChanged_eq]
  exact ordered.setUnless vars

/-- Where it depends on what a name means whether its variable is skipped, and on no other name, a name comes to the
    value given for it, or else it stays as it is. -/
theorem get?_setUnless (looks : ∀ {s t : Scopes} {n : String}, s.get? n = t.get? n → skip s n = skip t n)
    (ordered : Dict.Ordered vars) (s : Scopes) (name : String) :
    (s.setUnless skip vars).get? name = ((vars.get? name).filter fun v => !skip s name v).or (s.get? name) := by
  induction vars generalizing s with
  | nil => rfl
  | cons pair rest ih =>
    obtain ⟨n, v⟩ := pair
    obtain ⟨first, later⟩ := List.pairwise_cons.mp ordered
    have other (free : name ≠ n) : (if skip s n v then s else s.setLocal n v).get? name = s.get? name := by
      split
      · rfl
      · rw [get?_setLocal, if_neg free]
    rw [setUnless_cons, ih later, Dict.get?_cons]
    by_cases same : name = n
    · subst same
      rw [Dict.get?_of_lt first, if_pos rfl, Option.filter_none, Option.none_or, Option.filter_some]
      by_cases skipped : skip s name v
      · simp [skipped]
      · simp [skipped, get?_setLocal]
    · rw [if_neg same, other same, looks (other same)]

theorem get?_addMissing (ordered : Dict.Ordered vars) (s : Scopes) (name : String) :
    (s.addMissing vars).get? name = (s.get? name).or (vars.get? name) := by
  rw [addMissing_eq, get?_setUnless (fun same => by simp only [contains, same]) ordered, contains]
  cases s.get? name <;> cases vars.get? name <;> rfl

theorem get?_setChanged (ordered : Dict.Ordered vars) (s : Scopes) (name : String) :
    (s.setChanged before vars).get? name =
      ((vars.get? name).filter fun v => !((before.get? name).any (Json.same v) && s.contains name)).or
        (s.get? name) := by
  rw [setChanged_eq]
  exact get?_setUnless (fun same => by simp only [contains, same]) ordered s name

end Scopes
end TestScenario
