import Mathlib.Order.Defs.Unbundled
import TestScenario.Run.Scopes

/-!
Scopes as a list, innermost first: what opening a scope, setting variables and closing it do to that list and to the
visible variables.

A scope that is closed leaves behind those of its variables whose names are free in the scope directly around it. So it
changes no variable of that scope, but it may hide one that lies further out (`get?_closed`).
-/

namespace TestScenario.Scopes

/-- The scopes around the innermost one, from the inside out. -/
def below (s : Scopes) : List Members := s.all.tail

theorem all_eq (s : Scopes) : s.all = s.current :: s.below := by
  cases s with | mk globals inner => cases inner <;> rfl

theorem depth_eq (s : Scopes) : s.depth = s.below.length + 1 := by
  simp [depth, below, all]

/-- A name means the variable of the innermost scope, or else what it means further out. -/
theorem get?_eq (s : Scopes) (name : String) :
    s.get? name = (s.current.get? name).or (s.below.findSome? (·.get? name)) := by
  rw [get?, all_eq, List.findSome?_cons]
  cases s.current.get? name <;> rfl

/-- Two stacks with the same list of scopes hold the same current scope and the same scopes around it. -/
theorem parts_of_all {s : Scopes} {top : Members} {rest : List Members} (list : s.all = top :: rest) :
    s.current = top ∧ s.below = rest := by
  rw [all_eq, List.cons.injEq] at list
  exact list

/-! ### Operations on the innermost scope -/

@[simp] theorem current_push (s : Scopes) : s.push.current = [] := rfl
@[simp] theorem below_push (s : Scopes) : s.push.below = s.all := rfl

theorem all_setLocal (s : Scopes) (name : String) (value : Json) :
    (s.setLocal name value).all = s.current.insert name value :: s.below := by
  cases s with | mk globals inner => cases inner <;> rfl

@[simp] theorem current_setLocal (s : Scopes) (name : String) (value : Json) :
    (s.setLocal name value).current = s.current.insert name value :=
  (parts_of_all (s.all_setLocal name value)).1

@[simp] theorem below_setLocal (s : Scopes) (name : String) (value : Json) :
    (s.setLocal name value).below = s.below :=
  (parts_of_all (s.all_setLocal name value)).2

@[simp] theorem below_setLocals (s : Scopes) (vars : List (String × Json)) : (s.setLocals vars).below = s.below := by
  induction vars generalizing s with
  | nil => rfl
  | cons pair rest ih => exact (ih (s.setLocal pair.1 pair.2)).trans (s.below_setLocal pair.1 pair.2)

theorem current_setLocals (s : Scopes) (vars : List (String × Json)) :
    (s.setLocals vars).current = s.current.update vars := by
  induction vars generalizing s with
  | nil => rfl
  | cons pair rest ih =>
    refine (ih (s.setLocal pair.1 pair.2)).trans ?_
    rw [current_setLocal]
    rfl

/-- Of several values under one name the last one counts. -/
theorem get?_current_setLocals (s : Scopes) (vars : List (String × Json)) (name : String) :
    (s.setLocals vars).current.get? name = (Dict.get? vars.reverse name).or (s.current.get? name) := by
  rw [current_setLocals, Dict.get?_update]

/-! ### Closing a scope -/

theorem exported_cons (only : Option (List String)) (n : String) (v : Json) (source target : Members) :
    exported only ((n, v) :: source) target = exported only source
      (if only.all (·.contains n) && !target.contains n then target.insert n v else target) := rfl

/-- Names that are free take their values along, the others stay as they are. -/
theorem get?_exported (only : Option (List String)) (source target : Members) (name : String) :
    (exported only source target).get? name =
      (target.get? name).or (if only.all (·.contains name) then source.get? name else none) := by
  induction source generalizing target with
  | nil => simp [exported]
  | cons pair rest ih =>
    obtain ⟨n, v⟩ := pair
    rw [exported_cons, ih, Dict.get?_cons]
    by_cases taken : (only.all (·.contains n) && !target.contains n) = true
    · rw [if_pos taken, Dict.get?_insert]
      rw [Bool.and_eq_true, Bool.not_eq_true'] at taken
      by_cases same : name = n
      · subst same
        have free : target.get? name = none := by simpa [Dict.contains] using taken.2
        rw [if_pos rfl, free, Option.none_or, if_pos rfl, if_pos taken.1, if_pos taken.1, Option.some_or]
      · simp [same]
    · rw [if_neg taken]
      by_cases same : name = n
      · subst same
        cases held : target.get? name with
        | some w => simp
        | none =>
          have listed : ¬ only.all (·.contains name) = true := by
            intro listed
            exact taken (by rw [listed, Dict.contains, held]; rfl)
          rw [if_neg listed, if_neg listed]
      · simp [same]

theorem below_mergeUp (s : Scopes) (only : Option (List String)) {outer : Members} {rest : List Members}
    (around : s.below = outer :: rest) : (s.mergeUp only).below = exported only s.current outer :: rest := by
  cases s with | mk globals inner =>
  cases inner with
  | nil => cases around
  | cons top inner =>
    cases inner with
    | nil => cases around; rfl
    | cons next inner => cases around; rfl

theorem all_dropTop (s : Scopes) {outer : Members} {rest : List Members} (around : s.below = outer :: rest) :
    s.dropTop.all = outer :: rest := by
  cases s with | mk globals inner =>
  cases inner with
  | nil => cases around
  | cons top inner => exact around

theorem all_mergeUp_dropTop (s : Scopes) (only : Option (List String)) {outer : Members} {rest : List Members}
    (around : s.below = outer :: rest) : (s.mergeUp only).dropTop.all = exported only s.current outer :: rest :=
  all_dropTop _ (s.below_mergeUp only around)

/-- Inside others the innermost scope can be closed. -/
theorem pop?_eq (s : Scopes) {outer : Members} {rest : List Members} (around : s.below = outer :: rest) :
    s.pop? = some (s.current, s.dropTop) := by
  cases s with | mk globals inner =>
  cases inner with
  | nil => cases around
  | cons top inner => rfl

/-- The visible variables after a scope of its own for some variables: the scope around it keeps what it holds, and
    every other name that was set means its last value from then on. -/
theorem get?_closed (s : Scopes) (vars : List (String × Json)) (name : String) :
    ((s.push.setLocals vars).mergeUp none).dropTop.get? name =
      if s.current.contains name then s.get? name else (Dict.get? vars.reverse name).or (s.get? name) := by
  have around : (s.push.setLocals vars).below = s.current :: s.below := by rw [below_setLocals, below_push, all_eq]
  obtain ⟨current, below⟩ := parts_of_all (all_mergeUp_dropTop _ none around)
  rw [get?_eq, current, below, get?_exported, get?_current_setLocals, get?_eq s]
  cases held : s.current.get? name <;> simp [Dict.contains, held]

/-! ### What a step may do to the scopes -/

/-- Only the innermost scope differs, and it still holds all its names. -/
structure Grown (s t : Scopes) : Prop where
  below : t.below = s.below
  names : ∀ name, s.current.contains name → t.current.contains name

/-- Only the innermost scope differs, and all its variables still have their values. -/
structure Spared (s t : Scopes) : Prop where
  below : t.below = s.below
  values : ∀ name v, s.current.get? name = some v → t.current.get? name = some v

instance : IsPreorder Scopes Grown where
  refl _ := ⟨rfl, fun _ held => held⟩
  trans _ _ _ first second :=
    ⟨second.below.trans first.below, fun name held => second.names name (first.names name held)⟩

instance : IsPreorder Scopes Spared where
  refl _ := ⟨rfl, fun _ _ held => held⟩
  trans _ _ _ first second :=
    ⟨second.below.trans first.below, fun name v held => second.values name v (first.values name v held)⟩

theorem Spared.grown {s t : Scopes} (spared : Spared s t) : Grown s t := by
  refine ⟨spared.below, ?_⟩
  intro name held
  obtain ⟨v, value⟩ := Option.isSome_iff_exists.mp held
  exact Option.isSome_iff_exists.mpr ⟨v, spared.values name v value⟩

theorem Grown.depth {s t : Scopes} (grown : Grown s t) : t.depth = s.depth := by
  rw [depth_eq, depth_eq, grown.below]

theorem grown_setLocal (s : Scopes) (name : String) (value : Json) : Grown s (s.setLocal name value) := by
  refine ⟨s.below_setLocal name value, ?_⟩
  intro other held
  rw [current_setLocal, Dict.contains_insert, held, Bool.or_true]

/-- What grows with each item of a list grows with the whole list. -/
theorem grown_foldl {ι : Type} {f : Scopes → ι → Scopes} (each : ∀ s i, Grown s (f s i)) (items : List ι) (s : Scopes) :
    Grown s (items.foldl f s) := by
  induction items generalizing s with
  | nil => exact Std.Refl.refl s
  | cons i rest ih => exact IsTrans.trans _ _ _ (each s i) (ih (f s i))

theorem grown_setLocal_unless (p : Prop) [Decidable p] (s : Scopes) (name : String) (value : Json) :
    Grown s (if p then s else s.setLocal name value) := by
  split
  · exact Std.Refl.refl s
  · exact s.grown_setLocal name value

/-- A scope opened inside others is dropped with nothing left behind. -/
theorem spared_dropTop {s t : Scopes} (inside : t.below = s.all) : Spared s t.dropTop := by
  rw [all_eq] at inside
  obtain ⟨current, below⟩ := parts_of_all (t.all_dropTop inside)
  refine ⟨below, ?_⟩
  intro name v held
  rw [current, held]

/-- A scope opened inside others leaves its variables behind where their names are free. -/
theorem spared_mergeUp_dropTop {s t : Scopes} (only : Option (List String)) (inside : t.below = s.all) :
    Spared s (t.mergeUp only).dropTop := by
  rw [all_eq] at inside
  obtain ⟨current, below⟩ := parts_of_all (t.all_mergeUp_dropTop only inside)
  refine ⟨below, ?_⟩
  intro name v held
  rw [current, get?_exported, held, Option.some_or]

/-- A variable of the innermost scope means the same as before. -/
theorem Spared.get?_of_current {s t : Scopes} (spared : Spared s t) {name : String} (held : s.current.contains name) :
    t.get? name = s.get? name := by
  obtain ⟨v, value⟩ := Option.isSome_iff_exists.mp held
  rw [get?_eq, get?_eq, value, spared.values name v value, Option.some_or, Option.some_or]

/-- A name means the same as before, or else it is new in the innermost scope. -/
theorem Spared.get?_or_new {s t : Scopes} (spared : Spared s t) (name : String) :
    t.get? name = s.get? name ∨ (¬ s.current.contains name ∧ t.current.contains name) := by
  by_cases before : s.current.contains name
  · exact .inl (spared.get?_of_current before)
  · by_cases after : t.current.contains name
    · exact .inr ⟨before, after⟩
    · left
      have missing : s.current.get? name = none := by simpa [Dict.contains] using before
      have stillMissing : t.current.get? name = none := by simpa [Dict.contains] using after
      rw [get?_eq, get?_eq, missing, stillMissing, spared.below]

end TestScenario.Scopes
