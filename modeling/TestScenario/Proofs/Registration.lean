import Mathlib
import TestScenario.Run.Context

/-!
Which step has which name. A registration joins a step and a name; it parts the step from the name that it had and the
name from the step that had it, and touches nothing else. So the two tables of the index undo each other after any
registrations, and a step has a name if it was registered under it and no registration after that one parted the two
(`step_has_name_iff`).
-/

namespace TestScenario

namespace StepIndex
variable {x : StepIndex} {id other i : Int} {name taken n : String}

/-! ### One registration -/

/-- The names of the steps, without that of the step from which a name is taken. -/
def namesWithout (x : StepIndex) (id : Int) (name : String) : Table Int String :=
  match x.id? name with
  | some earlier => if earlier = id then x.nameOf else x.nameOf.erase earlier
  | none => x.nameOf

/-- The steps of the names, without that of the name which a step gives up. -/
def idsWithout (ids : Table String Int) (old : Option String) (id : Int) (name : String) : Table String Int :=
  match old with
  | some lost => if lost ≠ name ∧ ids.get? lost = some id then ids.erase lost else ids
  | none => ids

/-- An empty name registers nothing. -/
theorem register_empty (x : StepIndex) (id : Int) : x.register id "" = x := if_pos rfl

theorem register_eq (named : name ≠ "") (x : StepIndex) (id : Int) :
    x.register id name =
      { idOf := idsWithout (x.idOf.put name id) (Table.get? (x.namesWithout id name) id) id name
        nameOf := (x.namesWithout id name).put id name } := by
  have filled : ¬ name.isEmpty = true := by simpa using named
  unfold register
  rw [if_neg filled]
  rfl

/-- No step but the one that had the name loses its own. -/
theorem get?_namesWithout (x : StepIndex) (id : Int) (name : String) (i : Int) :
    Table.get? (x.namesWithout id name) i = if i ≠ id ∧ x.id? name = some i then none else x.name? i := by
  unfold namesWithout
  cases had : x.id? name with
  | none => simp [name?]
  | some earlier =>
    by_cases same : earlier = id
    · have stays : ¬ (i ≠ id ∧ some earlier = some i) := by
        rintro ⟨other, own⟩
        exact other (Option.some.inj own ▸ same)
      simp only [same, if_true]
      rw [← same, if_neg (same ▸ stays), name?]
    · simp only [same, if_false]
      by_cases own : i = earlier
      · subst own
        simp [same]
      · have stays : ¬ (i ≠ id ∧ some earlier = some i) := by
          rintro ⟨-, again⟩
          exact own (Option.some.inj again).symm
        rw [if_neg stays, Table.get?_erase_of_ne own, name?]

/-- No name but the one that the step had is given up. -/
theorem get?_idsWithout (ids : Table String Int) (old : Option String) (id : Int) (name n : String) :
    Table.get? (idsWithout ids old id name) n =
      if old = some n ∧ n ≠ name ∧ ids.get? n = some id then none else ids.get? n := by
  unfold idsWithout
  cases old with
  | none => simp
  | some lost =>
    by_cases same : lost = n
    · subst same
      by_cases loses : lost ≠ name ∧ ids.get? lost = some id
      · simp [loses]
      · simp only [loses, and_false, if_false]
    · have kept : ¬ (some lost = some n ∧ n ≠ name ∧ ids.get? n = some id) := by
        rintro ⟨own, -⟩
        exact same (Option.some.inj own)
      rw [if_neg kept]
      dsimp only
      split
      · exact Table.get?_erase_of_ne (Ne.symm same) ids
      · rfl

/-- The step under a name, after a registration under any name. -/
theorem id?_register_eq (named : name ≠ "") (x : StepIndex) (id : Int) (n : String) :
    (x.register id name).id? n =
      if n = name then some id
      else if x.name? id = some n ∧ x.id? n = some id then none
      else x.id? n := by
  rw [register_eq named, id?, get?_idsWithout, get?_namesWithout, Table.get?_put]
  by_cases own : n = name
  · simp [own]
  · simp only [own, ne_eq, not_true_eq_false, not_false_eq_true, false_and, if_false, true_and]
    rfl

/-- The name of a step, after a registration of any step. -/
theorem name?_register_eq (named : name ≠ "") (x : StepIndex) (id i : Int) :
    (x.register id name).name? i =
      if i = id then some name
      else if x.id? name = some i then none
      else x.name? i := by
  rw [register_eq named, name?, Table.get?_put, get?_namesWithout]
  by_cases own : i = id
  · simp [own]
  · simp [own]

/-- A step is found under the name that it is registered with. -/
theorem id?_register (x : StepIndex) (id : Int) (named : name ≠ "") : (x.register id name).id? name = some id := by
  rw [id?_register_eq named, if_pos rfl]

/-- A step keeps its name when another one is registered under another name. -/
theorem id?_register_of_ne (x : StepIndex) (has : x.id? name = some id) (differs : other ≠ id) (free : taken ≠ name) :
    (x.register other taken).id? name = some id := by
  by_cases named : taken = ""
  · rwa [named, register_empty]
  · have kept : ¬ (x.name? other = some name ∧ x.id? name = some other) := by
      rintro ⟨-, lent⟩
      rw [has] at lent
      exact differs (Option.some.inj lent).symm
    rw [id?_register_eq named, if_neg free.symm, if_neg kept, has]

/-! ### The two tables together -/

/-- The two tables undo each other. -/
def Mutual (x : StepIndex) : Prop := ∀ name id, x.id? name = some id ↔ x.name? id = some name

theorem mutual_empty : Mutual {} := fun _ _ => ⟨nofun, nofun⟩

/-- After a registration the step and the name have each other, and what has to do with neither of them is as before. -/
theorem Mutual.id?_register_iff (agree : x.Mutual) (named : name ≠ "") :
    (x.register id name).id? n = some i ↔ n = name ∧ i = id ∨ (n ≠ name ∧ i ≠ id) ∧ x.id? n = some i := by
  rw [id?_register_eq named]
  by_cases own : n = name
  · simp [own, eq_comm]
  · by_cases given : x.id? n = some id
    · have lost := (agree n id).mp given
      simp only [own, given, lost, and_self, if_true, if_false, reduceCtorEq, false_and, ne_eq, not_false_eq_true,
        true_and, false_or, Option.some.injEq, false_iff, not_and]
      exact fun other same => other same.symm
    · have spared : x.id? n = some i → i ≠ id := by
        rintro has rfl
        exact given has
      simp only [own, given, and_false, if_false, false_and, ne_eq, not_false_eq_true, true_and, false_or]
      exact ⟨fun has => ⟨spared has, has⟩, And.right⟩

theorem Mutual.name?_register_iff (agree : x.Mutual) (named : name ≠ "") :
    (x.register id name).name? i = some n ↔ n = name ∧ i = id ∨ (n ≠ name ∧ i ≠ id) ∧ x.name? i = some n := by
  rw [name?_register_eq named]
  by_cases own : i = id
  · simp [own, eq_comm]
  · by_cases taken : x.id? name = some i
    · have lost := (agree name i).mp taken
      simp only [own, taken, lost, if_true, if_false, reduceCtorEq, and_false, ne_eq, not_false_eq_true, and_true,
        false_or, Option.some.injEq, false_iff, not_and]
      exact fun other same => other same.symm
    · have spared : x.name? i = some n → n ≠ name := by
        rintro has rfl
        exact taken ((agree n i).mpr has)
      simp only [own, taken, if_false, and_false, ne_eq, not_false_eq_true, and_true, false_or]
      exact ⟨fun has => ⟨spared has, has⟩, And.right⟩

/-- A registration leaves the two tables inverse to each other. -/
theorem Mutual.register (agree : x.Mutual) (id : Int) (name : String) : (x.register id name).Mutual := by
  by_cases named : name = ""
  · rwa [named, register_empty]
  · intro n i
    rw [agree.id?_register_iff named, agree.name?_register_iff named, agree n i]

/-! ### Registrations one after the other -/

/-- Steps registered under names, one after the other. -/
def registerAll (x : StepIndex) (calls : List (Int × String)) : StepIndex :=
  calls.foldl (fun x call => x.register call.1 call.2) x

theorem registerAll_concat (x : StepIndex) (calls : List (Int × String)) (call : Int × String) :
    x.registerAll (calls ++ [call]) = (x.registerAll calls).register call.1 call.2 := List.foldl_concat ..

theorem Mutual.registerAll (agree : x.Mutual) (calls : List (Int × String)) : (x.registerAll calls).Mutual := by
  induction calls generalizing x with
  | nil => exact agree
  | cons call rest ih => exact ih (agree.register call.1 call.2)

/-- A step was registered under a name, and no registration after that one gave another name to the step or the name
    to another step. -/
def Joined (calls : List (Int × String)) (id : Int) (name : String) : Prop :=
  name ≠ "" ∧ ∃ before after, calls = before ++ (id, name) :: after ∧
    ∀ call ∈ after, call.2 ≠ "" → (call.1 = id ↔ call.2 = name)

theorem not_joined_nil : ¬ Joined [] i n := by
  rintro ⟨-, before, after, split, -⟩
  cases before <;> cases split

/-- What the last registration says of a step and a name: it joins them, or it leaves them as they are. -/
theorem joined_concat_iff {calls : List (Int × String)} :
    Joined (calls ++ [(id, name)]) i n ↔
      name ≠ "" ∧ n = name ∧ i = id ∨ (name ≠ "" → (id = i ↔ name = n)) ∧ Joined calls i n := by
  constructor
  · rintro ⟨filled, before, after, split, kept⟩
    -- Either the last registration is the one that joined the two, or that one came before it.
    rcases List.eq_nil_or_concat' after with rfl | ⟨after, last, rfl⟩
    · obtain ⟨-, same⟩ := List.append_inj' split rfl
      cases same
      exact .inl ⟨filled, rfl, rfl⟩
    · rw [← List.cons_append, ← List.append_assoc] at split
      obtain ⟨rfl, same⟩ := List.append_inj' split rfl
      cases same
      have here := kept (id, name) (List.mem_append_right _ List.mem_cons_self)
      exact .inr ⟨here, filled, before, after, rfl, fun call member => kept call (List.mem_append_left _ member)⟩
  · rintro (⟨filled, rfl, rfl⟩ | ⟨here, filled, before, after, rfl, kept⟩)
    · exact ⟨filled, calls, [], rfl, nofun⟩
    · refine ⟨filled, before, after ++ [(id, name)], by simp, fun call member => ?_⟩
      rcases List.mem_append.mp member with early | late
      · exact kept call early
      · cases List.mem_singleton.mp late
        exact here

theorem id?_registerAll_iff (calls : List (Int × String)) (i : Int) (n : String) :
    (registerAll {} calls).id? n = some i ↔ Joined calls i n := by
  induction calls using List.reverseRecOn with
  | nil => exact ⟨nofun, fun joined => absurd joined not_joined_nil⟩
  | append_singleton calls call ih =>
    obtain ⟨id, name⟩ := call
    rw [registerAll_concat, joined_concat_iff, ← ih]
    by_cases named : name = ""
    · simp [named, register_empty]
    · rw [(mutual_empty.registerAll calls).id?_register_iff named]
      by_cases own : i = id <;> by_cases same : n = name <;> simp [named, own, same, eq_comm]

end StepIndex

namespace Context

/-- Steps registered under names, one after the other. -/
def registerSteps (c : Context) (calls : List (Int × String)) : Context :=
  calls.foldl (fun c call => c.registerStep call.1 call.2) c

theorem registerSteps_eq (c : Context) (calls : List (Int × String)) :
    c.registerSteps calls = { c with steps := c.steps.registerAll calls } := by
  induction calls generalizing c with
  | nil => rfl
  | cons call rest ih => exact ih (c.registerStep call.1 call.2)

/-- After any registrations in a new context, a name leads to a step exactly if the step has the name, and this is so
    exactly if the step was registered under the name and no later registration parted the two. -/
theorem step_has_name_iff (envKey : String) (calls : List (Int × String)) (id : Int) (name : String) :
    let c := Context.registerSteps { envKey } calls
    (c.steps.id? name = some id ↔ c.steps.name? id = some name) ∧
      (c.steps.id? name = some id ↔ StepIndex.Joined calls id name) := by
  rw [registerSteps_eq]
  have agree := StepIndex.mutual_empty.registerAll calls
  exact ⟨agree name id, StepIndex.id?_registerAll_iff calls id name⟩

end Context
end TestScenario
