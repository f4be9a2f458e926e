import Mathlib
import TestScenario.Proofs.Descent
import TestScenario.Proofs.Headers
import TestScenario.Proofs.Legibility

/-!
Typed values that are written as JSON and read again. A reader goes with a writer if whatever has been read, from any
JSON, is read again from what is written for it (`Restores`). Fields go with their writers in the same way, whether they
are there or not (`RestoresField`), and the fields of an object are found again by any of their names (`fields_object`).
-/

namespace TestScenario

namespace Dict
variable {α : Type} {d : Dict α} {pairs : List (String × α)}

theorem ofList_perm (distinct : (pairs.map Prod.fst).Nodup) : (ofList pairs).Perm pairs := by
  have built : ((update [] pairs : Dict α)).Perm (pairs ++ []) := Ordered.update_perm .nil distinct
  rwa [List.append_nil] at built

theorem Ordered.names_nodup (ordered : d.Ordered) : (d.map Prod.fst).Nodup :=
  List.pairwise_map.mpr (ordered.imp fun less => ne_of_lt less)

/-- A table in order is what comes of its own entries. -/
theorem Ordered.ofList_eq (ordered : d.Ordered) : ofList d = d :=
  (ofList_perm ordered.names_nodup).eq_of_pairwise (fun _ _ _ _ less more => absurd less (lt_asymm more))
    (ordered_ofList d) ordered

end Dict

namespace Json

theorem canonical_of_ordered {v : Json} (ordered : v.Ordered) : v.canonical = v := by
  induction v using child_induction with
  | step v ih =>
    obtain ⟨here, below⟩ := ordered
    have same (w : Json) (child : Child v w) : w.canonical = w := ih w child (below w child)
    cases v with
    | arr items =>
      rw [canonical, canonicalItems_eq]
      congr 1
      exact (List.map_congr_left fun w among => same w (.item among)).trans (List.map_id items)
    | obj members =>
      have each : ∀ p ∈ members, (p.1, p.2.canonical) = p := fun p held => Prod.ext rfl (same p.2 (.member held))
      have kept : canonicalMembers members = members :=
        (canonicalMembers_eq members).trans ((List.map_congr_left each).trans (List.map_id members))
      rw [canonical, kept, (here members rfl).ofList_eq]
    | null | bool | num | str => rfl

theorem canonical_canonical (v : Json) : v.canonical.canonical = v.canonical :=
  canonical_of_ordered (ordered_canonical v)

end Json

namespace Document.Source
variable {α : Type} {read : Source → Option α} {write : α → Json} {members : List (String × Json)}

/-! ### Fields of written objects -/

/-- Of all members of an object each of some has one of the names of its field, which no other member has. -/
def Tells (names : List (List String)) (own all : List String) : Prop :=
  List.Forall₂ (fun field n => n ∈ field ∧ ∀ m ∈ all, m ∈ field → m = n) names own

instance (names : List (List String)) (own all : List String) : Decidable (Tells names own all) :=
  inferInstanceAs (Decidable (List.Forall₂ _ _ _))

/-- Of members with different names a test on names picks the same in the object. -/
theorem filter_ofList {member : String × Json} {test : String → Bool} (distinct : (members.map Prod.fst).Nodup)
    (among : member ∈ members) (passes : test member.1) (alone : ∀ n ∈ members.map Prod.fst, test n → n = member.1) :
    (Dict.ofList members).filter (fun p => test p.1) = [member] := by
  have arranged := Dict.ofList_perm distinct
  have once : (Dict.ofList members).Nodup := arranged.nodup_iff.mpr (List.Nodup.of_map _ distinct)
  refine List.perm_singleton.mp ((List.perm_ext_iff_of_nodup (once.filter _) (List.nodup_singleton _)).mpr fun p => ?_)
  rw [List.mem_filter, arranged.mem_iff, List.mem_singleton]
  constructor
  · rintro ⟨other, passes⟩
    exact List.inj_on_of_nodup_map distinct other among (alone p.1 (List.mem_map_of_mem other) passes)
  · rintro rfl
    exact ⟨among, passes⟩

theorem written_ofList {name : String} {v : Json} (distinct : (members.map Prod.fst).Nodup) (among : (name, v) ∈ members) :
    written (Dict.ofList members) name = [v] :=
  congrArg (List.map Prod.snd) (filter_ofList distinct among (decide_eq_true rfl) fun _ _ => of_decide_eq_true)

theorem filter_sources (members : List (String × Json)) (names : List String) :
    (members.map fun (n, v) => (n, Source.json v)).filter (fun (n, _) => names.contains n) =
      (members.filter fun p => names.contains p.1).map fun (n, v) => (n, .json v) :=
  List.filter_map

theorem fields_json_eq_some_iff {names : List (List String)} {found : List (Option Source)} :
    fields (.json (.obj members)) names = some found ↔
      List.Forall₂ (fun names field => field? (members.map fun (n, v) => (n, .json v)) names = some field) names found :=
  mapM_eq_some_iff

theorem field?_object {member : String × Json} {names : List String} (distinct : (members.map Prod.fst).Nodup)
    (among : member ∈ members) (named : member.1 ∈ names)
    (alone : ∀ n ∈ members.map Prod.fst, n ∈ names → n = member.1) :
    field? ((Dict.ofList members).map fun (n, v) => (n, .json v)) names = some (some (.json member.2)) := by
  have only : (Dict.ofList members).filter (fun p => names.contains p.1) = [member] :=
    filter_ofList distinct among (List.contains_iff_mem.mpr named) fun n held passes =>
      alone n held (List.contains_iff_mem.mp passes)
  rw [field?, filter_sources, only]
  rfl

/-- What is written under different names is found under any of the names of the field. -/
theorem fields_object {names : List (List String)} {own : List (String × Json)}
    (distinct : (members.map Prod.fst).Nodup) (part : own ⊆ members)
    (tells : Tells names (own.map Prod.fst) (members.map Prod.fst)) :
    fields (.json (.object members)) names = some (own.map fun p => some (.json p.2)) := by
  rw [Json.object, fields_json_eq_some_iff]
  induction own generalizing names with
  | nil =>
    cases tells
    exact .nil
  | cons member own ih =>
    obtain ⟨among, part⟩ := List.cons_subset.mp part
    cases tells with
    | cons here rest => exact .cons (field?_object distinct among here.1 here.2) (ih part rest)

/-- The name that each field is written under, which is its first one. -/
def firstNames (names : List (List String)) : List String := names.flatMap (List.take 1)

/-! ### Readers and writers -/

/-- What a reader has made of any JSON it makes again of what is written for it. -/
def Restores (read : Source → Option α) (write : α → Json) : Prop :=
  ∀ v a, read (.json v) = some a → read (.json (write a)) = some a

/-- What is found for a field in JSON: a value, or nothing. -/
def OfJson (field : Option Source) : Prop := ∀ s ∈ field, ∃ v, s = .json v

/-- The same as `Restores` for a field. Whether or not it was there, a value is written for it. -/
def RestoresField (read : Option Source → Option α) (write : α → Json) : Prop :=
  ∀ field a, OfJson field → read field = some a → read (some (.json (write a))) = some a

theorem OfJson.none : OfJson none := nofun

theorem OfJson.json (v : Json) : OfJson (some (.json v)) := by
  rintro s ⟨⟩
  exact ⟨v, rfl⟩

theorem ofJson_of_field? {names : List String} {field : Option Source}
    (finds : field? (members.map fun (n, v) => (n, .json v)) names = some field) : OfJson field := by
  rw [field?, filter_sources] at finds
  cases held : members.filter fun p => names.contains p.1 with
  | nil =>
    rw [held] at finds
    cases finds
    exact .none
  | cons first rest =>
    rw [held] at finds
    cases rest with
    | nil =>
      cases finds
      exact .json first.2
    | cons second rest => cases finds

theorem ofJson_of_fields {v : Json} {names : List (List String)} {found : List (Option Source)}
    (finds : fields (.json v) names = some found) : ∀ field ∈ found, OfJson field := by
  cases v with
  | arr items =>
    simp only [fields, List.map_map, Option.ite_none_right_eq_some, Option.some.injEq] at finds
    obtain ⟨-, rfl⟩ := finds
    intro field among
    rcases List.mem_append.mp among with given | missing
    · obtain ⟨v, -, rfl⟩ := List.mem_map.mp given
      exact .json v
    · obtain rfl := List.eq_of_mem_replicate missing
      exact .none
  | obj members =>
    rw [fields_json_eq_some_iff] at finds
    induction finds with
    | nil => exact List.forall_mem_nil _
    | cons first _ ih => exact List.forall_mem_cons.mpr ⟨ofJson_of_field? first, ih⟩
  | null | bool | num | str => cases finds

/-- The values of a structure can be written and read again if that can be done with its fields, all of which are
    written under their first names. -/
theorem restores_of_fields {names : List (List String)} {ofFields : List (Option Source) → Option α}
    {pairs : α → List (String × Json)} (written : ∀ a, (pairs a).map Prod.fst = firstNames names)
    (distinct : (firstNames names).Nodup) (tells : Tells names (firstNames names) (firstNames names))
    (again : ∀ found a, (∀ field ∈ found, OfJson field) → ofFields found = some a →
      ofFields ((pairs a).map fun p => some (.json p.2)) = some a) :
    Restores (fun s => (fields s names).bind ofFields) fun a => .object (pairs a) := by
  intro v a reads
  obtain ⟨found, finds, reads⟩ := Option.bind_eq_some_iff.mp reads
  have writes := again found a (ofJson_of_fields finds) reads
  refine Option.bind_eq_some_iff.mpr ⟨_, fields_object ?_ (List.Subset.refl _) ?_, writes⟩
  · rwa [written]
  · rwa [written]

theorem Restores.field (restores : Restores read write) {field : Option Source} {s : Source} {a : α} (ofJson : OfJson field)
    (given : field = some s) (reads : read s = some a) : read (.json (write a)) = some a := by
  obtain ⟨v, rfl⟩ := ofJson s given
  exact restores v a reads

theorem Restores.required (restores : Restores read write) : RestoresField (required read) write := by
  intro field a ofJson reads
  obtain ⟨s, given, reads⟩ := Option.bind_eq_some_iff.mp reads
  exact restores.field ofJson given reads

theorem Restores.withDefault {default : α} (restores : Restores read write)
    (kept : read (.json (write default)) = some default) : RestoresField (withDefault default read) write := by
  intro field a ofJson reads
  cases field with
  | none =>
    cases reads
    exact kept
  | some s => exact restores.field ofJson rfl reads

theorem optional_of_ne_null {v : Json} (given : v ≠ .null) :
    Source.optional read (.json v) = (read (.json v)).map some := by
  cases v with
  | null => exact absurd rfl given
  | bool | num | str | arr | obj =>
    simp only [Source.optional, isNull?, Option.bind_eq_bind, Option.bind_some, Bool.false_eq_true, if_false]
    cases read _ <;> rfl

/-- A value that is there must not be written as if it were not. -/
theorem Restores.optional (restores : Restores read write)
    (filled : ∀ v a, v ≠ .null → read (.json v) = some a → write a ≠ .null) :
    Restores (optional read) (Json.ofOption write) := by
  intro v a reads
  by_cases null : v = .null
  · subst null
    cases reads
    rfl
  · rw [optional_of_ne_null null, Option.map_eq_some_iff] at reads
    obtain ⟨b, reads, rfl⟩ := reads
    rw [Json.ofOption, optional_of_ne_null (filled v b null reads), restores v b reads]
    rfl

theorem Restores.maybe (restores : Restores read write)
    (filled : ∀ v a, v ≠ .null → read (.json v) = some a → write a ≠ .null) :
    RestoresField (maybe read) (Json.ofOption write) :=
  (restores.optional filled).withDefault rfl

theorem Restores.list (restores : Restores read write) : Restores (list read) fun xs => .arr (xs.map write) := by
  intro v xs reads
  cases v with
  | arr items =>
    simp only [Source.list, Source.items, Option.bind_eq_bind, Option.bind_some, mapM_eq_some_iff,
      List.forall₂_map_left_iff] at reads ⊢
    induction reads with
    | nil => exact .nil
    | cons first _ ih => exact .cons (restores _ _ first) ih
  | null | bool | num | str | obj => cases reads

/-! ### Kinds of values -/

theorem restores_string : Restores string .str := by
  intro v s _
  rfl

theorem restores_word {name : α → String} {ofName? : String → Option α} (named : ∀ a, ofName? (name a) = some a) :
    Restores (word ofName?) fun a => .str (name a) := by
  intro v a _
  exact named a

theorem intBetween_json_eq_some_iff {low high n : Int} {v : Json} :
    intBetween low high (.json v) = some n ↔ v = .ofInt n ∧ low ≤ n ∧ n ≤ high := by
  cases v with
  | num number =>
    cases number with
    | int m =>
      simp only [intBetween, Option.bind_some, Option.ite_none_right_eq_some, Option.some.injEq, Json.ofInt, Json.num.injEq,
        Json.Number.int.injEq, Bool.and_eq_true, decide_eq_true_eq]
      constructor
      · rintro ⟨bounds, rfl⟩
        exact ⟨rfl, bounds⟩
      · rintro ⟨rfl, bounds⟩
        exact ⟨bounds, rfl⟩
    | float x => simp [intBetween, Json.ofInt]
  | null | bool | str | arr | obj => simp [intBetween, Json.ofInt]

theorem restores_intBetween (low high : Int) : Restores (intBetween low high) .ofInt := by
  intro v n reads
  obtain ⟨-, bounds⟩ := intBetween_json_eq_some_iff.mp reads
  exact intBetween_json_eq_some_iff.mpr ⟨rfl, bounds⟩

theorem restores_int64 : Restores int64 .ofInt := restores_intBetween _ _

theorem restores_natBelow (bound : Nat) : Restores (natBelow bound) .ofNat := by
  intro v n reads
  obtain ⟨m, whole, rfl⟩ := Option.map_eq_some_iff.mp reads
  obtain ⟨-, nonneg, -⟩ := intBetween_json_eq_some_iff.mp whole
  have written : Json.ofNat m.toNat = .ofInt m := congrArg Json.ofInt (Int.toNat_of_nonneg nonneg)
  rw [natBelow, written, restores_intBetween _ _ v m whole, Option.map_some]

/-- However a lenient number was written, it is a number or nothing in the end, and is written so. -/
theorem restores_lenientNat : Restores lenientNat (Json.ofOption .ofNat) := by
  intro v n _
  cases n with
  | none => rfl
  | some n =>
    have whole : Json.lenientNat? (.ofNat n) = some n := by simp [Json.lenientNat?, Json.ofNat]
    exact congrArg some whole

theorem restores_any : Restores any id := by
  intro v w reads
  cases reads
  exact congrArg some v.canonical_canonical

theorem mapM_any_json (members : List (String × Json)) :
    ((members.map fun (n, v) => (n, Source.json v)).mapM fun (n, v) => (any v).map fun x => (n, x)) =
      some (members.map fun (n, v) => (n, v.canonical)) := by
  rw [mapM_eq_some_iff, List.forall₂_map_left_iff, List.forall₂_map_right_iff, List.forall₂_same]
  exact fun _ _ => rfl

theorem dict_any_json_eq_some_iff {v : Json} {d : Members} : dict any (.json v) = some d ↔ v.canonical = .obj d := by
  cases v with
  | obj members =>
    simp only [dict, entries, Option.bind_eq_bind, Option.bind_some, mapM_any_json, Option.some.injEq, Json.canonical,
      Json.canonicalMembers_eq, Json.obj.injEq]
  | null | bool | num | str | arr => simp [dict, entries, Json.canonical]

theorem restores_dict_any : Restores (dict any) .obj := by
  intro v d reads
  have canonical := dict_any_json_eq_some_iff.mp reads
  rw [dict_any_json_eq_some_iff, ← canonical, v.canonical_canonical]

/-! ### Fields -/

theorem restoresField_string : RestoresField (maybe string) (Json.ofOption .str) :=
  restores_string.maybe fun _ _ _ _ => nofun

theorem restoresField_int64 : RestoresField (maybe int64) (Json.ofOption .ofInt) :=
  (restores_intBetween _ _).maybe fun _ _ _ _ => nofun

theorem restoresField_int32 : RestoresField (maybe int32) (Json.ofOption .ofInt) :=
  (restores_intBetween _ _).maybe fun _ _ _ _ => nofun

theorem restoresField_nat64 : RestoresField (maybe nat64) (Json.ofOption .ofNat) :=
  (restores_natBelow _).maybe fun _ _ _ _ => nofun

theorem restoresField_dict : RestoresField (maybe (dict any)) (Json.ofOption .obj) :=
  restores_dict_any.maybe fun _ _ _ _ => nofun

theorem restoresField_any : RestoresField (maybe any) fun w => w.getD .null := by
  have filled (v w : Json) (given : v ≠ .null) (reads : any (.json v) = some w) : w ≠ .null := by
    cases reads
    cases v with
    | null => exact absurd rfl given
    | bool | num | str | arr | obj => nofun
  intro field w ofJson reads
  -- What is read is never null, so that nothing is lost where a missing value is written as null.
  cases w with
  | none => exact restores_any.maybe filled field none ofJson reads
  | some w => exact restores_any.maybe filled field (some w) ofJson reads

end Document.Source
end TestScenario
