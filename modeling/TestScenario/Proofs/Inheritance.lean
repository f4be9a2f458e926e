import Mathlib
import TestScenario.Catalog.Basic
import TestScenario.Proofs.Paths
import TestScenario.Proofs.Tables

/-!
The variables that a project, a module and an environment inherit. Which ids an entry of a catalog has decides its
level, and at its level it counts if the last of these ids is the one that is asked for. Of the entries that count under
a key, the one of the highest level is inherited, and the last one of them in the catalog (`inherited_from_last`).

Entries of other projects are not inherited at the level of projects. At the levels of modules and of environments the
id of the project is not looked at (`inherited_apart`), so that they are inherited there (`other_project_is_inherited`).
-/

namespace TestScenario

namespace Dict
variable {α τ : Type} {Below : τ → τ → Prop} {entry : τ → String × α} {items : List τ} {name : String} {t last : τ}

/-- An item of a name above all other items of the name. -/
structure Topmost (Below : τ → τ → Prop) (entry : τ → String × α) (items : List τ) (name : String) (t : τ) : Prop where
  member : t ∈ items
  named : (entry t).1 = name
  above : ∀ s ∈ items, (entry s).1 = name → s = t ∨ Below s t

theorem topmost_concat_of_named (asymm : ∀ {s t}, Below s t → ¬ Below t s) (below : ∀ s ∈ items, Below s last)
    (named : (entry last).1 = name) : Topmost Below entry (items ++ [last]) name t ↔ t = last := by
  have listed : last ∈ items ++ [last] := List.mem_append_right _ List.mem_cons_self
  constructor
  · intro topmost
    rcases List.mem_append.mp topmost.member with early | late
    · rcases topmost.above last listed named with same | less
      · exact same.symm
      · exact absurd (below t early) (asymm less)
    · exact List.mem_singleton.mp late
  · rintro rfl
    refine ⟨listed, named, fun s member _ => ?_⟩
    rcases List.mem_append.mp member with early | late
    · exact .inr (below s early)
    · exact .inl (List.mem_singleton.mp late)

theorem topmost_concat_of_other (other : (entry last).1 ≠ name) :
    Topmost Below entry (items ++ [last]) name t ↔ Topmost Below entry items name t := by
  have earlier {s : τ} (member : s ∈ items ++ [last]) (named : (entry s).1 = name) : s ∈ items := by
    rcases List.mem_append.mp member with early | late
    · exact early
    · exact absurd (List.mem_singleton.mp late ▸ named) other
  constructor
  · rintro ⟨member, named, above⟩
    exact ⟨earlier member named, named, fun s listed => above s (List.mem_append_left _ listed)⟩
  · rintro ⟨member, named, above⟩
    exact ⟨List.mem_append_left _ member, named, fun s listed same => above s (earlier listed same) same⟩

/-- Where items ascend, a table of them has under a name the value of the topmost item of the name. -/
theorem get?_ofList_iff_topmost (asymm : ∀ {s t}, Below s t → ¬ Below t s) (ascend : items.Pairwise Below) {v : α} :
    (ofList (items.map entry)).get? name = some v ↔ ∃ t, Topmost Below entry items name t ∧ (entry t).2 = v := by
  rw [get?_ofList]
  induction items using List.reverseRecOn with
  | nil => exact ⟨nofun, fun ⟨t, topmost, _⟩ => nomatch topmost.member⟩
  | append_singleton items last ih =>
    obtain ⟨ascend, -, below⟩ := List.pairwise_append.mp ascend
    have below (s : τ) (member : s ∈ items) : Below s last := below s member last List.mem_cons_self
    have reversed :
        ((items ++ [last]).map entry).reverse = ((entry last).1, (entry last).2) :: (items.map entry).reverse := by
      simp
    rw [reversed, get?_cons]
    by_cases named : name = (entry last).1
    · have only (t : τ) : Topmost Below entry (items ++ [last]) name t ↔ t = last :=
        topmost_concat_of_named asymm below named.symm
      simp only [if_pos named, only, Option.some.injEq, exists_eq_left]
    · have early (t : τ) : Topmost Below entry (items ++ [last]) name t ↔ Topmost Below entry items name t :=
        topmost_concat_of_other (Ne.symm named)
      simp only [if_neg named, early, ih ascend]

theorem contains_ofList_iff : (ofList (items.map entry)).contains name ↔ ∃ t ∈ items, (entry t).1 = name := by
  rw [contains, get?_ofList, ← Option.ne_none_iff_isSome, get?, ne_eq, List.lookup_eq_none_iff]
  simp only [List.mem_reverse, List.mem_map, bne_iff_ne, not_forall, exists_prop, ne_eq, not_not]
  constructor
  · rintro ⟨_, ⟨t, member, rfl⟩, same⟩
    exact ⟨t, member, same.symm⟩
  · rintro ⟨t, member, rfl⟩
    exact ⟨entry t, ⟨t, member, rfl⟩, rfl⟩

end Dict

/-- The levels of variables. -/
inductive Level where
  | global
  | project
  | module
  | environment
deriving DecidableEq

namespace Level

/-- All levels, each one overriding those before it. -/
def all : List Level := [.global, .project, .module, .environment]

/-- How many levels a level overrides. -/
def rank : Level → Nat
  | .global => 0
  | .project => 1
  | .module => 2
  | .environment => 3

theorem mem_all (level : Level) : level ∈ all := by cases level <;> decide

theorem all_ascend : all.Pairwise (·.rank < ·.rank) := by decide

end Level

/-- The level of an entry, which the last one of its ids decides. -/
def VariableEntry.level (e : VariableEntry) : Level :=
  match e.environmentId, e.moduleId, e.projectId with
  | some _, _, _ => .environment
  | none, some _, _ => .module
  | none, none, some _ => .project
  | none, none, none => .global

namespace Catalog
variable (c d : Catalog) (project module : Option Int) (envKey : String)

/-- A key goes for the environment of an id: it reads as this id, a whole number of 64 bits, or it is the name of an
    environment that has the id, but for the case of ASCII letters. -/
inductive GoesFor (key : String) (id : Int) : Prop
  | number (whole : Decimal.Whole key.toList id) (bounds : -2 ^ 63 ≤ id ∧ id < 2 ^ 63)
  | name {e : Environment} (listed : e ∈ c.environments) (own : e.id = id)
      (alike : Text.lowerAscii e.name = Text.lowerAscii key)

/-- An entry counts at a level. -/
inductive Counts (e : VariableEntry) : Level → Prop
  | global (noProject : e.projectId = none) (noModule : e.moduleId = none) (noEnvironment : e.environmentId = none) :
      Counts e .global
  | project {p : Int} (asked : project = some p) (own : e.projectId = some p) (noModule : e.moduleId = none)
      (noEnvironment : e.environmentId = none) : Counts e .project
  | module {m : Int} (asked : module = some m) (own : e.moduleId = some m) (noEnvironment : e.environmentId = none) :
      Counts e .module
  | environment {id : Int} (own : e.environmentId = some id) (fits : c.GoesFor envKey id) : Counts e .environment

/-- The last entry of a catalog that counts under a key: all others are of lower levels, or stand before it at its
    level. -/
def LastCounting (key : String) (e : VariableEntry) : Prop :=
  ∃ (level : Level) (i : Nat), (c.vars[i]? = some e ∧ e.key = key ∧ c.Counts project module envKey e level) ∧
    ∀ (other : Level) (j : Nat) (f : VariableEntry),
      c.vars[j]? = some f ∧ f.key = key ∧ c.Counts project module envKey f other →
        other.rank < level.rank ∨ other = level ∧ j ≤ i

/-! ### The tests of the levels -/

/-- The test for a level. -/
def test (level : Level) : VariableEntry → Bool := (c.levels project module envKey).getD level.rank fun _ => false

theorem levels_eq : c.levels project module envKey = Level.all.map (c.test project module envKey) := rfl

variable {c d project module envKey}

theorem isEnvironment_iff {id : Int} : c.isEnvironment id envKey ↔ c.GoesFor envKey id := by
  have number : (Decimal.readInt64 envKey.toList).toOption = some id ↔ Decimal.readInt64 envKey.toList = .ok id := by
    cases Decimal.readInt64 envKey.toList with
    | error fault => exact ⟨nofun, nofun⟩
    | ok n => simp [Except.toOption]
  rw [isEnvironment, Bool.or_eq_true, beq_iff_eq, number, Decimal.readInt64_eq_ok_iff, List.any_eq_true]
  constructor
  · rintro (⟨whole, bounds⟩ | ⟨e, listed, fits⟩)
    · exact .number whole bounds
    · rw [Bool.and_eq_true, beq_iff_eq] at fits
      exact .name listed fits.1 (beq_iff_eq.mp fits.2)
  · rintro (⟨whole, bounds⟩ | ⟨listed, own, alike⟩)
    · exact .inl ⟨whole, bounds⟩
    · refine .inr ⟨_, listed, ?_⟩
      rw [Bool.and_eq_true, beq_iff_eq]
      exact ⟨own, beq_iff_eq.mpr alike⟩

theorem test_iff {level : Level} {e : VariableEntry} :
    c.test project module envKey level e ↔ c.Counts project module envKey e level := by
  cases level with
  | global =>
    simp only [test, levels, Level.rank, List.getD_cons_zero, Bool.and_eq_true, Option.isNone_iff_eq_none]
    constructor
    · rintro ⟨⟨noProject, noModule⟩, noEnvironment⟩
      exact .global noProject noModule noEnvironment
    · intro counts
      cases counts with
      | global noProject noModule noEnvironment => exact ⟨⟨noProject, noModule⟩, noEnvironment⟩
  | project =>
    simp only [test, levels, Level.rank, List.getD_cons_succ, List.getD_cons_zero, Bool.and_eq_true, beq_iff_eq,
      Option.isNone_iff_eq_none, Option.isSome_iff_exists]
    constructor
    · rintro ⟨⟨⟨⟨p, asked⟩, own⟩, noModule⟩, noEnvironment⟩
      exact .project asked (own.trans asked) noModule noEnvironment
    · intro counts
      cases counts with
      | project asked own noModule noEnvironment =>
        exact ⟨⟨⟨⟨_, asked⟩, own.trans asked.symm⟩, noModule⟩, noEnvironment⟩
  | module =>
    simp only [test, levels, Level.rank, List.getD_cons_succ, List.getD_cons_zero, Bool.and_eq_true, beq_iff_eq,
      Option.isNone_iff_eq_none, Option.isSome_iff_exists]
    constructor
    · rintro ⟨⟨⟨m, asked⟩, own⟩, noEnvironment⟩
      exact .module asked (own.trans asked) noEnvironment
    · intro counts
      cases counts with
      | module asked own noEnvironment => exact ⟨⟨⟨_, asked⟩, own.trans asked.symm⟩, noEnvironment⟩
  | environment =>
    simp only [test, levels, Level.rank, List.getD_cons_succ, List.getD_cons_zero, Option.any_eq_true, isEnvironment_iff]
    constructor
    · rintro ⟨id, own, fits⟩
      exact .environment own fits
    · intro counts
      cases counts with
      | environment own fits => exact ⟨_, own, fits⟩

/-- An entry counts at its own level, if at all. -/
theorem Counts.level_eq {e : VariableEntry} {level : Level} (counts : c.Counts project module envKey e level) :
    level = e.level := by
  cases counts with
  | global noProject noModule noEnvironment => rw [VariableEntry.level, noProject, noModule, noEnvironment]
  | project asked own noModule noEnvironment => rw [VariableEntry.level, own, noModule, noEnvironment]
  | module asked own noEnvironment => rw [VariableEntry.level, own, noEnvironment]
  | environment own fits => rw [VariableEntry.level, own]

/-! ### The entries that count -/

variable (c project module envKey)

/-- The entries that count, each with its level and its position in the catalog: level by level, and at each level as
    in the catalog. -/
def counting : List (Level × Nat × VariableEntry) :=
  Level.all.flatMap fun level =>
    (c.vars.zipIdx.filter fun (e, _) => c.test project module envKey level e).map fun (e, i) => (level, i, e)

/-- What an entry adds to the table. -/
def keyed (t : Level × Nat × VariableEntry) : String × Json := (t.2.2.key, t.2.2.value)

/-- The place of an entry is below that of another one. -/
def Below (s t : Level × Nat × VariableEntry) : Prop := s.1.rank < t.1.rank ∨ s.1 = t.1 ∧ s.2.1 < t.2.1

theorem counting_ascends : (c.counting project module envKey).Pairwise Below := by
  refine List.pairwise_flatMap.mpr ⟨fun level _ => ?_, ?_⟩
  · have positions : (c.vars.zipIdx.map Prod.snd).Pairwise (· < ·) := by
      rw [List.zipIdx_map_snd]
      exact List.pairwise_lt_range'
    rw [List.pairwise_map] at positions ⊢
    exact (positions.filter _).imp fun less => .inr ⟨rfl, less⟩
  · refine Level.all_ascend.imp fun less s here t there => ?_
    obtain ⟨_, _, rfl⟩ := List.mem_map.mp here
    obtain ⟨_, _, rfl⟩ := List.mem_map.mp there
    exact .inl less

variable {c project module envKey}

theorem mem_counting {level : Level} {i : Nat} {e : VariableEntry} :
    (level, i, e) ∈ c.counting project module envKey ↔ c.vars[i]? = some e ∧ c.Counts project module envKey e level := by
  unfold counting
  simp only [List.mem_flatMap, List.mem_map, List.mem_filter, Prod.exists, Prod.mk.injEq, test_iff]
  constructor
  · rintro ⟨_, -, _, _, ⟨listed, counts⟩, rfl, rfl, rfl⟩
    exact ⟨List.mem_zipIdx_iff_getElem?.mp listed, counts⟩
  · rintro ⟨listed, counts⟩
    exact ⟨level, Level.mem_all level, e, i, ⟨List.mem_zipIdx_iff_getElem?.mpr listed, counts⟩, rfl, rfl, rfl⟩

theorem inherited_eq :
    c.inherited project module envKey =
      Dict.ofList ((c.counting project module envKey).map keyed) := by
  have each (level : Level) :
      (c.vars.filter (c.test project module envKey level)).map (fun e => (e.key, e.value)) =
        ((c.vars.zipIdx.filter fun (e, _) => c.test project module envKey level e).map
          fun (e, i) => (level, i, e)).map keyed := by
    conv_lhs => rw [← List.zipIdx_map_fst 0 c.vars, List.filter_map, List.map_map]
    rw [List.map_map]
    rfl
  rw [inherited, levels_eq, List.flatMap_map, counting, List.map_flatMap]
  simp only [each]

theorem Below.asymm {s t : Level × Nat × VariableEntry} (below : Below s t) : ¬ Below t s := by
  intro back
  unfold Below at below back
  rcases below with less | ⟨same, less⟩ <;> rcases back with lessToo | ⟨sameToo, lessToo⟩
  · omega
  · rw [sameToo] at less
    omega
  · rw [same] at lessToo
    omega
  · omega

/-- The topmost of the entries that count is the last one that counts. -/
theorem topmost_iff {key : String} {e : VariableEntry} :
    (∃ level i, Dict.Topmost Below keyed (c.counting project module envKey) key (level, i, e)) ↔
      c.LastCounting project module envKey key e := by
  constructor
  · rintro ⟨level, i, member, named, above⟩
    obtain ⟨listed, counts⟩ := mem_counting.mp member
    refine ⟨level, i, ⟨listed, named, counts⟩, ?_⟩
    rintro other j f ⟨listedToo, namedToo, countsToo⟩
    rcases above (other, j, f) (mem_counting.mpr ⟨listedToo, countsToo⟩) namedToo with same | less | ⟨same, less⟩
    · cases same
      exact .inr ⟨rfl, le_rfl⟩
    · exact .inl less
    · exact .inr ⟨same, less.le⟩
  · rintro ⟨level, i, ⟨listed, named, counts⟩, last⟩
    refine ⟨level, i, mem_counting.mpr ⟨listed, counts⟩, named, ?_⟩
    rintro ⟨other, j, f⟩ member namedToo
    obtain ⟨listedToo, countsToo⟩ := mem_counting.mp member
    rcases last other j f ⟨listedToo, namedToo, countsToo⟩ with less | ⟨rfl, le⟩
    · exact .inr (.inl less)
    · rcases le.lt_or_eq with less | rfl
      · exact .inr (.inr ⟨rfl, less⟩)
      · obtain rfl := Option.some.inj (listed.symm.trans listedToo)
        exact .inl rfl

/-- A key is inherited exactly if an entry counts under it, with the value of the last one that does. No entry
    counts at two levels, and at that of environments it counts by the id that the key reads as or by a name that
    is the key. -/
theorem inherited_from_last (c : Catalog) (project module : Option Int) (envKey : String) :
    let table := c.inherited project module envKey
    Dict.Ordered table ∧
      (∀ key, table.contains key ↔ ∃ e ∈ c.vars, e.key = key ∧ ∃ level, c.Counts project module envKey e level) ∧
      (∀ key v, table.get? key = some v ↔ ∃ e, c.LastCounting project module envKey key e ∧ e.value = v) ∧
      (∀ e, {level | c.Counts project module envKey e level}.Subsingleton) ∧
      ∀ e, c.Counts project module envKey e .environment ↔ ∃ id, e.environmentId = some id ∧
        (Decimal.Whole envKey.toList id ∧ (-2 ^ 63 ≤ id ∧ id < 2 ^ 63) ∨
          ∃ env ∈ c.environments, env.id = id ∧ Text.lowerAscii env.name = Text.lowerAscii envKey) := by
  intro table
  have built : table = Dict.ofList _ := inherited_eq
  refine ⟨?_, fun key => ?_, fun key v => ?_, fun e level counts other again => ?_, fun e => ?_⟩
  · rw [built]
    exact Dict.ordered_ofList _
  · rw [built, Dict.contains_ofList_iff]
    constructor
    · rintro ⟨⟨level, i, e⟩, member, named⟩
      obtain ⟨listed, counts⟩ := mem_counting.mp member
      exact ⟨e, List.mem_of_getElem? listed, named, level, counts⟩
    · rintro ⟨e, listed, named, level, counts⟩
      obtain ⟨i, found⟩ := List.mem_iff_getElem?.mp listed
      exact ⟨(level, i, e), mem_counting.mpr ⟨found, counts⟩, named⟩
  · rw [built, Dict.get?_ofList_iff_topmost Below.asymm (c.counting_ascends project module envKey)]
    constructor
    · rintro ⟨⟨level, i, e⟩, topmost, held⟩
      exact ⟨e, topmost_iff.mp ⟨level, i, topmost⟩, held⟩
    · rintro ⟨e, last, held⟩
      obtain ⟨level, i, topmost⟩ := topmost_iff.mpr last
      exact ⟨(level, i, e), topmost, held⟩
  · exact counts.level_eq.trans again.level_eq.symm
  · constructor
    · intro counts
      cases counts with
      | environment own fits =>
        cases fits with
        | number whole bounds => exact ⟨_, own, .inl ⟨whole, bounds⟩⟩
        | name listed named alike => exact ⟨_, own, .inr ⟨_, listed, named, alike⟩⟩
    · rintro ⟨id, own, ⟨whole, bounds⟩ | ⟨env, listed, named, alike⟩⟩
      · exact .environment own (.number whole bounds)
      · exact .environment own (.name listed named alike)

/-! ### Variables of other projects -/

/-- Lists that are the same but for items of a kind, which either of them may have anywhere. -/
inductive SameBut {α : Type} (hidden : α → Prop) : List α → List α → Prop
  | nil : SameBut hidden [] []
  | both {xs ys : List α} (x : α) (rest : SameBut hidden xs ys) : SameBut hidden (x :: xs) (x :: ys)
  | left {x : α} {xs ys : List α} (extra : hidden x) (rest : SameBut hidden xs ys) : SameBut hidden (x :: xs) ys
  | right {y : α} {xs ys : List α} (extra : hidden y) (rest : SameBut hidden xs ys) : SameBut hidden xs (y :: ys)

/-- A test that no item of the kind passes picks the same items from both lists. -/
theorem SameBut.filter_eq {α : Type} {hidden : α → Prop} {xs ys : List α} (same : SameBut hidden xs ys) {p : α → Bool}
    (fails : ∀ x, hidden x → ¬ p x) : xs.filter p = ys.filter p := by
  induction same with
  | nil => rfl
  | both x rest ih => rw [List.filter_cons, List.filter_cons, ih]
  | left extra rest ih => rw [List.filter_cons_of_neg (fails _ extra), ih]
  | right extra rest ih => rw [List.filter_cons_of_neg (fails _ extra), ih]

/-- Catalogs that are the same but for variables of a kind. -/
structure Differ (hidden : VariableEntry → Prop) (c d : Catalog) : Prop where
  scenarios : c.scenarios = d.scenarios
  cases : c.cases = d.cases
  environments : c.environments = d.environments
  vars : SameBut hidden c.vars d.vars

/-- An entry has the id of a project, but not that of the given one. -/
def OfOther (project : Option Int) (e : VariableEntry) : Prop := e.projectId ≠ none ∧ e.projectId ≠ project

/-- What is inherited is told by the entries that pass the tests of the levels. -/
theorem inherited_congr (same : ∀ level,
      (c.vars.filter (c.test project module envKey level)).map (fun e => (e.key, e.value)) =
        (d.vars.filter (d.test project module envKey level)).map fun e => (e.key, e.value)) :
    c.inherited project module envKey = d.inherited project module envKey := by
  simp only [inherited, levels_eq, List.flatMap_map, same]

/-- Among the levels, those of all projects and of one project are closed to the entries of other ones. -/
theorem OfOther.level {e : VariableEntry} (other : OfOther project e) {level : Level}
    (counts : c.Counts project module envKey e level) : level = .module ∨ level = .environment := by
  cases counts with
  | global none => exact absurd none other.1
  | project asked own => exact absurd (own.trans asked.symm) other.2
  | module => exact .inl rfl
  | environment => exact .inr rfl

/-- At the levels of modules and of environments the id of the project is not looked at. -/
theorem Counts.of_placed {e f : VariableEntry} {level : Level} (counts : c.Counts project module envKey e level)
    (placed : ¬ (e.moduleId = none ∧ e.environmentId = none)) (sameModule : f.moduleId = e.moduleId)
    (sameEnvironment : f.environmentId = e.environmentId) : c.Counts project module envKey f level := by
  cases counts with
  | global noProject noModule noEnvironment => exact absurd ⟨noModule, noEnvironment⟩ placed
  | project asked own noModule noEnvironment => exact absurd ⟨noModule, noEnvironment⟩ placed
  | module asked own noEnvironment => exact .module asked (sameModule.trans own) (sameEnvironment.trans noEnvironment)
  | environment own fits => exact .environment (sameEnvironment.trans own) fits

/-- An entry of a module or of an environment, as if it had the id of some project, or of none. -/
def handedTo (owner : VariableEntry → Option Int) (e : VariableEntry) : VariableEntry :=
  if e.moduleId = none ∧ e.environmentId = none then e else { e with projectId := owner e }

theorem counts_handedTo_iff (owner : VariableEntry → Option Int) {level : Level} {e : VariableEntry} :
    c.Counts project module envKey (handedTo owner e) level ↔ c.Counts project module envKey e level := by
  unfold handedTo
  split
  · rfl
  · rename_i placed
    exact ⟨fun counts => counts.of_placed placed rfl rfl, fun counts => counts.of_placed placed rfl rfl⟩

/-- Catalogs that differ in entries of other projects alone inherit the same to a project, if none of these entries
    counts for the module or for the environment. Which projects the entries of modules and of environments belong to
    makes no difference. -/
theorem inherited_apart (c : Catalog) (project module : Option Int) (envKey : String) :
    (∀ d, Differ (fun e => OfOther project e ∧ ¬ c.Counts project module envKey e .module ∧
          ¬ c.Counts project module envKey e .environment) c d →
        c.inherited project module envKey = d.inherited project module envKey) ∧
      ∀ owner, inherited { c with vars := c.vars.map (handedTo owner) } project module envKey =
        c.inherited project module envKey := by
  constructor
  · intro d differ
    have levels : d.levels project module envKey = c.levels project module envKey := by
      simp only [Catalog.levels, isEnvironment, differ.environments]
    have tests (level : Level) : d.test project module envKey level = c.test project module envKey level := by
      rw [test, test, levels]
    refine inherited_congr fun level => ?_
    rw [tests, differ.vars.filter_eq]
    rintro e ⟨other, notModule, notEnvironment⟩ passes
    have counts := test_iff.mp passes
    rcases other.level counts with rfl | rfl
    · exact notModule counts
    · exact notEnvironment counts
  · intro owner
    refine inherited_congr fun level => ?_
    have passes : c.test project module envKey level ∘ handedTo owner = c.test project module envKey level :=
      funext fun e => Bool.eq_iff_iff.mpr (test_iff.trans ((counts_handedTo_iff owner).trans test_iff.symm))
    have content (e : VariableEntry) : ((handedTo owner e).key, (handedTo owner e).value) = (e.key, e.value) := by
      unfold handedTo
      split <;> rfl
    show ((c.vars.map (handedTo owner)).filter (c.test project module envKey level)).map _ = _
    rw [List.filter_map, passes, List.map_map]
    exact List.map_congr_left fun e _ => content e

/-- A project with a module, and variables of another project as such and of one of its modules. -/
theorem inherited_apart_from_neighbour :
    let own : VariableEntry := { key := "host", value := .str "one", projectId := some 1 }
    let other : VariableEntry := { key := "host", value := .str "two", projectId := some 2 }
    let elsewhere : VariableEntry := { key := "port", projectId := some 2, moduleId := some 21 }
    let c : Catalog := { vars := [other, own, other, elsewhere] }
    let d : Catalog := { vars := [own] }
    Differ (fun e => OfOther (some 1) e ∧ ¬ c.Counts (some 1) (some 20) "dev" e .module ∧
        ¬ c.Counts (some 1) (some 20) "dev" e .environment) c d ∧
      c.inherited (some 1) (some 20) "dev" = d.inherited (some 1) (some 20) "dev" ∧
      d.inherited (some 1) (some 20) "dev" = [("host", .str "one")] := by
  intro own other elsewhere c d
  have hidden (e : VariableEntry) (foreign : e.projectId = some 2) (notHere : e.moduleId ≠ some 20)
      (nowhere : e.environmentId = none) : OfOther (some 1) e ∧ ¬ c.Counts (some 1) (some 20) "dev" e .module ∧
        ¬ c.Counts (some 1) (some 20) "dev" e .environment := by
    refine ⟨⟨by simp [foreign], by simp [foreign]⟩, fun counts => ?_, fun counts => ?_⟩
    · cases counts with
      | module asked here => exact notHere (here.trans asked.symm)
    · cases counts with
      | environment somewhere => exact absurd (nowhere.symm.trans somewhere) nofun
  have differ : Differ (fun e => OfOther (some 1) e ∧ ¬ c.Counts (some 1) (some 20) "dev" e .module ∧
      ¬ c.Counts (some 1) (some 20) "dev" e .environment) c d := by
    refine ⟨rfl, rfl, rfl, ?_⟩
    refine .left (hidden other rfl nofun rfl) (.both own (.left (hidden other rfl nofun rfl) (.left ?_ .nil)))
    exact hidden elsewhere rfl (by decide) rfl
  exact ⟨differ, (inherited_apart c (some 1) (some 20) "dev").1 d differ, rfl⟩

/-- A value of another project is inherited where it has the id of the module that is asked for, and where it has the
    id of the environment; but for this value the two catalogs are the same. -/
theorem other_project_is_inherited :
    let ofModule : Catalog := { vars := [{ key := "host", value := .str "two", projectId := some 2, moduleId := some 20 }] }
    let ofEnvironment : Catalog :=
      { vars := [{ key := "host", value := .str "two", projectId := some 2, environmentId := some 3 }] }
    (Differ (OfOther (some 1)) ofModule {} ∧
        ofModule.inherited (some 1) (some 20) "" = [("host", .str "two")] ∧ inherited {} (some 1) (some 20) "" = []) ∧
      Differ (OfOther (some 1)) ofEnvironment {} ∧
        ofEnvironment.inherited (some 1) none "3" = [("host", .str "two")] ∧ inherited {} (some 1) none "3" = [] := by
  intro ofModule ofEnvironment
  have hidden (e : VariableEntry) (foreign : e.projectId = some 2) : OfOther (some 1) e :=
    ⟨by simp [foreign], by simp [foreign]⟩
  exact ⟨⟨⟨rfl, rfl, rfl, .left (hidden _ rfl) .nil⟩, rfl, rfl⟩, ⟨rfl, rfl, rfl, .left (hidden _ rfl) .nil⟩, rfl, rfl⟩

end Catalog
end TestScenario
