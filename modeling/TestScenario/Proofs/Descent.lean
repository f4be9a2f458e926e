import Mathlib
import TestScenario.Proofs.BracketPaths
import TestScenario.Proofs.Tables

/-!
The nodes of a document in preorder, and what two dots select. Each node has a place, which is the way down to it by
names and positions. The places are listed each once, a node before what is below it, items by their positions and
members by their names (`places_preorder`). Two dots before a selector take what the selector picks at one place after
the other (`search_eq_places`); so two dots before an asterisk find every node below the first one once, and before a
name as many values as there are objects with that name (`descent_in_preorder`).
-/

namespace TestScenario

namespace Dict
variable {α : Type} {d : Dict α}

/-- In a table in order a name has the value that is there with it. -/
theorem Ordered.get?_eq_some_iff (ordered : d.Ordered) {n : String} {v : α} : d.get? n = some v ↔ (n, v) ∈ d := by
  induction d with
  | nil => exact ⟨nofun, nofun⟩
  | cons pair rest ih =>
    obtain ⟨m, w⟩ := pair
    obtain ⟨first, later⟩ := List.pairwise_cons.mp ordered
    rw [get?_cons, List.mem_cons, Prod.mk.injEq]
    by_cases same : n = m
    · subst same
      rw [if_pos rfl, Option.some.injEq]
      constructor
      · intro here
        exact .inl ⟨rfl, here.symm⟩
      · rintro (⟨-, here⟩ | further)
        · exact here.symm
        · exact absurd (first _ further) (lt_irrefl n)
    · rw [if_neg same, ih later]
      exact ⟨.inr, fun there => there.resolve_left fun here => same here.1⟩

theorem of_mem_update {later : Dict α} {pair : String × α} (member : pair ∈ d.update later) :
    pair ∈ d ∨ pair ∈ later := by
  induction later generalizing d with
  | nil => exact .inl member
  | cons first rest ih =>
    rcases ih member with inserted | further
    · rcases of_mem_insert inserted with rfl | old
      · exact .inr List.mem_cons_self
      · exact .inl old
    · exact .inr (List.mem_cons_of_mem _ further)

end Dict

namespace Json
variable {root v w : Json}

/-! ### Documents in order -/

/-- A document in which the names of each object ascend. -/
inductive Ordered : Json → Prop
  | node {v : Json} : (∀ members, v = .obj members → Dict.Ordered members) → (∀ w, Child v w → Ordered w) → Ordered v

theorem canonicalItems_eq (items : List Json) : canonicalItems items = items.map canonical := by
  induction items with
  | nil => rfl
  | cons v rest ih => rw [canonicalItems, ih, List.map_cons]

theorem canonicalMembers_eq (members : Members) :
    canonicalMembers members = members.map fun (n, v) => (n, canonical v) := by
  induction members with
  | nil => rfl
  | cons pair rest ih => rw [canonicalMembers, ih, List.map_cons]

theorem Child.of_canonical (child : Child (canonical v) w) : ∃ u, Child v u ∧ w = canonical u := by
  cases v with
  | arr items =>
    rw [canonical, canonicalItems_eq] at child
    cases child with
    | item member =>
      obtain ⟨u, among, rfl⟩ := List.mem_map.mp member
      exact ⟨u, .item among, rfl⟩
  | obj members =>
    rw [canonical, canonicalMembers_eq] at child
    cases child with
    | member held =>
      obtain ⟨⟨n, u⟩, among, same⟩ := List.mem_map.mp ((Dict.of_mem_update held).resolve_left List.not_mem_nil)
      cases same
      exact ⟨u, .member among, rfl⟩
  | null | bool | num | str => cases child

theorem ordered_canonical (v : Json) : (canonical v).Ordered := by
  induction v using child_induction with
  | step v ih =>
    refine .node ?_ ?_
    · intro members same
      cases v with
      | obj given =>
        cases same
        exact Dict.Ordered.update .nil _
      | null | bool | num | str | arr => cases same
    · intro w child
      obtain ⟨u, below, rfl⟩ := child.of_canonical
      exact ih u below

/-- Documents are in order when they have been read. -/
theorem ordered_of_parse {text : String} (read : parse text = some root) : root.Ordered := by
  obtain ⟨v, -, rfl⟩ := Option.map_eq_some_iff.mp read
  exact ordered_canonical v

/-! ### Places -/

/-- A turn on the way down: to the member of a name, or to the item at a position. -/
inductive Turn where
  | member (name : String)
  | item (position : Nat)
deriving DecidableEq

/-- Items come in the order of their positions, members in that of their names. -/
inductive Turn.Before : Turn → Turn → Prop
  | member {n m : String} : n < m → Before (.member n) (.member m)
  | item {i j : Nat} : i < j → Before (.item i) (.item j)

/-- The node to which a turn leads. -/
def below? : Json → Turn → Option Json
  | .obj members, .member n => Dict.get? members n
  | .arr items, .item i => items[i]?
  | _, _ => none

/-- The node to which a way down leads. -/
def at? (root : Json) : List Turn → Option Json
  | [] => some root
  | t :: way => (root.below? t).bind (·.at? way)

/-- A listing of places, each with its node, in preorder: there is a place for every way down that leads to a node, a
    way comes before all that go on from it, and where two ways part, the order is that of the turns. -/
structure Preorder (root : Json) (places : List (List Turn × Json)) : Prop where
  complete : ∀ way v, (way, v) ∈ places ↔ root.at? way = some v
  ascending : places.Pairwise fun p q => List.Lex Turn.Before p.1 q.1

/-- The nodes directly below a node, with the turns to them. -/
def branches : Json → List (Turn × Json)
  | .arr items => items.zipIdx.map fun pair => (.item pair.2, pair.1)
  | .obj members => members.map fun pair => (.member pair.1, pair.2)
  | _ => []

/-- The places behind a turn. -/
def behind (t : Turn) (places : List (List Turn × Json)) : List (List Turn × Json) :=
  places.map fun place => (t :: place.1, place.2)

mutual
/-- All places below a node and its own. -/
def places : Json → List (List Turn × Json)
  | .arr items => ([], .arr items) :: placesOfItems 0 items
  | .obj members => ([], .obj members) :: placesOfMembers members
  | leaf => [([], leaf)]
/-- The places of items, of which the first has the position `i`. -/
def placesOfItems (i : Nat) : List Json → List (List Turn × Json)
  | [] => []
  | v :: rest => behind (.item i) v.places ++ placesOfItems (i + 1) rest
/-- The places of members. -/
def placesOfMembers : List (String × Json) → List (List Turn × Json)
  | [] => []
  | (n, v) :: rest => behind (.member n) v.places ++ placesOfMembers rest
end

theorem placesOfItems_eq (i : Nat) (items : List Json) :
    placesOfItems i items = (items.zipIdx i).flatMap fun pair => behind (.item pair.2) pair.1.places := by
  induction items generalizing i with
  | nil => rfl
  | cons v rest ih => rw [placesOfItems, ih, List.zipIdx_cons, List.flatMap_cons]

theorem placesOfMembers_eq (members : Members) :
    placesOfMembers members = members.flatMap fun pair => behind (.member pair.1) pair.2.places := by
  induction members with
  | nil => rfl
  | cons pair rest ih => rw [placesOfMembers, ih, List.flatMap_cons]

theorem places_eq (v : Json) : v.places = ([], v) :: v.branches.flatMap fun branch => behind branch.1 branch.2.places := by
  cases v with
  | arr items => rw [places, placesOfItems_eq, branches, List.flatMap_map]
  | obj members => rw [places, placesOfMembers_eq, branches, List.flatMap_map]
  | null | bool | num | str => rfl

theorem mem_behind_iff {t u : Turn} {way : List Turn} {places : List (List Turn × Json)} :
    (u :: way, v) ∈ behind t places ↔ u = t ∧ (way, v) ∈ places := by
  simp only [behind, List.mem_map, Prod.mk.injEq, List.cons.injEq, Prod.exists]
  constructor
  · rintro ⟨_, _, member, ⟨rfl, rfl⟩, rfl⟩
    exact ⟨rfl, member⟩
  · rintro ⟨rfl, member⟩
    exact ⟨way, v, member, ⟨rfl, rfl⟩, rfl⟩

theorem map_snd_behind (t : Turn) (places : List (List Turn × Json)) :
    (behind t places).map (·.2) = places.map (·.2) := by
  rw [behind, List.map_map]
  rfl

theorem map_snd_branches (v : Json) : v.branches.map (·.2) = v.children := by
  cases v with
  | arr items =>
    rw [branches, List.map_map]
    exact List.zipIdx_map_fst 0 items
  | obj members =>
    rw [branches, List.map_map]
    rfl
  | null | bool | num | str => rfl

theorem child_of_branch {t : Turn} (branch : (t, w) ∈ v.branches) : Child v w := by
  rw [← mem_children_iff, ← map_snd_branches]
  exact List.mem_map_of_mem branch

theorem mem_branches_iff (ordered : v.Ordered) {t : Turn} : (t, w) ∈ v.branches ↔ v.below? t = some w := by
  obtain ⟨names, -⟩ := ordered
  cases v with
  | arr items =>
    cases t with
    | member n => simp [branches, below?]
    | item i => simp [branches, below?, List.mem_zipIdx_iff_getElem?]
  | obj members =>
    cases t with
    | member n => simp [branches, below?, (names members rfl).get?_eq_some_iff]
    | item i => simp [branches, below?]
  | null | bool | num | str => simp [branches, below?]

theorem mem_places_iff (ordered : root.Ordered) (way : List Turn) (v : Json) :
    (way, v) ∈ root.places ↔ root.at? way = some v := by
  induction ordered generalizing way v with
  | @node root names below ih =>
    rw [places_eq, List.mem_cons, List.mem_flatMap]
    cases way with
    | nil =>
      have none : ¬ ∃ branch ∈ root.branches, ([], v) ∈ behind branch.1 branch.2.places := by
        simp [behind]
      rw [or_iff_left none, at?, Option.some.injEq, Prod.mk.injEq]
      exact ⟨fun same => same.2.symm, fun same => ⟨rfl, same.symm⟩⟩
    | cons t way =>
      have further : (t :: way, v) ≠ ([], root) := nofun
      rw [or_iff_right further, at?, Option.bind_eq_some_iff]
      constructor
      · rintro ⟨⟨u, w⟩, branch, there⟩
        obtain ⟨rfl, member⟩ := mem_behind_iff.mp there
        exact ⟨w, (mem_branches_iff (.node names below)).mp branch, (ih w (child_of_branch branch) way v).mp member⟩
      · rintro ⟨w, turn, further⟩
        have branch := (mem_branches_iff (.node names below)).mpr turn
        exact ⟨(t, w), branch, mem_behind_iff.mpr ⟨rfl, (ih w (child_of_branch branch) way v).mpr further⟩⟩

theorem branches_ascend (ordered : v.Ordered) : v.branches.Pairwise (·.1.Before ·.1) := by
  obtain ⟨names, -⟩ := ordered
  cases v with
  | arr items =>
    rw [branches, List.pairwise_map, List.pairwise_iff_getElem]
    intro i j _ _ less
    rw [List.getElem_zipIdx, List.getElem_zipIdx]
    exact .item (by omega)
  | obj members =>
    rw [branches, List.pairwise_map]
    exact (names members rfl).imp .member
  | null | bool | num | str => exact .nil

theorem places_ascend (ordered : root.Ordered) :
    root.places.Pairwise fun p q => List.Lex Turn.Before p.1 q.1 := by
  induction ordered with
  | @node root names below ih =>
    rw [places_eq, List.pairwise_cons, List.pairwise_flatMap]
    refine ⟨?_, ?_, ?_⟩
    · rintro ⟨way, v⟩ member
      obtain ⟨⟨t, w⟩, -, there⟩ := List.mem_flatMap.mp member
      obtain ⟨_, -, same⟩ := List.mem_map.mp there
      cases same
      exact .nil
    · rintro ⟨t, w⟩ branch
      rw [behind, List.pairwise_map]
      exact (ih w (child_of_branch branch)).imp .cons
    · refine (branches_ascend (.node names below)).imp ?_
      rintro ⟨t, v⟩ ⟨u, w⟩ before p left q right
      obtain ⟨_, -, rfl⟩ := List.mem_map.mp left
      obtain ⟨_, -, rfl⟩ := List.mem_map.mp right
      exact .rel before

theorem places_preorder (ordered : root.Ordered) : Preorder root root.places :=
  ⟨mem_places_iff ordered, places_ascend ordered⟩

/-! ### What two dots find -/

/-- A search takes what its selector picks at one place after the other. -/
theorem Selector.search_eq_places (s : Selector) (root : Json) :
    s.search root = root.places.flatMap fun place => s.pick place.2 := by
  induction root using child_induction with
  | step v ih =>
    rw [search_eq, places_eq, List.flatMap_cons, List.flatMap_assoc, ← map_snd_branches, List.flatMap_map]
    refine congrArg (s.pick v ++ ·) (List.flatMap_congr ?_)
    rintro ⟨t, w⟩ branch
    rw [ih w (child_of_branch branch), behind, List.flatMap_map]

/-- All places but the first one lie below it. -/
theorem filter_places (root : Json) :
    root.places.filter (·.1 ≠ []) = root.branches.flatMap fun branch => behind branch.1 branch.2.places := by
  rw [places_eq, List.filter_cons_of_neg (by simp), List.filter_eq_self]
  rintro ⟨way, v⟩ member
  obtain ⟨⟨t, w⟩, -, there⟩ := List.mem_flatMap.mp member
  obtain ⟨_, -, same⟩ := List.mem_map.mp there
  cases same
  simp

/-- The nodes below the places of a document, each once. -/
theorem map_snd_filter_places (root : Json) :
    (root.places.filter (·.1 ≠ [])).map (·.2) = root.children.flatMap fun w => w.places.map (·.2) := by
  rw [filter_places, List.map_flatMap, ← map_snd_branches, List.flatMap_map]
  exact List.flatMap_congr fun ⟨t, w⟩ _ => map_snd_behind t w.places

theorem map_snd_places (root : Json) :
    root.places.map (·.2) = root :: (root.places.filter (·.1 ≠ [])).map (·.2) := by
  rw [filter_places, places_eq, List.map_cons]

/-- An asterisk behind two dots finds every node below the first one, once for each of its places. -/
theorem search_all_perm (root : Json) :
    (Selector.all.search root).Perm ((root.places.filter (·.1 ≠ [])).map (·.2)) := by
  induction root using child_induction with
  | step v ih =>
    have directly : Selector.all.pick v = v.children.map id := (List.map_id _).symm
    rw [Selector.search_eq, directly, map_snd_filter_places]
    refine (List.map_append_flatMap_perm _ _ _).trans (List.Perm.flatMap_left _ fun w member => ?_)
    rw [map_snd_places]
    exact (ih w (mem_children_iff.mp member)).cons w

/-- Whether a node is an object with a name. -/
def hasMember (n : String) : Json → Bool
  | .obj members => Dict.contains members n
  | _ => false

theorem length_pick_name (n : String) (v : Json) :
    (Selector.pick (.name n) v).length = if v.hasMember n then 1 else 0 := by
  cases v with
  | obj members =>
    rw [Selector.pick, hasMember, Dict.contains]
    cases Dict.get? members n <;> rfl
  | null | bool | num | str | arr => rfl

/-- A name behind two dots finds as many values as there are objects with it. -/
theorem length_search_name (n : String) (root : Json) :
    (Selector.search (.name n) root).length = root.places.countP fun place => place.2.hasMember n := by
  rw [Selector.search_eq_places]
  induction root.places with
  | nil => rfl
  | cons place rest ih =>
    rw [List.flatMap_cons, List.length_append, length_pick_name, ih, List.countP_cons, Nat.add_comm]

/-! ### Two dots in a path -/

/-- A selector as it is written behind two dots, a name or something in a bracket. Blanks may follow. -/
inductive Path.Spells : List Char → Selector → Prop
  | name {cs : List Char} {s : Selector} : Name (Text.trimEnd cs) [] → NameMeans (Text.trimEnd cs) s → Spells cs s
  | bracket {cs inner : List Char} {s : Selector} : Text.trimEnd cs = '[' :: (inner ++ [']']) → Inside inner s →
      Spells cs s

theorem Path.Spells.written {cs : List Char} {s : Selector} (spells : Spells cs s) :
    Written ('$' :: '.' :: '.' :: Text.trimEnd cs) [.descendant s] := by
  cases spells with
  | name named means =>
    have begins := Begins.deepName named means
    rw [List.append_nil] at begins
    exact .rooted (.cons begins .nil)
  | bracket trimmed inside =>
    rw [trimmed]
    exact .rooted (.cons (.deepBracket inside) .nil)

theorem Path.Spells.parse_eq {t : String} {s : Selector} (spells : Spells t.toList s) :
    parse ("$.." ++ t) = .ok ⟨Text.trimmed ("$.." ++ t), [.descendant s]⟩ := by
  have trimmed : (Text.trimmed ("$.." ++ t)).toList = '$' :: '.' :: '.' :: Text.trimEnd t.toList := by
    have dots : ("$.." ++ t).toList = '$' :: '.' :: '.' :: t.toList := String.toList_append
    have dollar : Text.isBlank '$' = false := by decide
    have dot : Text.isBlank '.' = false := by decide
    rw [Text.trimmed, String.toList_ofList, dots, Text.trim, List.dropWhile_cons_of_neg (by simp [dollar]),
      Script.trimEnd_cons dollar, Script.trimEnd_cons dot, Script.trimEnd_cons dot]
  have read := segmentsOfText_eq_ok_iff.mpr spells.written
  rw [← trimmed] at read
  simp only [parse, read]

/-- Two dots before a selector select what it picks at each node, for all nodes in preorder. So before an asterisk
    they select every node below the first one, once for its place, and before a name as many values as there are
    objects that have it. -/
theorem descent_in_preorder {t : String} {s : Selector} (spells : Path.Spells t.toList s) (root : Json) :
    ∃ found, select root ("$.." ++ t) = .ok (.arr found) ∧
      (found = root.places.flatMap fun place => s.pick place.2) ∧
      (root.Ordered → Preorder root root.places) ∧
      (s = .all → found.Perm ((root.places.filter (·.1 ≠ [])).map (·.2))) ∧
      ∀ n, s = .name n → found.length = root.places.countP fun place => place.2.hasMember n := by
  have followed : follow [.descendant s] root = s.search root := List.flatMap_singleton _ _
  refine ⟨s.search root, ?_, s.search_eq_places root, places_preorder, ?_, ?_⟩
  · have selects : select root ("$.." ++ t) = Path.select ⟨Text.trimmed ("$.." ++ t), [.descendant s]⟩ root := by
      rw [select, spells.parse_eq]
      rfl
    rw [selects, Path.select, followed]
    rfl
  · rintro rfl
    exact search_all_perm root
  · rintro n rfl
    exact length_search_name n root

/-- Two dots before a name, in a document that has been read: an object that has the name comes before those below it,
    and members come in the order of their names. -/
theorem descent_to_ids :
    let text := "\x7b\"id\":3,\"a\":[\x7b\"id\":1\x7d,\x7b\"id\":\x7b\"id\":2\x7d\x7d]\x7d"
    let root : Json := .obj [("a", .arr [.obj [("id", .ofNat 1)], .obj [("id", .obj [("id", .ofNat 2)])]]), ("id", .ofNat 3)]
    parse text = some root ∧ Path.Spells "id".toList (.name "id") ∧ Preorder root root.places ∧
      select root "$..id" = .ok (.arr [.ofNat 3, .ofNat 1, .obj [("id", .ofNat 2)], .ofNat 2]) := by
  intro text root
  have read : parse text = some root := by cbv
  have trimmed : Text.trimEnd "id".toList = ['i', 'd'] := by cbv
  have named : Path.Name ['i', 'd'] [] := ⟨List.cons_ne_nil _ _, by simp, by simp⟩
  have spells : Path.Spells "id".toList (.name "id") :=
    .name (by rwa [trimmed]) (by rw [trimmed]; exact .key (by decide))
  obtain ⟨found, selected, concatenated, preorder, -, -⟩ := descent_in_preorder spells root
  refine ⟨read, spells, preorder (ordered_of_parse read), ?_⟩
  rw [concatenated] at selected
  exact selected

end Json
end TestScenario
