import TestScenario.Http.Client
import TestScenario.Engine.CaseStep
import TestScenario.Proofs.Tables

/-!
Headers of requests. They come from three tables: what a step overrides, what its case has, and what all requests have.
The common ones are left out under names that are there in any spelling, but an override takes the place of a header of
the case only if both are spelled alike. So a name that the override spells differently is carried twice, and any other
name is carried once at most (`request_carries`). In front of them all stands what the address brings along, a header of
its name and password, which no table takes the place of.
-/

namespace TestScenario

/-! ### Names in any spelling -/

namespace Dict
variable {α β : Type} {d later : Dict α} {n m name : String} {v : α}

/-- The names are the same but for the case of ASCII letters. -/
abbrev Alike (n m : String) : Prop := Text.sameIgnoringCase n m = true

theorem alike_iff : Alike n m ↔ Text.lowerAscii n = Text.lowerAscii m := beq_iff_eq

theorem alike_iff_toList : Alike n m ↔ n.toList.map Char.toLower = m.toList.map Char.toLower := by
  rw [alike_iff, Text.lowerAscii, Text.lowerAscii, ← String.toList_inj, String.toList_map, String.toList_map]

/-- No name is there in two spellings, nor twice in one. -/
def OneSpelling (d : Dict α) : Prop := (d.names.map Text.lowerAscii).Nodup

/-- The entries under a name, in whatever spelling. -/
def spellings (d : Dict α) (name : String) : Dict α := d.filter fun (n, _) => Text.sameIgnoringCase n name

/-- The values under a name, in whatever spelling. -/
def carried (d : Dict α) (name : String) : List α := (d.spellings name).map (·.2)

theorem mem_spellings_iff {pair : String × α} : pair ∈ d.spellings name ↔ pair ∈ d ∧ Alike pair.1 name := List.mem_filter

theorem mem_names_spellings_iff : m ∈ (d.spellings name).names ↔ m ∈ d.names ∧ Alike m name := by
  simp only [names, List.mem_map, mem_spellings_iff]
  constructor
  · rintro ⟨pair, ⟨member, alike⟩, rfl⟩
    exact ⟨⟨pair, member, rfl⟩, alike⟩
  · rintro ⟨⟨pair, member, rfl⟩, alike⟩
    exact ⟨pair, ⟨member, alike⟩, rfl⟩

theorem spellings_filter (p : String × α → Bool) (d : Dict α) (name : String) :
    spellings (List.filter p d) name = (d.spellings name).filter p := by
  rw [spellings, spellings, List.filter_filter, List.filter_filter]
  exact List.filter_congr fun _ _ => Bool.and_comm ..

theorem spellings_append (d e : Dict α) (name : String) :
    spellings (d ++ e) name = d.spellings name ++ e.spellings name := List.filter_append ..

theorem carried_append (d e : Dict α) (name : String) : carried (d ++ e) name = d.carried name ++ e.carried name := by
  rw [carried, spellings_append, List.map_append]
  rfl

/-- The first value under a name, in whatever spelling. -/
def valueOf? (d : Dict α) (name : String) : Option α := (d.carried name).head?

theorem carried_perm {e : Dict α} (same : d.Perm e) (name : String) : (d.carried name).Perm (e.carried name) :=
  (same.filter _).map _

theorem carried_eq_nil_iff : d.carried name = [] ↔ d.spellings name = [] := List.map_eq_nil_iff

theorem carried_of_spellings (single : d.spellings name = [(n, v)]) : d.carried name = [v] := by
  rw [carried, single, List.map_singleton]

theorem carried_of_none (free : d.spellings name = []) : d.carried name = [] := by
  rw [carried, free, List.map_nil]

theorem names_mapValues (f : α → β) (d : Dict α) : (d.mapValues f).names = d.names := by
  rw [names, mapValues, List.map_map]
  rfl

theorem Ordered.mapValues (ordered : d.Ordered) (f : α → β) : (d.mapValues f).Ordered :=
  List.Pairwise.map _ (fun _ _ less => less) ordered

theorem OneSpelling.mapValues (one : d.OneSpelling) (f : α → β) : (d.mapValues f).OneSpelling := by
  rw [OneSpelling, names_mapValues]
  exact one

theorem OneSpelling.filter (one : d.OneSpelling) (p : String × α → Bool) : OneSpelling (List.filter p d) :=
  one.sublist ((List.filter_sublist.map _).map _)

theorem OneSpelling.nodup (one : d.OneSpelling) : d.names.Nodup := one.of_map

/-- A table without names in two spellings has one entry at most under a name. -/
theorem OneSpelling.none_or_single (one : d.OneSpelling) (name : String) :
    d.spellings name = [] ∨ ∃ n v, d.spellings name = [(n, v)] := by
  have alone : ((d.spellings name).names.map Text.lowerAscii).Nodup := one.filter _
  have alike : ∀ pair ∈ d.spellings name, Text.lowerAscii pair.1 = Text.lowerAscii name := fun pair member =>
    alike_iff.mp (mem_spellings_iff.mp member).2
  match found : d.spellings name with
  | [] => exact .inl rfl
  | [(n, v)] => exact .inr ⟨n, v, rfl⟩
  | first :: second :: rest =>
    rw [found] at alone alike
    have equal : Text.lowerAscii first.1 = Text.lowerAscii second.1 :=
      (alike first (by simp)).trans (alike second (by simp)).symm
    simp [names, equal] at alone

theorem OneSpelling.carried_eq (one : d.OneSpelling) (name : String) : d.carried name = (d.valueOf? name).toList := by
  rw [valueOf?]
  obtain free | ⟨n, v, single⟩ := one.none_or_single name
  · rw [carried_of_none free]
    rfl
  · rw [carried_of_spellings single]
    rfl

/-! ### Tables overwritten -/

theorem Ordered.insert_perm (ordered : d.Ordered) (n : String) (v : α) : (d.insert n v).Perm ((n, v) :: d.erase n) := by
  induction d with
  | nil => exact .refl _
  | cons head rest ih =>
    obtain ⟨m, w⟩ := head
    obtain ⟨first, behind⟩ := List.pairwise_cons.mp ordered
    have stays (away : ∀ pair ∈ rest, n < pair.1) : Dict.erase rest n = rest :=
      List.filter_eq_self.mpr fun pair member => by simpa using (ne_of_lt (away pair member)).symm
    unfold Dict.insert
    by_cases same : n = m
    · subst same
      have erased : Dict.erase ((n, w) :: rest) n = rest := by
        rw [erase, List.filter_cons_of_neg (by simp)]
        exact stays first
      rw [if_pos rfl, erased]
    · have kept : Dict.erase ((m, w) :: rest) n = (m, w) :: Dict.erase rest n :=
        List.filter_cons_of_pos (bne_iff_ne.mpr (Ne.symm same))
      rw [if_neg same, kept]
      split
      · rename_i less
        rw [stays fun pair member => lt_trans less (first pair member)]
      · exact ((ih behind).cons _).trans (.swap ..)

/-- A table overwritten by one that has each name once: all of this one, and what has none of its names. -/
theorem Ordered.update_perm (ordered : d.Ordered) (once : later.names.Nodup) :
    (d.update later).Perm (later ++ d.filter fun pair => pair.1 ∉ later.names) := by
  induction later generalizing d with
  | nil =>
    rw [List.filter_eq_self.mpr fun pair _ => decide_eq_true (List.not_mem_nil (a := pair.1))]
    exact .refl _
  | cons pair rest ih =>
    obtain ⟨n, v⟩ := pair
    have fresh : n ∉ Dict.names rest := (List.nodup_cons.mp once).1
    have left : List.filter (fun pair => pair.1 ∉ Dict.names rest) ((n, v) :: d.erase n) =
        (n, v) :: d.filter fun pair => pair.1 ∉ Dict.names ((n, v) :: rest) := by
      rw [List.filter_cons, if_pos (by simpa using fresh), erase, List.filter_filter]
      congr 1
      refine List.filter_congr fun pair _ => ?_
      have split : pair.1 ∈ Dict.names ((n, v) :: rest) ↔ pair.1 = n ∨ pair.1 ∈ Dict.names rest := List.mem_cons
      simp [split, Bool.and_comm, bne, beq_eq_decide]
    have inserted := ((ordered.insert_perm n v).filter fun pair => pair.1 ∉ Dict.names rest).trans (.of_eq left)
    have tail := ih (ordered.insert n v) (List.nodup_cons.mp once).2
    exact (tail.trans (inserted.append_left _)).trans List.perm_middle

theorem insert_mapValues (f : α → β) (n : String) (v : α) (d : Dict α) :
    (d.insert n v).mapValues f = (d.mapValues f).insert n (f v) := by
  induction d with
  | nil => rfl
  | cons head rest ih =>
    obtain ⟨m, w⟩ := head
    have mapped : Dict.mapValues f ((m, w) :: rest) = (m, f w) :: Dict.mapValues f rest := rfl
    rw [mapped, Dict.insert, Dict.insert, ← ih]
    split
    · rfl
    · split <;> rfl

theorem update_mapValues (f : α → β) (d later : Dict α) :
    (d.update later).mapValues f = (d.mapValues f).update (later.mapValues f) := by
  induction later generalizing d with
  | nil => rfl
  | cons pair rest ih =>
    have first : d.update (pair :: rest) = (d.insert pair.1 pair.2).update rest := rfl
    rw [first, ih, insert_mapValues]
    rfl

/-- The names of a table and of one that overwrites it have a name in two spellings. -/
def Respelled (d later : Dict α) (name : String) : Prop :=
  ∃ n ∈ later.names, ∃ m ∈ d.names, Alike n name ∧ Alike m name ∧ n ≠ m

theorem Ordered.carried_update_perm (ordered : d.Ordered) (oneLater : later.OneSpelling) (name : String) :
    ((d.update later).carried name).Perm
      (later.carried name ++ ((d.spellings name).filter fun pair => pair.1 ∉ later.names).map (·.2)) := by
  have same := carried_perm (ordered.update_perm oneLater.nodup) name
  rw [carried_append] at same
  rw [← spellings_filter]
  exact same

theorem mem_names_of_single (single : d.spellings name = [(n, v)]) : n ∈ d.names ∧ Alike n name :=
  mem_names_spellings_iff.mp (by rw [single]; exact List.mem_singleton_self n)

theorem eq_of_single (single : d.spellings name = [(n, v)]) (member : m ∈ d.names) (alike : Alike m name) : m = n := by
  have found : m ∈ (d.spellings name).names := mem_names_spellings_iff.mpr ⟨member, alike⟩
  rw [single] at found
  exact List.mem_singleton.mp found

theorem not_mem_of_none (free : d.spellings name = []) (alike : Alike m name) : m ∉ d.names := fun member => by
  have found : m ∈ (d.spellings name).names := mem_names_spellings_iff.mpr ⟨member, alike⟩
  rw [free] at found
  exact List.not_mem_nil found

/-- Under a name that is spelled alike in both, a table overwritten by another has one value at most, the other's
    first. -/
theorem Ordered.carried_update (ordered : d.Ordered) (one : d.OneSpelling) (oneLater : later.OneSpelling)
    (spelled : ¬ d.Respelled later name) :
    (d.update later).carried name = ((later.valueOf? name).or (d.valueOf? name)).toList := by
  have same := ordered.carried_update_perm oneLater name
  rw [valueOf?, valueOf?]
  obtain absent | ⟨m, w, own⟩ := one.none_or_single name
  · rw [absent] at same
    rw [carried_of_none absent]
    obtain free | ⟨n, v, new⟩ := oneLater.none_or_single name
    · rw [carried_of_none free] at same ⊢
      exact same.eq_nil
    · rw [carried_of_spellings new] at same ⊢
      exact same.eq_singleton
  · obtain ⟨here, alike⟩ := mem_names_of_single own
    rw [own] at same
    rw [carried_of_spellings own]
    obtain free | ⟨n, v, new⟩ := oneLater.none_or_single name
    · rw [List.filter_cons, if_pos (by simpa using not_mem_of_none free alike), carried_of_none free] at same
      rw [carried_of_none free]
      exact same.eq_singleton
    · obtain ⟨there, alikeToo⟩ := mem_names_of_single new
      have overwritten : m ∈ later.names := by
        by_contra other
        exact spelled ⟨n, there, m, here, alikeToo, alike, fun equal => other (equal ▸ there)⟩
      rw [List.filter_cons, if_neg (by simpa using overwritten), carried_of_spellings new] at same
      rw [carried_of_spellings new]
      exact same.eq_singleton

/-- Under a name that they spell differently, a table overwritten by another has the values of both. -/
theorem Ordered.carried_update_of_respelled (ordered : d.Ordered) (one : d.OneSpelling) (oneLater : later.OneSpelling)
    (respelled : d.Respelled later name) :
    ∃ v w, later.valueOf? name = some v ∧ d.valueOf? name = some w ∧ ((d.update later).carried name).Perm [v, w] := by
  have same := ordered.carried_update_perm oneLater name
  obtain ⟨n, there, m, here, alikeToo, alike, other⟩ := respelled
  obtain free | ⟨n', v, new⟩ := oneLater.none_or_single name
  · cases not_mem_of_none free alikeToo there
  · obtain absent | ⟨m', w, own⟩ := one.none_or_single name
    · cases not_mem_of_none absent alike here
    · obtain rfl := eq_of_single new there alikeToo
      obtain rfl := eq_of_single own here alike
      have kept : m ∉ later.names := fun member => other (eq_of_single new member alike).symm
      rw [own, List.filter_cons, if_pos (by simpa using kept), carried_of_spellings new] at same
      refine ⟨v, w, ?_, ?_, same⟩
      · rw [valueOf?, carried_of_spellings new, List.head?_cons]
      · rw [valueOf?, carried_of_spellings own, List.head?_cons]

end Dict

theorem Document.Source.dict_ordered {α : Type} {read : Document.Source → Option α} {s : Document.Source} {d : Dict α}
    (found : dict read s = some d) : d.Ordered := by
  obtain ⟨entries, -, found⟩ := Option.bind_eq_some_iff.mp found
  obtain ⟨pairs, -, found⟩ := Option.bind_eq_some_iff.mp found
  cases found
  exact Dict.ordered_ofList pairs

/-- The headers of a case that has been read are a table in order. -/
theorem TestCase.headers_ordered {s : Document.Source} {t : TestCase} (found : TestCase.read s = some t) :
    t.headers.Ordered := by
  obtain ⟨fields, -, found⟩ := Option.bind_eq_some_iff.mp found
  split at found
  · rename_i headers _ _ _
    simp only [Option.bind_eq_bind, Option.bind_eq_some_iff, Option.some.injEq] at found
    obtain ⟨_, -, _, -, _, -, _, -, _, -, own, reads, _, -, _, -, _, -, rfl⟩ := found
    cases headers with
    | none =>
      cases reads
      exact .nil
    | some s => exact Document.Source.dict_ordered reads
  · cases found

/-! ### Headers of a request -/

namespace Http
open Dict

variable {c : Client} {t : TestCase} {vars : Members} {request : Request} {common own : Dict String} {name : String}

/-- The client makes a request of a case that can be sent. -/
def Client.Builds (c : Client) (t : TestCase) (vars : Members) (request : Request) : Prop :=
  ∃ draft, c.draft t vars = .ok draft ∧ draft.request = .ok request

theorem Draft.headers_of_request {draft : Draft} (sent : draft.request = .ok request) :
    ∃ u, Url.ofText draft.url = .ok u ∧ request.headers = credentialHeaders u ++ draft.headers := by
  simp only [Draft.request, bind, Except.bind] at sent
  cases read : Url.ofText draft.url with
  | error cause =>
    rw [read] at sent
    cases sent
  | ok u =>
    rw [read] at sent
    simp only [Except.mapError] at sent
    repeat' split at sent
    all_goals cases sent
    exact ⟨u, rfl, rfl⟩

/-- The name and the password of an address stand in front of a header of the same name. -/
example :
    (Draft.request ⟨"GET", "http://u:p@[::1]/7", [("Authorization", "Bearer t")], none⟩).toOption.map (·.headers) =
      some [("authorization", "Basic dTpw"), ("Authorization", "Bearer t")] := by
  decide +kernel

/-- The headers that the address of a case brings along. -/
def Client.brought (c : Client) (t : TestCase) (vars : Members) : Dict String :=
  (((c.address (Reference.expand vars t.url)).toOption.bind (Url.ofText · |>.toOption)).map credentialHeaders).getD []

/-- An address brings along at most one header, with its name and its password. -/
theorem Client.carried_brought (c : Client) (t : TestCase) (vars : Members) (name : String) :
    (c.brought t vars).carried name = [] ∨
      Alike "authorization" name ∧ ∃ user password, (c.brought t vars).carried name = [(basicHeader user password).2] := by
  unfold Client.brought
  cases (c.address (Reference.expand vars t.url)).toOption.bind (Url.ofText · |>.toOption) with
  | none => exact .inl rfl
  | some u =>
    rw [Option.map_some, Option.getD_some, credentialHeaders]
    split
    · exact .inl rfl
    · rename_i user password _
      by_cases alike : Alike "authorization" name
      · exact .inr ⟨alike, user, password, carried_of_spellings (List.filter_cons_of_pos alike)⟩
      · exact .inl (carried_of_none (List.filter_cons_of_neg alike))

theorem addHeader_mapValues (f : String → String) (headers : Dict String) (n v : String) :
    (addHeader headers n v).mapValues f = addHeader (headers.mapValues f) n (f v) := by
  have names : (headers.mapValues f).any (fun pair => Text.sameIgnoringCase n pair.1) =
      headers.any fun pair => Text.sameIgnoringCase n pair.1 := by
    simp only [mapValues, List.any_map, Function.comp_def]
  rw [addHeader, addHeader, names]
  split
  · rfl
  · exact insert_mapValues f n v headers

theorem withCommon_mapValues (f : String → String) (common own : Dict String) :
    (withCommon common own).mapValues f = withCommon (common.mapValues f) (own.mapValues f) := by
  induction common generalizing own with
  | nil => rfl
  | cons head rest ih =>
    have first : withCommon (head :: rest) own = withCommon rest (addHeader own head.1 head.2) := rfl
    rw [first, ih, addHeader_mapValues]
    rfl

/-- The common headers whose names, in whatever spelling, a table does not have. -/
def missing (common own : Dict String) : Dict String :=
  common.filter fun (n, _) => !own.any fun (m, _) => Text.sameIgnoringCase n m

theorem any_names_insert (p : String → Bool) (n v : String) (d : Dict String) :
    (d.insert n v).any (fun pair => p pair.1) = (p n || d.any fun pair => p pair.1) := by
  induction d with
  | nil => rfl
  | cons head rest ih =>
    unfold Dict.insert
    split
    · rename_i same
      rw [List.any_cons, List.any_cons, same, ← Bool.or_assoc, Bool.or_self]
    · split
      · rfl
      · rw [List.any_cons, ih, List.any_cons, Bool.or_left_comm]

/-- Common headers none of which is there in two spellings do not stand in each other's way. -/
theorem withCommon_eq (one : common.OneSpelling) (own : Dict String) :
    withCommon common own = own.update (missing common own) := by
  induction common generalizing own with
  | nil => rfl
  | cons head rest ih =>
    obtain ⟨n, v⟩ := head
    obtain ⟨fresh, oneRest⟩ := List.nodup_cons.mp one
    have first : withCommon ((n, v) :: rest) own = withCommon rest (addHeader own n v) := rfl
    rw [first, ih oneRest, addHeader, missing, missing, List.filter_cons]
    by_cases taken : own.any fun pair => Text.sameIgnoringCase n pair.1
    · rw [if_pos taken, if_neg (by simpa using taken)]
    · have apart : ∀ pair ∈ rest, (!(own.insert n v).any fun other => Text.sameIgnoringCase pair.1 other.1) =
          !own.any fun other => Text.sameIgnoringCase pair.1 other.1 := by
        intro pair member
        have other : Text.sameIgnoringCase pair.1 n = false := by
          refine Bool.eq_false_of_not_eq_true fun alike => fresh ?_
          rw [← alike_iff.mp alike]
          exact List.mem_map_of_mem (List.mem_map_of_mem member)
        rw [any_names_insert, other, Bool.false_or]
      rw [if_neg taken, if_pos (by simpa using taken), List.filter_congr apart]
      rfl

theorem any_sameIgnoringCase_iff {n : String} (alike : Alike n name) :
    (own.any fun (m, _) => Text.sameIgnoringCase n m) = true ↔ own.spellings name ≠ [] := by
  have turned (m : String) : Alike n m ↔ Alike m name := by
    rw [alike_iff, alike_iff, alike_iff.mp alike]
    exact eq_comm
  rw [Ne, spellings, List.filter_eq_nil_iff, List.any_eq_true]
  push Not
  exact exists_congr fun pair => and_congr_right fun _ => turned pair.1

/-- A common header is missing exactly if the table has its name in no spelling. -/
theorem spellings_missing (common own : Dict String) (name : String) :
    (missing common own).spellings name = if own.spellings name = [] then common.spellings name else [] := by
  have alike : ∀ pair ∈ common.spellings name, Alike pair.1 name := fun pair member => (mem_spellings_iff.mp member).2
  rw [missing, spellings_filter]
  split
  · rename_i free
    refine List.filter_eq_self.mpr fun pair member => ?_
    have absent := (any_sameIgnoringCase_iff (alike pair member)).not.mpr (not_not.mpr free)
    simpa using absent
  · rename_i present
    refine List.filter_eq_nil_iff.mpr fun pair member => ?_
    simpa using (any_sameIgnoringCase_iff (alike pair member)).mpr present

theorem carried_withCommon_of_none (ordered : own.Ordered) (one : common.OneSpelling) (free : own.carried name = []) :
    ((withCommon common own).carried name).Perm (common.carried name) := by
  have oneMissing : (missing common own).OneSpelling := one.filter _
  have none := carried_eq_nil_iff.mp free
  have all : (missing common own).carried name = common.carried name := by
    rw [carried, spellings_missing, if_pos none, carried]
  have same := ordered.carried_update_perm oneMissing name
  rw [← withCommon_eq one, all, none, List.filter_nil, List.map_nil, List.append_nil] at same
  exact same

theorem carried_withCommon_of_own (ordered : own.Ordered) (one : common.OneSpelling) (present : own.carried name ≠ []) :
    ((withCommon common own).carried name).Perm (own.carried name) := by
  have oneMissing : (missing common own).OneSpelling := one.filter _
  have none : (missing common own).spellings name = [] := by
    rw [spellings_missing, if_neg (mt carried_eq_nil_iff.mpr present)]
  have kept : ∀ pair ∈ own.spellings name, decide (pair.1 ∉ (missing common own).names) = true := fun pair member =>
    decide_eq_true (not_mem_of_none none (mem_spellings_iff.mp member).2)
  have same := ordered.carried_update_perm oneMissing name
  rw [← withCommon_eq one, carried_of_none none, List.nil_append, List.filter_eq_self.mpr kept] at same
  exact same

/-- The header that tells of a body in JSON is there only if no other one has its name. -/
theorem carried_contentType (headers : Dict String) (body : Option String) (name : String) :
    carried (Client.contentType headers body) name = [] ∨
      headers.carried name = [] ∧ Alike name "content-type" ∧
        carried (Client.contentType headers body) name = ["application/json"] := by
  unfold Client.contentType
  split
  · rename_i told
    have lower : Alike "Content-Type" "content-type" := alike_iff_toList.mpr (by decide)
    by_cases alike : Alike "Content-Type" name
    · have named : Text.lowerAscii name = Text.lowerAscii "content-type" :=
        (alike_iff.mp alike).symm.trans (alike_iff.mp lower)
      refine .inr ⟨carried_of_none (List.filter_eq_nil_iff.mpr fun pair member same => ?_), alike_iff.mpr named, ?_⟩
      · have taken : Alike pair.1 "content-type" := alike_iff.mpr ((alike_iff.mp same).trans named)
        have absent := (Bool.and_eq_true_iff.mp told).2
        simp only [Bool.not_eq_true', List.any_eq_false] at absent
        exact absent pair member taken
      · exact carried_of_spellings (List.filter_cons_of_pos alike)
    · exact .inl (carried_of_none (List.filter_cons_of_neg alike))
  · exact .inl rfl

/-- The headers of a request are those of its address, of the case and of all requests, and one that tells of a body
    in JSON. -/
theorem Client.Builds.headers (built : c.Builds t vars request) :
    let headers := withCommon (c.headers.mapValues (Reference.expand vars)) (t.headers.mapValues (Reference.expand vars))
    request.headers = c.brought t vars ++ (headers ++ Client.contentType headers (Client.bodyOf t vars)) := by
  obtain ⟨draft, drafted, sent⟩ := built
  obtain ⟨u, read, all⟩ := Draft.headers_of_request sent
  simp only [Client.draft, bind, Except.bind] at drafted
  split at drafted
  · cases drafted
  · rename_i located
    split at drafted
    · cases drafted
    · obtain rfl := Except.ok.inj drafted
      have own : c.brought t vars = credentialHeaders u := by
        rw [Client.brought, located, Except.toOption, Option.bind_some, read]
        rfl
      rw [all, own, ← withCommon_mapValues]
      simp only [Client.contentType, mapValues, List.any_map, Function.comp_def]

/-- A request carries under a name what its address, its case and the common headers have, or, where the latter two
    have nothing, that its body is JSON. -/
theorem Client.Builds.carried (built : c.Builds t vars request) (name : String) :
    let headers := withCommon (c.headers.mapValues (Reference.expand vars)) (t.headers.mapValues (Reference.expand vars))
    Dict.carried request.headers name = (c.brought t vars).carried name ++ headers.carried name ∨
      headers.carried name = [] ∧ Alike name "content-type" ∧
        Dict.carried request.headers name = (c.brought t vars).carried name ++ ["application/json"] := by
  intro headers
  rw [built.headers, carried_append, carried_append]
  obtain none | ⟨free, alike, json⟩ := carried_contentType headers (Client.bodyOf t vars) name
  · rw [none, List.append_nil]
    exact .inl rfl
  · rw [json]
    exact .inr ⟨free, alike, by rw [free, List.nil_append]⟩

/-! ### The headers of a step -/

/-- What the header under a name should be: what the step says, else what the case says, else what all requests have. -/
def headerMeant (overriding own common : Dict String) (name : String) : Option String :=
  (overriding.valueOf? name).or ((own.valueOf? name).or (common.valueOf? name))

variable {overriding : Dict String}

theorem carried_merged (ordered : own.Ordered) (oneOverriding : overriding.OneSpelling) (oneOwn : own.OneSpelling)
    (oneCommon : common.OneSpelling) (spelled : ¬ own.Respelled overriding name) :
    (withCommon common (own.update overriding)).carried name = (headerMeant overriding own common name).toList := by
  have first := ordered.carried_update oneOwn oneOverriding spelled
  rw [headerMeant, ← Option.or_assoc]
  cases found : (overriding.valueOf? name).or (own.valueOf? name) with
  | none =>
    rw [found] at first
    have same := carried_withCommon_of_none (ordered.update overriding) oneCommon first
    rw [oneCommon.carried_eq] at same
    rw [Option.none_or]
    generalize common.valueOf? name = value at same
    cases value with
    | none => exact same.eq_nil
    | some v => exact same.eq_singleton
  | some v =>
    rw [found] at first
    have same := carried_withCommon_of_own (ordered.update overriding) oneCommon (by rw [first]; exact List.cons_ne_nil _ _)
    rw [first] at same
    exact same.eq_singleton

theorem carried_merged_of_respelled (ordered : own.Ordered) (oneOverriding : overriding.OneSpelling)
    (oneOwn : own.OneSpelling) (oneCommon : common.OneSpelling) (respelled : own.Respelled overriding name) :
    ∃ v w, overriding.valueOf? name = some v ∧ own.valueOf? name = some w ∧
      ((withCommon common (own.update overriding)).carried name).Perm [v, w] := by
  obtain ⟨v, w, there, here, both⟩ := ordered.carried_update_of_respelled oneOwn oneOverriding respelled
  have present : (own.update overriding).carried name ≠ [] := fun none => by
    rw [none] at both
    exact List.cons_ne_nil _ _ both.nil_eq.symm
  exact ⟨v, w, there, here, (carried_withCommon_of_own (ordered.update overriding) oneCommon present).trans both⟩

/-- The headers of a case that an object of the step adds to. -/
theorem headers_resolveCase {context : Context} {o : Overrides} {members : Members}
    (object : o.headers = some (.obj members)) :
    (context.resolveCase (o.apply t)).headers =
      (t.headers.mapValues (Reference.resolveSteps context)).update
        (members.mapValues fun v => Reference.resolveSteps context v.text) := by
  have added : (o.apply t).headers = t.headers.update (members.mapValues Json.text) := by
    rw [Overrides.apply, Overrides.headersFor, object]
  rw [Context.resolveCase, added, update_mapValues]
  simp only [mapValues, List.map_map, Function.comp_def]

/-- A request made for a step carries each header once, with the value of the step, else of the case, else of all
    requests, and besides them at most the one that tells of a body in JSON. A name that step and case spell
    differently it carries twice, with the values of both. The name and the password of its address come first, as a
    header that takes no other one's place. -/
theorem request_carries {context : Context} {o : Overrides} {members : Members}
    (object : o.headers = some (.obj members)) (oneOverriding : members.OneSpelling)
    (oneOwn : t.headers.OneSpelling) (ordered : t.headers.Ordered) (oneCommon : c.headers.OneSpelling)
    (built : c.Builds (context.resolveCase (o.apply t)) vars request) (name : String) :
    let written (text : String) := Reference.expand vars (Reference.resolveSteps context text)
    let overriding := members.mapValues fun v => written v.text
    let own := t.headers.mapValues written
    let meant := headerMeant overriding own (c.headers.mapValues (Reference.expand vars)) name
    let first := (c.brought (context.resolveCase (o.apply t)) vars).carried name
    (first = [] ∨ Alike "authorization" name ∧ ∃ user password, first = [(basicHeader user password).2]) ∧
    (¬ own.Respelled overriding name →
      carried request.headers name = first ++ meant.toList ∨
        meant = none ∧ Alike name "content-type" ∧ carried request.headers name = first ++ ["application/json"]) ∧
    (own.Respelled overriding name →
      ∃ v w, overriding.valueOf? name = some v ∧ own.valueOf? name = some w ∧
        ∃ both, both.Perm [v, w] ∧ carried request.headers name = first ++ both) := by
  intro written overriding own meant first
  have effective : (context.resolveCase (o.apply t)).headers.mapValues (Reference.expand vars) =
      own.update overriding := by
    rw [headers_resolveCase object, update_mapValues]
    simp only [mapValues, List.map_map, Function.comp_def, own, overriding, written]
  have carries := built.carried name
  simp only [effective] at carries
  have ordered : own.Ordered := ordered.mapValues written
  have oneOwn : own.OneSpelling := oneOwn.mapValues written
  have oneOverriding : overriding.OneSpelling := oneOverriding.mapValues _
  have oneCommon : (c.headers.mapValues (Reference.expand vars)).OneSpelling := oneCommon.mapValues _
  refine ⟨c.carried_brought _ vars name, fun spelled => ?_, fun respelled => ?_⟩
  · have once := carried_merged ordered oneOverriding oneOwn oneCommon spelled
    rw [once] at carries
    exact carries.imp_right fun ⟨absent, alike, json⟩ => ⟨Option.toList_eq_nil_iff.mp absent, alike, json⟩
  · obtain ⟨v, w, there, here, both⟩ := carried_merged_of_respelled ordered oneOverriding oneOwn oneCommon respelled
    refine ⟨v, w, there, here, _, both, ?_⟩
    obtain all | ⟨absent, -, -⟩ := carries
    · exact all
    · rw [absent] at both
      cases both.nil_eq

/-- A header of the case, one of the step that is spelled alike, and a common one that is not: the step's is carried
    alone. -/
theorem request_carries_step_header :
    let t : TestCase := { id := 1, name := "Login", url := "http://[::1]/7", headers := [("X-Tenant", "case")] }
    let o : Overrides := { headers := some (.obj [("X-Tenant", .str "step")]) }
    let c : Client := { headers := [("X-TENANT", "all")] }
    ∃ request, c.Builds (({} : Context).resolveCase (o.apply t)) [] request ∧
      carried request.headers "x-tenant" = ["step"] := by
  intro t o c
  have effective : ({} : Context).resolveCase (o.apply t) = { t with headers := [("X-Tenant", "step")] } := by cbv
  have common : Alike "X-TENANT" "X-Tenant" := alike_iff_toList.mpr (by decide)
  have asked : Alike "X-Tenant" "x-tenant" := alike_iff_toList.mpr (by decide)
  have built : ∃ request, c.Builds (({} : Context).resolveCase (o.apply t)) [] request := by
    let url : Url := { scheme := "http", host := some (.ipv6 [0, 0, 0, 0, 0, 0, 0, 1]), path := .parts ["7"] }
    have parsed : Url.ofText "http://[::1]/7" = .ok url := by cbv
    have located : c.address (Reference.expand [] "http://[::1]/7") = .ok "http://[::1]/7" := by cbv
    have value : Reference.expand [] "step" = "step" := by cbv
    have method : upperMethod "GET" = "GET" := by cbv
    have token : isToken "GET" = true := by cbv
    refine ⟨⟨"GET", url, [("X-Tenant", "step")], none⟩, ⟨"GET", "http://[::1]/7", [("X-Tenant", "step")], none⟩, ?_, ?_⟩
    · rw [effective]
      simp [Client.draft, t, c, located, method, token, withCommon, addHeader, common, mapValues, value, Client.bodyOf,
        Client.contentType, bind, Except.bind]
    · rw [Draft.request, parsed]
      decide +kernel
  obtain ⟨request, built⟩ := built
  have single {α : Type} (n : String) (v : α) : OneSpelling [(n, v)] := List.nodup_singleton _
  have ordered : t.headers.Ordered := List.pairwise_singleton _ _
  have oneOwn : t.headers.OneSpelling := single "X-Tenant" "case"
  have oneCommon : c.headers.OneSpelling := single "X-TENANT" "all"
  have carries := request_carries rfl (single "X-Tenant" (.str "step")) oneOwn ordered oneCommon built "x-tenant"
  have spelled (v w : String) : ¬ Respelled [("X-Tenant", v)] [("X-Tenant", w)] "x-tenant" := by
    rintro ⟨n, new, m, old, -, -, other⟩
    exact other ((List.mem_singleton.mp new).trans (List.mem_singleton.mp old).symm)
  have step : Reference.expand [] (Reference.resolveSteps {} "step") = "step" := by cbv
  have meant (own common : Dict String) : headerMeant [("X-Tenant", "step")] own common "x-tenant" = some "step" := by
    simp [headerMeant, valueOf?, carried, spellings, asked]
  simp only [mapValues, List.map_cons, List.map_nil, Json.text, step, meant] at carries
  obtain ⟨brought, once, -⟩ := carries
  have bare : (c.brought (({} : Context).resolveCase (o.apply t)) []).carried "x-tenant" = [] :=
    brought.resolve_right fun given => absurd (alike_iff_toList.mp given.1) (by decide)
  obtain single | ⟨absent, -⟩ := once (spelled _ _)
  · exact ⟨request, built, single.trans (congrArg (· ++ ["step"]) bare)⟩
  · cases absent

/-- A header of the step that is spelled otherwise than the one of the case does not take its place. -/
theorem respelled_header_carried_twice :
    let t : TestCase := { id := 1, name := "Login", url := "http://[::1]/7", headers := [("X-Tenant", "case")] }
    let members : Members := [("x-tenant", .str "step")]
    let o : Overrides := { headers := some (.obj members) }
    members.OneSpelling ∧ t.headers.OneSpelling ∧
      ∃ request, Client.Builds {} (({} : Context).resolveCase (o.apply t)) [] request ∧
        carried request.headers "x-tenant" = ["case", "step"] := by
  intro t members o
  have own : Alike "X-Tenant" "x-tenant" := alike_iff_toList.mpr (by decide)
  have new : Alike "x-tenant" "x-tenant" := alike_iff_toList.mpr rfl
  let url : Url := { scheme := "http", host := some (.ipv6 [0, 0, 0, 0, 0, 0, 0, 1]), path := .parts ["7"] }
  have parsed : Url.ofText "http://[::1]/7" = .ok url := by cbv
  refine ⟨List.nodup_singleton _, List.nodup_singleton _,
    ⟨"GET", url, [("X-Tenant", "case"), ("x-tenant", "step")], none⟩,
    ⟨⟨"GET", "http://[::1]/7", _, none⟩, by cbv, ?_⟩, ?_⟩
  · rw [Draft.request, parsed]
    decide +kernel
  · simp [carried, spellings, own, new]

end Http
end TestScenario
