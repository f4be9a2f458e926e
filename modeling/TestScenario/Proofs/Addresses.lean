import Mathlib
import TestScenario.Http.Client

/-!
Where the address of a case leads from a base on the web. A text leads to another place if it has a scheme that is not
the base's or a host of its own, and a slash in front of it does not keep it from doing so: slashes at its beginning are
taken away before it is read (`rooted_address`). A text with the mark of an absolute address anywhere is not joined at
all.
-/

namespace TestScenario

namespace Url

/-- Where a text leads from a base with some scheme. -/
inductive Lead where
  /-- To the place of the base. -/
  | inside
  /-- To the place that the text names. -/
  | place (authority : List Char)
  /-- To an address with another scheme. -/
  | scheme (scheme : String)
deriving DecidableEq

/-- The slashes and backslashes that a text begins with. -/
def slashes (cs : List Char) : List Char := cs.takeWhile (isSlash true)

/-- The authority behind the slashes that a text without scheme begins with; if they are written usually, it begins
    behind the second one. -/
def behindSlashes (cs : List Char) : List Char :=
  match slashes cs with
  | '/' :: '/' :: _ => cs.drop 2
  | more => cs.drop more.length

/-- Where a text leads from a base on the web: a scheme that is not the base's or two slashes lead elsewhere. -/
def lead (scheme text : String) : Lead :=
  let cs := significant text
  match scheme? cs with
  | none => if (slashes cs).length < 2 then .inside else .place (behindSlashes cs)
  | some (s, rest) =>
    if s ≠ scheme then .scheme s
    else if (slashes rest).length < 2 then .inside
    else .place (rest.drop (slashes rest).length)

/-- Two addresses with the same scheme, name and password, host, and port. -/
structure SamePlace (u v : Url) : Prop where
  scheme : v.scheme = u.scheme
  username : v.username = u.username
  password : v.password = u.password
  host : v.host = u.host
  port : v.port = u.port

/-- A path that other addresses can be relative to. -/
def HasParts (u : Url) : Prop := ∃ names, u.path = .parts names

variable {b u : Url} {cs : List Char} {s text : String}

theorem Path.ofText_parts (cs : List Char) : ∃ names, Path.ofText cs = .parts names := by
  cases cs with
  | nil => exact ⟨_, rfl⟩
  | cons c rest => exact ⟨_, rfl⟩

theorem withPath_hasParts (u : Url) (path cs : List Char) : (withPath u path cs).HasParts := Path.ofText_parts _

theorem samePath?_same (found : samePath? b cs = some u) : b.SamePlace u := by
  unfold samePath? at found
  split at found
  all_goals cases found
  all_goals exact ⟨rfl, rfl, rfl, rfl, rfl⟩

/-! ### Schemes of what is read -/

/-- What an authority is read to has the scheme it is read with, and a path of parts. -/
theorem ofAuthority_scheme (read : ofAuthority s cs = .ok u) : u.scheme = s ∧ u.HasParts := by
  simp only [ofAuthority, bind, Except.bind] at read
  repeat' split at read
  all_goals cases read
  all_goals first
    | exact ⟨rfl, withPath_hasParts ..⟩
    | exact ⟨rfl, [], rfl⟩

theorem ofFileHost_scheme (read : ofFileHost cs = .ok u) : u.scheme = "file" := by
  simp only [ofFileHost, bind, Except.bind] at read
  repeat' split at read
  all_goals cases read
  all_goals rfl

theorem ofFile_scheme (read : ofFile none cs = .ok u) : u.scheme = "file" := by
  simp only [ofFile] at read
  repeat' split at read
  all_goals first
    | exact ofFileHost_scheme read
    | cases read; rfl

/-- What is read without a base has the scheme that the text begins with. -/
theorem ofScheme_scheme (read : ofScheme none s cs = .ok u) : u.scheme = s := by
  simp only [ofScheme, Option.filter_none] at read
  split at read
  · rename_i isFile
    rw [ofFile_scheme read]
    exact (beq_iff_eq.mp isFile).symm
  · split at read
    · exact (ofAuthority_scheme read).1
    · split at read
      · exact (ofAuthority_scheme read).1
      · cases read
        rfl
      · cases read
        rfl

theorem isSpecial_of_web (web : u.isWeb) : isSpecial u.scheme = true ∧ u.scheme ≠ "file" := by
  simp only [isWeb, Bool.or_eq_true, beq_iff_eq] at web
  obtain same | same := web
  · rw [same]
    decide
  · rw [same]
    decide

/-- An address on the web that has been read has a path of parts. -/
theorem hasParts_of_web (read : ofText text = .ok u) (web : u.isWeb) : u.HasParts := by
  obtain ⟨special, noFile⟩ := isSpecial_of_web web
  simp only [ofText, resolve] at read
  split at read
  · rename_i scheme rest _
    have same := ofScheme_scheme read
    rw [same] at special noFile
    simp only [ofScheme, Option.filter_none, beq_eq_false_iff_ne.mpr noFile, special] at read
    exact (ofAuthority_scheme read).2
  · cases read

/-! ### Joining -/

/-- Text that begins with less than two slashes leads to the place of its base. -/
theorem relativeTo_same (few : (slashes cs).length < 2) : ∃ u, relativeTo b cs = .ok u ∧ b.SamePlace u := by
  unfold relativeTo
  rw [slashes] at few
  cases found : samePath? b cs with
  | some u => exact ⟨u, rfl, samePath?_same found⟩
  | none =>
    match here : cs.takeWhile (isSlash true) with
    | [] => exact ⟨_, rfl, rfl, rfl, rfl, rfl, rfl⟩
    | [_] => exact ⟨_, rfl, rfl, rfl, rfl, rfl, rfl⟩
    | _ :: _ :: _ => simp [here] at few

theorem samePath?_of_slashes (begins : slashes cs ≠ []) : samePath? b cs = none := by
  cases cs with
  | nil => exact absurd rfl begins
  | cons c rest =>
    have slash : isSlash true c = true := by
      by_contra no
      exact begins (List.takeWhile_cons_of_neg no)
    simp only [isSlash, Bool.or_eq_true, beq_iff_eq, Bool.true_and] at slash
    obtain rfl | rfl := slash
    · rfl
    · rfl

/-- Text that begins with two slashes or more leads to the place that it names. -/
theorem relativeTo_place (many : ¬ (slashes cs).length < 2) :
    relativeTo b cs = ofAuthority b.scheme (behindSlashes cs) := by
  have begins : slashes cs ≠ [] := fun none => many (by simp [none])
  rw [relativeTo, samePath?_of_slashes begins, behindSlashes, slashes]
  rw [slashes] at many
  match here : cs.takeWhile (isSlash true) with
  | [] => simp [here] at many
  | [_] => simp [here] at many
  | c :: d :: more =>
    dsimp only
    split
    · contradiction
    · rename_i single
      cases single
    · rename_i usual
      cases usual
      rfl
    · rename_i unusual
      split
      · rename_i usual
        exact absurd usual (unusual _)
      · rfl

theorem join_of_web (web : b.isWeb) (parts : b.HasParts) (text : String) :
    b.join text =
      match scheme? (significant text) with
      | none => relativeTo b (significant text)
      | some (s, rest) => ofScheme (some b) s rest := by
  obtain ⟨names, path⟩ := parts
  obtain ⟨-, noFile⟩ := isSpecial_of_web web
  rw [join, resolve]
  cases scheme? (significant text) with
  | none => simp only [path, beq_eq_false_iff_ne.mpr noFile, Bool.false_eq_true, if_false]
  | some found => rfl

/-- Text with another scheme than its base is read as without it. -/
theorem ofScheme_of_other (other : s ≠ b.scheme) : ofScheme (some b) s cs = ofScheme none s cs := by
  have filtered : (some b).filter (·.scheme == s) = none := by simp [Ne.symm other]
  simp only [ofScheme, filtered, Option.filter_none]

/-- What comes of a text joined to a base, going by where it leads. -/
inductive Lead.Reached (b : Url) (joined : Except UrlError Url) : Lead → Prop where
  | inside {u : Url} (joins : joined = .ok u) (same : b.SamePlace u) : Reached b joined .inside
  | place {authority : List Char} (joins : joined = ofAuthority b.scheme authority) : Reached b joined (.place authority)
  | scheme {s : String} (other : s ≠ b.scheme) (same : ∀ u, joined = .ok u → u.scheme = s) : Reached b joined (.scheme s)

/-- A text joined to a base on the web leads where its beginning says. -/
theorem join_lead (web : b.isWeb) (parts : b.HasParts) (text : String) :
    (lead b.scheme text).Reached b (b.join text) := by
  obtain ⟨special, noFile⟩ := isSpecial_of_web web
  rw [join_of_web web parts, lead]
  cases scheme? (significant text) with
  | none =>
    by_cases few : (slashes (significant text)).length < 2
    · obtain ⟨u, joins, same⟩ := relativeTo_same few
      simp only [if_pos few]
      exact .inside joins same
    · simp only [if_neg few]
      exact .place (relativeTo_place few)
  | some found =>
    obtain ⟨s, rest⟩ := found
    by_cases same : s = b.scheme
    · subst same
      have kept : (some b).filter (·.scheme == b.scheme) = some b := by simp [Option.filter_some]
      have own : ofScheme (some b) b.scheme rest =
          if (slashes rest).length < 2 then relativeTo b rest
          else ofAuthority b.scheme (rest.drop (slashes rest).length) := by
        simp only [ofScheme, beq_eq_false_iff_ne.mpr noFile, special, kept, slashes, Bool.false_eq_true, if_false, if_true]
        rfl
      simp only [ne_eq, not_true_eq_false, if_false, own]
      by_cases few : (slashes rest).length < 2
      · obtain ⟨u, joins, same⟩ := relativeTo_same few
        simp only [if_pos few]
        exact .inside joins same
      · simp only [if_neg few]
        exact .place rfl
    · simp only [ne_eq, same, not_false_eq_true, if_true]
      exact .scheme same fun u read => ofScheme_scheme (ofScheme_of_other same ▸ read)

/-! ### Texts behind a slash -/

/-- A visible character at the beginning of a text counts. -/
theorem significant_of_visible {c : Char} (begins : text.toList.head? = some c) (visible : 0x20 < c.toNat) :
    ∃ more, significant text = c :: more := by
  obtain ⟨rest, chars⟩ := List.head?_eq_some_iff.mp begins
  have stays (rest : List Char) : (c :: rest).dropWhile (fun c => decide (c.toNat ≤ 0x20)) = c :: rest :=
    List.dropWhile_cons_of_neg (by simpa using visible)
  have counts : (c != '\t' && c != '\n' && c != '\r') = true := by
    have other (d : Char) (blank : d.toNat ≤ 0x20) : (c != d) = true := bne_iff_ne.mpr fun same => by
      rw [same] at visible
      omega
    rw [other '\t' (by decide), other '\n' (by decide), other '\r' (by decide)]
    rfl
  rw [significant, chars, stays, List.reverse_cons, List.dropWhile_append]
  split
  · rw [stays, List.reverse_singleton]
    exact ⟨[], List.filter_cons_of_pos counts⟩
  · rw [List.reverse_append]
    exact ⟨_, List.filter_cons_of_pos counts⟩

/-- Text that begins with a slash is no address on its own. -/
theorem ofText_of_slash {raw : String} (rooted : raw.toList.head? = some '/') : ofText raw = .error .relative := by
  obtain ⟨more, begins⟩ := significant_of_visible rooted (by decide)
  have none : scheme? ('/' :: more) = none := rfl
  rw [ofText, resolve, begins, none]

theorem mem_of_mem_significant {c : Char} (counts : c ∈ significant text) : c ∈ text.toList := by
  have inner := List.mem_reverse.mp (List.mem_filter.mp counts).1
  exact (List.dropWhile_sublist _).subset (List.mem_reverse.mp ((List.dropWhile_sublist _).subset inner))

theorem mem_colon_of_scheme {rest : List Char} (begins : scheme? cs = some (s, rest)) : ':' ∈ cs := by
  simp only [scheme?] at begins
  split at begins
  · cases begins
  · split at begins
    · rename_i behind
      exact List.mem_of_mem_drop (behind ▸ List.mem_cons_self)
    · cases begins

/-- Usual text, without a colon and with something else than a blank, a slash or a backslash at its beginning, leads
    to the place of the base. -/
theorem lead_inside (scheme : String) (noColon : ':' ∉ text.toList)
    (usual : ∀ c ∈ text.toList.head?, 0x20 < c.toNat ∧ isSlash true c = false) : lead scheme text = .inside := by
  have noScheme : scheme? (significant text) = none := by
    cases begins : scheme? (significant text) with
    | none => rfl
    | some found => exact absurd (mem_of_mem_significant (mem_colon_of_scheme begins)) noColon
  have noSlash : slashes (significant text) = [] := by
    cases begins : text.toList.head? with
    | none =>
      rw [significant, List.head?_eq_none_iff.mp begins]
      rfl
    | some c =>
      obtain ⟨visible, noSlash⟩ := usual c begins
      obtain ⟨more, significant⟩ := significant_of_visible begins visible
      rw [significant, slashes, List.takeWhile_cons_of_neg (by simp [noSlash])]
  simp only [lead, noScheme, noSlash]
  rfl

end Url

namespace Http
variable {c : Client} {base raw : String} {b : Url}

theorem Client.address_of_absolute (absolute : isAbsolute raw = true) : c.address raw = .ok raw := if_pos absolute

/-- Text without the mark of an absolute address is joined to the base without the slashes that it begins with. -/
theorem Client.address_eq_ok_iff (given : c.baseUrl = some base) (read : Url.ofText base = .ok b)
    (relative : ¬ isAbsolute raw = true) (some : raw.isEmpty = false) (text : String) :
    c.address raw = .ok text ↔
      ∃ u, b.join (String.ofList (raw.toList.dropWhile (· == '/'))) = .ok u ∧ text = u.text := by
  rw [Client.address, if_neg relative, given]
  simp only [read, some, Except.mapError, bind, Except.bind, Bool.false_eq_true, if_false]
  cases b.join (String.ofList (raw.toList.dropWhile (· == '/'))) with
  | error cause => simp
  | ok u => simp [eq_comm]

theorem isEmpty_of_slash (rooted : raw.toList.head? = some '/') : raw.isEmpty = false := by
  obtain ⟨rest, chars⟩ := List.head?_eq_some_iff.mp rooted
  refine Bool.eq_false_iff.mpr fun empty => ?_
  rw [String.isEmpty_iff.mp empty] at chars
  cases chars

/-- The address of a case that begins with a slash. With the mark of an absolute address anywhere it is left as it is,
    and then it is no address at all. Else it leads to the place of the base, unless it names a place or a scheme of
    its own. -/
theorem rooted_address (given : c.baseUrl = some base) (read : Url.ofText base = .ok b) (web : b.isWeb)
    (rooted : raw.toList.head? = some '/') :
    let led := Url.lead b.scheme (String.ofList (raw.toList.dropWhile (· == '/')))
    (isAbsolute raw → c.address raw = .ok raw ∧ Url.ofText raw = .error .relative) ∧
    (¬ isAbsolute raw →
      (led = .inside → ∃ u, c.address raw = .ok u.text ∧ b.SamePlace u) ∧
      (∀ authority, led = .place authority →
        ∀ text, c.address raw = .ok text ↔ ∃ u, Url.ofAuthority b.scheme authority = .ok u ∧ text = u.text) ∧
      (∀ s, led = .scheme s →
        s ≠ b.scheme ∧ ∀ text, c.address raw = .ok text → ∃ u : Url, text = u.text ∧ u.scheme = s)) := by
  intro led
  constructor
  · intro absolute
    exact ⟨Client.address_of_absolute absolute, Url.ofText_of_slash rooted⟩
  · intro relative
    have written := Client.address_eq_ok_iff given read relative (isEmpty_of_slash rooted)
    have reached : led.Reached b _ := Url.join_lead web (Url.hasParts_of_web read web) _
    refine ⟨fun inside => ?_, fun authority place => ?_, fun s scheme => ?_⟩
    · rw [inside] at reached
      cases reached with
      | inside joins same => exact ⟨_, (written _).mpr ⟨_, joins, rfl⟩, same⟩
    · rw [place] at reached
      cases reached with
      | place joins =>
        intro text
        rw [written, ← joins]
    · rw [scheme] at reached
      cases reached with
      | scheme other same =>
        refine ⟨other, fun text reads => ?_⟩
        obtain ⟨u, joins, text⟩ := (written text).mp reads
        exact ⟨u, text, same u joins⟩

/-- A path with a colon in its query, behind a base with a port. -/
theorem rooted_address_inside :
    let base := "http://[::1]:8080/v1/"
    let c : Client := { baseUrl := some base }
    ∃ b, Url.ofText base = .ok b ∧ b.isWeb ∧ ∃ u, c.address "/a?b=c:d" = .ok u.text ∧ b.SamePlace u := by
  intro base c
  let b : Url :=
    { scheme := "http", host := some (.ipv6 [0, 0, 0, 0, 0, 0, 0, 1]), port := some 8080, path := .parts ["v1", ""] }
  have read : Url.ofText base = .ok b := by cbv
  have web : b.isWeb := by decide
  have relative : isAbsolute "/a?b=c:d" = false := by cbv
  have inside : Url.lead "http" (String.ofList ("/a?b=c:d".toList.dropWhile (· == '/'))) = .inside := by cbv
  obtain ⟨-, joined⟩ := rooted_address (rfl : c.baseUrl = some base) read web (rfl : "/a?b=c:d".toList.head? = some '/')
  exact ⟨b, read, web, (joined (Bool.eq_false_iff.mp relative)).1 inside⟩

/-- A query with an address in it keeps the path from being joined, and a path that begins like an address with
    another scheme or, behind backslashes, with a host, is joined to that. -/
theorem rooted_address_leaves :
    let base := "http://[::1]/v1/"
    let c : Client := { baseUrl := some base }
    (∃ b, Url.ofText base = .ok b ∧ b.isWeb) ∧
      c.address "/a?b=http://c" = .ok "/a?b=http://c" ∧ Url.ofText "/a?b=http://c" = .error .relative ∧
      c.address "/https:[::2]/a" = .ok "https://[::2]/a" ∧ c.address "/http:\\\\[::2]/a" = .ok "http://[::2]/a" := by
  intro base c
  let b : Url := { scheme := "http", host := some (.ipv6 [0, 0, 0, 0, 0, 0, 0, 1]), path := .parts ["v1", ""] }
  have read : Url.ofText base = .ok b := by cbv
  let u : Url := { b with host := some (.ipv6 [0, 0, 0, 0, 0, 0, 0, 2]), path := .parts ["a"] }
  have scheme : b.join "https:[::2]/a" = .ok { u with scheme := "https" } := by cbv
  have place : b.join "http:\\\\[::2]/a" = .ok u := by cbv
  have absolute : isAbsolute "/a?b=http://c" = true := by cbv
  have first : isAbsolute "/https:[::2]/a" = false := by cbv
  have second : isAbsolute "/http:\\\\[::2]/a" = false := by cbv
  refine ⟨⟨b, read, by decide⟩, Client.address_of_absolute absolute, Url.ofText_of_slash rfl, ?_, ?_⟩
  · refine (Client.address_eq_ok_iff rfl read (Bool.eq_false_iff.mp first) (isEmpty_of_slash rfl) _).mpr ⟨_, scheme, ?_⟩
    cbv
  · refine (Client.address_eq_ok_iff rfl read (Bool.eq_false_iff.mp second) (isEmpty_of_slash rfl) _).mpr ⟨_, place, ?_⟩
    cbv

end Http
end TestScenario
