import Mathlib
import TestScenario.History.Reports
import TestScenario.Proofs.Logs
import TestScenario.Proofs.Routing

/-!
Runs that share a folder of reports. Each call concerns the record of one id, and a run that has ended has left a file
whose name tells its id. So reports of different runs do not touch each other, whatever order the calls come in
(`ReportFolder.reports_apart`).
-/

namespace TestScenario
variable {η ρ : Type}

/-! ### Calls -/

/-- What a call asks for. -/
def SinkCall.request : SinkCall → SinkRequest
  | .create r _ => .create r
  | .update r _ => .update r
  | .append l _ => .append l

deriving instance DecidableEq for SinkCall

/-- A call that takes a place from one state into another, with the answer of the place. -/
def SinkCall.Served (s : Sink η) (g h : η) : SinkCall → Prop
  | .create r answer => s.create r g = (answer, h)
  | .update r answer => s.update r g = (answer, h)
  | .append l answer => s.append l g = (answer, h)

/-- A call that a run makes under the id of its record until it ends. -/
def SinkCall.Notes (id : Int) : SinkCall → Prop
  | .create .. => False
  | .update r _ => r.id = some id ∧ r.status = .running
  | .append l _ => l.recordId = id

/-- The last one of some calls finds what the calls before it leave. -/
theorem Sink.served_last {s : Sink η} {f h : η} {calls : List SinkCall} {c : SinkCall}
    (served : s.noted.serveAll (f, []) ((calls ++ [c]).map SinkCall.request) = (h, calls ++ [c])) :
    ∃ g, s.noted.serveAll (f, []) (calls.map SinkCall.request) = (g, calls) ∧ c.Served s g h := by
  rw [List.map_append, serveAll, List.foldl_append] at served
  unfold serveAll
  generalize (calls.map SinkCall.request).foldl s.noted.serve (f, []) = before at served
  obtain ⟨g, notes⟩ := before
  cases c with
  | create | update | append =>
    obtain ⟨rfl, noted⟩ := Prod.mk.inj served
    obtain ⟨rfl, same⟩ := List.append_inj' noted rfl
    cases same
    exact ⟨g, rfl, rfl⟩

/-! ### Numbers between hyphens -/

/-- Two texts that are cut at the last place of a sign are cut at the same place. -/
theorem last_cut_inj {α : Type} {a : α} {xs ys ds es : List α} (same : xs ++ a :: ds = ys ++ a :: es) (last : a ∉ ds)
    (last' : a ∉ es) : xs = ys ∧ ds = es := by
  rcases List.append_eq_append_iff.mp same with ⟨_ | ⟨b, more⟩, front, rear⟩ | ⟨_ | ⟨b, more⟩, front, rear⟩
  · exact ⟨(List.append_nil xs ▸ front).symm, (List.cons.inj rear).2⟩
  · refine absurd ?_ last
    rw [(List.cons.inj rear).2]
    exact List.mem_append_right _ (List.mem_cons_self ..)
  · exact ⟨List.append_nil ys ▸ front, (List.cons.inj rear).2.symm⟩
  · refine absurd ?_ last'
    rw [(List.cons.inj rear).2]
    exact List.mem_append_right _ (List.mem_cons_self ..)

/-- The digits of a number have no hyphen. -/
theorem hyphen_notMem_toDigits (n : Nat) : '-' ∉ Nat.toDigits 10 n := fun hyphen =>
  absurd (Nat.isDigit_of_mem_toDigits (by decide) (by decide) hyphen) (by decide)

/-- A number after a hyphen has one more hyphen at most, in front. -/
theorem hyphen_toString (n : Int) :
    ∃ sign digits, '-' :: (toString n).toList = sign ++ '-' :: digits ∧ (sign = [] ∨ sign = ['-']) ∧ '-' ∉ digits := by
  cases n with
  | ofNat n => exact ⟨[], Nat.toDigits 10 n, congrArg ('-' :: ·) Nat.toList_repr, .inl rfl, hyphen_notMem_toDigits n⟩
  | negSucc n =>
    refine ⟨['-'], Nat.toDigits 10 (n + 1), ?_, .inr rfl, hyphen_notMem_toDigits (n + 1)⟩
    show '-' :: ("-" ++ (n + 1).repr).toList = _
    rw [String.toList_append, Nat.toList_repr]
    rfl

theorem digits_after_hyphen_inj {xs ys : List Char} {n m : Nat}
    (same : xs ++ '-' :: Nat.toDigits 10 n = ys ++ '-' :: Nat.toDigits 10 m) : n = m := by
  have digits := (last_cut_inj same (hyphen_notMem_toDigits n) (hyphen_notMem_toDigits m)).2
  rw [← Nat.toList_repr, ← Nat.toList_repr] at digits
  exact Nat.repr_inj.mp (String.toList_inj.mp digits)

theorem digits_ne_hyphen (xs ys : List Char) (n : Nat) : xs ++ '-' :: Nat.toDigits 10 n ≠ ys ++ ['-'] := fun same =>
  Nat.toDigits_ne_nil (last_cut_inj same (hyphen_notMem_toDigits n) List.not_mem_nil).2

/-- A number between two hyphens can be told by the integer that follows, whatever comes before it. -/
theorem between_hyphens_inj {xs ys : List Char} {n m : Nat} {i j : Int}
    (same : xs ++ '-' :: Nat.toDigits 10 n ++ '-' :: (toString i).toList =
      ys ++ '-' :: Nat.toDigits 10 m ++ '-' :: (toString j).toList) : n = m := by
  obtain ⟨sign, ds, text, signs, plain⟩ := hyphen_toString i
  obtain ⟨sign', es, text', signs', plain'⟩ := hyphen_toString j
  rw [text, text', ← List.append_assoc, ← List.append_assoc] at same
  have front := (last_cut_inj same plain plain').1
  rcases signs with rfl | rfl <;> rcases signs' with rfl | rfl
  · rw [List.append_nil, List.append_nil] at front
    exact digits_after_hyphen_inj front
  · rw [List.append_nil] at front
    exact absurd front (digits_ne_hyphen _ _ n)
  · rw [List.append_nil] at front
    exact absurd front.symm (digits_ne_hyphen _ _ m)
  · exact digits_after_hyphen_inj (List.append_cancel_right front)

namespace ReportFolder

theorem toList_fileName (format : ReportFormat) {r : RunRecord} {n : Nat} (own : r.id = some (n : Int)) (t : Int) :
    (fileName format r t).toList = (sanitized r.scenarioName).toList ++ '-' :: Nat.toDigits 10 n
      ++ '-' :: (toString t).toList ++ '.' :: format.extension.toList := by
  have digits : (n : Int).repr.toList = Nat.toDigits 10 n := Nat.toList_repr
  simp [fileName, own, digits]

/-- Reports of records with different ids are in files of different names, whatever else the records say and whenever
    they are written. -/
theorem fileName_inj {format : ReportFormat} {r q : RunRecord} {i j t u : Int} (own : r.id = some i)
    (other : q.id = some j) (positive : 1 ≤ i) (positive' : 1 ≤ j) (same : fileName format r t = fileName format q u) :
    i = j := by
  lift i to Nat using Int.le_of_lt positive
  lift j to Nat using Int.le_of_lt positive'
  have texts := congrArg String.toList same
  rw [toList_fileName format own, toList_fileName format other] at texts
  exact congrArg _ (between_hyphens_inj (List.append_cancel_right texts))

/-! ### Runs -/

/-- The calls of one of several runs. -/
def callsBy [DecidableEq ρ] (calls : List (ρ × SinkCall)) (run : ρ) : List SinkCall :=
  (calls.filter (·.1 = run)).map (·.2)

section
variable [DecidableEq ρ] (calls : List (ρ × SinkCall)) (c : SinkCall) {run other : ρ}

theorem callsBy_append_self : callsBy (calls ++ [(run, c)]) run = callsBy calls run ++ [c] := by
  simp [callsBy]

theorem callsBy_append_of_ne (apart : other ≠ run) : callsBy (calls ++ [(run, c)]) other = callsBy calls other := by
  simp [callsBy, Ne.symm apart]

end

/-- The calls of a run under way: it has asked for a record, and makes calls under the id of this record. -/
def Underway (id : Int) (calls : List SinkCall) : Prop :=
  ∃ first notes, calls = .create first (.ok id) :: notes ∧ ∀ c ∈ notes, c.Notes id

/-- The calls of a run that has ended, which keeps its record once more in the end. -/
def Ended (id : Int) (last : RunRecord) (answer : Except Fault Unit) (calls : List SinkCall) : Prop :=
  ∃ before, Underway id before ∧ last.id = some id ∧ last.status ≠ .running ∧ calls = before ++ [.update last answer]

/-- Calls as one run makes them, which has not begun, or is under way, or has ended. -/
def OfOneRun (calls : List SinkCall) : Prop :=
  calls = [] ∨ (∃ id, Underway id calls) ∨ ∃ id last answer, Ended id last answer calls

/-- The id that a run has been given by its first call. -/
def known? (calls : List SinkCall) : Option Int := calls.head?.bind SinkCall.created?

section
variable {id : Int} {calls : List SinkCall} {c : SinkCall} {last : RunRecord} {answer : Except Fault Unit}

theorem Underway.known (underway : Underway id calls) : known? calls = some id := by
  obtain ⟨first, notes, rfl, -⟩ := underway
  rfl

theorem Ended.known (ended : Ended id last answer calls) : known? calls = some id := by
  obtain ⟨_, ⟨first, notes, rfl, -⟩, -, -, rfl⟩ := ended
  rfl

theorem Ended.named (ended : Ended id last answer calls) : last.id = some id := by
  obtain ⟨_, -, named, -, -⟩ := ended
  exact named

theorem Underway.note (underway : Underway id calls) (own : c.Notes id) : Underway id (calls ++ [c]) := by
  obtain ⟨first, notes, rfl, plain⟩ := underway
  exact ⟨first, notes ++ [c], rfl, List.forall_mem_append.mpr ⟨plain, List.forall_mem_singleton.mpr own⟩⟩

/-- A last call is the first one too, or it is a note of the run or its end. -/
theorem OfOneRun.last_cases (life : OfOneRun (calls ++ [c])) :
    (calls = [] ∧ ∃ first id, c = .create first (.ok id)) ∨
      ∃ id, Underway id calls ∧
        (c.Notes id ∨ ∃ last answer, c = .update last answer ∧ last.id = some id ∧ last.status ≠ .running) := by
  rcases life with none | ⟨id, first, notes, same, plain⟩ | ⟨id, last, answer, before, underway, own, done, same⟩
  · exact absurd none (List.append_ne_nil_of_right_ne_nil _ nofun)
  · cases calls with
    | nil => exact .inl ⟨rfl, first, id, (List.cons.inj same).1⟩
    | cons call calls =>
      obtain ⟨rfl, rfl⟩ := List.cons.inj same
      have split := List.forall_mem_append.mp plain
      exact .inr ⟨id, ⟨first, calls, rfl, split.1⟩, .inl (split.2 c (List.mem_singleton.mpr rfl))⟩
  · obtain ⟨rfl, only⟩ := List.append_inj' same rfl
    exact .inr ⟨id, underway, .inr ⟨last, answer, (List.cons.inj only).1, own, done⟩⟩

theorem OfOneRun.before (life : OfOneRun (calls ++ [c])) : OfOneRun calls := by
  rcases life.last_cases with ⟨none, -⟩ | ⟨id, underway, -⟩
  · exact .inl none
  · exact .inr (.inl ⟨id, underway⟩)

theorem Ended.not_underway (ended : Ended id last answer calls) (i : Int) : ¬ Underway i calls := by
  obtain ⟨_, ⟨first, notes, rfl, -⟩, -, done, rfl⟩ := ended
  rintro ⟨first', notes', same, plain⟩
  obtain ⟨-, rfl⟩ := List.cons.inj same
  exact done (plain _ (List.mem_append_right _ (List.mem_singleton.mpr rfl))).2

theorem Ended.same_end {i : Int} {last' : RunRecord} {answer' : Except Fault Unit} (ended : Ended id last answer calls)
    (ended' : Ended i last' answer' calls) : last = last' ∧ answer = answer' := by
  obtain ⟨_, -, -, -, rfl⟩ := ended
  obtain ⟨_, -, -, -, same⟩ := ended'
  obtain ⟨-, only⟩ := List.append_inj' same rfl
  cases only
  exact ⟨rfl, rfl⟩

/-- A run that has ended makes no more calls. -/
theorem Ended.no_more (ended : Ended id last answer calls) : ¬ OfOneRun (calls ++ [c]) := by
  intro life
  rcases life.last_cases with ⟨rfl, -⟩ | ⟨i, underway, -⟩
  · cases ended.known
  · exact ended.not_underway i underway

end

/-! ### One call -/

/-- The logs among calls. -/
def logs (calls : List SinkCall) : List StepLog := calls.filterMap SinkCall.log?

/-- A report can be written into a file of a name. -/
def Writable (f : ReportFolder) (name : String) : Prop := f.blocked = false ∧ isFileName name

/-- A folder differs from another one in nothing that concerns records of ids other than `i`, apart from files. -/
structure Beside (i : Int) (g h : ReportFolder) : Prop where
  format : h.format = g.format
  blocked : h.blocked = g.blocked
  next : g.nextId ≤ h.nextId
  used : i < h.nextId
  pending : ∀ j, j ≠ i → h.pending.get? j = g.pending.get? j

/-- What a folder has of a run, by its calls up to the last one, whose report is written in the second `t`. -/
inductive Kept (i : Int) (own : List SinkCall) (t : Int) (g h : ReportFolder) : Prop
  | pending (underway : Underway i own) (logs : h.pending.get? i = some (logs own)) (same : h.files = g.files)
  | refused {last : RunRecord} {cause : Fault} (ended : Ended i last (.error cause) own)
      (unfit : ¬ g.Writable (fileName g.format last t)) (cleared : h.pending.get? i = none) (same : h.files = g.files)
  | written {last : RunRecord} (ended : Ended i last (.ok ()) own) (fit : g.Writable (fileName g.format last t))
      (cleared : h.pending.get? i = none)
      (report : h.files = g.files.insert (fileName g.format last t) ⟨last, logs own⟩)

variable {f g h : ReportFolder} {own : List SinkCall} {c : SinkCall} {i t : Int}

/-- The first call of a run is answered with an id that has not been used. -/
theorem kept_of_create {first : RunRecord} (served : (SinkCall.create first (.ok i)).Served sink g h) :
    i = g.nextId ∧ Beside i g h ∧ Kept i [.create first (.ok i)] t g h := by
  obtain ⟨answered, rfl⟩ := Prod.mk.inj served
  cases answered
  refine ⟨rfl, ⟨rfl, rfl, Int.le_add_one (Int.le_refl _), Int.lt_succ _, fun j other => ?_⟩, ?_⟩
  · exact (Table.get?_put ..).trans (if_neg other)
  · exact .pending ⟨first, [], rfl, List.forall_mem_nil _⟩ ((Table.get?_put ..).trans (if_pos rfl)) rfl

theorem kept_of_note (underway : Underway i own) (used : i < g.nextId) (pending : g.pending.get? i = some (logs own))
    (note : c.Notes i) (served : c.Served sink g h) : Beside i g h ∧ Kept i (own ++ [c]) t g h := by
  have further := underway.note note
  cases c with
  | create r answer => cases note
  | update r answer =>
    have still : sink.update r g = (.ok (), g) := if_pos (beq_iff_eq.mpr note.2)
    obtain ⟨-, rfl⟩ := Prod.mk.inj (still.symm.trans served)
    refine ⟨⟨rfl, rfl, Int.le_refl _, used, fun _ _ => rfl⟩, .pending further ?_ rfl⟩
    rw [pending, logs, logs, List.filterMap_append]
    exact congrArg some (List.append_nil _).symm
  | append l answer =>
    obtain rfl : l.recordId = i := note
    obtain ⟨-, rfl⟩ := Prod.mk.inj served
    refine ⟨⟨rfl, rfl, Int.le_refl _, used, fun j other => ?_⟩, .pending further ?_ rfl⟩
    · exact (Table.get?_put ..).trans (if_neg other)
    · rw [Table.get?_put, if_pos rfl, pending, logs, logs, List.filterMap_append]
      rfl

theorem kept_of_end {last : RunRecord} {answer : Except Fault Unit} (underway : Underway i own) (used : i < g.nextId)
    (pending : g.pending.get? i = some (logs own)) (named : last.id = some i) (done : last.status ≠ .running)
    (served : (SinkCall.update last answer).Served sink g h) :
    Beside i g h ∧ Kept i (own ++ [.update last answer]) (g.clock.head?.getD 0) g h := by
  have ended : Ended i last answer (own ++ [.update last answer]) := ⟨own, underway, named, done, rfl⟩
  have all : logs (own ++ [.update last answer]) = logs own := by
    rw [logs, logs, List.filterMap_append]
    exact List.append_nil _
  have updated : update last g = (answer, h) := served
  rw [update, if_neg (mt eq_of_beq done)] at updated
  simp only [named, pending, Option.getD_some] at updated
  split at updated
  · rename_i bad
    obtain ⟨rfl, rfl⟩ := Prod.mk.inj updated
    refine ⟨⟨rfl, rfl, Int.le_refl _, used, fun j other => Table.get?_erase_of_ne other _⟩,
      .refused ended ?_ (Table.get?_erase_self ..) rfl⟩
    rintro ⟨free, valid⟩
    simp [free, valid] at bad
  · rename_i good
    obtain ⟨rfl, rfl⟩ := Prod.mk.inj updated
    refine ⟨⟨rfl, rfl, Int.le_refl _, used, fun j other => Table.get?_erase_of_ne other _⟩,
      .written ended ?_ (Table.get?_erase_self ..) ?_⟩
    · simpa [Writable] using good
    · rw [all]

theorem Kept.known (kept : Kept i own t g h) : known? own = some i := by
  cases kept with
  | pending underway => exact underway.known
  | refused ended => exact ended.known
  | written ended => exact ended.known

/-- No file changes but that of the report. -/
theorem Kept.files {name : String} (kept : Kept i own t g h)
    (different : ∀ last, Ended i last (.ok ()) own → fileName g.format last t ≠ name) :
    h.files.get? name = g.files.get? name := by
  cases kept with
  | pending _ _ same => rw [same]
  | refused _ _ _ same => rw [same]
  | written ended _ _ report => rw [report, Dict.get?_insert, if_neg (different _ ended).symm]

/-- What a folder has of a run: its logs as long as it is under way, and when it has ended, its report of the second
    `t`. -/
structure Holds (g : ReportFolder) (own : List SinkCall) (t : Int) : Prop where
  used : ∀ i, known? own = some i → 1 ≤ i ∧ i < g.nextId
  pending : ∀ i, Underway i own → g.pending.get? i = some (logs own)
  cleared : ∀ i last answer, Ended i last answer own → g.pending.get? i = none
  answered : ∀ i last answer, Ended i last answer own → (answer = .ok () ↔ g.Writable (fileName g.format last t))
  written : ∀ i last, Ended i last (.ok ()) own → g.files.get? (fileName g.format last t) = some ⟨last, logs own⟩

theorem holds_nil (g : ReportFolder) (t : Int) : Holds g [] t := by
  constructor
  case used => exact nofun
  case pending => exact fun i underway => nomatch underway.known
  case cleared => exact fun i last answer ended => nomatch ended.known
  case answered => exact fun i last answer ended => nomatch ended.known
  case written => exact fun i last ended => nomatch ended.known

/-- After a call the folder holds what the run that has made the call is now. -/
theorem Kept.holds (kept : Kept i own t g h) (beside : Beside i g h) (positive : 1 ≤ i) : Holds h own t := by
  have same {j : Int} (known : known? own = some j) : j = i := Option.some.inj (known.symm.trans kept.known)
  constructor
  case used =>
    intro j known
    obtain rfl := same known
    exact ⟨positive, beside.used⟩
  case pending =>
    intro j underway
    obtain rfl := same underway.known
    cases kept with
    | pending _ logs => exact logs
    | refused ended => exact absurd underway (ended.not_underway j)
    | written ended => exact absurd underway (ended.not_underway j)
  case cleared =>
    intro j last answer ended
    obtain rfl := same ended.known
    cases kept with
    | pending underway => exact absurd underway (ended.not_underway j)
    | refused _ _ cleared => exact cleared
    | written _ _ cleared => exact cleared
  case answered =>
    intro j last answer ended
    unfold Writable
    rw [beside.blocked, beside.format]
    cases kept with
    | pending underway => exact absurd underway (ended.not_underway i)
    | refused done unfit =>
      obtain ⟨rfl, rfl⟩ := ended.same_end done
      exact iff_of_false nofun unfit
    | written done fit =>
      obtain ⟨rfl, rfl⟩ := ended.same_end done
      exact iff_of_true rfl fit
  case written =>
    intro j last ended
    cases kept with
    | pending underway => exact absurd underway (ended.not_underway i)
    | refused refused => cases (ended.same_end refused).2
    | written done _ _ report =>
      obtain ⟨rfl, -⟩ := ended.same_end done
      rw [report, Dict.get?_insert, beside.format, if_pos rfl]

/-- After a call the folder still holds what the other runs are. -/
theorem Holds.keep {other : List SinkCall} {u : Int} (holds : Holds g other u) (kept : Kept i own t g h)
    (beside : Beside i g h) (positive : 1 ≤ i) (different : known? other ≠ some i) : Holds h other u := by
  have apart {j : Int} (known : known? other = some j) : j ≠ i := fun same => different (same ▸ known)
  constructor
  case used =>
    intro j known
    exact ⟨(holds.used j known).1, Int.lt_of_lt_of_le (holds.used j known).2 beside.next⟩
  case pending =>
    intro j underway
    rw [beside.pending j (apart underway.known)]
    exact holds.pending j underway
  case cleared =>
    intro j last answer ended
    rw [beside.pending j (apart ended.known)]
    exact holds.cleared j last answer ended
  case answered =>
    intro j last answer ended
    unfold Writable
    rw [beside.blocked, beside.format]
    exact holds.answered j last answer ended
  case written =>
    intro j last ended
    rw [beside.format, kept.files fun done written same => ?_]
    · exact holds.written j last ended
    · have ids := fileName_inj written.named ended.named positive (holds.used j ended.known).1 same
      exact apart ended.known ids.symm

/-! ### All calls -/

/-- A folder after calls of several runs, which have begun with the folder `f` and whose reports are written in the
    seconds given. -/
structure Shared [DecidableEq ρ] (f : ReportFolder) (calls : List (ρ × SinkCall)) (second : ρ → Int) (g : ReportFolder) :
    Prop where
  format : g.format = f.format
  blocked : g.blocked = f.blocked
  next : 1 ≤ g.nextId
  holds : ∀ run, Holds g (callsBy calls run) (second run)
  apart : ∀ one other i, known? (callsBy calls one) = some i → known? (callsBy calls other) = some i → one = other
  rest : ∀ name,
    (∀ run i last, Ended i last (.ok ()) (callsBy calls run) → fileName f.format last (second run) ≠ name) →
      g.files.get? name = f.files.get? name

section
variable [DecidableEq ρ] {calls : List (ρ × SinkCall)} {second : ρ → Int} {run : ρ}

/-- One more call, of any of the runs. -/
theorem Shared.call (shared : Shared f calls second g) (life : OfOneRun (callsBy calls run ++ [c]))
    (origin : known? (callsBy calls run) = some i ∨ callsBy calls run = [] ∧ i = g.nextId)
    (beside : Beside i g h) (kept : Kept i (callsBy calls run ++ [c]) t g h) :
    Shared f (calls ++ [(run, c)]) (Function.update second run t) h := by
  have own : callsBy (calls ++ [(run, c)]) run = callsBy calls run ++ [c] := callsBy_append_self ..
  have others {other : ρ} (ne : other ≠ run) : callsBy (calls ++ [(run, c)]) other = callsBy calls other :=
    callsBy_append_of_ne _ _ ne
  have positive : 1 ≤ i := by
    rcases origin with known | ⟨-, rfl⟩
    · exact ((shared.holds run).used i known).1
    · exact shared.next
  have different {other : ρ} (ne : other ≠ run) : known? (callsBy calls other) ≠ some i := by
    intro known
    rcases origin with same | ⟨-, rfl⟩
    · exact ne (shared.apart _ _ _ known same)
    · exact absurd ((shared.holds other).used _ known).2 (Int.lt_irrefl _)
  constructor
  case format => exact beside.format.trans shared.format
  case blocked => exact beside.blocked.trans shared.blocked
  case next => exact Int.le_trans shared.next beside.next
  case holds =>
    intro other
    by_cases ne : other = run
    · subst ne
      rw [own, Function.update_self]
      exact kept.holds beside positive
    · rw [others ne, Function.update_of_ne ne]
      exact (shared.holds other).keep kept beside positive (different ne)
  case apart =>
    intro one other j known known'
    by_cases ne : one = run <;> by_cases ne' : other = run
    · exact ne.trans ne'.symm
    · subst ne
      rw [own, kept.known] at known
      rw [others ne', ← known] at known'
      exact absurd known' (different ne')
    · subst ne'
      rw [own, kept.known] at known'
      rw [others ne, ← known'] at known
      exact absurd known (different ne)
    · rw [others ne] at known
      rw [others ne'] at known'
      exact shared.apart one other j known known'
  case rest =>
    intro name free
    rw [kept.files fun last ended => ?_]
    · refine shared.rest name fun other j last ended => ?_
      by_cases ne : other = run
      · subst ne
        exact absurd life ended.no_more
      · have apart := free other j last ((others ne).symm ▸ ended)
        rwa [Function.update_of_ne ne] at apart
    · have apart := free run i last (own.symm ▸ ended)
      rwa [Function.update_self, ← shared.format] at apart

/-- Any calls of several runs, in any order. -/
theorem shared_of_served (next : 1 ≤ f.nextId) (lives : ∀ run, OfOneRun (callsBy calls run))
    (served : sink.noted.serveAll (f, []) (calls.map (·.2.request)) = (g, calls.map (·.2))) :
    ∃ second, Shared f calls second g := by
  induction calls using List.reverseRecOn generalizing g with
  | nil =>
    cases served
    exact ⟨fun _ => 0, rfl, rfl, next, fun _ => holds_nil _ 0, fun _ _ _ known => (nomatch known), fun _ _ => rfl⟩
  | append_singleton calls call ih =>
    obtain ⟨run, c⟩ := call
    have life := lives run
    rw [callsBy_append_self] at life
    have before (other : ρ) : OfOneRun (callsBy calls other) := by
      by_cases ne : other = run
      · subst ne
        exact life.before
      · exact callsBy_append_of_ne calls c ne ▸ lives other
    have requests : (calls ++ [(run, c)]).map (·.2.request) = (calls.map (·.2) ++ [c]).map SinkCall.request := by simp
    have noted : (calls ++ [(run, c)]).map (·.2) = calls.map (·.2) ++ [c] := List.map_append
    rw [requests, noted] at served
    obtain ⟨middle, earlier, last⟩ := Sink.served_last served
    rw [List.map_map] at earlier
    obtain ⟨second, shared⟩ := ih before earlier
    have holds := shared.holds run
    rcases life.last_cases with ⟨none, first, i, rfl⟩ | ⟨i, underway, note | ⟨record, answer, rfl, named, done⟩⟩
    · obtain ⟨rfl, beside, kept⟩ := kept_of_create last
      refine ⟨_, shared.call (t := 0) life (.inr ⟨none, rfl⟩) beside ?_⟩
      rw [none]
      exact kept
    · obtain ⟨beside, kept⟩ :=
        kept_of_note underway (holds.used i underway.known).2 (holds.pending i underway) note last
      exact ⟨_, shared.call (t := 0) life (.inl underway.known) beside kept⟩
    · obtain ⟨beside, kept⟩ :=
        kept_of_end underway (holds.used i underway.known).2 (holds.pending i underway) named done last
      exact ⟨_, shared.call life (.inl underway.known) beside kept⟩

/-- Runs that share a folder have one report each, written in some second. However their calls meet, a run that has
    ended has no logs pending, and its report is in a file of its own if one can be written, with its own logs in
    their order and no others. No two runs have files of one name, whenever they are written, and no other file
    changes. -/
theorem reports_apart (next : 1 ≤ f.nextId) (lives : ∀ run, OfOneRun (callsBy calls run))
    (served : sink.noted.serveAll (f, []) (calls.map (·.2.request)) = (g, calls.map (·.2))) :
    ∃ second : ρ → Int,
      (∀ run i last answer, Ended i last answer (callsBy calls run) →
        let name := fileName f.format last (second run)
        g.pending.get? i = none ∧ (answer = .ok () ↔ f.Writable name) ∧
          (answer = .ok () → g.files.get? name = some ⟨last, logs (callsBy calls run)⟩)) ∧
      (∀ one other i j last last' answer answer', one ≠ other → Ended i last answer (callsBy calls one) →
        Ended j last' answer' (callsBy calls other) → ∀ t u, fileName f.format last t ≠ fileName f.format last' u) ∧
      ∀ name,
        (∀ run i last, Ended i last (.ok ()) (callsBy calls run) → fileName f.format last (second run) ≠ name) →
          g.files.get? name = f.files.get? name := by
  obtain ⟨second, shared⟩ := shared_of_served next lives served
  refine ⟨second, fun run i last answer ended => ?_, fun one other i j last last' _ _ ne ended ended' t u same => ?_,
    shared.rest⟩
  · have holds := shared.holds run
    refine ⟨holds.cleared i last answer ended, ?_, ?_⟩
    · have answered := holds.answered i last answer ended
      unfold Writable at answered ⊢
      rwa [shared.blocked, shared.format] at answered
    · rintro rfl
      exact shared.format ▸ holds.written i last ended
  · have ids := fileName_inj ended.named ended'.named ((shared.holds one).used i ended.known).1
      ((shared.holds other).used j ended'.known).1 same
    exact ne (shared.apart one other i ended.known (ids ▸ ended'.known))

/-- Two runs of one scenario that end within one second. -/
theorem reports_apart_at_once :
    let f : ReportFolder := { format := .json, clock := [5, 5] }
    let first := RunRecord.start { id := 1, name := "Check out" } "" 0
    let running (i : Int) : RunRecord := { first with id := some i }
    let last (i : Int) : RunRecord := (running i).finish [] 0 false 5000
    let log (i id : Int) : StepLog := .ofResult i ⟨{ id, kind := .script }, []⟩ (.withMessage id "" .pass "") 0
    let calls : List (Bool × SinkCall) := [
      (true, .create first (.ok 1)), (false, .create first (.ok 2)), (false, .append (log 2 8) (.ok ())),
      (true, .append (log 1 8) (.ok ())), (true, .update (running 1) (.ok ())), (false, .update (last 2) (.ok ())),
      (true, .append (log 1 9) (.ok ())), (true, .update (last 1) (.ok ()))]
    ∃ g, sink.noted.serveAll (f, []) (calls.map (·.2.request)) = (g, calls.map (·.2)) ∧
      (∀ run, OfOneRun (callsBy calls run)) ∧
      g.files.names = ["Check_out-1-5.json", "Check_out-2-5.json"] ∧
      ∃ second : Bool → Int,
        g.files.get? (fileName f.format (last 1) (second true)) = some ⟨last 1, [log 1 8, log 1 9]⟩ ∧
          g.files.get? (fileName f.format (last 2) (second false)) = some ⟨last 2, [log 2 8]⟩ := by
  intro f first running last log calls
  let g : ReportFolder := {
    format := .json
    nextId := 3
    files := [("Check_out-1-5.json", ⟨last 1, [log 1 8, log 1 9]⟩), ("Check_out-2-5.json", ⟨last 2, [log 2 8]⟩)] }
  have served : sink.noted.serveAll (f, []) (calls.map (·.2.request)) = (g, calls.map (·.2)) := by decide +kernel
  have one : Ended 1 (last 1) (.ok ()) (callsBy calls true) :=
    ⟨_, ⟨first, [.append (log 1 8) (.ok ()), .update (running 1) (.ok ()), .append (log 1 9) (.ok ())], rfl, by
      simp [SinkCall.Notes, log, StepLog.ofResult, running, first, RunRecord.start]⟩, rfl, by decide, rfl⟩
  have two : Ended 2 (last 2) (.ok ()) (callsBy calls false) :=
    ⟨_, ⟨first, [.append (log 2 8) (.ok ())], rfl, List.forall_mem_singleton.mpr rfl⟩, rfl, by decide, rfl⟩
  have lives (run : Bool) : OfOneRun (callsBy calls run) := by
    cases run with
    | true => exact .inr (.inr ⟨_, _, _, one⟩)
    | false => exact .inr (.inr ⟨_, _, _, two⟩)
  obtain ⟨second, reports, -⟩ := reports_apart (by decide) lives served
  exact ⟨g, served, lives, rfl, second, (reports true 1 (last 1) _ one).2.2 rfl, (reports false 2 (last 2) _ two).2.2 rfl⟩

end
end ReportFolder
end TestScenario
