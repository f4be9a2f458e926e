import Mathlib
import TestScenario.History.Fanout
import TestScenario.History.Memory
import TestScenario.Proofs.Notes

/-!
Runs that share several places where they are kept. The id by which a run is known is that of the first place that has
accepted its record. Whatever places refuse and whenever they do, a run that asks for something reaches the records that
the places have made for it, as long as ids that lead never meet (`fanout_routes`). Nothing keeps ids of different
places from meeting: a place that refuses a record now and then is enough for a run to be taken for another one
(`fanout_confuses`).
-/

namespace TestScenario
variable {η : Type}

/-- What is asked of a place where runs are kept. -/
inductive SinkRequest where
  | create (r : RunRecord)
  | update (r : RunRecord)
  | append (l : StepLog)

namespace Sink

/-- A place after a request. -/
def serve (s : Sink η) (h : η) : SinkRequest → η
  | .create r => (s.create r h).2
  | .update r => (s.update r h).2
  | .append l => (s.append l h).2

/-- A place after requests of any runs, one after the other. -/
def serveAll (s : Sink η) (h : η) (requests : List SinkRequest) : η := requests.foldl s.serve h

end Sink

/-- A place that refuses new records now and then, as a list tells. -/
def Sink.wavering (s : Sink η) : Sink (List Bool × η) where
  create r h :=
    match h.1 with
    | true :: later => (.error (.because "create refused"), (later, h.2))
    | turns =>
      let (answer, inner) := s.create r h.2
      (answer, (turns.tail, inner))
  update r h :=
    let (answer, inner) := s.update r h.2
    (answer, (h.1, inner))
  append l h :=
    let (answer, inner) := s.append l h.2
    (answer, (h.1, inner))

/-- The id that a place has given to a new record. -/
def SinkCall.created? : SinkCall → Option Int
  | .create _ (.ok id) => some id
  | _ => none

/-- Every place has been asked for a new record and has given an id to it or refused it. -/
inductive Created (r : RunRecord) : List (Option Int) → List (η × List SinkCall) → List (η × List SinkCall) → Prop
  | nil : Created r [] [] []
  | cons {place next : η × List SinkCall} {places nexts : List (η × List SinkCall)} {ids : List (Option Int)}
      {answer : Except Fault Int} (noted : next.2 = place.2 ++ [.create r answer]) (others : Created r ids places nexts) :
      Created r (answer.toOption :: ids) (place :: places) (next :: nexts)

/-- Every place with an id has been called for this id, and no other place has been called. -/
inductive Reached (called : Int → SinkCall → Prop) :
    List (Option Int) → List (η × List SinkCall) → List (η × List SinkCall) → Prop
  | nil : Reached called [] [] []
  | some {place next : η × List SinkCall} {places nexts : List (η × List SinkCall)} {ids : List (Option Int)} {id : Int}
      {call : SinkCall} (own : called id call) (noted : next.2 = place.2 ++ [call])
      (others : Reached called ids places nexts) : Reached called (some id :: ids) (place :: places) (next :: nexts)
  | none {place : η × List SinkCall} {places nexts : List (η × List SinkCall)} {ids : List (Option Int)}
      (others : Reached called ids places nexts) : Reached called (none :: ids) (place :: places) (place :: nexts)

/-- A log is kept under an id. -/
def SinkCall.Logs (l : StepLog) (id : Int) (call : SinkCall) : Prop :=
  ∃ answer, call = .append { l with recordId := id } answer

/-- A record is kept in a new state under an id. -/
def SinkCall.Renews (r : RunRecord) (id : Int) (call : SinkCall) : Prop :=
  ∃ answer, call = .update { r with id := some id } answer

/-- A request about the record of an id reaches all places that have accepted this record, under the ids that they
    have given to it, and no other place. -/
def SinkRequest.Reaches (i : Int) (owns : List (Option Int)) (before after : List (η × List SinkCall)) :
    SinkRequest → Prop
  | .create _ => True
  | .update r => r.id = some i → Reached (SinkCall.Renews r) owns before after
  | .append l => l.recordId = i → Reached (SinkCall.Logs l) owns before after

namespace Fanout

/-- The calls noted so far of the place of a number. -/
def callsOf : List (η × List SinkCall) → Nat → List SinkCall
  | [], _ => []
  | place :: _, 0 => place.2
  | _ :: places, n + 1 => callsOf places n

/-- The ids that the place of a number has given so far. -/
def given (places : List (η × List SinkCall)) (n : Nat) : List Int := (callsOf places n).filterMap SinkCall.created?

/-- The first place that has given an id, and this id. -/
def leader? : List (Option Int) → Option (Nat × Int)
  | [] => none
  | some i :: _ => some (0, i)
  | none :: ids => (leader? ids).map (Prod.map (· + 1) id)

/-- The id by which a new record becomes known, after the number of the place that has given it. -/
def led? (s : Sink η) (f : Fanout η) : SinkRequest → Option (Nat × Int)
  | .create r => leader? (createAll s r f.places).1
  | .update _ | .append _ => none

/-- The ids by which records become known one after the other, each with the place that has given it. -/
def leaders (s : Sink η) : Fanout η → List SinkRequest → List (Nat × Int)
  | _, [] => []
  | f, q :: qs => (led? s f q).toList ++ leaders s ((sink s).serve f q) qs

/-- No place gives an id twice, and no two records become known by the same id of different places. -/
structure Apart (s : Sink η) (f : Fanout (η × List SinkCall)) (requests : List SinkRequest) : Prop where
  own : ∀ place ∈ ((sink s.noted).serveAll f requests).places, (place.2.filterMap SinkCall.created?).Nodup
  others : (leaders s.noted f requests).Pairwise fun a b => a.1 ≠ b.1 → a.2 ≠ b.2

theorem given_nodup {places : List (η × List SinkCall)}
    (own : ∀ place ∈ places, (place.2.filterMap SinkCall.created?).Nodup) (n : Nat) : (given places n).Nodup := by
  induction places generalizing n with
  | nil => exact List.nodup_nil
  | cons place places ih =>
    obtain ⟨here, later⟩ := List.forall_mem_cons.mp own
    cases n with
    | zero => exact here
    | succ n => exact ih later n

/-- The leading id is the first one of all. -/
theorem leader?_id (ids : List (Option Int)) : (leader? ids).map (·.2) = ids.findSome? id := by
  induction ids with
  | nil => rfl
  | cons i ids ih =>
    cases i with
    | some i => rfl
    | none => exact (Option.map_map ..).trans ih

end Fanout

open Fanout

namespace Created
variable {ids : List (Option Int)} {places nexts : List (η × List SinkCall)}

theorem length (created : Created r ids places nexts) : ids.length = places.length ∧ nexts.length = places.length := by
  induction created with
  | nil => exact ⟨rfl, rfl⟩
  | cons noted others ih => exact ⟨congrArg (· + 1) ih.1, congrArg (· + 1) ih.2⟩

theorem extends_calls (created : Created r ids places nexts) (n : Nat) : callsOf places n <+: callsOf nexts n := by
  induction created generalizing n with
  | nil => exact List.prefix_rfl
  | cons noted others ih =>
    cases n with
    | zero => exact ⟨_, noted.symm⟩
    | succ n => exact ih n

/-- The leading place has been asked for the record, and has given the leading id. -/
theorem leads {n : Nat} {i : Int} (created : Created r ids places nexts) (leading : leader? ids = some (n, i)) :
    callsOf nexts n = callsOf places n ++ [.create r (.ok i)] := by
  induction created generalizing n with
  | nil => cases leading
  | @cons place next places nexts ids answer noted others ih =>
    cases answer with
    | ok j =>
      cases leading
      exact noted
    | error cause =>
      obtain ⟨⟨m, j⟩, found, same⟩ := Option.map_eq_some_iff.mp leading
      cases same
      exact ih found

end Created

namespace Fanout
variable {s : Sink η} {r : RunRecord}

theorem createAll_created (s : Sink η) (r : RunRecord) (places : List (η × List SinkCall)) :
    Created r (createAll s.noted r places).1 places (createAll s.noted r places).2 := by
  induction places with
  | nil => exact .nil
  | cons place places ih => exact .cons rfl ih

theorem forward_reached {call : Int → η × List SinkCall → Except Fault Unit × (η × List SinkCall)}
    {called : Int → SinkCall → Prop}
    (notes : ∀ id place, ∃ c, called id c ∧ (call id place).2.2 = place.2 ++ [c])
    {ids : List (Option Int)} {places : List (η × List SinkCall)} (paired : ids.length = places.length) :
    Reached called ids places (forward call places ids) := by
  induction places generalizing ids with
  | nil =>
    obtain rfl := List.length_eq_zero_iff.mp paired
    exact .nil
  | cons place places ih =>
    cases ids with
    | nil => cases paired
    | cons id ids =>
      have others := ih (Nat.succ.inj paired)
      cases id with
      | none => exact .none others
      | some id =>
        obtain ⟨c, own, noted⟩ := notes id place
        exact .some own noted others

theorem create_places (s : Sink η) (r : RunRecord) (f : Fanout η) :
    (create s r f).2.places = (createAll s r f.places).2 := by
  unfold create
  generalize createAll s r f.places = made
  obtain ⟨ids, places⟩ := made
  simp only
  split
  · rfl
  · rfl

theorem forward_length {call : Int → η → Except Fault Unit × η} (places : List η) (ids : List (Option Int)) :
    (forward call places ids).length = places.length := by
  induction places generalizing ids with
  | nil => rfl
  | cons place places ih =>
    cases ids with
    | nil => rfl
    | cons id ids =>
      cases id with
      | none => exact congrArg (· + 1) (ih ids)
      | some id => exact congrArg (· + 1) (ih ids)

theorem forward_extends {call : Int → η × List SinkCall → Except Fault Unit × (η × List SinkCall)}
    (notes : ∀ id place, ∃ c, (call id place).2.2 = place.2 ++ [c]) (places : List (η × List SinkCall))
    (ids : List (Option Int)) (n : Nat) : callsOf places n <+: callsOf (forward call places ids) n := by
  induction places generalizing ids n with
  | nil => exact List.prefix_rfl
  | cons place places ih =>
    rcases ids with _ | ⟨_ | id, ids⟩
    · exact List.prefix_rfl
    · cases n with
      | zero => exact List.prefix_rfl
      | succ n => exact ih ids n
    · cases n with
      | zero =>
        obtain ⟨c, noted⟩ := notes id place
        exact ⟨[c], noted.symm⟩
      | succ n => exact ih ids n

/-- A record becomes known by the leading id, and its route is what the places have given. -/
theorem create_of_led {f : Fanout η} {n : Nat} {i : Int} (led : led? s f (.create r) = some (n, i)) :
    create s r f = (.ok i, ⟨(createAll s r f.places).2, f.routes.put i (createAll s r f.places).1⟩) := by
  have found : (createAll s r f.places).1.findSome? id = some i := by
    rw [← leader?_id, show leader? _ = _ from led]
    rfl
  unfold create
  generalize createAll s r f.places = made at found
  obtain ⟨ids, places⟩ := made
  simp only [show ids.findSome? id = some i from found]

theorem create_of_unled {f : Fanout η} (unled : led? s f (.create r) = none) :
    create s r f =
      (.error (.because "No history sink accepted the record"), { f with places := (createAll s r f.places).2 }) := by
  have found : (createAll s r f.places).1.findSome? id = none := by
    rw [← leader?_id, show leader? _ = _ from unled]
    rfl
  unfold create
  generalize createAll s r f.places = made at found
  obtain ⟨ids, places⟩ := made
  simp only [show ids.findSome? id = none from found]

theorem create_answer (s : Sink η) (r : RunRecord) (f : Fanout η) :
    (create s r f).1.toOption = (led? s f (.create r)).map (·.2) := by
  cases led : led? s f (.create r) with
  | none => exact congrArg (·.1.toOption) (create_of_unled led)
  | some leader => exact congrArg (·.1.toOption) (create_of_led led)

theorem led_of_answer {f : Fanout η} {i : Int} (answered : (create s r f).1 = .ok i) :
    ∃ n, led? s f (.create r) = some (n, i) := by
  have answer := create_answer s r f
  rw [answered] at answer
  obtain ⟨⟨n, j⟩, led, same⟩ := Option.map_eq_some_iff.mp answer.symm
  cases same
  exact ⟨n, led⟩

/-! ### One request -/

theorem serve_length (f : Fanout (η × List SinkCall)) (q : SinkRequest) :
    ((sink s.noted).serve f q).places.length = f.places.length := by
  cases q with
  | create r => exact (congrArg List.length (create_places s.noted r f)).trans (createAll_created s r f.places).length.2
  | update r =>
    show (update s.noted r f).2.places.length = f.places.length
    unfold update
    split
    · rfl
    · exact forward_length ..
  | append l => exact forward_length ..

/-- What has been noted of a place stays. -/
theorem serve_extends (f : Fanout (η × List SinkCall)) (q : SinkRequest) (n : Nat) :
    callsOf f.places n <+: callsOf ((sink s.noted).serve f q).places n := by
  cases q with
  | create r =>
    have made := (createAll_created s r f.places).extends_calls n
    rw [← create_places] at made
    exact made
  | update r =>
    show callsOf f.places n <+: callsOf (update s.noted r f).2.places n
    unfold update
    split
    · exact List.prefix_rfl
    · exact forward_extends (fun _ _ => ⟨_, rfl⟩) ..
  | append l => exact forward_extends (fun _ _ => ⟨_, rfl⟩) ..

/-- The leading place has given the leading id, after all that it has given before. -/
theorem given_of_led {f : Fanout (η × List SinkCall)} {q : SinkRequest} {n : Nat} {i : Int}
    (led : led? s.noted f q = some (n, i)) :
    given ((sink s.noted).serve f q).places n = given f.places n ++ [i] := by
  cases q with
  | create r =>
    have noted := (createAll_created s r f.places).leads led
    rw [← create_places] at noted
    exact (congrArg (List.filterMap SinkCall.created?) noted).trans (List.filterMap_append ..)
  | update r => cases led
  | append l => cases led

/-- A route stays if no record becomes known by its id. -/
theorem serve_routes {f : Fanout η} {q : SinkRequest} {i : Int} {owns : List (Option Int)}
    (other : ∀ leader ∈ led? s f q, i ≠ leader.2) (known : f.routes.get? i = some owns) :
    ((sink s).serve f q).routes.get? i = some owns := by
  cases q with
  | create r =>
    show (create s r f).2.routes.get? i = some owns
    cases led : led? s f (.create r) with
    | none => rw [create_of_unled led, known]
    | some leader => rw [create_of_led led, Table.get?_put, if_neg (other leader led), known]
  | update r =>
    show (update s r f).2.routes.get? i = some owns
    unfold update
    split
    · exact known
    · exact known
  | append l => exact known

/-- A call of all places together is noted with the leading id as its answer. -/
theorem noted_serve (f : Fanout η) (calls : List SinkCall) (q : SinkRequest) :
    ∃ call, (sink s).noted.serve (f, calls) q = ((sink s).serve f q, calls ++ [call]) ∧
      call.created? = (led? s f q).map (·.2) := by
  cases q with
  | create r =>
    refine ⟨.create r (create s r f).1, rfl, ?_⟩
    rw [← create_answer]
    cases (create s r f).1 with
    | ok i => rfl
    | error cause => rfl
  | update r => exact ⟨_, rfl, rfl⟩
  | append l => exact ⟨_, rfl, rfl⟩

/-! ### Requests one after the other -/

theorem leaders_append (f : Fanout η) (qs more : List SinkRequest) :
    leaders s f (qs ++ more) = leaders s f qs ++ leaders s ((sink s).serveAll f qs) more := by
  induction qs generalizing f with
  | nil => rfl
  | cons q qs ih => exact (congrArg (_ ++ ·) (ih _)).trans (List.append_assoc ..).symm

theorem serveAll_length (f : Fanout (η × List SinkCall)) (qs : List SinkRequest) :
    ((sink s.noted).serveAll f qs).places.length = f.places.length := by
  induction qs generalizing f with
  | nil => rfl
  | cons q qs ih => exact (ih _).trans (serve_length f q)

theorem serveAll_extends (f : Fanout (η × List SinkCall)) (qs : List SinkRequest) (n : Nat) :
    callsOf f.places n <+: callsOf ((sink s.noted).serveAll f qs).places n := by
  induction qs generalizing f with
  | nil => exact List.prefix_rfl
  | cons q qs ih => exact (serve_extends f q n).trans (ih _)

theorem serveAll_routes {f : Fanout η} {qs : List SinkRequest} {i : Int} {owns : List (Option Int)}
    (other : ∀ leader ∈ leaders s f qs, i ≠ leader.2) (known : f.routes.get? i = some owns) :
    ((sink s).serveAll f qs).routes.get? i = some owns := by
  induction qs generalizing f with
  | nil => exact known
  | cons q qs ih =>
    refine ih (fun leader member => other leader (List.mem_append_right _ member)) (serve_routes ?_ known)
    exact fun leader led => other leader (List.mem_append_left _ (Option.mem_toList.mpr led))

/-- The ids by which runs are known are those that lead. -/
theorem noted_serveAll (f : Fanout η) (calls : List SinkCall) (qs : List SinkRequest) :
    ((sink s).noted.serveAll (f, calls) qs).2.filterMap SinkCall.created? =
      calls.filterMap SinkCall.created? ++ (leaders s f qs).map (·.2) := by
  induction qs generalizing f calls with
  | nil => exact (List.append_nil _).symm
  | cons q qs ih =>
    obtain ⟨call, served, answer⟩ := noted_serve (s := s) f calls q
    show ((sink s).noted.serveAll ((sink s).noted.serve (f, calls) q) qs).2.filterMap SinkCall.created? = _
    rw [served, ih, List.filterMap_append, leaders, List.map_append, List.append_assoc]
    cases led : led? s f q with
    | none => simp [answer, led]
    | some leader => simp [answer, led]

/-- A place that gives no id twice leads with ids that it has not given before. -/
theorem leaders_fresh {f : Fanout (η × List SinkCall)} {qs : List SinkRequest}
    (own : ∀ n, (given ((sink s.noted).serveAll f qs).places n).Nodup) :
    ∀ leader ∈ leaders s.noted f qs, leader.2 ∉ given f.places leader.1 := by
  induction qs generalizing f with
  | nil =>
    intro leader member
    cases member
  | cons q qs ih =>
    rintro ⟨n, i⟩ member before
    rcases List.mem_append.mp member with now | later
    · have distinct : (given ((sink s.noted).serve f q).places n).Nodup :=
        (own n).sublist ((serveAll_extends _ qs n).sublist.filterMap _)
      rw [given_of_led (Option.mem_toList.mp now), List.nodup_append] at distinct
      exact distinct.2.2 i before i (List.mem_singleton.mpr rfl) rfl
    · exact ih own _ later (((serve_extends f q n).filterMap _).subset before)

theorem Apart.later {f : Fanout (η × List SinkCall)} {q : SinkRequest} {qs : List SinkRequest}
    (apart : Apart s f (q :: qs)) : Apart s ((sink s.noted).serve f q) qs :=
  ⟨apart.own, (List.pairwise_append.mp apart.others).2.1⟩

/-- No two records become known by the same id. -/
theorem Apart.distinct {f : Fanout (η × List SinkCall)} {qs : List SinkRequest} (apart : Apart s f qs) :
    (leaders s.noted f qs).Pairwise (·.2 ≠ ·.2) := by
  induction qs generalizing f with
  | nil => exact .nil
  | cons q qs ih =>
    refine List.pairwise_append.mpr ⟨?_, ih apart.later, ?_⟩
    · cases led? s.noted f q with
      | none => exact .nil
      | some leader => exact List.pairwise_singleton ..
    · rintro ⟨n, i⟩ now ⟨m, j⟩ later
      by_cases same : n = m
      · subst same
        -- The place has given the earlier id, and leads with fresh ones from then on.
        have fresh := leaders_fresh (given_nodup apart.later.own) _ later
        rintro rfl
        rw [given_of_led (Option.mem_toList.mp now)] at fresh
        exact fresh (List.mem_append_right _ (List.mem_singleton.mpr rfl))
      · exact (List.pairwise_append.mp apart.others).2.2 _ now _ later same

/-- No later record becomes known by the id of an earlier one. -/
theorem Apart.since {f : Fanout (η × List SinkCall)} {earlier later : List SinkRequest} {q : SinkRequest} {n : Nat} {i : Int}
    (apart : Apart s f (earlier ++ q :: later)) (led : led? s.noted ((sink s.noted).serveAll f earlier) q = some (n, i)) :
    ∀ leader ∈ leaders s.noted ((sink s.noted).serve ((sink s.noted).serveAll f earlier) q) later, i ≠ leader.2 := by
  intro leader member
  have distinct := apart.distinct
  rw [leaders_append, leaders] at distinct
  have since := (List.pairwise_append.mp distinct).2.1
  exact (List.pairwise_append.mp since).2.2 _ (Option.mem_toList.mpr led) _ member

/-- Places that have not been called yet. -/
def fresh (places : List η) : Fanout (η × List SinkCall) := ⟨places.map (·, []), []⟩

/-- Whatever places refuse: as long as ids that lead do not meet, runs that share several places are known by
    different ids, and whatever is asked about the record of a run reaches what each place has made of this record,
    where it has accepted it. -/
theorem fanout_routes {s : Sink η} {places : List η} {requests : List SinkRequest}
    (apart : Apart s (fresh places) requests) :
    (((sink s.noted).noted.serveAll (fresh places, []) requests).2.filterMap SinkCall.created?).Nodup ∧
      ∀ earlier r later, requests = earlier ++ .create r :: later →
        let f := (sink s.noted).serveAll (fresh places) earlier
        ∃ owns, (create s.noted r f).1.toOption = owns.findSome? id ∧
          Created r owns f.places ((sink s.noted).serve f (.create r)).places ∧
          ∀ i between q after, (create s.noted r f).1 = .ok i → later = between ++ q :: after →
            let g := (sink s.noted).serveAll f (.create r :: between)
            q.Reaches i owns g.places ((sink s.noted).serve g q).places := by
  refine ⟨?_, ?_⟩
  · rw [noted_serveAll]
    exact List.pairwise_map.mpr apart.distinct
  · rintro earlier r later rfl f
    have made := createAll_created s r f.places
    refine ⟨(createAll s.noted r f.places).1, (create_answer ..).trans (leader?_id _), ?_, ?_⟩
    · rw [← create_places] at made
      exact made
    rintro i between q after answered rfl g
    obtain ⟨n, led⟩ := led_of_answer answered
    have others : ∀ leader ∈ leaders s.noted ((sink s.noted).serve f (.create r)) between, i ≠ leader.2 := by
      intro leader member
      refine apart.since led leader ?_
      rw [leaders_append]
      exact List.mem_append_left _ member
    have known : ((sink s.noted).serve f (.create r)).routes.get? i = some (createAll s.noted r f.places).1 := by
      show (create s.noted r f).2.routes.get? i = _
      rw [create_of_led led, Table.get?_put, if_pos rfl]
    have route : ((sink s.noted).serveAll ((sink s.noted).serve f (.create r)) between).routes.get? i =
      some (createAll s.noted r f.places).1 := serveAll_routes others known
    have paired : (createAll s.noted r f.places).1.length = g.places.length :=
      made.length.1.trans (serveAll_length f (.create r :: between)).symm
    have ids : (g.routes.get? i).getD [] = (createAll s.noted r f.places).1 := by
      rw [show g.routes.get? i = _ from route, Option.getD_some]
    cases q with
    | create r => trivial
    | update u =>
      intro own
      show Reached _ _ _ (update s.noted u g).2.places
      simp only [update, own, ids]
      exact forward_reached (fun _ _ => ⟨_, ⟨_, rfl⟩, rfl⟩) paired
    | append l =>
      intro own
      show Reached _ _ _ (append s.noted l g).2.places
      simp only [append, own, ids]
      exact forward_reached (fun _ _ => ⟨_, ⟨_, rfl⟩, rfl⟩) paired

/-- The first place refuses the first record, and the second place the second one. The first place counts on from two
    older records, so that its ids do not meet the one by which the first record is known. -/
theorem fanout_routes_past_refusal :
    let place := MemoryHistory.sink.wavering
    let one := RunRecord.start { id := 1, name := "One", rows := [] } "" 0
    let two := RunRecord.start { id := 2, name := "Two", rows := [] } "" 0
    let places : List (List Bool × MemoryHistory) := [([true], { records := [two, two] }), ([false, true], {})]
    let requests : List SinkRequest := [.create one, .create two, .create one, .update { two with id := some 3 }]
    Apart place (fresh places) requests ∧
      (((sink place.noted).noted.serveAll (fresh places, []) requests).2.filterMap SinkCall.created?).Nodup := by
  intro place one two places requests
  have apart : Apart place (fresh places) requests := ⟨by decide, by decide⟩
  exact ⟨apart, (fanout_routes apart).1⟩

/-- The first place refuses the first record, and its id of the second one is that of the second place of the first
    one: what is meant for the record of one run overwrites that of the other. -/
theorem fanout_confuses :
    let place := MemoryHistory.sink.wavering
    let one := RunRecord.start { id := 1, name := "One", rows := [] } "" 0
    let two := RunRecord.start { id := 2, name := "Two", rows := [] } "" 0
    let f : Fanout (List Bool × MemoryHistory) := { places := [([true], {}), ([], {})] }
    let g := (sink place).serveAll f [.create one]
    let h := (sink place).serveAll f [.create one, .create two]
    (create place one f).1 = .ok 1 ∧ (create place two g).1 = .ok 1 ∧
      h.places.map (fun m => m.2.records.map (·.scenarioId)) = [[2], [1, 2]] ∧
      ((sink place).serve h (.update { one with id := some 1 })).places.map (fun m => m.2.records.map (·.scenarioId)) =
        [[1], [1, 1]] := by
  refine ⟨rfl, rfl, rfl, rfl⟩

end Fanout
end TestScenario
