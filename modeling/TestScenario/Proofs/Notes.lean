import TestScenario.Proofs.Deeds

/-!
A place where runs are kept, with every call noted. What a run asks of the place can be read from the notes, whatever
the place does with it. At its outermost scenario a run asks for a record, and keeps it in its last state.
-/

namespace TestScenario
variable {σ η : Type}

/-- A call of a place where runs are kept, with its answer. -/
inductive SinkCall where
  | create (r : RunRecord) (answer : Except Fault Int)
  | update (r : RunRecord) (answer : Except Fault Unit)
  | append (l : StepLog) (answer : Except Fault Unit)

/-- The deed by which a run makes a call. -/
def SinkCall.deed : SinkCall → Deed
  | .create r _ => .create r
  | .update r _ => .update r
  | .append l _ => .append l

/-- The place with every call noted. -/
def Sink.noted (place : Sink η) : Sink (η × List SinkCall) where
  create r kept :=
    let (answer, inner) := place.create r kept.1
    (answer, (inner, kept.2 ++ [.create r answer]))
  update r kept :=
    let (answer, inner) := place.update r kept.1
    (answer, (inner, kept.2 ++ [.update r answer]))
  append l kept :=
    let (answer, inner) := place.append l kept.1
    (answer, (inner, kept.2 ++ [.append l answer]))

/-- The engine with every call of its place noted. -/
def Engine.noted (e : Engine σ η) : Engine σ (η × List SinkCall) where
  config := e.config
  kinds := e.kinds
  host := e.host
  sink := e.sink.map Sink.noted
  observed := e.observed

/-- The calls noted so far. -/
def Stage.notes (s : Stage σ (η × List SinkCall)) : List SinkCall := s.kept.2

theorem Sink.run_noted_create (place : Sink η) (r : RunRecord) (s : Stage σ (η × List SinkCall)) :
    (Act.keep (place.noted.create r)).run s =
      ((place.create r s.kept.1).1,
        { s with kept :=
          ((place.create r s.kept.1).2, s.notes ++ [.create r (place.create r s.kept.1).1]) }) := rfl

namespace Act
variable {e : Engine σ η} {α : Type} {x : Act σ (η × List SinkCall) α}

/-- A deed notes the calls that it makes. -/
theorem notes_of_does {d : Deed} (does : e.noted.Does d x) (s : Stage σ (η × List SinkCall)) :
    ∃ calls, (x.run s).2.notes = s.notes ++ calls ∧ ∀ call ∈ calls, call.deed = d := by
  have silent {t : Stage σ (η × List SinkCall)} (same : t.kept = s.kept) :
      ∃ calls, t.notes = s.notes ++ calls ∧ ∀ call ∈ calls, call.deed = d :=
    ⟨[], (congrArg Prod.snd same).trans (List.append_nil _).symm, List.forall_mem_nil _⟩
  have told (h : Happening) : ((e.noted.emit h).run s).2.kept = s.kept := by
    simp only [Engine.emit, Act.run]
    split <;> rfl
  cases does with
  | create given r =>
    obtain ⟨place, -, rfl⟩ := Option.map_eq_some_iff.mp given
    exact ⟨[_], rfl, by simp [SinkCall.deed]⟩
  | update given r =>
    obtain ⟨place, -, rfl⟩ := Option.map_eq_some_iff.mp given
    exact ⟨[_], rfl, by simp [SinkCall.deed]⟩
  | append given l =>
    obtain ⟨place, -, rfl⟩ := Option.map_eq_some_iff.mp given
    exact ⟨[_], rfl, by simp [SinkCall.deed]⟩
  | tell h => exact silent (told h)
  | look | register | record | scopes | enter | leave | number | check | time | scenario | steps | testCase | vars
    | execute | evaluate | wait => exact silent rfl

/-- All calls that an action makes are deeds that it uses. -/
theorem Uses.notes {D : Deed → Prop} (uses : x.Uses e.noted D) (s : Stage σ (η × List SinkCall)) :
    ∃ calls, (x.run s).2.notes = s.notes ++ calls ∧ ∀ call ∈ calls, D call.deed := by
  have start : ∃ calls, s.notes = s.notes ++ calls ∧ ∀ call ∈ calls, D call.deed :=
    ⟨[], (List.append_nil _).symm, List.forall_mem_nil _⟩
  refine (uses.preserves (P := fun t => ∃ calls, t.notes = s.notes ++ calls ∧ ∀ call ∈ calls, D call.deed) ?_ start).1
  intro d β y t allowed does before
  obtain ⟨calls, same, all⟩ := before
  obtain ⟨more, later, own⟩ := notes_of_does does t
  refine ⟨calls ++ more, by rw [later, same, List.append_assoc], fun call member => ?_⟩
  rcases List.mem_append.mp member with early | late
  · exact all call early
  · rw [own call late]; exact allowed

/-- An action that keeps nothing leaves the notes as they are. -/
theorem Uses.notes_plain (uses : x.Uses e.noted Deed.Plain) (s : Stage σ (η × List SinkCall)) :
    (x.run s).2.notes = s.notes := by
  obtain ⟨calls, noted, plain⟩ := uses.notes s
  have none : calls = [] := by
    refine List.eq_nil_iff_forall_not_mem.mpr fun call member => ?_
    have keeps := plain call member
    cases call with
    | create | update | append => exact keeps
  rw [noted, none, List.append_nil]

end Act

/-! ### The record of a run -/

namespace Engine
open Act
variable {e : Engine σ η}

theorem notes_begun (envKey : String) (s : Stage σ (η × List SinkCall)) : (e.noted.begun envKey s).notes = s.notes := by
  unfold begun limitTime
  split
  · rfl
  · rfl

/-- The record of a run that has been kept is kept in its last state, and nothing else happens. -/
theorem run_closeRecord (r : RunRecord) (s : Stage σ (η × List SinkCall)) :
    ∃ calls place, (e.noted.closeRecord r).run s = ((), { s with kept := (place, s.notes ++ calls) }) ∧
      (∀ call ∈ calls, ∃ answer, call = .update r answer) ∧
      (e.sink.isSome → r.id.isSome → ∃ answer, .update r answer ∈ calls) := by
  have nothing : ∃ place, s = { s with kept := (place, s.notes ++ []) } :=
    ⟨s.kept.1, by rw [List.append_nil]; rfl⟩
  unfold closeRecord noted
  cases sink : e.sink with
  | none =>
    obtain ⟨place, same⟩ := nothing
    exact ⟨[], place, congrArg ((), ·) same, List.forall_mem_nil _, nofun⟩
  | some sink =>
    cases id : r.id with
    | none =>
      obtain ⟨place, same⟩ := nothing
      exact ⟨[], place, congrArg ((), ·) same, List.forall_mem_nil _, nofun⟩
    | some id =>
      refine ⟨[_], _, rfl, ?_, fun _ _ => ⟨_, List.mem_singleton.mpr rfl⟩⟩
      exact List.forall_mem_singleton.mpr ⟨_, rfl⟩

/-- A record is asked for at most once; if it is given an id, the run knows it. -/
theorem run_openRecord (scenario : Scenario) (s : Stage σ (η × List SinkCall)) :
    ∃ calls, ((e.noted.openRecord scenario).run s).2.notes = s.notes ++ calls ∧
      ∀ call ∈ calls, ∃ r answer, call = .create r answer ∧
        ∀ i, answer = .ok i → e.sink.isSome ∧ ((e.noted.openRecord scenario).run s).1.id = some i ∧
          ((e.noted.openRecord scenario).run s).2.context.recordId = some i := by
  have none : s.notes = s.notes ++ [] := (List.append_nil _).symm
  unfold openRecord noted
  cases e.sink with
  | none => exact ⟨[], none, List.forall_mem_nil _⟩
  | some sink =>
    simp only [Option.map_some, run_bind, run_context, run_now, Sink.run_noted_create]
    generalize sink.create _ s.kept.1 = answered
    obtain ⟨answer, place⟩ := answered
    cases answer with
    | error cause =>
      refine ⟨[_], rfl, List.forall_mem_singleton.mpr ⟨_, _, rfl, fun i same => ?_⟩⟩
      cases same
    | ok id =>
      refine ⟨[_], rfl, List.forall_mem_singleton.mpr ⟨_, _, rfl, fun i same => ?_⟩⟩
      rw [← Except.ok.inj same]
      exact ⟨rfl, rfl, rfl⟩

/-- A scenario with a record lacks its variables, or else its record is opened and its steps follow. -/
theorem run_runEntered (scenario : Scenario) (walk : List Step → Act σ (η × List SinkCall) (List StepResult))
    (s : Stage σ (η × List SinkCall)) :
    (∃ problem t, (e.noted.runEntered true scenario walk).run s = (.error problem, t) ∧ t.notes = s.notes) ∨
      ∃ record calls t,
        (e.noted.runEntered true scenario walk).run s = (e.noted.runSteps scenario (some record) walk).run t ∧
        t.notes = s.notes ++ calls ∧ t.context.executing = s.context.executing ∧
        ∀ call ∈ calls, ∃ r answer, call = .create r answer ∧
          ∀ i, answer = .ok i → e.sink.isSome ∧ record.id = some i ∧ t.context.recordId = some i := by
  have silent := (e.noted.loadVariables_uses scenario).notes_plain s
  have course := (e.noted.loadVariables_course scenario).ensures s
  unfold runEntered
  rw [if_pos rfl, run_bind]
  generalize (e.noted.loadVariables scenario).run s = loaded at silent course ⊢
  obtain ⟨answer, u⟩ := loaded
  cases answer with
  | error problem => exact .inl ⟨problem, u, rfl, silent⟩
  | ok =>
    simp only [run_bind, run_emit]
    generalize opening : ({ u with events := _ } : Stage σ (η × List SinkCall)) = begun
    have same : begun.notes = s.notes := by rw [← opening]; exact silent
    have inside : begun.context.executing = s.context.executing := by
      rw [← opening]
      exact congrArg Prod.fst course
    obtain ⟨calls, noted, creates⟩ := run_openRecord (e := e) scenario begun
    have still := congrArg Prod.fst ((e.noted.openRecord_course scenario).ensures begun)
    exact .inr ⟨_, calls, _, rfl, same ▸ noted, still.trans inside, creates⟩

/-- A run of a scenario cannot begin, or else the scenario is entered and left again. -/
theorem run_attempt (nested : Int → Act σ (η × List SinkCall) Ending) (id : Int) (s : Stage σ (η × List SinkCall)) :
    (∃ problem t, (e.noted.attempt nested true id).run s = (.error problem, t) ∧ t.notes = s.notes) ∨
      ∃ scenario t, (e.noted.host.scenario id s.host).1 = .ok (some scenario) ∧ t.notes = s.notes ∧
        t.context.executing = s.context.executing ++ [id] ∧
        let ended := (e.noted.runEntered true scenario (e.noted.dispatchAll nested)).run t
        (e.noted.attempt nested true id).run s = (ended.1, { ended.2 with context := ended.2.context.exit id }) := by
  unfold attempt
  rw [run_bind, run_context]
  split
  · exact .inl ⟨_, _, rfl, rfl⟩
  · split
    · exact .inl ⟨_, _, rfl, rfl⟩
    · unfold enter
      rw [run_bind, run_ask]
      generalize e.noted.host.scenario id s.host = asked
      obtain ⟨found, host⟩ := asked
      rcases found with cause | _ | scenario
      · exact .inl ⟨_, { s with host }, rfl, rfl⟩
      · exact .inl ⟨_, { s with host }, rfl, rfl⟩
      · simp only [run_bind, run_modifyContext, run_pure]
        let entered : Context := { s.context with executing := s.context.executing ++ [id] }
        exact .inr ⟨scenario, { s with context := entered, host }, rfl, rfl, rfl, rfl⟩

end Engine
end TestScenario
