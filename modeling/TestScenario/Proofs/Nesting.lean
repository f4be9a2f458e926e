import Mathlib.Data.List.Nodup
import TestScenario.Proofs.Frame

/-!
Scenarios inside each other. A run never has more of them open than the settings allow, and none of them twice. That is
why the recursion through scenarios ends: whatever stands below the deepest level, no run comes to it (`execute_ends`).
-/

namespace TestScenario
variable {σ η : Type}

/-- The scenarios that are being executed. -/
def Stage.executing (s : Stage σ η) : List Int := s.context.executing

/-- No scenario is being executed twice, and no more of them than a limit. -/
structure Stage.Sound (limit : Nat) (s : Stage σ η) : Prop where
  distinct : s.executing.Nodup
  bounded : s.executing.length ≤ limit

namespace Stage
variable {limit : Nat} {s t : Stage σ η} {id : Int}

theorem Sound.of_same (sound : s.Sound limit) (same : t.executing = s.executing) : t.Sound limit :=
  ⟨same ▸ sound.distinct, same ▸ sound.bounded⟩

theorem Sound.enter (sound : s.Sound limit) (entered : t.executing = s.executing ++ [id]) (fresh : id ∉ s.executing)
    (room : s.executing.length < limit) : t.Sound limit := by
  constructor
  · rw [entered, ← List.concat_eq_append]
    exact sound.distinct.concat fresh
  · rw [entered, List.length_append, List.length_singleton]
    exact room

theorem Sound.exit (sound : s.Sound limit) (left : t.executing = Context.eraseLast s.executing id) : t.Sound limit := by
  have sub := Context.eraseLast_sublist s.executing id
  rw [← left] at sub
  exact ⟨sound.distinct.sublist sub, Nat.le_trans sub.length_le sound.bounded⟩

end Stage

namespace Act
variable {α β : Type} {limit : Nat} {ids mid next : List Int}

/-- Two actions do the same inside some scenarios and end inside others. If the limit holds to begin with, then it
    does all along. -/
def Alike (limit : Nat) (ids next : List Int) (x y : Act σ η α) : Prop :=
  ∀ s, s.executing = ids →
    x.run s = y.run s ∧ (x.run s).2.executing = next ∧ (s.Sound limit → ∀ m ∈ x.trail s, m.Sound limit)

section
variable {x y : Act σ η α}

/-- An action that enters and leaves no scenario. -/
theorem Alike.refl (same : x.Along (Stage.Agree Stage.executing)) : x.Alike limit ids ids x :=
  fun s inside => ⟨rfl, (same.ensures s).trans inside, fun sound m member => sound.of_same (same s m member)⟩

theorem Alike.pure (a : α) : (pure a : Act σ η α).Alike limit ids ids (pure a) := .refl (.pure a)

theorem Alike.bind {f g : α → Act σ η β} (first : x.Alike limit ids mid y)
    (rest : ∀ a, (f a).Alike limit mid next (g a)) : (x >>= f).Alike limit ids next (y >>= g) := by
  intro s inside
  obtain ⟨same, leads, sound⟩ := first s inside
  obtain ⟨sameAfter, leadsAfter, soundAfter⟩ := rest (x.run s).1 (x.run s).2 leads
  rw [run_bind, run_bind, trail_bind, ← same]
  refine ⟨sameAfter, leadsAfter, fun holds m member => ?_⟩
  rcases List.mem_append.mp member with early | late
  · exact sound holds m early
  · -- The stage in the middle is on the trail of the first action, unless that one has no steps.
    refine soundAfter ?_ m late
    rcases x.run_mem_trail s with still | passed
    · rw [still]; exact holds
    · exact sound holds _ passed

/-- What depends on the context knows which scenarios are being executed. -/
theorem Alike.context {f g : Context → Act σ η β} (rest : ∀ c, c.executing = ids → (f c).Alike limit ids next (g c)) :
    (context >>= f).Alike limit ids next (context >>= g) := by
  intro s inside
  obtain ⟨same, leads, sound⟩ := rest s.context inside s inside
  refine ⟨same, leads, fun holds m member => ?_⟩
  rcases List.mem_cons.mp member with here | later
  · rw [here]; exact holds
  · exact sound holds m later

theorem Alike.map (f : α → β) (alike : x.Alike limit ids next y) : (f <$> x).Alike limit ids next (f <$> y) := by
  intro s inside
  obtain ⟨same, leads, sound⟩ := alike s inside
  rw [run_map, run_map, trail_map, ← same]
  exact ⟨rfl, leads, sound⟩

theorem Alike.ite {p : Prop} [Decidable p] {x' y' : Act σ η α} (left : x.Alike limit ids next y)
    (right : x'.Alike limit ids next y') : (if p then x else x').Alike limit ids next (if p then y else y') := by
  split
  · exact left
  · exact right

theorem Alike.rounds {body other : Nat → Act σ η (Option (List α))}
    (each : ∀ i, (body i).Alike limit ids ids (other i)) (count round : Nat) :
    (Act.rounds body count round).Alike limit ids ids (Act.rounds other count round) := by
  induction count generalizing round with
  | zero => exact .pure []
  | succ count ih =>
    refine .bind (each round) fun first => ?_
    cases first with
    | none => exact .pure []
    | some first => exact .bind (ih (round + 1)) fun later => .pure _

end
end Act

namespace Engine
variable (e : Engine σ η)
open Act Scopes Stage Context

/-! ### Nothing runs below the deepest level -/

section
variable {limit : Nat} {ids : List Int} {α : Type} {x : Act σ η α}

theorem alike_course (stays : x.Along (Agree course)) : x.Alike limit ids ids x :=
  .refl (stays.mono fun {s t} (same : course t = course s) => congrArg Prod.fst same)

theorem alike_own (own : x.Along (Agree Stage.own)) : x.Alike limit ids ids x := alike_course (course_of_own own)

theorem alike_framed {R : Scopes → Scopes → Prop} (framed : x.Along (Framed R)) : x.Alike limit ids ids x :=
  .refl (framed.mono Framed.executing)

theorem alike_modifyScopes (f : Scopes → Scopes) :
    (modifyScopes f : Act σ η Unit).Alike limit ids ids (modifyScopes f) := alike_course (modifyScopes_course f)

theorem alike_place (stays : x.Along (Agree place)) : x.Alike limit ids ids x :=
  .refl (stays.mono fun {s t} (same : place t = place s) => congrArg Prod.snd same)

end

section
variable {nested other : Int → Act σ η Ending} {body again : Act σ η (List StepResult)} {limit : Nat} {ids : List Int}

theorem inScope_alike (bindings : List (String × Json)) (alike : body.Alike limit ids ids again) :
    (inScope bindings body).Alike limit ids ids (inScope bindings again) := by
  refine .bind (alike_modifyScopes _) fun _ => .bind alike fun results => ?_
  exact .bind (alike_modifyScopes _) fun _ => .pure results

theorem conditionStep_alike (step : Step) (alike : body.Alike limit ids ids again) :
    (e.conditionStep step body).Alike limit ids ids (e.conditionStep step again) :=
  .bind (alike_own (e.condition_own _)) fun _ => .ite (inScope_alike [] alike) (.pure [])

theorem loopRounds_alike {goesOn : Act σ η Bool} (own : goesOn.Along (Agree Stage.own))
    (bindings : Nat → List (String × Json)) (count : Nat) (alike : body.Alike limit ids ids again) :
    (e.loopRounds goesOn bindings count body).Alike limit ids ids (e.loopRounds goesOn bindings count again) := by
  refine .rounds (fun round => .bind (alike_own e.isCancelled_own) fun cancelled => ?_) count 0
  refine .ite (.pure none) (.bind (alike_own own) fun holds => .ite ?_ (.pure none))
  exact .map some (inScope_alike (bindings round) alike)

theorem loopStep_alike (step : Step) (alike : body.Alike limit ids ids again) :
    (e.loopStep step body).Alike limit ids ids (e.loopStep step again) := by
  unfold loopStep
  simp only
  split
  · exact e.loopRounds_alike (.pure true) _ _ alike
  · exact .bind (alike_own context_own) fun c => e.loopRounds_alike (.pure true) _ _ alike
  · exact e.loopRounds_alike (e.condition_own _) _ _ alike

theorem takeOver_alike (step : Step) (name : String) (ending : Ending) :
    (e.takeOver step name ending).Alike limit ids ids (e.takeOver step name ending) := by
  cases ending with
  | ok results => exact .bind (alike_modifyScopes _) fun _ => .pure results
  | error problem => exact alike_place (e.record_place step _)

theorem scenarioStep_alike (alikeInside : ∀ id, (nested id).Alike limit ids ids (other id)) (step : Step) :
    (e.scenarioStep nested step).Alike limit ids ids (e.scenarioStep other step) := by
  unfold scenarioStep
  simp only
  split
  · exact alike_place (e.record_place step _)
  · rename_i id _
    refine .bind (alike_own context_own) fun c => .ite (alike_place (e.record_place step _)) ?_
    refine .bind (alike_course (registerStep_course _ _)) fun _ => ?_
    refine .bind (alike_modifyScopes _) fun _ => .bind (alikeInside id) fun ending => ?_
    refine .bind (e.takeOver_alike step _ ending) fun results => ?_
    exact .bind (alike_modifyScopes _) fun _ => .pure results

theorem invoke_alike (alikeInside : ∀ id, (nested id).Alike limit ids ids (other id)) (step : Step)
    (alike : body.Alike limit ids ids again) :
    (e.invoke nested step body).Alike limit ids ids (e.invoke other step again) := by
  unfold invoke
  refine .ite ?_ (.pure [])
  split
  · exact alike_framed (e.caseStep_grown step)
  · exact alike
  · exact e.conditionStep_alike step alike
  · exact e.loopStep_alike step alike
  · exact alike_framed (R := Grown) (e.waitStep_framed step)
  · exact alike_framed (e.scriptStep_grown step)
  · exact e.scenarioStep_alike alikeInside step

theorem perform_alike (alikeInside : ∀ id, (nested id).Alike limit ids ids (other id)) (step : Step)
    (alike : body.Alike limit ids ids again) :
    (e.perform nested step body).Alike limit ids ids (e.perform other step again) := by
  have invoked := e.invoke_alike alikeInside step alike
  refine .ite (.pure []) (.bind (alike_place (e.emit_place _)) fun _ => ?_)
  refine .bind (alike_own e.isCancelled_own) fun cancelled => .bind (.ite ?_ invoked) fun results => ?_
  · exact .ite (alike_place (e.record_place step _)) (.ite invoked (.pure []))
  · exact .bind (alike_own (e.log_own step results)) fun _ => .pure results

theorem dispatchAll_alike (alikeInside : ∀ id, (nested id).Alike limit ids ids (other id))
    (steps : List Step) :
    (e.dispatchAll nested steps).Alike limit ids ids (e.dispatchAll other steps) := by
  refine dispatchAll_induction (P := fun step x => x.Alike limit ids ids (e.dispatch other step))
    (Q := fun steps x => x.Alike limit ids ids (e.dispatchAll other steps)) (.pure []) ?_ ?_ steps
  · intro step rest x y first later
    exact .bind first fun _ => .bind later fun _ => .pure _
  · intro step body alike
    cases step with | mk row children => exact e.perform_alike alikeInside _ alike

section
variable {walk walkAgain : List Step → Act σ η (List StepResult)}

theorem runSteps_alike (alike : ∀ steps, (walk steps).Alike limit ids ids (walkAgain steps)) (s : Scenario)
    (record : Option RunRecord) :
    (e.runSteps s record walk).Alike limit ids ids (e.runSteps s record walkAgain) := by
  refine .bind (alike_own (ask_own _)) fun steps => ?_
  split
  · refine .bind (alike_own e.now_own) fun time => ?_
    exact .bind (alike_own (e.forM_closeRecord_own record _)) fun _ => .pure _
  · refine .bind (alike_own e.now_own) fun begun => .bind (alike _) fun results => ?_
    refine .bind (alike_own e.now_own) fun ended => .bind (alike_own e.isCancelled_own) fun cancelled => ?_
    refine .bind (alike_own (e.forM_closeRecord_own record _)) fun _ => ?_
    exact .bind (alike_place (e.emit_place _)) fun _ => .pure _

theorem runEntered_alike (alike : ∀ steps, (walk steps).Alike limit ids ids (walkAgain steps)) (outermost : Bool)
    (s : Scenario) : (e.runEntered outermost s walk).Alike limit ids ids (e.runEntered outermost s walkAgain) := by
  have started : (e.emit (.scenarioStarted s.id s.name)).Alike limit ids ids (e.emit (.scenarioStarted s.id s.name)) :=
    alike_place (e.emit_place _)
  refine .ite (.bind (alike_course (e.loadVariables_course s)) fun loaded => ?_)
    (.bind started fun _ => e.runSteps_alike alike s none)
  split
  · exact .pure _
  · refine .bind started fun _ => .bind (alike_course (e.openRecord_course s)) fun record => ?_
    exact e.runSteps_alike alike s (some record)

/-- A scenario is entered only within the limit, and left again in every case. So only what runs inside it has to be
    compared. -/
theorem enter_alike {id : Int} (fresh : id ∉ ids) (room : ids.length < limit)
    (alike : ∀ steps, (walk steps).Alike limit (ids ++ [id]) (ids ++ [id]) (walkAgain steps)) (outermost : Bool) :
    (e.enter outermost id walk).Alike limit ids ids (e.enter outermost id walkAgain) := by
  refine .bind (alike_own (ask_own _)) fun found => ?_
  split
  · exact .pure _
  · exact .pure _
  · rename_i scenario
    have entering : (modifyContext fun c => { c with executing := c.executing ++ [id] } : Act σ η Unit).Alike
        limit ids (ids ++ [id]) (modifyContext fun c => { c with executing := c.executing ++ [id] }) := by
      intro s inside
      refine ⟨rfl, congrArg (· ++ [id]) inside, fun sound m member => ?_⟩
      rw [← inside] at fresh room
      rw [List.mem_singleton.mp member]
      exact sound.enter rfl fresh room
    have leaving : (modifyContext (·.exit id) : Act σ η Unit).Alike limit (ids ++ [id]) ids
        (modifyContext (·.exit id)) := by
      intro s inside
      refine ⟨rfl, (congrArg (eraseLast · id) inside).trans (eraseLast_append ids id), fun sound m member => ?_⟩
      rw [List.mem_singleton.mp member]
      exact sound.exit rfl
    refine .bind entering fun _ => .bind (e.runEntered_alike alike outermost scenario) fun outcome => ?_
    exact .bind leaving fun _ => .pure outcome

end

/-- A scenario comes to what runs inside it only if there is room for one more. -/
theorem attempt_alike
    (alikeInside : ids.length < e.config.maxNesting → ∀ id j,
      (nested j).Alike e.config.maxNesting (ids ++ [id]) (ids ++ [id]) (other j))
    (outermost : Bool) (id : Int) :
    (e.attempt nested outermost id).Alike e.config.maxNesting ids ids (e.attempt other outermost id) := by
  refine .context fun c inside => ?_
  split
  · exact .pure _
  · rename_i fresh
    split
    · exact .pure _
    · rename_i room
      rw [isExecuting, inside, List.contains_iff_mem] at fresh
      rw [nestingDepth, inside] at room
      have fewer := Nat.not_le.mp room
      exact e.enter_alike fresh fewer (e.dispatchAll_alike (alikeInside fewer id)) outermost

end

/-- Where the levels reach below the limit, it does not matter how many they are and what stands below them. -/
theorem inside_alike (beyond other : Int → Act σ η Ending) (levels : Nat) :
    ∀ (more : Nat) (ids : List Int), ids.length ≤ e.config.maxNesting →
      e.config.maxNesting < ids.length + levels → e.config.maxNesting < ids.length + more →
      ∀ id, (e.inside beyond levels id).Alike e.config.maxNesting ids ids (e.inside other more id) := by
  -- Both sides go down together. Each level takes one from both and adds a scenario, until there is no room for one.
  induction levels with
  | zero => omega
  | succ levels ih =>
    intro more ids within enough enoughToo id
    cases more with
    | zero => omega
    | succ more =>
      refine e.attempt_alike (fun room j k => ?_) false id
      have deeper : (ids ++ [j]).length = ids.length + 1 := List.length_append
      exact ih more (ids ++ [j]) (by omega) (by omega) (by omega) k

/-- A scenario inside others is an attempt in which again such scenarios are run. -/
theorem run_nested (id : Int) (s : Stage σ η) : (e.nested id).run s = (e.attempt e.nested false id).run s := by
  have attempted : (e.nested id).Alike e.config.maxNesting s.executing s.executing (e.attempt e.nested false id) := by
    refine e.attempt_alike (fun room j k => ?_) false id
    have deeper : (s.executing ++ [j]).length = s.executing.length + 1 := List.length_append
    exact e.inside_alike _ _ _ _ _ (by omega) (by omega) (by omega) k
  exact (attempted s rfl).1

/-- A run goes down only as many levels as the settings allow, keeps to the limit all along, and is inside no scenario
    in the end. -/
theorem executeWith_inside (beyond : Int → Act σ η Ending) {levels : Nat} (enough : e.config.maxNesting ≤ levels)
    (id : Int) (envKey : String) (s : Stage σ η) :
    let x := e.executeWith (e.inside beyond levels) id envKey
    x.run s = (e.execute id envKey).run s ∧ (x.run s).2.executing = [] ∧
      ∀ m ∈ x.trail s, m.Sound e.config.maxNesting := by
  have attempted : (e.attempt (e.inside beyond levels) true id).Alike e.config.maxNesting [] []
      (e.attempt e.nested true id) := by
    refine e.attempt_alike (fun room j k => ?_) true id
    have first : ([] ++ [j]).length = 1 := rfl
    rw [List.length_nil] at room
    exact e.inside_alike _ _ _ _ ([] ++ [j]) (by omega) (by omega) (by omega) k
  have begun : Stage.Sound e.config.maxNesting { s with context := { envKey } } := ⟨List.nodup_nil, Nat.zero_le _⟩
  have after := Alike.bind (alike_own e.limitTime_own) fun within =>
    Alike.ite (p := within = true) attempted (.pure (.error .beyondClock))
  obtain ⟨same, leads, sound⟩ := after { s with context := { envKey } } rfl
  refine ⟨same, leads, fun m member => ?_⟩
  rcases List.mem_cons.mp member with first | later
  · rw [first]; exact begun
  · exact sound begun m later

/-- A step that leads back to a scenario that is being executed only records its failure, whatever running that
    scenario would do. -/
theorem invoke_circular {step : Step} {target : Int} (nested : Int → Act σ η Ending) (body : Act σ η (List StepResult))
    {s : Stage σ η} (known : e.kinds.contains .scenario) (kind : step.row.kind = .scenario)
    (refers : step.row.scenarioId = some target) (executing : target ∈ s.executing) :
    (e.invoke nested step body).run s =
      (e.recordFailure step (step.nameOr "Nested Scenario") circularMessage).run s := by
  have circular : s.context.isExecuting target := List.contains_iff_mem.mpr executing
  simp only [invoke, kind, known, if_true, scenarioStep, refers, run_bind, run_context, circular]

/-! ### Runs over a catalog -/

section
variable {c : Catalog} {world : World σ} {config : Config} {sink : Option (Sink η)} {observed : Bool}

theorem loadVariables_isOk (scenario : Scenario) (s : Stage σ η) :
    (((c.engine world config sink observed).loadVariables scenario).run s).1 = .ok () := rfl

/-- The steps of a scenario of a catalog are walked, and their results are the answer. -/
theorem runSteps_answer {id : Int} {scenario : Scenario} (found : c.scenario? id = some scenario)
    (record : Option RunRecord) (walk : List Step → Act σ η (List StepResult)) (s : Stage σ η) :
    ∃ t, (((c.engine world config sink observed).runSteps scenario record walk).run s).1 =
      .ok ((walk scenario.steps).run t).1 := by
  unfold runSteps
  rw [run_bind, run_ask, Catalog.engine_steps, Catalog.stepsOf_of_scenario? c found]
  simp only [run_bind]
  exact ⟨_, rfl⟩

theorem runEntered_answer {id : Int} {scenario : Scenario} (found : c.scenario? id = some scenario) (outermost : Bool)
    (walk : List Step → Act σ η (List StepResult)) (s : Stage σ η) :
    ∃ t, (((c.engine world config sink observed).runEntered outermost scenario walk).run s).1 =
      .ok ((walk scenario.steps).run t).1 := by
  unfold runEntered
  split
  · rw [run_bind, loadVariables_isOk]
    simp only [run_bind]
    exact runSteps_answer found _ walk _
  · rw [run_bind]
    exact runSteps_answer found none walk _

theorem enter_answer {id : Int} {scenario : Scenario} (found : c.scenario? id = some scenario) (outermost : Bool)
    (walk : List Step → Act σ η (List StepResult)) (s : Stage σ η) :
    ∃ t, (((c.engine world config sink observed).enter outermost id walk).run s).1 =
      .ok ((walk scenario.steps).run t).1 := by
  unfold enter
  rw [run_bind, run_ask, Catalog.engine_scenario, found]
  simp only [run_bind]
  exact runEntered_answer found outermost walk _

/-- A scenario of a catalog is entered without an error. -/
theorem enter_known {id : Int} {scenario : Scenario} (found : c.scenario? id = some scenario) (outermost : Bool)
    (walk : List Step → Act σ η (List StepResult)) (s : Stage σ η) (problem : RunError) :
    (((c.engine world config sink observed).enter outermost id walk).run s).1 ≠ .error problem := by
  obtain ⟨t, answer⟩ : ∃ t, (((c.engine world config sink observed).enter outermost id walk).run s).1 =
    .ok ((walk scenario.steps).run t).1 := enter_answer found outermost walk s
  rw [answer]
  nofun

/-- A scenario that is not in the catalog cannot be entered. -/
theorem enter_unknown {id : Int} (unknown : c.scenario? id = none) (outermost : Bool)
    (walk : List Step → Act σ η (List StepResult)) (s : Stage σ η) :
    (((c.engine world config sink observed).enter outermost id walk).run s).1 = .error (.unknownScenario id) := by
  unfold enter
  rw [run_bind, run_ask, Catalog.engine_scenario, unknown]
  rfl

/-- Where there is room, a run that is inside no scenario yet enters the one it is asked for. -/
theorem attempt_of_idle (nested : Int → Act σ η Ending) (outermost : Bool) (id : Int) {s : Stage σ η}
    (idle : s.executing = []) (room : 1 ≤ config.maxNesting) :
    ((c.engine world config sink observed).attempt nested outermost id).run s =
      ((c.engine world config sink observed).enter outermost id
        ((c.engine world config sink observed).dispatchAll nested)).run s := by
  have fresh : s.context.isExecuting id = false := congrArg (List.contains · id) idle
  have depth : s.context.nestingDepth = 0 := congrArg List.length idle
  unfold attempt
  rw [run_bind, run_context]
  simp only [fresh, depth]
  split
  · contradiction
  · split
    · rename_i full
      exact absurd full (Nat.not_le.mpr room)
    · rfl

/-- Where there is no room, no scenario is entered. -/
theorem attempt_tooDeep (nested : Int → Act σ η Ending) (outermost : Bool) (id : Int) {s : Stage σ η}
    (idle : s.executing = []) (full : ¬ 1 ≤ config.maxNesting) :
    (((c.engine world config sink observed).attempt nested outermost id).run s).1 =
      .error (.tooDeep id config.maxNesting) := by
  have fresh : s.context.isExecuting id = false := congrArg (List.contains · id) idle
  have reached : s.context.nestingDepth ≥ config.maxNesting :=
    Nat.le_trans (Nat.le_of_lt_succ (Nat.lt_of_not_ge full)) (Nat.zero_le _)
  unfold attempt
  rw [run_bind, run_context]
  simp only [fresh]
  split
  · contradiction
  · split
    · rfl
    · rename_i few
      exact absurd reached few

/-- A run of a scenario of a catalog begins inside no scenario. -/
theorem begun_idle (e : Engine σ η) (envKey : String) (s : Stage σ η) : (e.begun envKey s).executing = [] :=
  congrArg Context.executing (e.limitTime_own.ensures { s with context := { envKey } }).context

/-- Where there is room, the answer of a run over a catalog is that of walking the steps of the scenario. -/
theorem execute_answer {id : Int} {scenario : Scenario} (found : c.scenario? id = some scenario)
    (room : 1 ≤ config.maxNesting) (envKey : String) {s : Stage σ η}
    (reaches : (c.engine world config sink observed).clockReaches s.host) :
    ∃ t, (((c.engine world config sink observed).execute id envKey).run s).1 =
      .ok (((c.engine world config sink observed).dispatchAll (c.engine world config sink observed).nested
        scenario.steps).run t).1 := by
  rw [run_execute _ reaches, attempt_of_idle _ true id (begun_idle _ envKey s) room]
  exact enter_answer found true _ _

/-- The errors of runs over a catalog, in the order in which they are found out: the clock does not reach far enough,
    no scenario is allowed, or there is none of the id. -/
theorem execute_error (id : Int) (envKey : String) (s : Stage σ η) (problem : RunError) :
    (((c.engine world config sink observed).execute id envKey).run s).1 = .error problem ↔
      if ¬ (c.engine world config sink observed).clockReaches s.host then problem = .beyondClock
      else if ¬ 1 ≤ config.maxNesting then problem = .tooDeep id config.maxNesting
      else c.scenario? id = none ∧ problem = .unknownScenario id := by
  have given {other : RunError} : (.error other : Ending) = .error problem ↔ problem = other :=
    ⟨fun same => (Except.error.inj same).symm, fun same => congrArg Except.error same.symm⟩
  split
  · rename_i beyond
    rw [run_execute_of_beyond _ (Bool.eq_false_of_not_eq_true beyond)]
    exact given
  · rename_i reaches
    rw [run_execute _ (Classical.not_not.mp reaches)]
    split
    · rename_i full
      rw [attempt_tooDeep _ true id (begun_idle _ envKey s) full]
      exact given
    · rename_i room
      rw [attempt_of_idle _ true id (begun_idle _ envKey s) (Classical.not_not.mp room)]
      cases found : c.scenario? id with
      | none =>
        rw [enter_unknown found]
        exact given.trans (and_iff_right rfl).symm
      | some scenario =>
        exact ⟨fun failed => absurd failed (enter_known found true _ _ problem), nofun⟩

/-- There are results if and only if none of the errors is found out. -/
theorem execute_isOk (id : Int) (envKey : String) (s : Stage σ η) :
    (((c.engine world config sink observed).execute id envKey).run s).1.isOk ↔
      (c.scenario? id).isSome ∧ 1 ≤ config.maxNesting ∧ (c.engine world config sink observed).clockReaches s.host := by
  have ends (ending : Ending) : ending.isOk ↔ ∀ problem, ending ≠ .error problem := by
    cases ending with
    | ok results => exact ⟨fun _ => nofun, fun _ => rfl⟩
    | error problem => exact ⟨nofun, fun none => absurd rfl (none problem)⟩
  rw [ends]
  simp only [ne_eq, execute_error]
  by_cases reaches : (c.engine world config sink observed).clockReaches s.host <;>
    by_cases room : 1 ≤ config.maxNesting <;> cases c.scenario? id <;> simp [reaches, room]

end

/-- Every run over a catalog ends. Running a scenario inside others is an attempt that again runs scenarios in the
    same way, and nothing depends on what stands below as many levels as the settings allow. All along, no scenario is
    being executed twice and no more of them than allowed, and none in the end. A step that leads back to one of them
    fails once and runs nothing. There are results if and only if the scenario is in the catalog, the settings allow
    one and the clock reaches as far as they let a run take. Where it does not, the run breaks off and nothing has
    happened. -/
theorem execute_ends (c : Catalog) (world : World σ) (config : Config) (sink : Option (Sink η)) (observed : Bool)
    (id : Int) (envKey : String) (s : Stage σ η) :
    let e := c.engine world config sink observed
    let x := e.execute id envKey
    (∀ j t, (e.nested j).run t = (e.attempt e.nested false j).run t) ∧
      (∀ beyond levels, config.maxNesting ≤ levels →
        (e.executeWith (e.inside beyond levels) id envKey).run s = x.run s) ∧
      (∀ m ∈ x.trail s, m.context.executing.Nodup ∧ m.context.executing.length ≤ config.maxNesting) ∧
      (x.run s).2.context.executing = [] ∧
      (∀ (nested : Int → Act σ η Ending) (step : Step) (body : Act σ η (List StepResult)) (target : Int)
        (t : Stage σ η), step.row.kind = .scenario → step.row.scenarioId = some target → target ∈ t.context.executing →
          ∃ r : StepResult, r.stepId = step.row.id ∧ r.status = .fail ∧
            (e.invoke nested step body).run t = ([r], ((e.record step r).run t).2)) ∧
      ((x.run s).1.isOk ↔ (c.scenario? id).isSome ∧ 1 ≤ config.maxNesting ∧ e.clockReaches s.host) ∧
      ((x.run s).1 = .error .beyondClock ↔ ¬ e.clockReaches s.host) ∧
      (¬ e.clockReaches s.host → (x.run s).2 = { s with context := { envKey } }) := by
  intro e x
  obtain ⟨-, idle, sound⟩ := e.executeWith_inside (fun id => pure (.error (.tooDeep id e.config.maxNesting)))
    (Nat.le_succ e.config.maxNesting) id envKey s
  refine ⟨e.run_nested, ?_, ?_, idle, ?_, execute_isOk id envKey s, ?_, fun beyond => ?_⟩
  · intro beyond levels enough
    exact (e.executeWith_inside beyond enough id envKey s).1
  · intro m member
    exact ⟨(sound m member).distinct, (sound m member).bounded⟩
  · intro nested step body target t kind refers executing
    refine ⟨.withMessage step.row.id (step.nameOr "Nested Scenario") .fail circularMessage, rfl, rfl, ?_⟩
    rw [e.invoke_circular nested body (c.engine_kinds ..) kind refers executing]
    rfl
  · rw [execute_error]
    split
    · rename_i beyond
      exact ⟨fun _ => beyond, fun _ => rfl⟩
    · rename_i reaches
      split
      · exact ⟨nofun, fun beyond => absurd beyond reaches⟩
      · exact ⟨nofun, fun beyond => absurd beyond reaches⟩
  · exact congrArg Prod.snd (e.run_execute_of_beyond (Bool.eq_false_of_not_eq_true beyond) id envKey)

/-- A scenario of a catalog that may take as long as can be told: its run breaks off. -/
theorem endless_run_breaks_off :
    let c : Catalog := { scenarios := [{ id := 1, name := "Empty", rows := [] }] }
    let config : Config := { runTimeoutSecs := some (2 ^ 64 - 1) }
    let e := c.engine (Rehearsal.world (Prepared.runCase [])) config (none : Option (Sink Unit)) false
    (c.scenario? 1).isSome ∧ 1 ≤ config.maxNesting ∧
      ((e.execute 1 "").run { host := { services := [] }, kept := () }).1 = .error .beyondClock := by
  intro c config e
  have beyond : e.clockReaches { services := [] } = false := by decide
  have breaks := e.run_execute_of_beyond (s := { host := { services := [] }, kept := () }) beyond 1 ""
  exact ⟨rfl, by decide, congrArg Prod.fst breaks⟩

end Engine
end TestScenario
