import Mathlib
import TestScenario.Proofs.WrittenForms
import TestScenario.Scenario.Step

/-!
Steps, settings of loops and overrides, written and read again. They can be read from more than one form: from objects
and from arrays, under several names and words, with numbers in digits, with fields left out. Whatever form it was, what
is written for it is read as the same (`written_form_reads_the_same`).
-/

namespace TestScenario
open Document Source

/-! ### Words -/

theorem StepKind.ofName?_name (kind : StepKind) : ofName? kind.name = some kind := by
  cases kind <;> rfl

theorem StepKind.restores : Restores StepKind.read fun kind => .str kind.name := restores_word ofName?_name

theorem ExtractKind.ofName?_name (kind : ExtractKind) : ofName? kind.name = some kind := by
  cases kind <;> rfl

theorem CheckSource.ofName?_name (source : CheckSource) : ofName? source.name = some source := by
  cases source <;> rfl

/-- The unknown comparison has a word of its own, which stands for no other one. -/
theorem Comparison.ofName_name (comparison : Comparison) : ofName comparison.name = comparison := by
  cases comparison <;> rfl

theorem Comparison.restores : Restores Comparison.read fun comparison => .str comparison.name :=
  restores_word fun comparison => congrArg some comparison.ofName_name

/-! ### Structures -/

theorem ExtractRule.restores : Restores ExtractRule.read ExtractRule.toJson := by
  refine restores_of_fields (fun _ => rfl) (by decide) (by decide) fun found rule given reads => ?_
  split at reads
  · simp only [List.forall_mem_cons] at given
    obtain ⟨g1, g2, g3, g4, g5, -⟩ := given
    simp only [Option.bind_eq_bind, Option.bind_eq_some_iff, Option.some.injEq] at reads
    obtain ⟨_, r1, _, r2, _, r3, _, r4, _, r5, rfl⟩ := reads
    have varName := restores_string.required _ _ g1 r1
    have kind := ((restores_word ExtractKind.ofName?_name).withDefault rfl) _ _ g2 r2
    have expression := restoresField_string _ _ g3 r3
    have jsonPath := restoresField_string _ _ g4 r4
    have group := restoresField_nat64 _ _ g5 r5
    simp only [List.map_cons, List.map_nil, varName, kind, expression, jsonPath, group, Option.bind_eq_bind,
      Option.bind_some]
  · cases reads

theorem Check.restores : Restores Check.read Check.toJson := by
  refine restores_of_fields (fun _ => rfl) (by decide) (by decide) fun found check given reads => ?_
  split at reads
  · simp only [List.forall_mem_cons] at given
    obtain ⟨g1, g2, g3, g4, -⟩ := given
    simp only [Option.bind_eq_bind, Option.bind_eq_some_iff, Option.some.injEq] at reads
    obtain ⟨_, r1, _, r2, _, r3, _, r4, rfl⟩ := reads
    have source := ((restores_word CheckSource.ofName?_name).withDefault rfl) _ _ g1 r1
    have property := (restores_string.withDefault rfl) _ _ g2 r2
    have comparison := (Comparison.restores.withDefault rfl) _ _ g3 r3
    have expected := (restores_any.withDefault rfl) _ _ g4 r4
    simp only [id_eq] at expected
    simp only [List.map_cons, List.map_nil, source, property, comparison, expected, Option.bind_eq_bind, Option.bind_some]
  · cases reads

theorem LoopSettings.restores : Restores LoopSettings.read LoopSettings.toJson := by
  refine restores_of_fields (fun _ => rfl) (by decide) (by decide) fun found settings given reads => ?_
  split at reads
  · simp only [List.forall_mem_cons] at given
    obtain ⟨g1, g2, g3, g4, g5, g6, g7, -⟩ := given
    simp only [Option.bind_eq_bind, Option.bind_eq_some_iff, Option.some.injEq] at reads
    obtain ⟨_, r1, _, r2, _, r3, _, r4, _, r5, _, r6, _, r7, rfl⟩ := reads
    have mode := restoresField_string _ _ g1 r1
    have count := (restores_lenientNat.withDefault rfl) _ _ g2 r2
    have iterableVar := restoresField_string _ _ g3 r3
    have itemVar := restoresField_string _ _ g4 r4
    have indexVar := restoresField_string _ _ g5 r5
    have condition := restoresField_string _ _ g6 r6
    have maxIterations := (restores_lenientNat.withDefault rfl) _ _ g7 r7
    simp only [List.map_cons, List.map_nil, mode, count, iterableVar, itemVar, indexVar, condition, maxIterations,
      Option.bind_eq_bind, Option.bind_some]
  · cases reads

theorem Overrides.restores : Restores Overrides.read Overrides.toJson := by
  refine restores_of_fields (fun _ => rfl) (by decide) (by decide) fun found o given reads => ?_
  split at reads
  · simp only [List.forall_mem_cons] at given
    obtain ⟨g1, g2, g3, g4, g5, g6, g7, g8, g9, g10, -⟩ := given
    simp only [Option.bind_eq_bind, Option.bind_eq_some_iff, Option.some.injEq] at reads
    obtain ⟨_, r1, _, r2, _, r3, _, r4, _, r5, _, r6, _, r7, _, r8, _, r9, _, r10, rfl⟩ := reads
    have enabled := restoresField_any _ _ g1 r1
    have url := restoresField_string _ _ g2 r2
    have method := restoresField_string _ _ g3 r3
    have headers := restoresField_any _ _ g4 r4
    have body := restoresField_any _ _ g5 r5
    have params := restoresField_dict _ _ g6 r6
    have setupScript := restoresField_string _ _ g7 r7
    have assertionScript := restoresField_string _ _ g8 r8
    have extract := (ExtractRule.restores.list.withDefault rfl) _ _ g9 r9
    have checks := (Check.restores.list.withDefault rfl) _ _ g10 r10
    simp only [List.map_cons, List.map_nil, enabled, url, method, headers, body, params, setupScript, assertionScript,
      extract, checks, Option.bind_eq_bind, Option.bind_some]
  · cases reads

namespace StepRow
variable {row : StepRow} {v : Json}

/-- The fields of a row that has been read are written so that they are read as the same. -/
theorem ofFields_members (reads : StepRow.read (.json v) = some row) :
    ofFields (row.members.map fun p => some (.json p.2)) = some row := by
  obtain ⟨found, finds, reads⟩ := Option.bind_eq_some_iff.mp reads
  have given := ofJson_of_fields finds
  unfold ofFields at reads
  split at reads
  · simp only [List.forall_mem_cons] at given
    obtain ⟨g1, g2, g3, g4, g5, g6, g7, g8, g9, -⟩ := given
    simp only [Option.bind_eq_bind, Option.bind_eq_some_iff, Option.some.injEq] at reads
    obtain ⟨_, r1, _, r2, _, r3, _, r4, _, r5, _, r6, _, r7, _, r8, _, r9, rfl⟩ := reads
    have id := restores_int64.required _ _ g1 r1
    have parent := restoresField_int64 _ _ g2 r2
    have kind := StepKind.restores.required _ _ g3 r3
    have name := (restores_string.withDefault rfl) _ _ g4 r4
    have order := restoresField_int32 _ _ g5 r5
    have caseId := restoresField_int64 _ _ g6 r6
    have scenarioId := restoresField_int64 _ _ g7 r7
    have control := restoresField_any _ _ g8 r8
    have overrides := restoresField_any _ _ g9 r9
    simp only [ofFields, members, List.map_cons, List.map_nil, id, parent, kind, name, order, caseId, scenarioId, control,
      overrides, Option.bind_eq_bind, Option.bind_some]
  · cases reads

theorem names_with_children (row : StepRow) (children : Json) :
    (row.members ++ [("children", children)]).map Prod.fst = firstNames fieldNames ++ ["children"] := rfl

theorem names_nodup (row : StepRow) (children : Json) :
    ((row.members ++ [("children", children)]).map Prod.fst).Nodup := by
  rw [names_with_children]
  decide

/-- Children that are written with the fields of a row do not disturb them. -/
theorem fields_with_children (row : StepRow) (children : Json) :
    fields (.json (.object (row.members ++ [("children", children)]))) fieldNames =
      some (row.members.map fun p => some (.json p.2)) := by
  have own : row.members.map Prod.fst = firstNames fieldNames := rfl
  refine fields_object (row.names_nodup children) (List.subset_append_left _ _) ?_
  rw [names_with_children, own]
  decide

end StepRow

/-! ### Steps -/

namespace Step
variable {members : List (String × Json)} {items : List Json} {v : Json} {step : Step} {steps : List Step}
  {found : Option (List Step)}

theorem readMembers_eq (members : List (String × Json)) :
    readMembers members = match written members "children" with
      | [] => some none
      | [w] => (readList w).map some
      | _ => none := by
  induction members with
  | nil => rfl
  | cons member rest ih =>
    obtain ⟨name, w⟩ := member
    by_cases here : name = "children"
    · subst here
      have all : written (("children", w) :: rest) "children" = w :: written rest "children" := by
        simp [written]
      rw [readMembers, if_pos (beq_self_eq_true _), all]
      -- The reader looks for a second member of the name before it reads the first one.
      cases others : written rest "children" with
      | nil =>
        have single : ¬ rest.any (·.1 == "children") := by
          rintro again
          obtain ⟨⟨name, u⟩, among, same⟩ := List.any_eq_true.mp again
          obtain rfl : name = "children" := beq_iff_eq.mp same
          simpa [others] using mem_written_iff.mpr among
        rw [if_neg single]
      | cons second _ =>
        have among : ("children", second) ∈ rest := mem_written_iff.mp (by simp [others])
        rw [if_pos (List.any_eq_true.mpr ⟨_, among, beq_self_eq_true "children"⟩)]
    · rw [readMembers, if_neg (by simpa using here), ih, written, written, List.filter_cons_of_neg (by simpa using here)]

theorem readTail_eq (before : Nat) (items : List Json) :
    readTail before items = match items[before]? with
      | none => some none
      | some w => (readList w).map some := by
  induction items generalizing before with
  | nil => rfl
  | cons w rest ih =>
    cases before with
    | zero => rfl
    | succ before => rw [readTail, ih, List.getElem?_cons_succ]

theorem readAll_eq (items : List Json) : readAll items = items.mapM read := by
  induction items with
  | nil => rfl
  | cons v rest ih => rw [readAll, ih, List.mapM_cons]; rfl

theorem allToJson_eq (steps : List Step) : allToJson steps = steps.map toJson := by
  induction steps with
  | nil => rfl
  | cons s rest ih => rw [allToJson, ih, List.map_cons]

/-- The children of a step are read from a value below the one that the step is read from, if they are there at all. -/
theorem child_of_readMembers (reads : readMembers members = some found) :
    found.getD [] = [] ∨ ∃ w, Json.Child (.obj members) w ∧ readList w = some (found.getD []) := by
  rw [readMembers_eq] at reads
  split at reads
  case h_1 =>
    cases reads
    exact .inl rfl
  case h_2 w single =>
    obtain ⟨steps, below, rfl⟩ := Option.map_eq_some_iff.mp reads
    exact .inr ⟨w, .member (mem_written_iff.mp (by rw [single]; exact List.mem_singleton_self w)), below⟩
  case h_3 => cases reads

theorem child_of_readTail {before : Nat} (reads : readTail before items = some found) :
    found.getD [] = [] ∨ ∃ w, Json.Child (.arr items) w ∧ readList w = some (found.getD []) := by
  rw [readTail_eq] at reads
  split at reads
  case h_1 =>
    cases reads
    exact .inl rfl
  case h_2 w there =>
    obtain ⟨steps, below, rfl⟩ := Option.map_eq_some_iff.mp reads
    exact .inr ⟨w, .item (List.mem_of_getElem? there), below⟩

/-- A step is read from a row and from a list of steps. -/
theorem parts_of_read (reads : read v = some step) :
    (∃ w, StepRow.read (.json w) = some step.row) ∧
      (step.children = [] ∨ ∃ w, Json.Child v w ∧ readList w = some step.children) := by
  cases v with
  | obj members =>
    simp only [read, Option.bind_eq_bind, Option.bind_eq_some_iff, Option.some.injEq] at reads
    obtain ⟨row, ofRow, found, ofChildren, rfl⟩ := reads
    exact ⟨⟨_, ofRow⟩, child_of_readMembers ofChildren⟩
  | arr items =>
    simp only [read, Option.bind_eq_bind, Option.ite_none_left_eq_some, Option.bind_eq_some_iff, Option.some.injEq] at reads
    obtain ⟨-, row, ofRow, found, ofChildren, rfl⟩ := reads
    exact ⟨⟨_, ofRow⟩, child_of_readTail ofChildren⟩
  | null | bool | num | str => cases reads

theorem read_with_children {row : StepRow} (ofRow : StepRow.read (.json v) = some row) (below : readAll items = some steps) :
    read (.object (row.members ++ [("children", .arr items)])) = some ⟨row, steps⟩ := by
  have ofMembers : StepRow.read (.json (.object (row.members ++ [("children", .arr items)]))) = some row := by
    rw [StepRow.read, StepRow.fields_with_children]
    exact StepRow.ofFields_members ofRow
  have ofChildren : readMembers (Dict.ofList (row.members ++ [("children", .arr items)])) = some (some steps) := by
    have member : ("children", Json.arr items) ∈ row.members ++ [("children", .arr items)] := by simp
    rw [readMembers_eq, written_ofList (row.names_nodup _) member]
    exact congrArg (Option.map some) below
  -- `read` takes the members apart once more, now that they are in the order of their names.
  rw [Json.object] at ofMembers ⊢
  simp only [read, ofMembers, ofChildren, Option.bind_eq_bind, Option.bind_some, Option.getD_some]

theorem readAll_allToJson (each : ∀ w ∈ items, ∀ step, read w = some step → read step.toJson = some step)
    (reads : readAll items = some steps) : readAll (allToJson steps) = some steps := by
  rw [readAll_eq, mapM_eq_some_iff] at reads
  rw [readAll_eq, allToJson_eq, mapM_eq_some_iff, List.forall₂_map_left_iff]
  induction reads with
  | nil => exact .nil
  | cons first _ rest =>
    obtain ⟨here, later⟩ := List.forall_mem_cons.mp each
    exact .cons (here _ first) (rest later)

/-- By induction on the value that is read. Children stand two levels below their step, so that the list of steps
    which a value may be is taken along. -/
theorem read_toJson (v : Json) : ∀ step, read v = some step → read step.toJson = some step := by
  have both : (∀ step, read v = some step → read step.toJson = some step) ∧
      ∀ steps, readList v = some steps → readAll (allToJson steps) = some steps := by
    induction v using Json.child_induction with
    | step v ih =>
      constructor
      · rintro ⟨row, children⟩ reads
        obtain ⟨⟨w, ofRow⟩, ofChildren⟩ := parts_of_read reads
        rw [toJson]
        refine read_with_children ofRow ?_
        rcases ofChildren with none | ⟨u, below, reads⟩
        · cases none
          rfl
        · exact (ih u below).2 children reads
      · intro steps reads
        cases v with
        | arr items => exact readAll_allToJson (fun w among => (ih w (.item among)).1) reads
        | null | bool | num | str | obj => cases reads
  exact both.1

end Step

/-- Every step, every settings of a loop and all overrides that are read from JSON, whatever form they have there, are
    written so that they can be read again, as the same. -/
theorem written_form_reads_the_same (v : Json) :
    (∀ step, Step.read v = some step → Step.read step.toJson = some step) ∧
    (∀ settings, LoopSettings.read (.json v) = some settings →
      LoopSettings.read (.json settings.toJson) = some settings) ∧
    (∀ o, Overrides.read (.json v) = some o → Overrides.read (.json o.toJson) = some o) :=
  ⟨Step.read_toJson v, LoopSettings.restores v, Overrides.restores v⟩

/-- A step under the other name of its kind, with a child that is an array of its first three fields and another
    member; settings of a loop in an array, with numbers as text and with a fraction; a check with a comparison that
    is not known. -/
theorem other_forms_read_the_same :
    let wait : Json := .arr [.ofInt 2, .ofInt 1, .obj [("WAIT", .null)]]
    let group : Json := .obj [("children", .arr [wait]), ("id", .ofInt 1), ("kind", .str "GROUP"), ("note", .bool true)]
    let step : Step := ⟨{ id := 1, kind := .group }, [⟨{ id := 2, parent := some 1, kind := .wait }, []⟩]⟩
    let loop : Json := .arr [.str "count", .str " 12 ", .null, .str "item", .null, .null, .num (.float 2.5)]
    let settings : LoopSettings :=
      { modeText := some "count", count := some 12, itemVar := some "item"
        maxIterations := if (2.5 : Float) ≥ 0.0 then some (2.5 : Float).toUInt64.toNat else none }
    let changes : Json := .obj [("extract", .arr [.obj [("type", .str "jsonPath"), ("varName", .str "id")]]),
      ("params", .obj [("b", .null), ("a", .null)]), ("visualAssertions", .arr [.obj [("operator", .str "MATCHES")]])]
    let o : Overrides :=
      { params := some [("a", .null), ("b", .null)]
        extract := [{ varName := "id" }]
        checks := [{ comparison := .unknown }] }
    (Step.read group = some step ∧ Step.read step.toJson = some step) ∧
      (LoopSettings.read (.json loop) = some settings ∧ LoopSettings.read (.json settings.toJson) = some settings) ∧
      (Overrides.read (.json changes) = some o ∧ Overrides.read (.json o.toJson) = some o) := by
  intro wait group step loop settings changes o
  have ofGroup : Step.read group = some step := rfl
  have ofLoop : LoopSettings.read (.json loop) = some settings := rfl
  have ofChanges : Overrides.read (.json changes) = some o := rfl
  exact ⟨⟨ofGroup, (written_form_reads_the_same group).1 step ofGroup⟩,
    ⟨ofLoop, (written_form_reads_the_same loop).2.1 settings ofLoop⟩,
    ⟨ofChanges, (written_form_reads_the_same changes).2.2 o ofChanges⟩⟩

end TestScenario
