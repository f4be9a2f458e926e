import Mathlib
import TestScenario.Catalog.Parts
import TestScenario.Engine.Rehearsal
import TestScenario.Proofs.Cancellation
import TestScenario.Proofs.Frame

/-!
What becomes of the variables that a loop binds. Each round binds them in a scope of its own, but with that scope they
are merged into the scope around the loop like any other variable. So the values of the first round stay behind there,
unless the scope around holds the names already (`loop_leaves_first_round`).

What a scope holds under a name is called its slot. An action is confined if it gives every slot back as it was, as long
as none of its steps sets the name.
-/

namespace TestScenario
variable {σ η : Type}

namespace Scopes

/-- What the scopes hold under a name, innermost first. -/
def slots (s : Scopes) (name : String) : List (Option Json) := s.all.map (·.get? name)

/-- Whether scopes differ in what the innermost one holds under a name, where a new scope is empty at first. Closing a
    scope sets nothing. -/
def Sets (name : String) (s t : Scopes) : Prop :=
  s.depth ≤ t.depth ∧ t.current.get? name ≠ if t.depth = s.depth then s.current.get? name else none

variable {name : String} {s t : Scopes} {a outer : Option Json} {rest : List (Option Json)}

theorem slots_eq (s : Scopes) (name : String) :
    s.slots name = s.current.get? name :: s.below.map (·.get? name) := by
  rw [slots, all_eq, List.map_cons]

theorem length_slots (s : Scopes) (name : String) : (s.slots name).length = s.depth := by
  rw [slots_eq, depth_eq, List.length_cons, List.length_map]

theorem get?_eq_slots (s : Scopes) (name : String) : s.get? name = (s.slots name).findSome? id := by
  rw [get?, slots, List.findSome?_map]
  rfl

/-- What scopes that begin with some slots have below the first one. -/
theorem around_of_slots (slots : s.slots name = a :: outer :: rest) :
    ∃ scope scopes, s.below = scope :: scopes ∧ s.current.get? name = a ∧ scope.get? name = outer ∧
      scopes.map (·.get? name) = rest := by
  rw [slots_eq] at slots
  obtain ⟨here, around⟩ := List.cons.inj slots
  cases below : s.below with
  | nil => rw [below] at around; cases around
  | cons scope scopes =>
    rw [below, List.map_cons] at around
    obtain ⟨next, further⟩ := List.cons.inj around
    exact ⟨scope, scopes, rfl, here, next, further⟩

theorem slots_open (s : Scopes) (vars : List (String × Json)) (name : String) :
    (s.push.setLocals vars).slots name = Dict.get? vars.reverse name :: s.slots name := by
  rw [slots_eq, get?_current_setLocals, current_push, Dict.get?_nil, Option.or_none, below_setLocals, below_push]
  rfl

theorem depth_mergeUp (s : Scopes) (only : Option (List String)) : (s.mergeUp only).depth = s.depth := by
  cases s with | mk globals inner =>
  cases inner with
  | nil => rfl
  | cons top inner => cases inner <;> rfl

theorem slots_mergeUp (slots : s.slots name = a :: outer :: rest) :
    (s.mergeUp none).slots name = a :: outer.or a :: rest := by
  obtain ⟨scope, scopes, around, here, next, further⟩ := around_of_slots slots
  have current : (s.mergeUp none).current = s.current := by
    cases s with | mk globals inner =>
    cases inner with
    | nil => rfl
    | cons top inner => cases inner <;> rfl
  rw [slots_eq, current, s.below_mergeUp none around, List.map_cons, get?_exported, here, next, further]
  rfl

theorem slots_dropTop (slots : s.slots name = a :: outer :: rest) : s.dropTop.slots name = outer :: rest := by
  obtain ⟨scope, scopes, around, -, next, further⟩ := around_of_slots slots
  rw [Scopes.slots, s.all_dropTop around, List.map_cons, next, further]

theorem slots_close (slots : s.slots name = a :: outer :: rest) :
    ((s.mergeUp none).dropTop).slots name = outer.or a :: rest :=
  slots_dropTop (slots_mergeUp slots)

/-- A change of the innermost scope alone that does not set the name leaves all slots as they are. -/
theorem slots_of_unset (below : t.below = s.below) (unset : ¬ Sets name s t) : t.slots name = s.slots name := by
  have level : t.depth = s.depth := by rw [depth_eq, depth_eq, below]
  have same : t.current.get? name = s.current.get? name := by
    by_contra differs
    refine unset ⟨level.ge, ?_⟩
    rwa [if_pos level]
  rw [slots_eq, slots_eq, below, same]

/-- A new scope that does not set the name has nothing under it. -/
theorem slot_of_unset (slots : t.slots name = a :: s.slots name) (unset : ¬ Sets name s t) : a = none := by
  have deeper : t.depth = s.depth + 1 := by rw [← length_slots t name, slots, List.length_cons, length_slots]
  have here : t.current.get? name = a := by
    rw [slots_eq] at slots
    exact (List.cons.inj slots).1
  by_contra some
  refine unset ⟨by omega, ?_⟩
  rwa [if_neg (by omega), here]

end Scopes

/-- How many scopes there are. -/
def Stage.depth (s : Stage σ η) : Nat := s.context.scopes.depth

/-- What the scopes hold under a name, innermost first. -/
def Stage.slots (s : Stage σ η) (name : String) : List (Option Json) := s.context.scopes.slots name

/-- The scopes around the innermost one. -/
def Stage.around (s : Stage σ η) : List Members := s.context.scopes.below

/-- Whether a step from one stage to the next sets a variable. -/
def Stage.Sets (name : String) (move : Stage σ η × Stage σ η) : Prop :=
  Scopes.Sets name move.1.context.scopes move.2.context.scopes

/-- The stage with a new innermost scope that holds some variables. -/
def Stage.opened (vars : List (String × Json)) (s : Stage σ η) : Stage σ η :=
  { s with context := s.context.mapScopes (·.push.setLocals vars) }

namespace Stage
variable (s : Stage σ η) (vars : List (String × Json)) (name : String)

theorem length_slots : (s.slots name).length = s.depth := s.context.scopes.length_slots name

/-- With the same scopes around the innermost one there are as many scopes. -/
theorem depth_of_around {s t : Stage σ η} (same : Agree around s t) : t.depth = s.depth := by
  rw [depth, depth, Scopes.depth_eq, Scopes.depth_eq]
  exact congrArg (·.length + 1) same

theorem depth_pos : 0 < s.depth := Nat.succ_pos _

/-- There is always an innermost scope. -/
theorem slots_cons : ∃ a rest, s.slots name = a :: rest := ⟨_, _, s.context.scopes.slots_eq name⟩

/-- Inside the global scope there are two scopes at least. -/
theorem slots_inside (inside : 1 < s.depth) : ∃ a outer rest, s.slots name = a :: outer :: rest := by
  obtain ⟨a, around, slots⟩ := s.slots_cons name
  cases around with
  | nil =>
    rw [← s.length_slots name, slots, List.length_singleton] at inside
    exact absurd inside (Nat.lt_irrefl 1)
  | cons outer rest => exact ⟨a, outer, rest, slots⟩

theorem slots_opened : (s.opened vars).slots name = Dict.get? vars.reverse name :: s.slots name :=
  s.context.scopes.slots_open vars name

theorem depth_opened : (s.opened vars).depth = s.depth + 1 := by
  rw [← length_slots _ "", slots_opened, List.length_cons, length_slots]

end Stage

/-- How many scopes there are, and what the innermost one holds under a name. -/
def Stage.top (s : Stage σ η) (name : String) : Nat × Option Json := (s.depth, s.context.scopes.current.get? name)

/-- Whether steps set a name can be seen from the tops of the scopes. -/
theorem Stage.unset_of_tops {name : String} {depth : Nat} {moves : List (Stage σ η × Stage σ η)}
    {t : List ((Nat × Option Json) × (Nat × Option Json))}
    (seen : (moves.filter (depth < ·.1.depth)).map (fun m => (m.1.top name, m.2.top name)) = t)
    (unset : ∀ p ∈ t, ¬ (p.1.1 ≤ p.2.1 ∧ p.2.2 ≠ if p.2.1 = p.1.1 then p.1.2 else none)) :
    ∀ m ∈ moves, depth < m.1.depth → ¬ Sets name m := by
  rw [← seen, List.forall_mem_map] at unset
  intro m member deeper
  exact unset m (List.mem_filter.mpr ⟨member, decide_eq_true deeper⟩)

namespace Act
open Stage
variable {α β : Type} {name : String} {x : Act σ η α}

/-- The steps of a run, each as the stages before and after it. -/
def moves : Act σ η α → Stage σ η → List (Stage σ η × Stage σ η)
  | .answer _, _ => []
  | .step change next, s => (s, (change s).2) :: (next (change s).1).moves (change s).2

@[simp] theorem moves_pure (a : α) (s : Stage σ η) : (pure a : Act σ η α).moves s = [] := rfl

@[simp] theorem moves_bind (x : Act σ η α) (f : α → Act σ η β) (s : Stage σ η) :
    (x >>= f).moves s = x.moves s ++ (f (x.run s).1).moves (x.run s).2 := by
  induction x generalizing s with
  | answer a => rfl
  | step change next ih => exact congrArg ((s, (change s).2) :: ·) (ih (change s).1 (change s).2)

@[simp] theorem moves_map (f : α → β) (x : Act σ η α) (s : Stage σ η) : (f <$> x).moves s = x.moves s :=
  (moves_bind x (fun a => pure (f a)) s).trans (List.append_nil _)

@[simp] theorem moves_modifyScopes (f : Scopes → Scopes) (s : Stage σ η) :
    (modifyScopes f : Act σ η Unit).moves s = [(s, { s with context := s.context.mapScopes f })] := rfl

/-- Every step leads from the beginning, or from a stage passed through, to the next such stage. -/
theorem mem_trail_of_moves {s : Stage σ η} {m : Stage σ η × Stage σ η} (member : m ∈ x.moves s) :
    (m.1 = s ∨ m.1 ∈ x.trail s) ∧ m.2 ∈ x.trail s := by
  induction x generalizing s with
  | answer a => cases member
  | step change next ih =>
    rcases List.mem_cons.mp member with here | later
    · rw [here]
      exact ⟨.inl rfl, List.mem_cons_self⟩
    · obtain ⟨before, after⟩ := ih _ later
      refine ⟨.inr ?_, List.mem_cons_of_mem _ after⟩
      rcases before with first | passed
      · rw [first]; exact List.mem_cons_self
      · exact List.mem_cons_of_mem _ passed

/-- What relates the beginning to all stages of a run relates it to both stages of each step. -/
theorem Along.moves {R : Stage σ η → Stage σ η → Prop} [Std.Refl R] (along : x.Along R) {s : Stage σ η}
    {m : Stage σ η × Stage σ η} (member : m ∈ x.moves s) : R s m.1 ∧ R s m.2 := by
  obtain ⟨before, after⟩ := mem_trail_of_moves member
  refine ⟨?_, along s _ after⟩
  rcases before with first | passed
  · rw [first]; exact Std.Refl.refl s
  · exact along s _ passed

/-! ### Actions that stay on their level -/

/-- The action ends with as many scopes as it begins with, and never has fewer. -/
structure Levelled (x : Act σ η α) (s : Stage σ η) : Prop where
  level : (x.run s).2.depth = s.depth
  inside : ∀ m ∈ x.moves s, s.depth ≤ m.1.depth

theorem Levelled.pure (a : α) (s : Stage σ η) : (pure a : Act σ η α).Levelled s := ⟨rfl, nofun⟩

theorem Levelled.bind {f : α → Act σ η β} {s : Stage σ η} (first : x.Levelled s)
    (rest : (f (x.run s).1).Levelled (x.run s).2) : (x >>= f).Levelled s := by
  refine ⟨?_, ?_⟩
  · rw [run_bind]
    exact rest.level.trans first.level
  · intro m member
    rw [moves_bind] at member
    rcases List.mem_append.mp member with early | late
    · exact first.inside m early
    · exact first.level.symm.le.trans (rest.inside m late)

/-- The action gives every slot of the name back as it was, unless one of its steps sets the name. -/
structure Confined (name : String) (x : Act σ η α) : Prop where
  levelled : ∀ s, x.Levelled s
  spares : ∀ s, (∀ m ∈ x.moves s, ¬ Sets name m) → (x.run s).2.slots name = s.slots name

theorem Confined.pure (a : α) : (pure a : Act σ η α).Confined name := ⟨.pure a, fun _ _ => rfl⟩

theorem Confined.bind {f : α → Act σ η β} (first : x.Confined name) (rest : ∀ a, (f a).Confined name) :
    (x >>= f).Confined name := by
  refine ⟨fun s => .bind (first.levelled s) ((rest _).levelled _), ?_⟩
  intro s unset
  simp only [moves_bind, List.forall_mem_append] at unset
  rw [run_bind]
  exact ((rest _).spares _ unset.2).trans (first.spares s unset.1)

theorem Confined.map (f : α → β) (confined : x.Confined name) : (f <$> x).Confined name :=
  .bind confined fun _ => .pure _

theorem Confined.ite {p : Prop} [Decidable p] {y : Act σ η α} (left : x.Confined name) (right : y.Confined name) :
    (if p then x else y).Confined name := by
  split
  · exact left
  · exact right

theorem Confined.rounds {body : Nat → Act σ η (Option (List α))} (each : ∀ i, (body i).Confined name)
    (limit round : Nat) : (Act.rounds body limit round).Confined name := by
  induction limit generalizing round with
  | zero => exact .pure []
  | succ limit ih =>
    refine .bind (each round) fun first => ?_
    cases first with
    | none => exact .pure []
    | some first => exact .bind (ih (round + 1)) fun later => .pure _

/-- Step by step, what a run holds under a name stays the same if the name is not set. -/
theorem slots_of_unset {around : List Members} {s : Stage σ η} (below : s.context.scopes.below = around)
    (still : ∀ m ∈ x.moves s, m.2.context.scopes.below = around) (unset : ∀ m ∈ x.moves s, ¬ Sets name m) :
    (x.run s).2.slots name = s.slots name := by
  induction x generalizing s with
  | answer a => rfl
  | step change next ih =>
    obtain ⟨here, later⟩ := List.forall_mem_cons.mp still
    obtain ⟨free, unset⟩ := List.forall_mem_cons.mp unset
    exact (ih _ here later unset).trans (Scopes.slots_of_unset (here.trans below.symm) free)

/-- An action that changes no scope but the innermost one is confined. -/
theorem Confined.around (around : x.Along (Agree Stage.around)) : x.Confined name := by
  refine ⟨fun s => ⟨Stage.depth_of_around (around.ensures s), ?_⟩, ?_⟩
  · intro m member
    exact (Stage.depth_of_around (around.moves member).1).ge
  · intro s unset
    exact slots_of_unset rfl (fun m member => (around.moves member).2) unset

theorem Confined.grown (grown : x.Along (Framed Scopes.Grown)) : x.Confined name :=
  .around (grown.mono fun framed => framed.scopes.below)

theorem Confined.place (stays : x.Along (Agree Stage.place)) : x.Confined name :=
  .grown (Engine.framed_of_place stays)

theorem Confined.own (own : x.Along (Agree Stage.own)) : x.Confined name := .grown (Engine.framed_of_own own)

/-- The action closes the innermost scope: what that holds under the name goes away, or outwards if the name is free
    there. -/
structure Closes (name : String) (x : Act σ η α) : Prop where
  above : ∀ s, ∀ m ∈ x.moves s, m.1.depth = s.depth
  closed : ∀ s a outer rest, s.slots name = a :: outer :: rest →
    (x.run s).2.slots name = outer :: rest ∨ (x.run s).2.slots name = outer.or a :: rest

section
variable (vars : List (String × Json)) {f : α → Act σ η β}

theorem run_scope (s : Stage σ η) :
    (do
      modifyScopes (·.push.setLocals vars)
      let a ← x
      f a : Act σ η β).run s = (f (x.run (s.opened vars)).1).run (x.run (s.opened vars)).2 := by
  rw [run_bind, run_bind]
  rfl

theorem moves_scope (s : Stage σ η) :
    (do
      modifyScopes (·.push.setLocals vars)
      let a ← x
      f a : Act σ η β).moves s =
      (s, s.opened vars) ::
        (x.moves (s.opened vars) ++ (f (x.run (s.opened vars)).1).moves (x.run (s.opened vars)).2) := by
  rw [moves_bind, moves_bind]
  rfl

/-- Opening a scope and closing it again around a confined action is confined. -/
theorem Confined.scope (inner : x.Confined name) (closing : ∀ a, (f a).Closes name) :
    (do
      modifyScopes (·.push.setLocals vars)
      let a ← x
      f a : Act σ η β).Confined name := by
  have deeper (s : Stage σ η) : (x.run (s.opened vars)).2.depth = s.depth + 1 :=
    (inner.levelled _).level.trans (s.depth_opened vars)
  refine ⟨fun s => ⟨?_, ?_⟩, ?_⟩
  · have opens : 1 < (x.run (s.opened vars)).2.depth := by
      rw [deeper]
      exact Nat.succ_lt_succ s.depth_pos
    obtain ⟨a, outer, rest, inside⟩ := (x.run (s.opened vars)).2.slots_inside name opens
    have count := congrArg List.length inside
    rw [length_slots, deeper] at count
    rw [run_scope, ← length_slots _ name]
    rcases (closing (x.run (s.opened vars)).1).closed _ _ _ _ inside with dropped | merged
    · exact (congrArg List.length dropped).trans (Nat.succ.inj count).symm
    · exact (congrArg List.length merged).trans (Nat.succ.inj count).symm
  · intro m member
    rw [moves_scope] at member
    have above : s.depth ≤ (s.opened vars).depth := (Nat.le_succ _).trans (s.depth_opened vars).symm.le
    rcases List.mem_cons.mp member with opening | member
    · rw [opening]
    · rcases List.mem_append.mp member with within | closes
      · exact above.trans ((inner.levelled _).inside m within)
      · rw [(closing _).above _ m closes, (inner.levelled _).level]
        exact above
  · intro s unset
    rw [moves_scope, List.forall_mem_cons, List.forall_mem_append] at unset
    obtain ⟨opening, within, -⟩ := unset
    have free : Dict.get? vars.reverse name = none := Scopes.slot_of_unset (s.slots_opened vars name) opening
    have inside := (inner.spares _ within).trans (s.slots_opened vars name)
    obtain ⟨outer, rest, around⟩ := s.slots_cons name
    rw [free, around] at inside
    rw [run_scope, around]
    rcases (closing _).closed _ _ _ _ inside with dropped | merged
    · exact dropped
    · rw [Option.or_none] at merged
      exact merged

end

/-! ### What loops leave behind -/

/-- Whether a run opens a scope inside those that it begins with. -/
def Opens (x : Act σ η α) (s : Stage σ η) : Prop := ∃ m ∈ x.moves s, s.depth < m.1.depth

/-- Slots with the first one filled, if it is free. -/
def fill (v : Option Json) : List (Option Json) → List (Option Json)
  | [] => []
  | a :: rest => a.or v :: rest

theorem fill_fill (v w : Option Json) (slots : List (Option Json)) : fill w (fill v slots) = fill (v.or w) slots := by
  cases slots with
  | nil => rfl
  | cons a rest => exact congrArg (· :: rest) (Option.or_assoc)

/-- The action leaves a value behind in the innermost scope if it opens a scope, provided that no step inside such a
    scope sets the name. -/
structure Leaves (name : String) (v : Option Json) (x : Act σ η α) (s : Stage σ η) : Prop extends Levelled x s where
  leaves : (∀ m ∈ x.moves s, s.depth < m.1.depth → ¬ Sets name m) →
    (¬ x.Opens s → (x.run s).2.slots name = s.slots name) ∧
      (x.Opens s → (x.run s).2.slots name = fill v (s.slots name))

section
variable {v w : Option Json} {f : α → Act σ η β} {s : Stage σ η}

theorem opens_bind (level : (x.run s).2.depth = s.depth) :
    (x >>= f).Opens s ↔ x.Opens s ∨ (f (x.run s).1).Opens (x.run s).2 := by
  simp only [Opens, moves_bind, List.mem_append, level]
  constructor
  · rintro ⟨m, early | late, deeper⟩
    · exact .inl ⟨m, early, deeper⟩
    · exact .inr ⟨m, late, deeper⟩
  · rintro (⟨m, early, deeper⟩ | ⟨m, late, deeper⟩)
    · exact ⟨m, .inl early, deeper⟩
    · exact ⟨m, .inr late, deeper⟩

/-- What two actions leave behind one after the other, where the first of them decides if it opens a scope. -/
theorem Leaves.after (first : x.Leaves name v s) (rest : (f (x.run s).1).Leaves name w (x.run s).2)
    (decides : x.Opens s → v.or w = v) (alike : ¬ x.Opens s → v = w) : (x >>= f).Leaves name v s := by
  refine ⟨.bind first.toLevelled rest.toLevelled, ?_⟩
  intro unset
  rw [moves_bind, List.forall_mem_append] at unset
  have early := first.leaves unset.1
  have late := rest.leaves fun m member deeper => unset.2 m member (first.level.symm.le.trans_lt deeper)
  rw [opens_bind first.level, run_bind]
  by_cases opened : x.Opens s
  · refine ⟨fun never => absurd (.inl opened) never, fun _ => ?_⟩
    by_cases again : (f (x.run s).1).Opens (x.run s).2
    · rw [late.2 again, early.2 opened, fill_fill, decides opened]
    · rw [late.1 again, early.2 opened]
  · refine ⟨fun never => ?_, fun some => ?_⟩
    · rw [late.1 (never ∘ .inr), early.1 opened]
    · rw [late.2 (some.resolve_left opened), early.1 opened, alike opened]

theorem Leaves.pure (a : α) : (pure a : Act σ η α).Leaves name v s :=
  ⟨.pure a s, fun _ => ⟨fun _ => rfl, fun ⟨_, member, _⟩ => nomatch member⟩⟩

theorem Leaves.ite {p : Prop} [Decidable p] {y : Act σ η α} (left : x.Leaves name v s) (right : y.Leaves name v s) :
    (if p then x else y).Leaves name v s := by
  split
  · exact left
  · exact right

theorem Leaves.bind (first : x.Leaves name v s) (rest : (f (x.run s).1).Leaves name v (x.run s).2) :
    (x >>= f).Leaves name v s :=
  .after first rest (fun _ => Option.or_self) fun _ => rfl

theorem Leaves.map (g : α → β) (leaves : x.Leaves name v s) : (g <$> x).Leaves name v s := .bind leaves (.pure _)

/-- An action that stays in its place opens no scope. -/
theorem Leaves.place (stays : x.Along (Agree Stage.place)) : x.Leaves name v s := by
  have same {m : Stage σ η} (agree : Agree Stage.place s m) : m.context.scopes = s.context.scopes :=
    congrArg Prod.fst agree
  have after := same (stays.ensures s)
  have level : ∀ m ∈ x.moves s, m.1.depth = s.depth := by
    intro m member
    exact congrArg Scopes.depth (same (stays.moves member).1)
  refine ⟨⟨congrArg Scopes.depth after, fun m member => (level m member).ge⟩, fun _ => ⟨fun _ => ?_, ?_⟩⟩
  · exact congrArg (·.slots name) after
  · rintro ⟨m, member, deeper⟩
    exact absurd deeper (level m member).not_gt

theorem Leaves.own (own : x.Along (Agree Stage.own)) : x.Leaves name v s :=
  .place (own.mono fun same => Agree.place same.context)

end

end Act

/-- The variables that a loop binds in a round, where it begins with some scopes. -/
def LoopSettings.bindings (settings : LoopSettings) (scopes : Scopes) (round : Nat) : List (String × Json) :=
  match settings.mode with
  | .count | .while => counters round
  | .foreach =>
    let items := ((scopes.get? (settings.iterableVar.getD "")).bind Json.items?).getD []
    [(settings.itemVar.getD "item", items.getD round .null), (settings.indexVar.getD "index", .ofNat round)]

/-- Every round binds the same names. -/
theorem LoopSettings.bindings_alike (settings : LoopSettings) (scopes : Scopes) (name : String) (i j : Nat) :
    (Dict.get? (settings.bindings scopes i).reverse name).isSome =
      (Dict.get? (settings.bindings scopes j).reverse name).isSome := by
  have pairs (m n : String) (v w v' w' : Json) :
      (Dict.get? [(m, v), (n, w)] name).isSome = (Dict.get? [(m, v'), (n, w')] name).isSome := by
    simp only [Dict.get?_cons, Dict.get?_nil]
    split
    · rfl
    · split <;> rfl
  unfold LoopSettings.bindings
  split
  · exact pairs _ _ _ _ _ _
  · exact pairs _ _ _ _ _ _
  · exact pairs _ _ _ _ _ _

namespace Engine
open Act Stage
variable (e : Engine σ η) {name : String} {nested : Int → Act σ η Ending} {body : Act σ η (List StepResult)}

/-! ### Steps are confined -/

theorem merge_closes {α : Type} (a : α) :
    (do
      modifyScopes fun s => (s.mergeUp none).dropTop
      pure a : Act σ η α).Closes name := by
  refine ⟨?_, ?_⟩
  · intro s m member
    rw [moves_bind, moves_pure, List.append_nil, moves_modifyScopes] at member
    rw [List.mem_singleton.mp member]
  · intro s a outer rest slots
    exact .inr (Scopes.slots_close slots)

theorem inScope_confined (bindings : List (String × Json)) (confined : body.Confined name) :
    (inScope bindings body).Confined name := .scope _ confined merge_closes

theorem conditionStep_confined (step : Step) (confined : body.Confined name) :
    (e.conditionStep step body).Confined name :=
  .bind (.own (e.condition_own _)) fun _ => .ite (inScope_confined [] confined) (.pure [])

theorem loopRounds_confined {goesOn : Act σ η Bool} (own : goesOn.Along (Agree Stage.own))
    (bindings : Nat → List (String × Json)) (limit : Nat) (confined : body.Confined name) :
    (e.loopRounds goesOn bindings limit body).Confined name := by
  refine .rounds (fun round => .bind (.own e.isCancelled_own) fun cancelled => ?_) limit 0
  exact .ite (.pure none) (.bind (.own own) fun holds => .ite (.map some (inScope_confined _ confined)) (.pure none))

theorem loopStep_confined (step : Step) (confined : body.Confined name) : (e.loopStep step body).Confined name := by
  unfold loopStep
  simp only
  split
  · exact e.loopRounds_confined (.pure true) _ _ confined
  · exact .bind (.own context_own) fun c => e.loopRounds_confined (.pure true) _ _ confined
  · exact e.loopRounds_confined (e.condition_own _) _ _ confined

theorem takeOver_depth (step : Step) (stepName : String) (ending : Ending) :
    (e.takeOver step stepName ending).Along (Agree Stage.depth) := by
  cases ending with
  | ok results => exact .bind (.step fun s => s.context.scopes.depth_mergeUp none) fun _ => .pure results
  | error problem =>
    refine (e.record_place step _).mono ?_
    intro s t same
    exact congrArg (·.1.depth) same

theorem takeOver_slots (step : Step) (stepName : String) (ending : Ending) {s : Stage σ η} {a outer : Option Json}
    {rest : List (Option Json)} (slots : s.slots name = a :: outer :: rest) :
    let t := ((e.takeOver step stepName ending).run s).2
    t.slots name = a :: outer :: rest ∨ t.slots name = a :: outer.or a :: rest := by
  cases ending with
  | ok results => exact .inr (Scopes.slots_mergeUp slots)
  | error problem =>
    have stays : (e.takeOver step stepName (.error problem)).Along (Agree place) := e.record_place step _
    exact .inl ((congrArg (·.1.slots name) (stays.ensures s)).trans slots)

/-- What a step takes over from another scenario goes to the scope around, and the scope of its own goes away. -/
theorem takeOver_closes (step : Step) (stepName : String) (ending : Ending) :
    (do
      let results ← e.takeOver step stepName ending
      modifyScopes Scopes.dropTop
      pure results : Act σ η (List StepResult)).Closes name := by
  have level := e.takeOver_depth step stepName ending
  refine ⟨?_, ?_⟩
  · intro s m member
    rw [moves_bind, moves_bind, moves_pure, List.append_nil, moves_modifyScopes] at member
    rcases List.mem_append.mp member with early | late
    · exact (level.moves early).1
    · rw [List.mem_singleton.mp late]
      exact level.ensures s
  · intro s a outer rest slots
    rw [run_bind]
    rcases e.takeOver_slots step stepName ending slots with kept | merged
    · exact .inl (Scopes.slots_dropTop kept)
    · exact .inr (Scopes.slots_dropTop merged)

theorem scenarioStep_confined (inner : ∀ id, (nested id).Confined name) (step : Step) :
    (e.scenarioStep nested step).Confined name := by
  unfold scenarioStep
  simp only
  split
  · exact .place (e.record_place step _)
  · rename_i id _
    refine .bind (.own context_own) fun c => .ite (.place (e.record_place step _)) ?_
    exact .bind (.place (registerStep_place _ _)) fun _ => .scope [] (inner id) fun _ => e.takeOver_closes step _ _

theorem invoke_confined (inner : ∀ id, (nested id).Confined name) (step : Step) (confined : body.Confined name) :
    (e.invoke nested step body).Confined name := by
  unfold invoke
  refine .ite ?_ (.pure [])
  split
  · exact .grown (e.caseStep_grown step)
  · exact confined
  · exact e.conditionStep_confined step confined
  · exact e.loopStep_confined step confined
  · exact .grown (e.waitStep_framed step)
  · exact .grown (e.scriptStep_grown step)
  · exact e.scenarioStep_confined inner step

theorem perform_confined (inner : ∀ id, (nested id).Confined name) (step : Step) (confined : body.Confined name) :
    (e.perform nested step body).Confined name := by
  have invoked := e.invoke_confined inner step confined
  refine .ite (.pure []) (.bind (.place (e.emit_place _)) fun _ => .bind (.own e.isCancelled_own) fun cancelled => ?_)
  refine .bind (.ite (.ite (.place (e.record_place step _)) (.ite invoked (.pure []))) invoked) fun results => ?_
  exact .bind (.own (e.log_own step results)) fun _ => .pure results

theorem dispatchAll_confined (inner : ∀ id, (nested id).Confined name) (steps : List Step) :
    (e.dispatchAll nested steps).Confined name := by
  refine dispatchAll_induction (P := fun _ x => x.Confined name) (Q := fun _ x => x.Confined name)
    (.pure []) ?_ ?_ steps
  · intro step rest x y first later
    exact .bind first fun _ => .bind later fun _ => .pure _
  · intro step body confined
    exact e.perform_confined inner step confined

theorem runSteps_confined {walk : List Step → Act σ η (List StepResult)}
    (confined : ∀ steps, (walk steps).Confined name) (s : Scenario) : (e.runSteps s none walk).Confined name := by
  refine .bind (.own (ask_own _)) fun steps => ?_
  split
  · exact .bind (.own e.now_own) fun _ => .bind (.pure _) fun _ => .pure _
  · refine .bind (.own e.now_own) fun begun => .bind (confined _) fun results => ?_
    refine .bind (.own e.now_own) fun ended => .bind (.own e.isCancelled_own) fun cancelled => ?_
    exact .bind (.pure _) fun _ => .bind (.place (e.emit_place _)) fun _ => .pure _

theorem attempt_confined (inner : ∀ id, (nested id).Confined name) (id : Int) :
    (e.attempt nested false id).Confined name := by
  refine .bind (.own context_own) fun c => .ite (.pure _) (.ite (.pure _) (.bind (.own (ask_own _)) fun found => ?_))
  split
  · exact .pure _
  · exact .pure _
  · rename_i scenario
    refine .bind (.around (.step fun _ => rfl)) fun _ => .bind ?_ fun ending => ?_
    · exact .bind (.place (e.emit_place _)) fun _ => e.runSteps_confined (e.dispatchAll_confined inner) scenario
    · exact .bind (.around (.step fun _ => rfl)) fun _ => .pure ending

theorem inside_confined {beyond : Int → Act σ η Ending} (confined : ∀ id, (beyond id).Confined name) (levels : Nat) :
    ∀ id, (e.inside beyond levels id).Confined name := by
  induction levels with
  | zero => exact confined
  | succ levels ih => exact e.attempt_confined ih

theorem nested_confined (id : Int) : (e.nested id).Confined name := e.inside_confined (fun _ => .pure _) _ id

/-! ### Loops -/

theorem inScope_leaves (vars : List (String × Json)) (confined : body.Confined name) (s : Stage σ η) :
    (inScope vars body).Leaves name (Dict.get? vars.reverse name) s ∧ (inScope vars body).Opens s := by
  have level := (confined.levelled (s.opened vars)).level.trans (s.depth_opened vars)
  have deeper : s.depth < (body.run (s.opened vars)).2.depth := level.symm.le
  have moves : (inScope vars body).moves s =
      (s, s.opened vars) :: (body.moves (s.opened vars) ++
        [((body.run (s.opened vars)).2, ((inScope vars body).run s).2)]) := by
    rw [run_inScope]
    exact moves_scope vars s
  have opens : (inScope vars body).Opens s := by
    rw [Opens, moves]
    exact ⟨_, List.mem_cons_of_mem _ List.mem_concat_self, deeper⟩
  refine ⟨⟨(inScope_confined vars confined).levelled s, ?_⟩, opens⟩
  intro unset
  refine ⟨absurd opens, fun _ => ?_⟩
  rw [moves, List.forall_mem_cons, List.forall_mem_append] at unset
  have within : ∀ m ∈ body.moves (s.opened vars), ¬ Sets name m := by
    intro m member
    have inside := (confined.levelled (s.opened vars)).inside m member
    rw [s.depth_opened vars] at inside
    exact unset.2.1 m member inside
  have slots := (confined.spares _ within).trans (s.slots_opened vars name)
  obtain ⟨outer, rest, around⟩ := s.slots_cons name
  rw [around] at slots
  rw [run_inScope, around]
  exact Scopes.slots_close slots

/-- What an action does by itself decides neither what it leaves behind nor whether it opens a scope. -/
theorem leaves_after_own {α β : Type} {v : Option Json} {x : Act σ η α} {f : α → Act σ η (Option β)} {s : Stage σ η}
    (own : x.Along (Agree Stage.own))
    (rest : (f (x.run s).1).Leaves name v (x.run s).2 ∧
      (((f (x.run s).1).run (x.run s).2).1.isSome → (f (x.run s).1).Opens (x.run s).2)) :
    (x >>= f).Leaves name v s ∧ (((x >>= f).run s).1.isSome → (x >>= f).Opens s) := by
  have here : x.Leaves name v s := .own own
  refine ⟨.bind here rest.1, ?_⟩
  intro answered
  rw [run_bind] at answered
  exact (opens_bind here.level).mpr (.inr (rest.2 answered))

/-- A round leaves its variables behind, if it is run at all. -/
theorem round_leaves {goesOn : Act σ η Bool} (own : goesOn.Along (Agree Stage.own))
    (bindings : Nat → List (String × Json)) (confined : body.Confined name) (i : Nat) (s : Stage σ η) :
    (e.round goesOn bindings body i).Leaves name (Dict.get? (bindings i).reverse name) s ∧
      (((e.round goesOn bindings body i).run s).1.isSome → (e.round goesOn bindings body i).Opens s) := by
  refine leaves_after_own e.isCancelled_own ?_
  split
  · exact ⟨.pure none, nofun⟩
  · refine leaves_after_own own ?_
    split
    · obtain ⟨leaves, opens⟩ := inScope_leaves (bindings i) confined (goesOn.run (e.isCancelled.run s).2).2
      refine ⟨leaves.map some, fun _ => ?_⟩
      rwa [Opens, moves_map]
    · exact ⟨.pure none, nofun⟩

theorem loopRounds_leaves {goesOn : Act σ η Bool} (own : goesOn.Along (Agree Stage.own))
    {bindings : Nat → List (String × Json)}
    (alike : ∀ i, (Dict.get? (bindings i).reverse name).isSome = (Dict.get? (bindings (i + 1)).reverse name).isSome)
    (limit : Nat) (confined : body.Confined name) (s : Stage σ η) :
    (e.loopRounds goesOn bindings limit body).Leaves name (Dict.get? (bindings 0).reverse name) s := by
  rw [loopRounds_eq_rounds]
  generalize 0 = round
  induction limit generalizing round s with
  | zero => exact .pure []
  | succ limit ih =>
    obtain ⟨here, opens⟩ := e.round_leaves own bindings confined round s
    cases answered : ((e.round goesOn bindings body round).run s).1 with
    | none =>
      refine here.bind ?_
      rw [answered]
      exact .pure []
    | some first =>
      have opened := opens (by rw [answered]; rfl)
      refine here.after (w := Dict.get? (bindings (round + 1)).reverse name) ?_ (fun _ => ?_)
        fun never => absurd opened never
      · rw [answered]
        exact .bind (ih _ (round + 1)) (.pure _)
      · -- Either both rounds bind the name, and the first of them decides, or neither does.
        have both := alike round
        cases first : Dict.get? (bindings round).reverse name with
        | some v => rfl
        | none =>
          rw [first, Option.isSome_none, eq_comm, Option.isSome_eq_false_iff, Option.isNone_iff_eq_none] at both
          rw [both, Option.none_or]

/-- A loop leaves the variables of its first round behind. -/
theorem loopStep_leaves (step : Step) (confined : body.Confined name) (s : Stage σ η) :
    (e.loopStep step body).Leaves name (Dict.get? (step.loopSettings.bindings s.context.scopes 0).reverse name) s := by
  have later (i : Nat) := step.loopSettings.bindings_alike s.context.scopes name i (i + 1)
  unfold loopStep
  simp only
  cases mode : step.loopSettings.mode with
  | count =>
    simp only [LoopSettings.bindings, mode] at later ⊢
    exact e.loopRounds_leaves (.pure true) later _ confined s
  | foreach =>
    simp only [LoopSettings.bindings, mode] at later ⊢
    exact .bind (.own context_own) (e.loopRounds_leaves (.pure true) later _ confined s)
  | «while» =>
    simp only [LoopSettings.bindings, mode] at later ⊢
    exact e.loopRounds_leaves (e.condition_own _) later _ confined s

theorem dispatch_leaves (step : Step) (loop : step.row.kind = .loop) (s : Stage σ η) :
    (e.dispatch e.nested step).Leaves name
      (Dict.get? (step.loopSettings.bindings s.context.scopes 0).reverse name) s := by
  cases step with | mk row children =>
  have confined : (e.dispatchAll e.nested children).Confined name := e.dispatchAll_confined e.nested_confined children
  have invoked (u : Stage σ η) : (e.invoke e.nested ⟨row, children⟩ (e.dispatchAll e.nested children)).Leaves name
      (Dict.get? (LoopSettings.bindings (Step.loopSettings ⟨row, children⟩) u.context.scopes 0).reverse name) u := by
    unfold invoke
    refine .ite ?_ (.pure [])
    simp only at loop ⊢
    rw [loop]
    exact e.loopStep_leaves ⟨row, children⟩ confined u
  refine .ite (.pure []) (.bind (.place (e.emit_place _)) (.bind (.own e.isCancelled_own) ?_))
  refine .bind ?_ (.bind (.own (e.log_own _ _)) (.pure _))
  -- The loop begins with the scopes that the step begins with.
  have told := (e.emit_context (.stepStarted row.id row.name)).ensures s
  have asked := (e.isCancelled_own.ensures ((e.emit (.stepStarted row.id row.name)).run s).2).context
  rw [← told, ← asked]
  exact .ite (.ite (.place (e.record_place _ _)) (.ite (invoked _) (.pure []))) (invoked _)

/-- What a name means after a loop, if no step inside the loop sets it. The scope around the loop keeps what it holds,
    and a loop without any round changes nothing. But if a round is run and the name is free in the scope around, the
    value that the first round binds to it, if any, stays there. -/
theorem loop_leaves_first_round (step : Step) (loop : step.row.kind = .loop) (s : Stage σ η)
    (unset : ∀ m ∈ (e.dispatch e.nested step).moves s, s.depth < m.1.depth → ¬ Sets name m) :
    let t := ((e.dispatch e.nested step).run s).2
    t.context.scopes.below = s.context.scopes.below ∧
      (s.context.scopes.current.contains name → t.context.scopes.get? name = s.context.scopes.get? name) ∧
      (¬ (e.dispatch e.nested step).Opens s → t.context.scopes.get? name = s.context.scopes.get? name) ∧
      ((e.dispatch e.nested step).Opens s → ¬ s.context.scopes.current.contains name →
        t.context.scopes.get? name =
          (Dict.get? (step.loopSettings.bindings s.context.scopes 0).reverse name).or
            (s.context.scopes.get? name)) := by
  have spared := (e.dispatch_spared e.nested_grown step (by rw [loop]; rfl) s).scopes
  obtain ⟨still, opened⟩ := (e.dispatch_leaves step loop s).leaves unset
  refine ⟨spared.below, spared.get?_of_current, ?_, ?_⟩
  · intro never
    rw [Scopes.get?_eq_slots, Scopes.get?_eq_slots]
    exact congrArg _ (still never)
  · intro opens free
    have missing : s.context.scopes.current.get? name = none := by simpa [Dict.contains] using free
    have slots := opened opens
    rw [Stage.slots, Stage.slots, Scopes.slots_eq s.context.scopes, missing, fill, Option.none_or] at slots
    rw [Scopes.get?_eq_slots, slots, Scopes.get?_eq_slots s.context.scopes, Scopes.slots_eq s.context.scopes, missing]
    cases Dict.get? (step.loopSettings.bindings s.context.scopes 0).reverse name <;> rfl

/-- A loop of one round leaves its counters behind: they were not visible before, no step inside sets them, and
    afterwards they have the values of that round. -/
theorem loop_index_stays :
    let engine : Engine (Rehearsal CallLog) Unit :=
      { host := ({} : Catalog).host (Rehearsal.world (Prepared.runCase [])) }
    let assign : Step := ⟨{ id := 2, kind := .script, control := some (.obj [("script", .str "y = 1")]) }, []⟩
    let loop : Step := ⟨{ id := 1, kind := .loop }, [assign]⟩
    let s : Stage (Rehearsal CallLog) Unit := { host := { services := [] }, kept := () }
    let ran := ((engine.dispatch engine.nested loop).run s).2
    (∀ m ∈ (engine.dispatch engine.nested loop).moves s, s.depth < m.1.depth → ¬ Sets "loopIndex" m) ∧
      s.context.scopes.get? "loopIndex" = none ∧ ran.context.scopes.get? "loopIndex" = some (.ofNat 0) := by
  refine ⟨?_, rfl, ?_⟩
  · refine unset_of_tops (t := List.replicate 9 ((2, some (.ofNat 0)), (2, some (.ofNat 0))) ++
      [((2, some (.ofNat 0)), (1, some (.ofNat 0)))]) ?_ ?_
    · cbv
    · simp
  · cbv

/-- Over two items the first one stays, although no step inside the loop sets the name. -/
theorem first_item_stays :
    let engine : Engine (Rehearsal CallLog) Unit :=
      { host := ({} : Catalog).host (Rehearsal.world (Prepared.runCase [])) }
    let assign : Step := ⟨{ id := 2, kind := .script, control := some (.obj [("script", .str "y = item")]) }, []⟩
    let items : Json := .obj [("iterableVar", .str "items"), ("mode", .str "foreach")]
    let loop : Step := ⟨{ id := 1, kind := .loop, control := some items }, [assign]⟩
    let scopes : Scopes := { globals := [("items", .arr [.str "a", .str "b"])] }
    let s : Stage (Rehearsal CallLog) Unit := { context := { scopes }, host := { services := [] }, kept := () }
    (∀ m ∈ (engine.dispatch engine.nested loop).moves s, s.depth < m.1.depth → ¬ Sets "item" m) ∧
      (engine.dispatch engine.nested loop).Opens s ∧
      ((engine.dispatch engine.nested loop).run s).2.context.scopes.get? "item" = some (.str "a") := by
  intro engine assign items loop scopes s
  have unset : ∀ m ∈ (engine.dispatch engine.nested loop).moves s, s.depth < m.1.depth → ¬ Sets "item" m := by
    refine unset_of_tops (t := List.replicate 9 ((2, some (.str "a")), (2, some (.str "a"))) ++
      ((2, some (.str "a")), (1, some (.str "a"))) :: List.replicate 9 ((2, some (.str "b")), (2, some (.str "b"))) ++
      [((2, some (.str "b")), (1, some (.str "a")))]) ?_ ?_
    · cbv
    · simp
  have opens : (engine.dispatch engine.nested loop).Opens s := by
    have reached : ((engine.dispatch engine.nested loop).moves s).any (fun m => 1 < m.1.depth) = true := by cbv
    obtain ⟨m, member, deeper⟩ := List.any_eq_true.mp reached
    exact ⟨m, member, of_decide_eq_true deeper⟩
  have left := (engine.loop_leaves_first_round loop rfl s unset).2.2.2 opens Bool.false_ne_true
  exact ⟨unset, opens, left.trans (by cbv)⟩

end Engine
end TestScenario
