import Mathlib
import TestScenario.Engine.Host

/-!
What the value of an expression depends on. Two environments give an expression the same value if its names, apart from
those that a fold binds, stand for the same in both (`eval_congr`).
-/

namespace TestScenario.Script

namespace Expr

mutual
/-- The names that an expression may take from the environment. -/
def names : Expr → List String
  | .literal _ => []
  | .name n => [n]
  | .select e _ => names e
  | .has e _ => names e
  | .call _ args => namesAll args
  | .method target _ args => names target ++ namesAll args
  | .list items => namesAll items
  | .map entries => namesEntries entries
  | .unary _ e => names e
  | .binary _ l r => names l ++ names r
  | .conditional test yes no => names test ++ (names yes ++ names no)
  | .fold range item start condition step result =>
    names start ++ (names range ++ ((names condition ++ names result).filter (· != accumulator) ++
      ((names step).filter (· != item)).filter (· != accumulator)))
/-- The names that several expressions may take. -/
def namesAll : List Expr → List String
  | [] => []
  | e :: es => names e ++ namesAll es
/-- The names that the entries of a map may take. -/
def namesEntries : List (Expr × Expr) → List String
  | [] => []
  | (k, v) :: rest => names k ++ (names v ++ namesEntries rest)
end

/-- Some names stand for the same in two environments. -/
def Alike (names : List String) (u v : Env) : Prop := ∀ n ∈ names, u.lookup n = v.lookup n

section
variable {a b : List String} {u v : Env}

theorem Alike.left (alike : Alike (a ++ b) u v) : Alike a u v :=
  fun n member => alike n (List.mem_append_left b member)

theorem Alike.right (alike : Alike (a ++ b) u v) : Alike b u v :=
  fun n member => alike n (List.mem_append_right a member)

/-- A name that is bound to the same value in both environments may stand for anything outside. -/
theorem Alike.bind {n : String} (alike : Alike (a.filter (· != n)) u v) (x : Value) :
    Alike a ((n, x) :: u) ((n, x) :: v) := by
  intro m member
  by_cases same : m = n
  · simp [same]
  · have other : (m == n) = false := beq_false_of_ne same
    rw [List.lookup_cons, List.lookup_cons, other]
    exact alike m (List.mem_filter.mpr ⟨member, by simpa using same⟩)

theorem Alike.cons (alike : Alike a u v) (n : String) (x : Value) : Alike a ((n, x) :: u) ((n, x) :: v) :=
  .bind (fun m member => alike m (List.mem_filter.mp member).1) x

end

/-- A fold in two environments whose relation every item keeps. -/
theorem foldItems_congr {item : String} {condition step result : Env → Except EvalError Value}
    {R : Env → Env → Prop} (conditions : ∀ {u v}, R u v → condition u = condition v)
    (steps : ∀ {u v}, R u v → ∀ x, step ((item, x) :: u) = step ((item, x) :: v))
    (results : ∀ {u v}, R u v → result u = result v)
    (kept : ∀ {u v}, R u v → ∀ x y, R ((accumulator, y) :: (item, x) :: u) ((accumulator, y) :: (item, x) :: v))
    (items : List Value) {u v : Env} (related : R u v) :
    (foldItems item condition step u items >>= result) = (foldItems item condition step v items >>= result) := by
  -- Both folds fail, end or go on at the same item, and where they go on, the relation holds again.
  induction items generalizing u v with
  | nil => exact results related
  | cons x rest ih =>
    simp only [foldItems, conditions related, steps related]
    cases condition v with
    | error cause => rfl
    | ok c =>
      cases truth : c.truth with
      | error cause => simp [truth, bind, Except.bind]
      | ok b =>
        cases b with
        | false =>
          simp only [bind, Except.bind, truth]
          exact results related
        | true =>
          cases value : step ((item, x) :: v) with
          | error cause => simp [truth, bind, Except.bind]
          | ok y =>
            simp only [bind, Except.bind, truth] at ih ⊢
            exact ih (kept related x y)

mutual
/-- The value of an expression depends on what its names stand for, and on nothing else. -/
theorem eval_congr {u v : Env} : (e : Expr) → Alike (names e) u v → eval u e = eval v e
  | .literal _, _ => rfl
  | .name n, alike => by simp only [eval, alike n List.mem_cons_self]
  | .select e _, alike => by simp only [eval, eval_congr e alike]
  | .has e _, alike => by simp only [eval, eval_congr e alike]
  | .call _ args, alike => by simp only [eval, evalAll_congr args alike]
  | .method target _ args, alike => by
    rw [names] at alike
    simp only [eval, eval_congr target alike.left, evalAll_congr args alike.right]
  | .list items, alike => by simp only [eval, evalAll_congr items alike]
  | .map entries, alike => by simp only [eval, evalEntries_congr entries alike]
  | .unary _ e, alike => by simp only [eval, eval_congr e alike]
  | .binary _ l r, alike => by
    rw [names] at alike
    simp only [eval, eval_congr l alike.left, eval_congr r alike.right]
  | .conditional test yes no, alike => by
    rw [names] at alike
    simp only [eval, eval_congr test alike.left, eval_congr yes alike.right.left, eval_congr no alike.right.right]
  | .fold range item start condition step result, alike => by
    rw [names] at alike
    have fold (first : Value) (items : List Value) :
        (do
          let last ← foldItems item (fun env => eval env condition) (fun env => eval env step)
            ((accumulator, first) :: u) items
          eval last result) =
        (do
          let last ← foldItems item (fun env => eval env condition) (fun env => eval env step)
            ((accumulator, first) :: v) items
          eval last result) := by
      refine foldItems_congr (R := fun u v => Alike (names condition ++ names result) u v ∧
        Alike ((names step).filter (· != item)) u v) ?_ ?_ ?_ ?_ items ?_
      · intro u v related
        exact eval_congr condition related.1.left
      · intro u v related x
        exact eval_congr step (related.2.bind x)
      · intro u v related
        exact eval_congr result related.1.right
      · intro u v related x y
        exact ⟨(related.1.cons item x).cons accumulator y, (related.2.cons item x).cons accumulator y⟩
      · exact ⟨alike.right.right.left.bind first, alike.right.right.right.bind first⟩
    simp only [eval, eval_congr start alike.left, eval_congr range alike.right.left, fold]
/-- `eval_congr` for several expressions. -/
theorem evalAll_congr {u v : Env} : (es : List Expr) → Alike (namesAll es) u v → evalAll u es = evalAll v es
  | [], _ => rfl
  | e :: es, alike => by
    rw [namesAll] at alike
    simp only [evalAll, eval_congr e alike.left, evalAll_congr es alike.right]
/-- `eval_congr` for the entries of a map. -/
theorem evalEntries_congr {u v : Env} {done : List (Key × Value)} :
    (entries : List (Expr × Expr)) → Alike (namesEntries entries) u v →
      evalEntries u done entries = evalEntries v done entries
  | [], _ => rfl
  | (k, x) :: rest, alike => by
    rw [namesEntries] at alike
    simp only [evalEntries, eval_congr k alike.left, eval_congr x alike.right.left,
      evalEntries_congr rest alike.right.right]
end

end Expr

/-- The script is a single expression. -/
def IsExpression (script : String) (x : Expr) : Prop :=
  ∃ text, statementChars script.toList = [text] ∧ assignment? text = none ∧
    Expr.ofText (String.ofList (unalias none text)) = some x

theorem lookup_envOf (vars : Members) (name : String) :
    (envOf vars).lookup name = (vars.get? name).map Value.ofJson := by
  induction vars with
  | nil => rfl
  | cons pair rest ih =>
    obtain ⟨n, v⟩ := pair
    rw [Dict.get?_cons, apply_ite (Option.map Value.ofJson), ← ih]
    exact Dict.get?_cons n name (Value.ofJson v) (envOf rest)

/-- How the evaluation of an expression over variables ends depends on what its names are there, and on nothing else. -/
theorem IsExpression.outcome_congr {script : String} {x : Expr} (single : IsExpression script x) {u v : Members}
    (same : ∀ n ∈ x.names, u.get? n = v.get? n) : (evaluation script u).outcome = (evaluation script v).outcome := by
  obtain ⟨text, alone, plain, parsed⟩ := single
  have alike : x.eval (envOf u) = x.eval (envOf v) := by
    refine x.eval_congr fun n member => ?_
    rw [lookup_envOf, lookup_envOf, same n member]
  have value : evaluateJson text u = evaluateJson text v := by
    simp only [evaluateJson, evaluate, parsed, alike]
  simp only [evaluation, run, alone, runStatements, plain, value]
  cases evaluateJson text v <;> rfl

end TestScenario.Script
