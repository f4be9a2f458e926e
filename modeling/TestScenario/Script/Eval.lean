import TestScenario.Script.Expr
import TestScenario.Script.Function

/-!
The evaluation of expressions.

The left side of an operator is evaluated first. A conjunction or disjunction whose left side decides it leaves the
right side alone. Arguments are evaluated all, but how an argument fails shows only if the function takes it.
-/

namespace TestScenario.Script

/-- What names stand for; the innermost meaning comes first. -/
abbrev Env := List (String × Value)

namespace Expr

/-- What a fold goes through: the items of a list, or the keys of a map. -/
def rangeItems : Value → Except EvalError (List Value)
  | .list items => .ok items
  | .map entries => .ok (entries.map (·.1.toValue))
  | _ => .error .undefined

/-- The environment at the end of a fold. -/
def foldItems (item : String) (condition step : Env → Except EvalError Value) :
    Env → List Value → Except EvalError Env
  | env, [] => .ok env
  | env, v :: rest => do
    if ← (← condition env).truth then
      let env := (item, v) :: env
      let accumulated ← step env
      foldItems item condition step ((accumulator, accumulated) :: env) rest
    else .ok env

/-- An operator applied to its operand. -/
def unaryValue (op : UnaryOp) (v : Value) : Except EvalError Value :=
  match op with
  | .not => v.truth.map fun b => .bool (!b)
  | .negate => v.negate
  | .notFalse => .ok (match v with | .bool b => .bool b | _ => .bool true)

/-- An operator applied to both operands. -/
def binaryValue (op : BinaryOp) (l r : Value) : Except EvalError Value :=
  match op with
  | .add => l.add r
  | .sub => l.sub r
  | .mul => l.mul r
  | .div => l.div r
  | .rem => l.rem r
  | .eq => .ok (.bool (l.same r))
  | .ne => .ok (.bool (!l.same r))
  | .lt => l.ordered (· == .lt) r
  | .le => l.ordered (· != .gt) r
  | .gt => l.ordered (· == .gt) r
  | .ge => l.ordered (· != .lt) r
  | .isIn => l.isIn r
  | .index => l.index r
  | .and => r.truth.map .bool
  | .or => .ok r

/-- The value that the left operand decides on its own. -/
def decided? (op : BinaryOp) (l : Value) : Except EvalError (Option Value) :=
  match op with
  | .and => l.truth.map fun b => if b then none else some (.bool false)
  | .or => l.truth.map fun b => if b then some l else none
  | _ => .ok none

mutual
/-- The value of an expression. -/
def eval (env : Env) : Expr → Except EvalError Value
  | .literal v => .ok v
  | .name n =>
    match env.lookup n with
    | some v => .ok v
    | none => .error (.undeclared n)
  | .select e f => do (← eval env e).field f
  | .has e f => do .ok (.bool ((← eval env e).hasField f))
  | .call f args =>
    match Function.named? f with
    | some body => Function.apply body none (evalAll env args)
    | none => .error (.undeclared f)
  | .method target f args =>
    match target.name?.bind (Function.qualified? · f) with
    | some body => Function.apply body none (evalAll env args)
    | none =>
      match Function.named? f with
      | some body => do Function.apply body (some (← eval env target)) (evalAll env args)
      | none => .error (.undeclared f)
  | .list items => do .ok (.list (← (evalAll env items).mapM id))
  | .map entries => do .ok (.map (← evalEntries env [] entries))
  | .unary op e => do unaryValue op (← eval env e)
  | .binary op l r => do
    let left ← eval env l
    match ← decided? op left with
    | some v => .ok v
    | none => binaryValue op left (← eval env r)
  | .conditional test yes no => do
    if ← (← eval env test).truth then eval env yes else eval env no
  | .fold range item start condition step result => do
    let first ← eval env start
    let items ← rangeItems (← eval env range)
    let last ← foldItems item (fun env => eval env condition) (fun env => eval env step)
      ((accumulator, first) :: env) items
    eval last result
/-- What each of several expressions evaluates to. -/
def evalAll (env : Env) : List Expr → List (Except EvalError Value)
  | [] => []
  | e :: es => eval env e :: evalAll env es
/-- The entries of a map added to those in `done`. -/
def evalEntries (env : Env) (done : List (Key × Value)) : List (Expr × Expr) → Except EvalError (List (Key × Value))
  | [] => .ok done
  | (k, v) :: rest => do
    let key ← eval env k
    match key.toKey? with
    | none => .error (.unusableKey key)
    | some key =>
      let value ← eval env v
      evalEntries env (Value.putEntry key value done) rest
end

end Expr
end TestScenario.Script
