import TestScenario.Script.Value

/-!
The expressions of scripts.

The macros over lists are all folds: an accumulator starts with a value and takes a new one at each item as long as a
condition holds, and a last expression makes the result of it.
-/

namespace TestScenario.Script

/-- An operator before its operand. -/
inductive UnaryOp where
  | not
  | negate
  /-- Anything but false counts as true. -/
  | notFalse
deriving DecidableEq, Repr

/-- An operator between two operands. -/
inductive BinaryOp where
  | add
  | sub
  | mul
  | div
  | rem
  | eq
  | ne
  | lt
  | le
  | gt
  | ge
  | isIn
  | and
  | or
  | index
deriving DecidableEq, Repr

/-- An expression. -/
inductive Expr where
  | literal (value : Value)
  | name (name : String)
  | select (operand : Expr) (field : String)
  | has (operand : Expr) (field : String)
  | call (function : String) (args : List Expr)
  | method (target : Expr) (function : String) (args : List Expr)
  | list (items : List Expr)
  | map (entries : List (Expr × Expr))
  | unary (op : UnaryOp) (operand : Expr)
  | binary (op : BinaryOp) (left right : Expr)
  | conditional (test yes no : Expr)
  | fold (range : Expr) (item : String) (start condition step result : Expr)

instance : Inhabited Expr := ⟨.literal .null⟩

namespace Expr

/-- The name of the accumulator of a fold; no script can write it. -/
def accumulator : String := "@result"

/-- The accumulator of a fold. -/
def result : Expr := .name accumulator

/-- Whether every item passes. -/
def allItems (range : Expr) (item : String) (test : Expr) : Expr :=
  .fold range item (.literal (.bool true)) (.unary .notFalse result) (.binary .and result test) result

/-- Whether some item passes. -/
def someItem (range : Expr) (item : String) (test : Expr) : Expr :=
  .fold range item (.literal (.bool false)) (.unary .notFalse (.unary .not result)) (.binary .or result test) result

/-- Whether exactly one item passes. -/
def oneItem (range : Expr) (item : String) (test : Expr) : Expr :=
  .fold range item (.literal (.int 0)) (.literal (.bool true))
    (.conditional test (.binary .add result (.literal (.int 1))) result)
    (.binary .eq result (.literal (.int 1)))

/-- The list of the images of all items. -/
def mapItems (range : Expr) (item : String) (image : Expr) : Expr :=
  .fold range item (.list []) (.literal (.bool true)) (.binary .add result (.list [image])) result

/-- The list of the images of the items that pass. -/
def mapPassing (range : Expr) (item : String) (test image : Expr) : Expr :=
  .fold range item (.list []) (.literal (.bool true))
    (.conditional test (.binary .add result (.list [image])) result) result

/-- The name that an expression consists of. -/
def name? : Expr → Option String
  | .name n => some n
  | _ => none

/-- A call of a function, with the test for a field expanded; `none` if that test is misused. -/
def ofCall (function : String) (args : List Expr) : Option Expr :=
  match function, args with
  | "has", [arg] =>
    match arg with
    | .select operand field => some (.has operand field)
    | _ => none
  | _, _ => some (.call function args)

/-- A call of a method, with the folds over lists expanded; `none` if one binds something that is no name. -/
def ofMethod (target : Expr) (function : String) (args : List Expr) : Option Expr :=
  match function, args with
  | "all", [item, test] => item.name?.map (allItems target · test)
  | "exists", [item, test] => item.name?.map (someItem target · test)
  | "exists_one", [item, test] => item.name?.map (oneItem target · test)
  | "existsOne", [item, test] => item.name?.map (oneItem target · test)
  | "map", [item, image] => item.name?.map (mapItems target · image)
  | "map", [item, test, image] => item.name?.map (mapPassing target · test image)
  | "filter", [item, test] => item.name?.map fun n => mapPassing target n test (.name n)
  | _, _ => some (.method target function args)

end Expr
end TestScenario.Script
