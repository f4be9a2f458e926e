import TestScenario.Document.Node
import TestScenario.Json.Reader

/-!
Typed values read from documents.

In JSON a structure is an object, or an array of its fields in order; in YAML it is a mapping. Unknown fields are
ignored, a known field must not be repeated. Where a string is asked for, any scalar of YAML will do.

In JSON text what is ignored need not stand for a value. The names of all members have to be text all the same, and the
fields that are asked for need values, in which containers may nest only so deep.
-/

namespace TestScenario.Document

/-- What a typed value is read from. -/
inductive Source where
  | json (value : Json)
  | yaml (node : Node)
  /-- A part of JSON text, with the levels of containers that it may still have. -/
  | raw (part : Json.Raw) (levels : Nat)

namespace Source
variable {α : Type}

/-- A string. -/
def string : Source → Option String
  | .json (.str s) => some s
  | .yaml n => n.text?
  | .raw (.str s) _ => s
  | _ => none

/-- A whole number between two bounds. -/
def intBetween (low high : Int) (s : Source) : Option Int :=
  let n := match s with
    | .json (.num (.int n)) => some n
    | .yaml n => n.int?
    | .raw (.num (some (.int n))) _ => some n
    | _ => none
  n.bind fun n => if low ≤ n && n ≤ high then some n else none

/-- A signed number of 64 bits. -/
def int64 : Source → Option Int := intBetween Decimal.minInt64 Decimal.maxInt64

/-- A signed number of 32 bits. -/
def int32 : Source → Option Int := intBetween Decimal.minInt32 Decimal.maxInt32

/-- A natural number below a bound. -/
def natBelow (bound : Nat) (s : Source) : Option Nat := (intBetween 0 (Int.ofNat bound - 1) s).map Int.toNat

/-- A natural number of 64 bits. -/
def nat64 : Source → Option Nat := natBelow Decimal.uint64Size

/-- Any value. -/
def any : Source → Option Json
  | .json v => some v.canonical
  | .yaml n => n.toJson?
  | .raw r levels => (r.value? levels).map Json.canonical

/-- Whether there is no value; `none` if that is both said and denied. -/
def isNull? : Source → Option Bool
  | .json v => some (v matches .null)
  | .yaml n => n.isNull?
  | .raw r _ => some (r matches .null)

/-- A value or none. -/
def optional (read : Source → Option α) (s : Source) : Option (Option α) := do
  if ← s.isNull? then some none else (← read s)

/-- The items of a list. -/
def items : Source → Option (List Source)
  | .json (.arr xs) => some (xs.map .json)
  | .yaml (.sequence _ xs) => some (xs.map .yaml)
  | .yaml n => if n.isVoid then some [] else none
  | .raw (.arr xs) (levels + 1) => some (xs.map (.raw · levels))
  | _ => none

/-- A list. -/
def list (read : Source → Option α) (s : Source) : Option (List α) := do (← s.items).mapM read

/-- The entries of a table, in the order they are written. -/
def entries : Source → Option (List (String × Source))
  | .json (.obj ms) => some (ms.map fun (n, v) => (n, .json v))
  | .yaml (.mapping _ es) => es.mapM fun (k, v) => k.text?.map fun n => (n, .yaml v)
  | .yaml n => if n.isVoid then some [] else none
  | .raw (.obj ms) (levels + 1) => ms.mapM fun (n, r) => n.map fun n => (n, .raw r levels)
  | _ => none

/-- A table; of a repeated name the last value counts. -/
def dict (read : Source → Option α) (s : Source) : Option (Dict α) := do
  let pairs ← (← s.entries).mapM fun (n, v) => (read v).map fun x => (n, x)
  some (Dict.ofList pairs)

/-- What is written for a field with the given names; `none` if it is written twice. -/
def field? (es : List (String × Source)) (names : List String) : Option (Option Source) :=
  match es.filter fun (n, _) => names.contains n with
  | [] => some none
  | [(_, v)] => some (some v)
  | _ => none

/-- What is written for each field of a structure, whose names are given. -/
def fields (s : Source) (names : List (List String)) : Option (List (Option Source)) :=
  let inOrder (xs : List Source) : Option (List (Option Source)) :=
    if xs.length ≤ names.length then some (xs.map some ++ List.replicate (names.length - xs.length) none) else none
  match s with
  | .json (.arr xs) => inOrder (xs.map .json)
  | .raw (.arr xs) (levels + 1) => inOrder (xs.map (.raw · levels))
  | _ => do
    let es ← s.entries
    names.mapM (field? es)

/-- A field that has to be there. -/
def required (read : Source → Option α) (s : Option Source) : Option α := s.bind read

/-- A field that has a value of its own if it is missing. -/
def withDefault (default : α) (read : Source → Option α) : Option Source → Option α
  | none => some default
  | some s => read s

/-- A field that may be missing or null. -/
def maybe (read : Source → Option α) : Option Source → Option (Option α) := withDefault none (optional read)

/-- One of a number of words; in JSON also as an object with the word as only name and null as value. -/
def word (read : String → Option α) : Source → Option α
  | .json (.str s) => read s
  | .json (.obj [(s, .null)]) => read s
  | .yaml n => n.word?.bind read
  | .raw (.str s) _ => s.bind read
  | .raw (.obj [(some s, .null)]) (_ + 1) => read s
  | _ => none

end Source
end TestScenario.Document
