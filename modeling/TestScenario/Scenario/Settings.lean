import TestScenario.Document.Source
import TestScenario.Json.Reader
import TestScenario.Text.Blank

/-!
The settings of conditions, loops, waits and scripts.

Settings are stored as JSON, or as JSON text. Stored settings with a fault in any field count as settings without any
field.
-/

namespace TestScenario
open Document Document.Source

/-- The value that a stored one reads as, or `default` if nothing is stored or it cannot be read. -/
def Document.Source.ofStored {α : Type} (read : Source → Option α) (default : α) : Option Json → α
  | none => default
  | some .null => default
  | some (.str text) => ((Json.Raw.read text).bind fun r => read (.raw r Json.maxDepth)).getD default
  | some v => (read (.json v)).getD default

/-- A natural number of 64 bits, as a number or in digits: fractions are dropped, larger numbers become the largest
    one, and anything else counts as missing. -/
def Json.lenientNat? : Json → Option Nat
  | .num (.int n) => if 0 ≤ n then some n.toNat else none
  | .num (.float x) => if x ≥ 0.0 then some x.toUInt64.toNat else none
  | .str s => (Decimal.readUInt64 (Text.trim s.toList)).toOption.map Int.toNat
  | _ => none

/-- Such a number from a document. -/
def Document.Source.lenientNat (s : Source) : Option (Option Nat) := s.any.map Json.lenientNat?

/-- The settings of a condition. -/
structure ConditionSettings where
  condition : Option String := none
deriving DecidableEq, Repr

namespace ConditionSettings

/-- Settings from a document. -/
def read (s : Source) : Option ConditionSettings := do
  match ← s.fields [["condition"]] with
  | [condition] => some { condition := ← maybe string condition }
  | _ => none

end ConditionSettings

/-- How a loop counts its iterations. -/
inductive LoopMode where
  | count
  | foreach
  | while
deriving DecidableEq, Repr

/-- The mode that a text names in any case and between blanks; any other text means counting. -/
def LoopMode.ofText (s : String) : LoopMode :=
  let word := Text.lowerAscii (Text.trimmed s)
  if word == "foreach" then .foreach else if word == "while" then .while else .count

/-- The settings of a loop. -/
structure LoopSettings where
  modeText : Option String := none
  count : Option Nat := none
  iterableVar : Option String := none
  itemVar : Option String := none
  indexVar : Option String := none
  condition : Option String := none
  maxIterations : Option Nat := none
deriving DecidableEq, Repr

namespace LoopSettings

/-- The mode. -/
def mode (s : LoopSettings) : LoopMode := (s.modeText.map LoopMode.ofText).getD .count

/-- Settings from a document. -/
def read (s : Source) : Option LoopSettings := do
  match ← s.fields [["mode"], ["count"], ["iterableVar"], ["itemVar"], ["indexVar"], ["condition"], ["maxIterations"]] with
  | [mode, count, iterableVar, itemVar, indexVar, condition, maxIterations] =>
    some {
      modeText := ← maybe string mode
      count := ← withDefault none lenientNat count
      iterableVar := ← maybe string iterableVar
      itemVar := ← maybe string itemVar
      indexVar := ← maybe string indexVar
      condition := ← maybe string condition
      maxIterations := ← withDefault none lenientNat maxIterations }
  | _ => none

/-- The settings as JSON. -/
def toJson (s : LoopSettings) : Json :=
  .object [("mode", Json.ofOption .str s.modeText), ("count", Json.ofOption .ofNat s.count),
    ("iterableVar", Json.ofOption .str s.iterableVar), ("itemVar", Json.ofOption .str s.itemVar),
    ("indexVar", Json.ofOption .str s.indexVar), ("condition", Json.ofOption .str s.condition),
    ("maxIterations", Json.ofOption .ofNat s.maxIterations)]

end LoopSettings

/-- The settings of a wait. -/
structure WaitSettings where
  waitMs : Option Nat := none
deriving DecidableEq, Repr

namespace WaitSettings

/-- Settings from a document. -/
def read (s : Source) : Option WaitSettings := do
  match ← s.fields [["waitMs"]] with
  | [waitMs] => some { waitMs := ← withDefault none lenientNat waitMs }
  | _ => none

end WaitSettings

/-- The settings of a script step. -/
structure ScriptSettings where
  script : Option String := none
deriving DecidableEq, Repr

namespace ScriptSettings

/-- Settings from a document. -/
def read (s : Source) : Option ScriptSettings := do
  match ← s.fields [["script"]] with
  | [script] => some { script := ← maybe string script }
  | _ => none

end ScriptSettings
end TestScenario
