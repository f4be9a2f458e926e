import Mathlib
import TestScenario.Proofs.Order

/-!
Names looked up in scopes and in one table of all visible variables. Whatever operations have built the scopes, each
name is in each of them once, so it means the same either way, and so do references to it in a text
(`flat_lookup_agrees`). The texts of conditions are resolved against the scopes, those of requests against the one
table: they see the same values.
-/

namespace TestScenario

namespace Scopes
variable {s : Scopes}

/-- An operation on scopes. -/
inductive Operation where
  | push
  | pop
  | setLocal (name : String) (value : Json)
  | setGlobal (name : String) (value : Json)
  | mergeUp (only : Option (List String))

/-- The scopes after an operation. The global scope cannot be popped: nothing changes then. -/
def Operation.apply : Operation → Scopes → Scopes
  | .push, s => s.push
  | .pop, s => (s.pop?.map (·.2)).getD s
  | .setLocal name value, s => s.setLocal name value
  | .setGlobal name value, s => s.setGlobal name value
  | .mergeUp only, s => s.mergeUp only

/-- The scopes that operations build, one after the other, out of a global scope without variables. -/
def built (ops : List Operation) : Scopes := ops.foldl (fun s op => op.apply s) {}

theorem popped_eq (s : Scopes) : (s.pop?.map (·.2)).getD s = s.dropTop := by
  obtain ⟨globals, inner⟩ := s
  cases inner with
  | nil => rfl
  | cons top inner => rfl

theorem Ordered.apply (ordered : s.Ordered) (op : Operation) : (op.apply s).Ordered := by
  cases op with
  | push => exact ordered.push
  | pop =>
    rw [Operation.apply, popped_eq]
    exact ordered.dropTop
  | setLocal name value => exact ordered.setLocal name value
  | setGlobal name value => exact ordered.setGlobal name value
  | mergeUp only => exact ordered.mergeUp only

theorem ordered_built (ops : List Operation) : (built ops).Ordered := by
  have bare : ({} : Scopes).Ordered := List.forall_mem_singleton.mpr .nil
  exact List.foldlRecOn ops _ bare fun s ordered op _ => ordered.apply op

/-- References to variables mean the same in scopes and in the one table of what is visible in them. -/
theorem resolveVars_eq_expand (ordered : s.Ordered) : Reference.resolveVars s = Reference.expand s.flatten := by
  have same : s.get? = s.flatten.get? := funext fun name => (get?_flatten ordered name).symm
  funext text
  rw [Reference.resolveVars, Reference.expand, same]

end Scopes

namespace Reference
open Scopes

/-- A name means the same in scopes that operations have built and in the one table of their visible variables, and a
    text with references becomes the same. So a request of a test case, whose references to steps are replaced first
    and those to variables from the table, has the texts that a condition would have, in its address, its headers and
    its body. -/
theorem flat_lookup_agrees (ops : List Operation) :
    let s := built ops
    (∀ name, s.get? name = s.flatten.get? name) ∧
      (∀ text, resolveVars s text = expand s.flatten text) ∧
      ∀ (c : Context) (t : TestCase),
        let c := c.mapScopes fun _ => s
        let requested := c.resolveCase t
        expand s.flatten requested.url = resolve c t.url ∧
          requested.headers.mapValues (expand s.flatten) = t.headers.mapValues (resolve c) ∧
          requested.body.map (expand s.flatten) = t.body.map (resolve c) := by
  intro s
  have ordered : s.Ordered := ordered_built ops
  have texts : resolveVars s = expand s.flatten := resolveVars_eq_expand ordered
  refine ⟨fun name => (get?_flatten ordered name).symm, fun text => congrFun texts text, ?_⟩
  intro c t c requested
  have composed : resolve c = expand s.flatten ∘ resolveSteps c := by
    rw [← texts]
    rfl
  refine ⟨?_, ?_, ?_⟩
  · rw [composed]
    rfl
  · simp only [requested, Context.resolveCase, Dict.mapValues, List.map_map, composed]
    rfl
  · simp only [requested, Context.resolveCase, Option.map_map, composed]

end Reference
end TestScenario
