import TestScenario.Json.Path
import TestScenario.Json.Writer
import TestScenario.Run.Context

/-!
References inside text.

`{{Name.path}}` stands for a part of the result of a step and `${name}` for a variable. References to steps are
replaced first. A reference that means nothing stays as it is, and inserted text is not searched again in the same
pass.
-/

namespace TestScenario.Reference

/-- The contents of the reference that a text begins with, and the text after it. -/
def leading? (opening closing cs : List Char) : Option (List Char × List Char) :=
  if opening.isPrefixOf cs then
    let body := cs.drop opening.length
    let content := body.takeWhile (· != '\x7d')
    let rest := body.dropWhile (· != '\x7d')
    if !content.isEmpty && closing.isPrefixOf rest then some (content, rest.drop closing.length) else none
  else none

theorem leading?_shorter {opening closing cs content rest : List Char}
    (h : leading? opening closing cs = some (content, rest)) : rest.length < cs.length := by
  unfold leading? at h
  split at h
  · dsimp only at h
    split at h
    · rename_i hc
      simp only [Option.some.injEq, Prod.mk.injEq] at h
      obtain ⟨hcontent, rfl⟩ := h
      have hne : ((cs.drop opening.length).takeWhile (· != '\x7d')) ≠ [] := by
        intro he; rw [he] at hc; simp at hc
      have hsplit := congrArg List.length
        (List.takeWhile_append_dropWhile (p := (· != '\x7d')) (l := cs.drop opening.length))
      have hpos := List.length_pos_iff.2 hne
      simp only [List.length_append, List.length_drop] at hsplit ⊢
      omega
    · simp at h
  · simp at h

/-- A text with its references replaced from left to right; `meaning` is asked with the trimmed contents. -/
def substitute (opening closing : List Char) (meaning : List Char → Option (List Char)) : List Char → List Char
  | [] => []
  | c :: tail =>
    match _h : leading? opening closing (c :: tail) with
    | some (content, rest) =>
      (meaning (Text.trim content)).getD (opening ++ content ++ closing) ++ substitute opening closing meaning rest
    | none => c :: substitute opening closing meaning tail
termination_by cs => cs.length
decreasing_by
  · exact leading?_shorter (by assumption)
  · simp

/-- The part of a result at a path: its status code, a header, its body, or a part of a JSON body. -/
def readResult (r : StepResult) (path : List Char) : Option String :=
  if path = "response.code".toList then r.httpStatus.map toString
  else if path = "response.body".toList then r.responseBody
  else match Text.splitOnce "response.headers.".toList path with
    | some ([], header) => some ((r.header? (String.ofList header)).getD "")
    | _ =>
      match Text.splitOnce "response.body.".toList path with
      | some ([], bodyPath) => do
        let body ← r.responseBody
        let v ← (Json.selectText body ("$." ++ String.ofList bodyPath)).toOption
        some v.text
      | _ => none

/-- What a reference to a step means. -/
def stepMeaning (c : Context) (content : List Char) : Option (List Char) := do
  let (name, path) ← Text.splitOnce ['.'] content
  let r ← c.resultByName (String.ofList (Text.trim name))
  (readResult r path).map String.toList

/-- The text with references to steps replaced. -/
def resolveSteps (c : Context) (text : String) : String :=
  String.ofList (substitute ['\x7b', '\x7b'] ['\x7d', '\x7d'] (stepMeaning c) text.toList)

/-- The text with references to variables replaced. -/
def expandWith (value : String → Option Json) (text : String) : String :=
  String.ofList (substitute ['$', '\x7b'] ['\x7d']
    (fun content => (value (String.ofList content)).map (·.text.toList)) text.toList)

/-- The text with references to the variables of a table replaced. -/
def expand (vars : Members) : String → String := expandWith vars.get?

/-- The text with references to visible variables replaced. -/
def resolveVars (s : Scopes) : String → String := expandWith s.get?

/-- The text with all references replaced. -/
def resolve (c : Context) (text : String) : String := resolveVars c.scopes (resolveSteps c text)

mutual
/-- `resolve` for every string in a value, names of members apart. -/
def resolveJson (c : Context) : Json → Json
  | .str s => .str (resolve c s)
  | .arr items => .arr (resolveItems c items)
  | .obj members => .obj (resolveMembers c members)
  | v => v
/-- `resolveJson` for each item. -/
def resolveItems (c : Context) : List Json → List Json
  | [] => []
  | v :: vs => resolveJson c v :: resolveItems c vs
/-- `resolveJson` for the value of each member. -/
def resolveMembers (c : Context) : List (String × Json) → List (String × Json)
  | [] => []
  | (n, v) :: rest => (n, resolveJson c v) :: resolveMembers c rest
end

end TestScenario.Reference
