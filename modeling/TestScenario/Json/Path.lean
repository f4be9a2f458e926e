import TestScenario.Json.Reader
import TestScenario.Text.Blank

/-!
Paths into JSON documents.

A path is an optional dollar sign followed by segments: `.name`, `[n]`, `['name']`, `[*]`, `.*`, and each of them below
any depth after two dots. The dollar sign and the first dot may both be missing. A path of names and indices only is
definite and selects at most one node; any other path selects the list of all nodes it matches.
-/

namespace TestScenario.Json

/-- Which nodes directly below a node are meant. -/
inductive Selector where
  | name (name : String)
  | index (position : Int)
  | all
deriving DecidableEq, Repr

/-- A step of a path: to nodes directly below, or to such nodes of the node itself and of everything below it. -/
inductive Segment where
  | child (selector : Selector)
  | descendant (selector : Selector)
deriving DecidableEq, Repr

/-- What is wrong with the text of a path. -/
inductive PathFault where
  | emptyDescendantName
  | emptyName
  | unexpected
  | openQuote
  | afterQuote
  | openBracket
  | unsupported (inner : String)
deriving DecidableEq, Repr

/-- The fault in words. -/
def PathFault.message : PathFault → String
  | .emptyDescendantName => "empty name after '..'"
  | .emptyName => "empty name after '.'"
  | .unexpected => "expected '.' or '['"
  | .openQuote => "unterminated quoted name"
  | .afterQuote => "expected ']' after quoted name"
  | .openBracket => "missing ']'"
  | .unsupported inner => "unsupported selector '[" ++ inner ++ "]'"

/-- Why a path selects nothing. -/
inductive PathError where
  | syntaxFault (path : String) (fault : PathFault)
  | notFound (path : String)
  | invalidDocument
deriving DecidableEq, Repr

/-- The error in words. -/
def PathError.message : PathError → String
  | .syntaxFault path fault => "Invalid JSONPath '" ++ path ++ "': " ++ fault.message
  | .notFound path => "No results for path: " ++ path
  | .invalidDocument => "Response body is not valid JSON"

/-- A path: its trimmed text and its segments. -/
structure Path where
  text : String
  segments : List Segment
deriving DecidableEq, Repr

namespace Path

/-- Whether a character belongs to a name. -/
def isNameChar (c : Char) : Bool := c != '.' && c != '['

/-- The selector that a name without quotes means. -/
def ofName (name : List Char) : Selector := if name == ['*'] then .all else .name (String.ofList name)

/-- The selector that the inside of a bracket without quotes means. -/
def ofInner (inner : List Char) : Except PathFault Selector :=
  if inner == ['*'] then .ok .all
  else match Decimal.readInt64 inner with
    | .ok n => .ok (.index n)
    | .error _ => .error (.unsupported (String.ofList inner))

/-- A quoted name in a bracket, after its opening quote, and the text after the bracket. -/
def quoted (quote : Char) (cs : List Char) : Except PathFault (Selector × List Char) :=
  match cs.dropWhile (· != quote) with
  | [] => .error .openQuote
  | _ :: ']' :: rest => .ok (.name (String.ofList (cs.takeWhile (· != quote))), rest)
  | _ => .error .afterQuote

/-- A wildcard or an index in a bracket and the text after the bracket. -/
def unquoted (cs : List Char) : Except PathFault (Selector × List Char) :=
  match cs.dropWhile (· != ']') with
  | [] => .error .openBracket
  | _ :: rest => (ofInner (Text.trim (cs.takeWhile (· != ']')))).map (·, rest)

/-- What follows an opening bracket. -/
def bracket : List Char → Except PathFault (Selector × List Char)
  | '\'' :: rest => quoted '\'' rest
  | '"' :: rest => quoted '"' rest
  | cs => unquoted cs

/-- A name and the text after it; `fault` is what an empty one is. -/
def name (fault : PathFault) (cs : List Char) : Except PathFault (Selector × List Char) :=
  match cs.takeWhile isNameChar with
  | [] => .error fault
  | n => .ok (ofName n, cs.dropWhile isNameChar)

/-- The first segment of a text that is not empty, and the text after it. -/
def segment : List Char → Except PathFault (Segment × List Char)
  | '.' :: '.' :: '[' :: rest => (bracket rest).map fun (s, rest) => (.descendant s, rest)
  | '.' :: '.' :: rest => (name .emptyDescendantName rest).map fun (s, rest) => (.descendant s, rest)
  | '.' :: rest => (name .emptyName rest).map fun (s, rest) => (.child s, rest)
  | '[' :: rest => (bracket rest).map fun (s, rest) => (.child s, rest)
  | _ => .error .unexpected

theorem length_dropWhile_le (p : Char → Bool) (cs : List Char) : (cs.dropWhile p).length ≤ cs.length :=
  (List.dropWhile_sublist p).length_le

theorem quoted_shorter {q : Char} {cs rest : List Char} {s : Selector} (h : quoted q cs = .ok (s, rest)) :
    rest.length < cs.length := by
  have hle := length_dropWhile_le (· != q) cs
  unfold quoted at h
  split at h
  · cases h
  · next heq => cases h; rw [heq] at hle; simp at hle; omega
  · cases h

theorem unquoted_shorter {cs rest : List Char} {s : Selector} (h : unquoted cs = .ok (s, rest)) :
    rest.length < cs.length := by
  have hle := length_dropWhile_le (· != ']') cs
  unfold unquoted at h
  split at h
  · cases h
  · next heq =>
    rw [heq] at hle
    cases hi : ofInner (Text.trim (cs.takeWhile (· != ']'))) with
    | error e => rw [hi] at h; cases h
    | ok v => rw [hi] at h; cases h; simp at hle; omega

theorem bracket_shorter {cs rest : List Char} {s : Selector} (h : bracket cs = .ok (s, rest)) :
    rest.length < cs.length := by
  unfold bracket at h
  split at h
  · have := quoted_shorter h; simp; omega
  · have := quoted_shorter h; simp; omega
  · exact unquoted_shorter h

theorem name_shorter {f : PathFault} {cs rest : List Char} {s : Selector} (h : name f cs = .ok (s, rest)) :
    rest.length ≤ cs.length := by
  unfold name at h
  split at h
  · cases h
  · cases h; exact length_dropWhile_le _ _

/-- Reading a segment consumes text. -/
theorem segment_shorter {cs rest : List Char} {s : Segment} (h : segment cs = .ok (s, rest)) :
    rest.length < cs.length := by
  unfold segment at h
  split at h
  · next r =>
    cases hb : bracket r with
    | error e => rw [hb] at h; cases h
    | ok v => rw [hb] at h; cases h; have := bracket_shorter hb; simp; omega
  · next r _ =>
    cases hb : name .emptyDescendantName r with
    | error e => rw [hb] at h; cases h
    | ok v => rw [hb] at h; cases h; have := name_shorter hb; simp; omega
  · next r _ _ =>
    cases hb : name .emptyName r with
    | error e => rw [hb] at h; cases h
    | ok v => rw [hb] at h; cases h; have := name_shorter hb; simp; omega
  · next r =>
    cases hb : bracket r with
    | error e => rw [hb] at h; cases h
    | ok v => rw [hb] at h; cases h; have := bracket_shorter hb; simp; omega
  · cases h

/-- The segments that a text consists of. -/
def segmentsOf (cs : List Char) : Except PathFault (List Segment) :=
  if cs.isEmpty then .ok []
  else match _h : segment cs with
    | .error fault => .error fault
    | .ok (s, rest) => (segmentsOf rest).map (s :: ·)
termination_by cs.length
decreasing_by exact segment_shorter _h

/-- The segments of a trimmed path. -/
def segmentsOfText : List Char → Except PathFault (List Segment)
  | '$' :: rest => segmentsOf rest
  | cs =>
    match cs.takeWhile isNameChar with
    | [] => segmentsOf cs
    | n => (segmentsOf (cs.dropWhile isNameChar)).map (.child (ofName n) :: ·)

/-- A path from its text. -/
def parse (text : String) : Except PathError Path :=
  let raw := Text.trimmed text
  match segmentsOfText raw.toList with
  | .ok segments => .ok ⟨raw, segments⟩
  | .error fault => .error (.syntaxFault raw fault)

/-- Whether a segment leads to at most one node. -/
def isDefiniteSegment : Segment → Bool
  | .child (.name _) => true
  | .child (.index _) => true
  | _ => false

/-- Whether a path selects at most one node. -/
def isDefinite (p : Path) : Bool := p.segments.all isDefiniteSegment

end Path

/-- The item at a position; a negative one counts from the end. -/
def item? (items : List Json) (position : Int) : Option Json :=
  let p := if position < 0 then Int.ofNat items.length + position else position
  if p < 0 then none else items[p.toNat]?

/-- The nodes directly below a node, items by position and members in order. -/
def children : Json → List Json
  | .arr items => items
  | .obj members => members.map (·.2)
  | _ => []

/-- The nodes that a selector picks below a node. -/
def Selector.pick : Selector → Json → List Json
  | .name n, .obj members => (Dict.get? members n).toList
  | .index i, .arr items => (item? items i).toList
  | .all, node => node.children
  | _, _ => []

mutual
/-- The nodes that a selector picks below a node or below anything under it, a node's own before those further down. -/
def Selector.search (s : Selector) : Json → List Json
  | .arr items => s.pick (.arr items) ++ s.searchItems items
  | .obj members => s.pick (.obj members) ++ s.searchMembers members
  | leaf => s.pick leaf
/-- `search` in each item. -/
def Selector.searchItems (s : Selector) : List Json → List Json
  | [] => []
  | x :: xs => s.search x ++ s.searchItems xs
/-- `search` in the value of each member. -/
def Selector.searchMembers (s : Selector) : List (String × Json) → List Json
  | [] => []
  | (_, v) :: rest => s.search v ++ s.searchMembers rest
end

/-- The nodes that a segment leads to from a node. -/
def Segment.pick : Segment → Json → List Json
  | .child s, node => s.pick node
  | .descendant s, node => s.search node

/-- The nodes that a list of segments leads to from a node. -/
def follow (segments : List Segment) (root : Json) : List Json :=
  segments.foldl (fun found s => found.flatMap s.pick) [root]

/-- What a path selects: the node of a definite path, the list of all matches of any other. -/
def Path.select (p : Path) (root : Json) : Except PathError Json :=
  let found := follow p.segments root
  if p.isDefinite then
    match found with
    | v :: _ => .ok v
    | [] => .error (.notFound p.text)
  else .ok (.arr found)

/-- What the path that a text writes selects. -/
def select (root : Json) (path : String) : Except PathError Json := do (← Path.parse path).select root

/-- What the path that a text writes selects in the document that another text holds. -/
def selectText (document path : String) : Except PathError Json :=
  match parse document with
  | none => .error .invalidDocument
  | some root => select root path

end TestScenario.Json
