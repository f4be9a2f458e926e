import TestScenario.Document.Node
import TestScenario.Document.Token
import TestScenario.Text.Dict
import TestScenario.Text.Table

/-!
YAML documents as trees, and the nodes that these stand for once aliases are followed.
-/

namespace TestScenario.Document

/-- A part of a document; an alias gives the number of an anchor. -/
inductive Tree where
  | scalar (tag : Option String) (style : Style) (text : String)
  | sequence (tag : Option String) (items : List Tree)
  | mapping (tag : Option String) (entries : List (Tree × Tree))
  | alias (anchor : Nat)

namespace Tree

/-- Nothing at all. -/
def void : Tree := .scalar none .plain ""

mutual
/-- How many marks the tree is written with: one for each scalar and alias, two for each collection. -/
def size : Tree → Nat
  | .scalar .. => 1
  | .sequence _ items => sizeOfItems items + 2
  | .mapping _ entries => sizeOfEntries entries + 2
  | .alias _ => 1
/-- `size` for some items together. -/
def sizeOfItems : List Tree → Nat
  | [] => 0
  | t :: ts => t.size + sizeOfItems ts
/-- `size` for some entries together. -/
def sizeOfEntries : List (Tree × Tree) → Nat
  | [] => 0
  | (k, v) :: es => k.size + v.size + sizeOfEntries es
end

mutual
/-- How many aliases are followed to read the tree, given how many are for the tree of each anchor. -/
def jumps (known : Table Nat Nat) : Tree → Nat
  | .sequence _ items => jumpsOfItems known items
  | .mapping _ entries => jumpsOfEntries known entries
  | .alias id => (known.get? id).getD 0 + 1
  | .scalar .. => 0
/-- `jumps` for some items together. -/
def jumpsOfItems (known : Table Nat Nat) : List Tree → Nat
  | [] => 0
  | t :: ts => t.jumps known + jumpsOfItems known ts
/-- `jumps` for some entries together. -/
def jumpsOfEntries (known : Table Nat Nat) : List (Tree × Tree) → Nat
  | [] => 0
  | (k, v) :: es => k.jumps known + v.jumps known + jumpsOfEntries known es
end

/-- What is left to read, and what has been seen of tags and anchors. -/
structure Progress where
  tokens : List Token
  /-- What the handles of tags stand for. -/
  handles : Dict String := []
  /-- The number that each name of an anchor has now. -/
  anchors : Dict Nat := []
  trees : Table Nat Tree := []
  /-- How many aliases are followed to read each tree. -/
  jumps : Table Nat Nat := []

/-- A step that reads a part of the document. -/
abbrev Parser (α : Type) := StateT Progress Option α

/-- The next token. -/
def peek : Parser (Option Token) := do pure (← get).tokens.head?

/-- Go on to the token after the next one. -/
def advance : Parser Unit := modify fun p => { p with tokens := p.tokens.drop 1 }

/-- Whether the next token is one of those given; the end of the text is none of them. -/
def nextIn (ts : List Token) : Parser Bool := do
  match ← peek with
  | some t => pure (ts.contains t)
  | none => pure false

/-- Go past a token if it is the next one. -/
def accept (t : Token) : Parser Bool := do
  if ← nextIn [t] then
    advance
    pure true
  else pure false

/-- The tag that a handle and a suffix stand for. -/
def tagOf (handle suffix : String) : Parser String := do
  if handle.isEmpty then pure suffix
  else
    match (← get).handles.get? handle with
    | some uri => pure (uri ++ suffix)
    | none =>
      if handle == "!" then pure ("!" ++ suffix)
      else if handle == "!!" then pure (tagPrefix ++ suffix)
      else failure

/-- The anchor and the tag in front of a node, in either order. -/
def properties : Parser (Option String × Option String) := do
  let anchor? : Parser (Option String) := do
    match ← peek with
    | some (.anchor name) =>
      advance
      pure (some name)
    | _ => pure none
  let tag? : Parser (Option String) := do
    match ← peek with
    | some (.tag handle suffix) =>
      advance
      some <$> tagOf handle suffix
    | _ => pure none
  match ← anchor? with
  | some name => pure (some name, ← tag?)
  | none =>
    match ← tag? with
    | some tag => pure (← anchor?, some tag)
    | none => pure (none, none)

/-- A number for an anchor: how many names there have been. -/
def number (name : String) : Parser Nat := do
  let id := (← get).anchors.length
  modify fun p => { p with anchors := p.anchors.insert name id }
  pure id

/-- What follows a node inside brackets of a list. -/
def listEnds : List Token := [.flowEntry, .flowSequenceEnd]

/-- What follows a node inside braces. -/
def braceEnds : List Token := [.flowEntry, .flowMappingEnd]

/-- What follows a node of a block mapping. -/
def mappingEnds : List Token := [.key, .value, .blockEnd]

/-- Go past the comma in front of an item; the first item has none. -/
def separated (first : Bool) : Parser Bool := if first then pure true else accept .flowEntry

mutual
/-- A node; `block` tells whether it may be a block collection, `indentless` whether it may be a list whose dashes
    stand no deeper than the key before it. -/
def node : (fuel : Nat) → (block indentless : Bool) → Parser Tree
  | 0, _, _ => failure
  | fuel + 1, block, indentless => do
    match ← peek with
    | some (.alias name) =>
      advance
      match (← get).anchors.get? name with
      | some id => pure (.alias id)
      | none => failure
    | _ =>
      let (anchor, tag) ← properties
      let id ← anchor.mapM number
      let tree ← content fuel block indentless (anchor.isSome || tag.isSome) tag
      match id with
      | some id => modify fun p =>
        { p with trees := p.trees.put id tree, jumps := p.jumps.put id (tree.jumps p.jumps) }
      | none => pure ()
      pure tree
/-- The content of a node; with properties it may be missing. -/
def content : (fuel : Nat) → (block indentless marked : Bool) → (tag : Option String) → Parser Tree
  | 0, _, _, _, _ => failure
  | fuel + 1, block, indentless, marked, tag => do
    match ← peek with
    | some (.scalar style text) =>
      advance
      pure (.scalar (if tag == some "!" then none else tag) style text)
    | some .flowSequenceStart =>
      advance
      .sequence tag <$> flowItems fuel true
    | some .flowMappingStart =>
      advance
      .mapping tag <$> flowEntries fuel true
    | some .blockSequenceStart =>
      if block then
        advance
        .sequence tag <$> blockItems fuel
      else missing marked tag
    | some .blockMappingStart =>
      if block then
        advance
        .mapping tag <$> blockEntries fuel
      else missing marked tag
    | some .blockEntry => if indentless then .sequence tag <$> plainItems fuel else missing marked tag
    | _ => missing marked tag
/-- A node without content. -/
def missing (marked : Bool) (tag : Option String) : Parser Tree :=
  if marked then pure (.scalar tag .plain "") else failure
/-- A node, or nothing if one of some tokens follows. -/
def nodeUnless : (fuel : Nat) → (ends : List Token) → (block indentless : Bool) → Parser Tree
  | 0, _, _, _ => failure
  | fuel + 1, ends, block, indentless => do
    if ← nextIn ends then pure void else node fuel block indentless
/-- The items of a block list. -/
def blockItems : (fuel : Nat) → Parser (List Tree)
  | 0 => failure
  | fuel + 1 => do
    if ← accept .blockEntry then
      let item ← nodeUnless fuel [.blockEntry, .blockEnd] true false
      let items ← blockItems fuel
      pure (item :: items)
    else if ← accept .blockEnd then pure []
    else failure
/-- The items of a list whose dashes stand no deeper than the key before it. -/
def plainItems : (fuel : Nat) → Parser (List Tree)
  | 0 => failure
  | fuel + 1 => do
    if ← accept .blockEntry then
      let item ← nodeUnless fuel (.blockEntry :: mappingEnds) true false
      let items ← plainItems fuel
      pure (item :: items)
    else pure []
/-- The entries of a block mapping. -/
def blockEntries : (fuel : Nat) → Parser (List (Tree × Tree))
  | 0 => failure
  | fuel + 1 => do
    if ← accept .key then
      let key ← nodeUnless fuel mappingEnds true true
      let value ← if ← accept .value then nodeUnless fuel mappingEnds true true else pure void
      let entries ← blockEntries fuel
      pure ((key, value) :: entries)
    else if ← accept .blockEnd then pure []
    else failure
/-- The items of a list in brackets; commas stand between them. -/
def flowItems : (fuel : Nat) → (first : Bool) → Parser (List Tree)
  | 0, _ => failure
  | fuel + 1, first => do
    if ← accept .flowSequenceEnd then pure []
    else if ← separated first then
      if ← accept .key then
        let entry ← pair fuel
        let items ← flowItems fuel false
        pure (.mapping none [entry] :: items)
      else if ← accept .flowSequenceEnd then pure []
      else
        let item ← node fuel false false
        let items ← flowItems fuel false
        pure (item :: items)
    else failure
/-- A single entry among the items of a list in brackets, behind its key token. Where the key is missing, the token in
    its place is lost. -/
def pair : (fuel : Nat) → Parser (Tree × Tree)
  | 0 => failure
  | fuel + 1 => do
    let key ← if ← nextIn (.value :: listEnds) then
        advance
        pure void
      else node fuel false false
    let value ← if ← accept .value then nodeUnless fuel listEnds false false else pure void
    pure (key, value)
/-- The entries of a mapping in braces; commas stand between them. -/
def flowEntries : (fuel : Nat) → (first : Bool) → Parser (List (Tree × Tree))
  | 0, _ => failure
  | fuel + 1, first => do
    if ← accept .flowMappingEnd then pure []
    else if ← separated first then
      if ← accept .key then
        let key ← nodeUnless fuel (.value :: braceEnds) false false
        let value ← if ← accept .value then nodeUnless fuel braceEnds false false else pure void
        let entries ← flowEntries fuel false
        pure ((key, value) :: entries)
      else if ← accept .flowMappingEnd then pure []
      else
        let key ← node fuel false false
        let entries ← flowEntries fuel false
        pure ((key, void) :: entries)
    else failure
end

/-- The directives in front of a document: at most one version, which has to be 1.1 or 1.2, and handles that differ. -/
def directives (version : Bool) : List Token → Progress → Option Progress
  | .version major minor :: rest, p =>
    if !version && major == 1 && (minor == 1 || minor == 2) then directives true rest p else none
  | .tagHandle handle uri :: rest, p =>
    if p.handles.contains handle then none else directives version rest { p with handles := p.handles.insert handle uri }
  | ts, p => some { p with tokens := ts }

/-- Whether a list of tokens begins with a directive or with the mark of a document. -/
def beginsDocument : List Token → Bool
  | .version .. :: _ => true
  | .tagHandle .. :: _ => true
  | .documentStart :: _ => true
  | _ => false

/-- The root of the first document, where a mark stands in front of it or not. -/
def root (fuel : Nat) (marked : Bool) : Parser Tree := do
  if marked then
    if ← accept .documentStart then
      match ← peek with
      | none => pure void
      | some .documentEnd => pure void
      | some _ => if beginsDocument (← get).tokens then pure void else node fuel true false
    else failure
  else node fuel true false

/-- How often aliases may be followed for each mark of a document. -/
def jumpsPerMark : Nat := 100

/-- The only document among some tokens, with the trees of its anchors except for those that cannot be read within the
    number of aliases that may be followed; `none` if there is none. -/
def document (ts : List Token) : Option (Option (Tree × Table Nat Tree)) :=
  if ts.isEmpty then some none
  else do
    let marked := beginsDocument ts
    let p ← directives false ts { tokens := ts }
    let (tree, p) ← (root (4 * ts.length + 4) marked).run p
    if (p.tokens.dropWhile (· == .documentEnd)).isEmpty then
      let limit := jumpsPerMark * tree.size
      some (some (tree, p.trees.filter fun (id, _) => (p.jumps.get? id).any (· < limit)))
    else none

/-- How many collections may lie inside each other. -/
def maxDepth : Nat := 128

/-- The tree of an anchor in place of its alias, unless that anchor is open or its tree cannot be read. -/
def target (trees : Table Nat Tree) (opened : List Nat) : Tree → List Nat × Tree
  | .alias id => if opened.contains id then (opened, .alias id) else (id :: opened, (trees.get? id).getD (.alias id))
  | t => (opened, t)

/-- The node that a tree stands for, where `opened` are the anchors whose aliases it lies in. -/
def resolve (trees : Table Nat Tree) : (depth : Nat) → (opened : List Nat) → Tree → Node
  | depth, opened, t =>
    match target trees opened t, depth with
    | (_, .scalar tag style text), _ => .scalar tag style text
    | (opened, .sequence tag items), depth + 1 => .sequence tag (items.map (resolve trees depth opened))
    | (opened, .mapping tag entries), depth + 1 =>
      .mapping tag (entries.map fun (k, v) => (resolve trees depth opened k, resolve trees depth opened v))
    | _, _ => .endless

end Tree

/-- The root of the only document of a YAML text, void if there is none. -/
def Node.ofText (text : String) : Option Node := do
  match ← Tree.document (← Token.ofText text) with
  | none => some default
  | some (tree, trees) => some (tree.resolve trees Tree.maxDepth [])

end TestScenario.Document
