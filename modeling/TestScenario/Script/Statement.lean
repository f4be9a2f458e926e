import TestScenario.Text.Blank

/-!
The statements of a script.

A newline or a semicolon ends a statement unless it stands in a string literal; inside brackets a newline is a space.
Comment lines are dropped, and a statement that starts with an operator continues the one before it.
-/

namespace TestScenario.Script

/-- Where a place in a script is: how deep in brackets, and in which string literal, possibly after a backslash. -/
inductive Cursor where
  | code (depth : Nat)
  | literal (quote : Char) (escaped : Bool) (depth : Nat)
deriving DecidableEq, Repr

namespace Cursor

/-- The place before a script. -/
def start : Cursor := .code 0

/-- The place after a character. -/
def step : Cursor → Char → Cursor
  | .literal q true d, _ => .literal q false d
  | .literal q false d, c => if c == '\\' then .literal q true d else if c == q then .code d else .literal q false d
  | .code d, c =>
    if c == '"' || c == '\'' then .literal c false d
    else if c == '(' || c == '[' || c == '{' then .code (d + 1)
    else if c == ')' || c == ']' || c == '}' then .code (d - 1)
    else .code d

/-- Whether a character ends the statement. -/
def ends : Cursor → Char → Bool
  | .literal .., _ => false
  | .code d, c => c == ';' || (c == '\n' && d == 0)

/-- The character as the statement shows it. -/
def shown : Cursor → Char → Char
  | .literal .., c => c
  | .code _, c => if c == '\n' then ' ' else c

end Cursor

/-- The stretches between the ends of statements: the first one and the others. -/
def cut : Cursor → List Char → List Char × List (List Char)
  | _, [] => ([], [])
  | at_, c :: rest =>
    let (first, others) := cut (at_.step c) rest
    if at_.ends c then ([], first :: others) else (at_.shown c :: first, others)

/-- What a statement starts with that continues the one before it. -/
def continuations : List (List Char) := [['&', '&'], ['|', '|'], ['?'], [':'], ['.']]

/-- Whether a statement continues the one before it. -/
def continues (cs : List Char) : Bool := continuations.any (·.isPrefixOf cs)

/-- The statement in a stretch, unless that is blank or a comment. -/
def statement? (stretch : List Char) : Option (List Char) :=
  let s := Text.trim stretch
  if s.isEmpty || ['/', '/'].isPrefixOf s then none else some s

/-- One more statement after those already found, the latest of which comes first. -/
def attach (found : List (List Char)) (s : List Char) : List (List Char) :=
  match found with
  | [] => [s]
  | latest :: older => if continues s then (latest ++ ' ' :: s) :: older else s :: latest :: older

/-- The statements in a list of stretches. -/
def assemble (stretches : List (List Char)) : List (List Char) :=
  ((stretches.filterMap statement?).foldl attach []).reverse

/-- The statements of a script as characters. -/
def statementChars (script : List Char) : List (List Char) :=
  let (first, others) := cut .start script
  assemble (first :: others)

/-- The statements of a script. -/
def statements (script : String) : List String := (statementChars script.toList).map String.ofList

/-- Whether a character may start a name. -/
def isNameStart (c : Char) : Bool := c.isAlpha || c == '_'

/-- Whether a character may go on with a name. -/
def isNamePart (c : Char) : Bool := c.isAlphanum || c == '_'

/-- The name and the trimmed right-hand side of an assignment without a keyword: a name, an equals sign, and more that
    does not start with another equals sign. -/
def plainAssignment? (cs : List Char) : Option (String × List Char) :=
  match cs with
  | [] => none
  | c :: _ =>
    if !isNameStart c then none
    else match (cs.dropWhile isNamePart).dropWhile Text.isBlank with
      | '=' :: v :: rest =>
        if v == '=' then none else some (String.ofList (cs.takeWhile isNamePart), Text.trim (v :: rest))
      | _ => none

/-- The text after a keyword and at least one blank. -/
def afterKeyword? (keyword cs : List Char) : Option (List Char) :=
  if keyword.isPrefixOf cs then
    match cs.drop keyword.length with
    | c :: rest => if Text.isBlank c then some (rest.dropWhile Text.isBlank) else none
    | [] => none
  else none

/-- The name and the right-hand side of an assignment, which may begin with a keyword. -/
def assignment? (cs : List Char) : Option (String × List Char) :=
  let declared := (afterKeyword? ['l', 'e', 't'] cs <|> afterKeyword? ['v', 'a', 'r'] cs).bind plainAssignment?
  declared <|> plainAssignment? cs

end TestScenario.Script
