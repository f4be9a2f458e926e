import TestScenario.Script.Expr
import TestScenario.Script.Token
import TestScenario.Script.Literal

/-!
Expressions from tokens.

From weakest to strongest bind the conditional, disjunction, conjunction, comparison, sums, products, the operators
before an operand, and what follows an operand. Operators of one strength group to the left. Several operators of a
kind before an operand count as one; a single minus before a number belongs to the number.

Expressions may stand inside one another only so deep. A conditional is inside the one whose last branch it is, and
what stands to the right of an operator is inside what the operator makes.
-/

namespace TestScenario.Script.Expr

/-- The operators of each strength, weakest first. -/
def operators : List (List (String × BinaryOp)) :=
  [[("||", .or)], [("&&", .and)],
    [("<", .lt), ("<=", .le), (">=", .ge), (">", .gt), ("==", .eq), ("!=", .ne), ("in", .isIn)],
    [("+", .add), ("-", .sub)], [("*", .mul), ("/", .div), ("%", .rem)]]

/-- The operator of a strength that a token is. -/
def operator? (strength : Nat) : Token → Option BinaryOp
  | .symbol s => (operators[strength]?.getD []).lookup s
  | _ => none

/-- The value of a token that is a literal, after a minus sign if `negative`. -/
def literal? (negative : Bool) : Token → Option Value
  | .int w =>
    if negative then
      match w with
      | '0' :: 'x' :: _ => none
      | _ => (Decimal.readInt64 ('-' :: w)).toOption.map .int
    else (Literal.magnitude w).bind fun n => if fitsInt (Int.ofNat n) then some (.int (Int.ofNat n)) else none
  | .float w =>
    (Decimal.readFloat w).bind fun x => if x.isFinite then some (.float (if negative then -x else x)) else none
  | .uint w =>
    if negative then none
    else (Literal.magnitude w).bind fun n => if fitsUInt (Int.ofNat n) then some (.uint n) else none
  | .str w => if negative then none else (Literal.string w).map .str
  | .bytes w => if negative then none else (Literal.bytes w).map .bytes
  | .symbol "true" => if negative then none else some (.bool true)
  | .symbol "false" => if negative then none else some (.bool false)
  | .symbol "null" => if negative then none else some .null
  | _ => none

/-- Whether a token is a number that a minus sign may belong to. -/
def isSignable : Token → Bool
  | .int _ => true
  | .float _ => true
  | _ => false

/-- The tokens after a symbol. -/
def expect (s : String) : List Token → Option (List Token)
  | .symbol t :: rest => if t == s then some rest else none
  | _ => none

/-- How many expressions, comparisons and sums are open around a place. -/
structure Nesting where
  expressions : Nat := 0
  comparisons : Nat := 0
  sums : Nat := 0
deriving DecidableEq, Repr

namespace Nesting

/-- How deep expressions, comparisons and sums may stand inside one another. -/
def limit : Nat := 96

/-- The nesting, unless it is too deep. -/
def allowed (d : Nesting) : Option Nesting :=
  if d.expressions ≤ limit && d.comparisons ≤ limit && d.sums ≤ limit then some d else none

/-- Inside an expression. -/
def expression (d : Nesting) : Option Nesting := { d with expressions := d.expressions + 1 }.allowed

/-- Inside what the operators of a strength make; products belong to the sums around them. -/
def level (strength : Nat) (d : Nesting) : Option Nesting :=
  if strength == 2 then { d with comparisons := d.comparisons + 1 }.allowed
  else if strength == 3 then { d with sums := d.sums + 1 }.allowed
  else some d

/-- To the right of an operator of a strength. -/
def operand (strength : Nat) (d : Nesting) : Option Nesting :=
  if strength == 4 then level 3 d else level strength d

end Nesting

mutual
/-- An expression and the tokens after it. `fuel` bounds how many rules are used inside one another. -/
def expression (around : Nesting) : (fuel : Nat) → List Token → Option (Expr × List Token)
  | 0, _ => none
  | fuel + 1, ts => do
    let here ← around.expression
    let (test, rest) ← level 0 here fuel ts
    match rest with
    | .symbol "?" :: rest =>
      let (yes, rest) ← level 0 here fuel rest
      let rest ← expect ":" rest
      let (no, rest) ← expression here fuel rest
      some (.conditional test yes no, rest)
    | _ => some (test, rest)
/-- Operands of one strength and the operators between them. -/
def level (strength : Nat) (around : Nesting) : (fuel : Nat) → List Token → Option (Expr × List Token)
  | 0, _ => none
  | fuel + 1, ts =>
    if strength < operators.length then do
      let here ← around.level strength
      let (left, rest) ← level (strength + 1) here fuel ts
      operations strength left here fuel rest
    else prefixed around fuel ts
/-- What follows a left operand at one strength. -/
def operations (strength : Nat) (left : Expr) (here : Nesting) : (fuel : Nat) → List Token → Option (Expr × List Token)
  | 0, _ => none
  | _, [] => some (left, [])
  | fuel + 1, t :: rest =>
    match operator? strength t with
    | none => some (left, t :: rest)
    | some op => do
      let (right, rest) ← level (strength + 1) (← here.operand strength) fuel rest
      operations strength (.binary op left right) here fuel rest
/-- An operand with the operators before it. -/
def prefixed (here : Nesting) : (fuel : Nat) → List Token → Option (Expr × List Token)
  | 0, _ => none
  | fuel + 1, ts =>
    match ts with
    | .symbol "!" :: _ => do
      let (e, rest) ← signed here fuel (ts.dropWhile (· == .symbol "!"))
      some (.unary .not e, rest)
    | .symbol "-" :: t :: _ =>
      if isSignable t then signed here fuel ts
      else do
        let (e, rest) ← member here fuel (ts.dropWhile (· == .symbol "-"))
        some (.unary .negate e, rest)
    | _ => member here fuel ts
/-- An operand with what follows it; it may be a number with a minus sign. -/
def signed (here : Nesting) : (fuel : Nat) → List Token → Option (Expr × List Token)
  | 0, _ => none
  | fuel + 1, ts =>
    match ts with
    | .symbol "-" :: t :: rest =>
      if isSignable t then do
        let v ← literal? true t
        followed (.literal v) here fuel rest
      else none
    | _ => member here fuel ts
/-- An operand with what follows it. -/
def member (here : Nesting) : (fuel : Nat) → List Token → Option (Expr × List Token)
  | 0, _ => none
  | fuel + 1, ts => do
    let (e, rest) ← primary here fuel ts
    followed e here fuel rest
/-- Fields, method calls and indices after an operand. -/
def followed (e : Expr) (here : Nesting) : (fuel : Nat) → List Token → Option (Expr × List Token)
  | 0, _ => none
  | fuel + 1, ts =>
    match ts with
    | .symbol "." :: .name n :: .symbol "(" :: rest => do
      let (args, rest) ← arguments here fuel rest
      let call ← ofMethod e n args
      followed call here fuel rest
    | .symbol "." :: .name n :: rest => followed (.select e n) here fuel rest
    | .symbol "." :: .quotedName n :: rest => followed (.select e n) here fuel rest
    | .symbol "[" :: rest => do
      let (i, rest) ← expression here fuel rest
      let rest ← expect "]" rest
      followed (.binary .index e i) here fuel rest
    | _ => some (e, ts)
/-- An operand on its own. -/
def primary (here : Nesting) : (fuel : Nat) → List Token → Option (Expr × List Token)
  | 0, _ => none
  | fuel + 1, ts =>
    match ts with
    | .symbol "." :: .name n :: .symbol "(" :: rest => do
      let (args, rest) ← arguments here fuel rest
      some (.call ("." ++ n) args, rest)
    | .symbol "." :: .name n :: rest => some (.name n, rest)
    | .name n :: .symbol "(" :: rest => do
      let (args, rest) ← arguments here fuel rest
      let call ← ofCall n args
      some (call, rest)
    | .name n :: rest => some (.name n, rest)
    | .symbol "(" :: rest => do
      let (e, rest) ← expression here fuel rest
      let rest ← expect ")" rest
      some (e, rest)
    | .symbol "[" :: .symbol "," :: .symbol "]" :: rest => some (.list [], rest)
    | .symbol "[" :: .symbol "]" :: rest => some (.list [], rest)
    | .symbol "[" :: rest => do
      let (items, rest) ← listItems here fuel rest
      some (.list items, rest)
    | .symbol "\x7b" :: .symbol "," :: .symbol "\x7d" :: rest => some (.map [], rest)
    | .symbol "\x7b" :: .symbol "\x7d" :: rest => some (.map [], rest)
    | .symbol "\x7b" :: rest => do
      let (entries, rest) ← mapEntries here fuel rest
      some (.map entries, rest)
    | t :: rest => (literal? false t).map fun v => (.literal v, rest)
    | [] => none
/-- The arguments of a call up to its closing parenthesis. -/
def arguments (here : Nesting) : (fuel : Nat) → List Token → Option (List Expr × List Token)
  | 0, _ => none
  | fuel + 1, ts =>
    match ts with
    | .symbol ")" :: rest => some ([], rest)
    | _ => moreArguments here fuel ts
/-- At least one argument. -/
def moreArguments (here : Nesting) : (fuel : Nat) → List Token → Option (List Expr × List Token)
  | 0, _ => none
  | fuel + 1, ts => do
    let (e, rest) ← expression here fuel ts
    match rest with
    | .symbol ")" :: rest => some ([e], rest)
    | .symbol "," :: rest =>
      let (es, rest) ← moreArguments here fuel rest
      some (e :: es, rest)
    | _ => none
/-- The items of a list up to its closing bracket, before which a comma may stand. -/
def listItems (here : Nesting) : (fuel : Nat) → List Token → Option (List Expr × List Token)
  | 0, _ => none
  | fuel + 1, ts => do
    let (e, rest) ← expression here fuel ts
    match rest with
    | .symbol "]" :: rest => some ([e], rest)
    | .symbol "," :: .symbol "]" :: rest => some ([e], rest)
    | .symbol "," :: rest =>
      let (es, rest) ← listItems here fuel rest
      some (e :: es, rest)
    | _ => none
/-- The entries of a map up to its closing brace, before which a comma may stand. -/
def mapEntries (here : Nesting) : (fuel : Nat) → List Token → Option (List (Expr × Expr) × List Token)
  | 0, _ => none
  | fuel + 1, ts => do
    let (k, rest) ← expression here fuel ts
    let rest ← expect ":" rest
    let (v, rest) ← expression here fuel rest
    match rest with
    | .symbol "\x7d" :: rest => some ([(k, v)], rest)
    | .symbol "," :: .symbol "\x7d" :: rest => some ([(k, v)], rest)
    | .symbol "," :: rest =>
      let (es, rest) ← mapEntries here fuel rest
      some ((k, v) :: es, rest)
    | _ => none
end

/-- The expression that a text writes. -/
def ofText (text : String) : Option Expr := do
  let ts ← Token.ofText text
  let (e, rest) ← expression {} (16 * ts.length + 16) ts
  if rest.isEmpty then some e else none

end TestScenario.Script.Expr
