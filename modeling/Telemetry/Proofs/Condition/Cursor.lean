import Telemetry.Proofs.Condition.Scanner
import Telemetry.Condition.Program

/-!
# Reading tokens with a cursor

The parser keeps a position in the tokens and the number of levels that are open. It looks ahead,
moves on, steps back to the token that it complains of, and opens and closes levels. A step back
from the first token and a level that is closed without being open are breaches.

The calls that go round, back to the start of a condition or of a loop, are taken from a record, and
the parser with so many rounds is made from the one with a round less.
-/

namespace Telemetry.Condition

/-- Where the parser stands: how many tokens it has passed, and how many levels are open. -/
structure Cursor where
  pos : Nat
  depth : Nat
  deriving DecidableEq, Repr

/-- A part of the parser: it moves the cursor, and stops or has a result. -/
abbrev Walk := EStateM Stop Cursor

namespace Cursor

/-- The operator that a token and the one behind it make, and how many tokens it takes. -/
def operatorOf? (now behind : Token) : Option (BinaryOp × Nat) :=
  match now with
  | .doubleQuestion => some (.coalesce, 1)
  | .orOr | .word "or" => some (.or, 1)
  | .andAnd | .word "and" => some (.and, 1)
  | .equal => some (.equal, 1)
  | .notEqual => some (.notEqual, 1)
  | .less => some (.less, 1)
  | .lessEqual => some (.lessEqual, 1)
  | .greater => some (.greater, 1)
  | .greaterEqual => some (.greaterEqual, 1)
  | .plus => some (.add, 1)
  | .minus => some (.subtract, 1)
  | .star => some (.multiply, 1)
  | .slash => some (.divide, 1)
  | .percent => some (.modulo, 1)
  | .word "in" => some (.isIn, 1)
  | .word "matches" => some (.matchesPattern, 1)
  | .word "contains" => some (.contains, 1)
  | .word "startsWith" => some (.startsWith, 1)
  | .word "endsWith" => some (.endsWith, 1)
  | .word "not" => if behind = .word "in" then some (.notIn, 2) else none
  | _ => none

section Steps

variable (tokens : List Located)

/-- The token so many tokens ahead; behind the last one it is the last one. -/
def ahead (n : Nat) (s : Cursor) : Token :=
  (tokens[s.pos + n]?.or tokens.getLast?).elim .ending (·.token)

/-- The offset of the token at the cursor. -/
def offset (s : Cursor) : Nat := (tokens[s.pos]?.or tokens.getLast?).elim 0 (·.offset)

/-- The cursor behind the token where it stands; it does not go behind the last token. -/
def next (s : Cursor) : Cursor := if s.pos < tokens.length then { s with pos := s.pos + 1 } else s

/-- The token at the cursor. -/
def peek : Walk Token := fun s => .ok (ahead tokens 0 s) s

/-- The operator at the cursor, and how many tokens it takes. -/
def peekOperator : Walk (Option (BinaryOp × Nat)) := fun s =>
  .ok (operatorOf? (ahead tokens 0 s) (ahead tokens 1 s)) s

/-- The token at the cursor, which moves on. -/
def advance : Walk Token := fun s => .ok (ahead tokens 0 s) (next tokens s)

/-- The cursor moves back by a token. -/
def back : Walk PUnit := fun s =>
  match s.pos with
  | 0 => .error .breach s
  | pos + 1 => .ok ⟨⟩ { s with pos }

/-- Refuses the condition at the cursor. -/
def refuse {α : Type} (fault : SyntaxFault) : Walk α := fun s =>
  .error (.refused ⟨offset tokens s, fault⟩) s

/-- Opens a level; it stays open if it is one too many. -/
def enter : Walk PUnit := fun s =>
  let s := { s with depth := s.depth + 1 }
  if levelLimit < s.depth then refuse tokens .tooDeep s else .ok ⟨⟩ s

/-- Closes so many levels. -/
def leave (n : Nat) : Walk PUnit := fun s =>
  if n ≤ s.depth then .ok ⟨⟩ { s with depth := s.depth - n } else .error .breach s

/-- Closes a level behind a part of the parser, even if that refuses the condition. -/
def thenLeave {α : Type} (x : Walk α) : Walk α := fun s =>
  match x s with
  | .ok a s => (leave 1 >>= fun _ => pure a) s
  | .error (.refused e) s => (leave 1 >>= fun _ => throw (.refused e)) s
  | stopped => stopped

/-- Passes a token that must stand at the cursor. -/
def expect (want : Token) (what : String) : Walk PUnit := do
  let found ← peek tokens
  if found = want then
    let _ ← advance tokens
    return ⟨⟩
  else refuse tokens (.expected what found)

end Steps

/-- The calls that go round. -/
structure Calls where
  expression : Walk Expr
  /-- An operand and the operators of at least the given precedence behind it. -/
  binary : Nat → Walk Expr
  /-- The operators behind a left operand, behind which so many levels are open. -/
  chain : Nat → Expr → Nat → Walk Expr
  unary : Walk Expr
  /-- The items behind the given ones, up to the closing token. -/
  items : List Expr → Token → String → Walk (List Expr)
  /-- The members and indices behind an object, behind which so many levels are open. -/
  accesses : Expr → Nat → Walk Expr

section Parts

variable (tokens : List Located) (inner : Calls)

/-- The items behind the given ones, up to the closing token; a comma may stand before it. -/
def items (before : List Expr) (close : Token) (what : String) : Walk (List Expr) := do
  let item ← inner.expression
  let found ← peek tokens
  if found = .comma then
    let _ ← advance tokens
    let found ← peek tokens
    if found = close then
      let _ ← advance tokens
      return before ++ [item]
    else inner.items (before ++ [item]) close what
  else if found = close then
    let _ ← advance tokens
    return before ++ [item]
  else refuse tokens (.expected ("',' or " ++ what) found)

/-- Expressions separated by commas up to the closing token, none at all perhaps. -/
def list (close : Token) (what : String) : Walk (List Expr) := do
  let found ← peek tokens
  if found = close then
    let _ ← advance tokens
    return []
  else items tokens inner [] close what

/-- An operand that starts with a word, which has been passed. -/
def wordOrCall (w : String) : Walk Expr :=
  match w with
  | "true" => return .bool true
  | "false" => return .bool false
  | "nil" => return .nil
  | _ =>
    if operatorWords.contains w then do
      back
      refuse tokens (.unexpectedKeyword w)
    else do
      let found ← peek tokens
      if found = .leftParen then
        let _ ← advance tokens
        let arguments ← list tokens inner .rightParen "')'"
        return .call w arguments
      else return .name w

/-- An operand without operators, members and indices. -/
def primary : Walk Expr := do
  let found ← advance tokens
  match found with
  | .int n => return .int n
  | .float x => return .float x
  | .text s => return .text s
  | .leftParen =>
    let e ← inner.expression
    expect tokens .rightParen "')'"
    return e
  | .leftBracket =>
    let members ← list tokens inner .rightBracket "']'"
    return .array members
  | .word w => wordOrCall tokens inner w
  | .ending => refuse tokens .unexpectedEnd
  | found =>
    back
    refuse tokens (.unexpectedToken found)

/-- The member behind a dot at the cursor, and the members and indices behind it. -/
def member (object : Expr) (optional : Bool) (chained : Nat) : Walk Expr := do
  let _ ← advance tokens
  let found ← advance tokens
  match found with
  | .word key => inner.accesses (.member object key optional) (chained + 1)
  | found =>
    back
    refuse tokens (.expected "member name" found)

/-- The index behind a bracket at the cursor, and the members and indices behind it. -/
def index (object : Expr) (chained : Nat) : Walk Expr := do
  let _ ← advance tokens
  let index ← inner.expression
  expect tokens .rightBracket "']'"
  inner.accesses (.index object index) (chained + 1)

/-- The members and indices behind an object. Each opens a level, and all are closed at the end. -/
def accesses (object : Expr) (chained : Nat) : Walk Expr := do
  let mark ← peek tokens
  match mark with
  | .dot =>
    enter tokens
    member tokens inner object false chained
  | .questionDot =>
    enter tokens
    member tokens inner object true chained
  | .leftBracket =>
    enter tokens
    index tokens inner object chained
  | _ =>
    leave chained
    return object

/-- The operand behind an operator at the cursor, which may leave no trace. -/
def operand (op? : Option UnaryOp) : Walk Expr := do
  let _ ← advance tokens
  enter tokens
  let e ← thenLeave inner.unary
  return op?.elim e fun op => .unary op e

/-- An operand with the operators in front of it; a plus sign leaves no trace. -/
def unary : Walk Expr := do
  let found ← peek tokens
  match found with
  | .bang | .word "not" => operand tokens inner (some .not)
  | .minus => operand tokens inner (some .negate)
  | .plus => operand tokens inner none
  | _ =>
    let e ← primary tokens inner
    accesses tokens inner e 0

/-- Passes so many tokens. -/
def skip : Nat → Walk PUnit
  | 0 => return ⟨⟩
  | n + 1 => do
    let _ ← advance tokens
    skip n

/-- The operators of at least the given precedence behind a left operand. Each opens a level, and
all are closed at the end. -/
def chain (least : Nat) (left : Expr) (chained : Nat) : Walk Expr := do
  let operator? ← peekOperator tokens
  match operator? with
  | none =>
    leave chained
    return left
  | some (op, size) =>
    if op.precedence < least then
      leave chained
      return left
    else
      skip tokens size
      enter tokens
      let right ← inner.binary op.rightPrecedence
      inner.chain least (.binary op left right) (chained + 1)

/-- An operand and the operators of at least the given precedence behind it. -/
def binary (least : Nat) : Walk Expr := do
  let left ← unary tokens inner
  chain tokens inner least left 0

/-- A condition behind the level that it opens. -/
def ternary : Walk Expr := do
  let test ← binary tokens inner 1
  let found ← peek tokens
  if found = .question then
    let _ ← advance tokens
    let yes ← inner.expression
    expect tokens .colon "':' in ternary expression"
    let no ← inner.expression
    return .choice test yes no
  else return test

/-- A condition. -/
def expression : Walk Expr := do
  enter tokens
  thenLeave (ternary tokens inner)

end Parts

namespace Calls

/-- No call may go round. -/
def none : Calls :=
  let stop {α : Type} : Walk α := throw .unfinished
  ⟨stop, fun _ => stop, fun _ _ _ => stop, stop, fun _ _ _ => stop, fun _ _ => stop⟩

/-- The parser whose calls go round to another one. -/
def around (tokens : List Located) (inner : Calls) : Calls where
  expression := Cursor.expression tokens inner
  binary := Cursor.binary tokens inner
  chain := Cursor.chain tokens inner
  unary := Cursor.unary tokens inner
  items := Cursor.items tokens inner
  accesses := Cursor.accesses tokens inner

end Calls

/-- The parser whose calls may go round so many times. -/
def calls (tokens : List Located) : Nat → Calls
  | 0 => .none
  | n + 1 => (calls tokens n).around tokens

/-- One condition and the end behind it. A call goes round behind a token at the earliest. -/
def condition (tokens : List Located) : Walk Expr := do
  let e ← (calls tokens (tokens.length + 1)).expression
  let found ← peek tokens
  if found = .ending then return e else refuse tokens (.trailingToken found)

/-- What a walk comes to, wherever it ends. -/
def outcome {α : Type} : EStateM.Result Stop Cursor α → Except Stop α
  | .ok a _ => .ok a
  | .error stop _ => .error stop

/-- Reads a condition with the scanner and the cursor. -/
def parse (source : String) : Except Stop Expr := do
  let tokens ← Scanner.tokens source.toList
  outcome (condition tokens ⟨0, 0⟩)

/-- Compiles a condition with the scanner and the cursor; there is no result if they stop without
refusing it. -/
def compile? (env : Environment) (source : String) : Option (Except CompileError Program) :=
  if Program.matchesAll source then some (.ok ⟨source, .constant (.bool true), env.patterns⟩)
  else
    match parse source with
    | .error (.refused e) => some (.error (.ofSyntax e))
    | .error _ => none
    | .ok e =>
      match Node.ofCondition env e with
      | .error fault => some (.error (.ofType fault))
      | .ok node => some (.ok ⟨source, node, env.patterns⟩)

end Cursor

end Telemetry.Condition
