import Telemetry.Condition.Lexer
import Telemetry.Condition.Syntax

/-!
# From tokens to syntax trees

Every parenthesis, operand of an operator, item, index and member opens a level, and a condition
may open only so many. `level n` holds the readers that may open `n` further levels; each is made
from the readers one level further in, so that reading ends with the levels. The levels that a
chain of operators or members opens stay open until the chain ends, which bounds the height of
trees that lean to the left.
-/

namespace Telemetry.Condition

/-- Reads a part of a condition from the tokens in front, and returns the tokens behind it. The
end token is not among the tokens; the first argument is its offset. -/
abbrev Reader (α : Type) := Nat → List Located → Except SyntaxError (α × List Located)

/-- The token in front. -/
def front : List Located → Token
  | [] => .ending
  | t :: _ => t.token

/-- The offset of the token in front. -/
def frontOffset (ending : Nat) : List Located → Nat
  | [] => ending
  | t :: _ => t.offset

/-- Fails at the token in front. -/
def failAt {α : Type} (ending : Nat) (ts : List Located) (fault : SyntaxFault) :
    Except SyntaxError α :=
  .error ⟨frontOffset ending ts, fault⟩

/-- Reads one token that must be in front. -/
def expect (want : Token) (what : String) : Reader PUnit := fun ending ts =>
  if front ts = want then .ok (⟨⟩, ts.drop 1)
  else failAt ending ts (.expected what (front ts))

/-- The operator in front, and the tokens behind it. -/
def operator? : List Located → Option (BinaryOp × List Located)
  | [] => none
  | t :: rest =>
    match t.token with
    | .doubleQuestion => some (.coalesce, rest)
    | .orOr | .word "or" => some (.or, rest)
    | .andAnd | .word "and" => some (.and, rest)
    | .equal => some (.equal, rest)
    | .notEqual => some (.notEqual, rest)
    | .less => some (.less, rest)
    | .lessEqual => some (.lessEqual, rest)
    | .greater => some (.greater, rest)
    | .greaterEqual => some (.greaterEqual, rest)
    | .plus => some (.add, rest)
    | .minus => some (.subtract, rest)
    | .star => some (.multiply, rest)
    | .slash => some (.divide, rest)
    | .percent => some (.modulo, rest)
    | .word "in" => some (.isIn, rest)
    | .word "matches" => some (.matchesPattern, rest)
    | .word "contains" => some (.contains, rest)
    | .word "startsWith" => some (.startsWith, rest)
    | .word "endsWith" => some (.endsWith, rest)
    | .word "not" => if front rest = .word "in" then some (.notIn, rest.drop 1) else none
    | _ => none

/-- The words that are operators. -/
def operatorWords : List String :=
  ["and", "or", "in", "not", "matches", "contains", "startsWith", "endsWith"]

/-- The readers that have just opened a level. -/
structure Level where
  /-- A whole condition. -/
  ternary : Reader Expr
  /-- An operand and the operators of at least the given precedence behind it. -/
  binary : Nat → Reader Expr
  /-- The operators of at least the given precedence behind a left operand. -/
  chain : Nat → Expr → Reader Expr
  /-- An operand with the operators in front of it. -/
  unary : Reader Expr
  /-- A member or index of an object that is in front, and those behind it. -/
  access : Expr → Reader Expr

namespace Level

/-- The level that must not be opened. -/
def closed : Level :=
  let refuse : Reader Expr := fun ending ts => failAt ending ts .tooDeep
  ⟨refuse, fun _ => refuse, fun _ _ => refuse, refuse, fun _ => refuse⟩

/-- Expressions separated by commas up to the closing token; a comma may stand before it. The
first argument bounds their number. -/
def listFrom (item : Reader Expr) (close : Token) (what : String) : Nat → Reader (List Expr)
  | 0, ending, ts => failAt ending ts .tooDeep
  | fuel + 1, ending, ts => do
    let (first, ts) ← item ending ts
    if front ts = .comma then
      let ts := ts.drop 1
      if front ts = close then .ok ([first], ts.drop 1)
      else
        let (others, ts) ← listFrom item close what fuel ending ts
        .ok (first :: others, ts)
    else if front ts = close then .ok ([first], ts.drop 1)
    else failAt ending ts (.expected ("',' or " ++ what) (front ts))

/-- Expressions separated by commas up to the closing token, none at all perhaps. Every item has a
token, so there are no more items than tokens. -/
def list (item : Reader Expr) (close : Token) (what : String) : Reader (List Expr) :=
  fun ending ts =>
    if front ts = close then .ok ([], ts.drop 1)
    else listFrom item close what (ts.length + 1) ending ts

/-- An operand that starts with a word: a constant, a function in front of its arguments, or a name.
The word stands at the offset. -/
def wordAt (inner : Level) (offset : Nat) (w : String) : Reader Expr := fun ending rest =>
  match w with
  | "true" => .ok (.bool true, rest)
  | "false" => .ok (.bool false, rest)
  | "nil" => .ok (.nil, rest)
  | _ =>
    if operatorWords.contains w then .error ⟨offset, .unexpectedKeyword w⟩
    else if front rest = .leftParen then do
      let (arguments, rest) ← list inner.ternary .rightParen "')'" ending (rest.drop 1)
      .ok (.call w arguments, rest)
    else .ok (.name w, rest)

/-- An operand without operators, members and indices; `inner` reads what stands in brackets. -/
def primary (inner : Level) : Reader Expr
  | ending, [] => failAt ending [] .unexpectedEnd
  | ending, t :: rest =>
    match t.token with
    | .int n => .ok (.int n, rest)
    | .float x => .ok (.float x, rest)
    | .text s => .ok (.text s, rest)
    | .word w => wordAt inner t.offset w ending rest
    | .leftParen => do
      let (e, rest) ← inner.ternary ending rest
      let (_, rest) ← expect .rightParen "')'" ending rest
      .ok (e, rest)
    | .leftBracket => do
      let (items, rest) ← list inner.ternary .rightBracket "']'" ending rest
      .ok (.array items, rest)
    | .ending => failAt ending (t :: rest) .unexpectedEnd
    | found => failAt ending (t :: rest) (.unexpectedToken found)

/-- The members and indices behind an object. -/
def accesses (inner : Level) (object : Expr) : Reader Expr := fun ending ts =>
  match front ts with
  | .dot | .questionDot | .leftBracket => inner.access object ending ts
  | _ => .ok (object, ts)

/-- An operand with the operators in front of it; a plus sign leaves no trace. -/
def unaryOf (inner : Level) : Reader Expr := fun ending ts =>
  match front ts with
  | .bang | .word "not" => do
    let (e, ts) ← inner.unary ending (ts.drop 1)
    .ok (.unary .not e, ts)
  | .minus => do
    let (e, ts) ← inner.unary ending (ts.drop 1)
    .ok (.unary .negate e, ts)
  | .plus => inner.unary ending (ts.drop 1)
  | _ => do
    let (e, ts) ← primary inner ending ts
    accesses inner e ending ts

/-- The operators of at least the given precedence behind a left operand. -/
def chainOf (inner : Level) (least : Nat) (left : Expr) : Reader Expr := fun ending ts =>
  match operator? ts with
  | none => .ok (left, ts)
  | some (op, rest) =>
    if op.precedence < least then .ok (left, ts)
    else do
      let (right, rest) ← inner.binary op.rightPrecedence ending rest
      inner.chain least (.binary op left right) ending rest

/-- An operand and the operators of at least the given precedence behind it. -/
def binaryOf (inner : Level) (least : Nat) : Reader Expr := fun ending ts => do
  let (left, ts) ← unaryOf inner ending ts
  chainOf inner least left ending ts

/-- A whole condition. -/
def ternaryOf (inner : Level) : Reader Expr := fun ending ts => do
  let (test, ts) ← binaryOf inner 1 ending ts
  if front ts = .question then
    let (yes, ts) ← inner.ternary ending (ts.drop 1)
    let (_, ts) ← expect .colon "':' in ternary expression" ending ts
    let (no, ts) ← inner.ternary ending ts
    .ok (.choice test yes no, ts)
  else .ok (test, ts)

/-- A member or index of an object that is in front, and those behind it. -/
def accessOf (inner : Level) (object : Expr) : Reader Expr := fun ending ts =>
  match front ts with
  | .leftBracket => do
    let (index, ts) ← inner.ternary ending (ts.drop 1)
    let (_, ts) ← expect .rightBracket "']'" ending ts
    accesses inner (.index object index) ending ts
  | mark =>
    let ts := ts.drop 1
    match front ts with
    | .word key => accesses inner (.member object key (mark = .questionDot)) ending (ts.drop 1)
    | found => failAt ending ts (.expected "member name" found)

/-- The level around another one. -/
def around (inner : Level) : Level :=
  ⟨ternaryOf inner, binaryOf inner, chainOf inner, unaryOf inner, accessOf inner⟩

end Level

/-- The readers that may open `n` further levels. -/
def level : Nat → Level
  | 0 => Level.closed.around
  | n + 1 => (level n).around

/-- The levels that a condition may open. -/
def levelLimit : Nat := 128

/-- Reads the tokens of one condition; the first argument is the offset of their end. -/
def readTokens (ending : Nat) (ts : List Located) : Except SyntaxError Expr := do
  let (e, rest) ← (level (levelLimit - 1)).ternary ending ts
  if front rest = .ending then .ok e
  else failAt ending rest (.trailingToken (front rest))

/-- Reads a condition. -/
def parse (source : String) : Except SyntaxError Expr := do
  let ts ← tokenize source
  readTokens (width source.toList) ts.dropLast

end Telemetry.Condition
