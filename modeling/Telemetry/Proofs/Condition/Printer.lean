import Telemetry.Condition.Parser

/-!
# Syntax trees as texts

A tree is written as its tokens, one blank between any two of them. Parentheses stand only around
an operand that binds less tightly than its place asks for. The trees that can be written have
neither binary64 numbers nor negative integers, and their names are words that mean nothing else.
-/

namespace Telemetry.Condition

/-! ## Tokens -/

/-- The characters of a text between its quotes. -/
def escapedChars (quote : Char) : List Char → List Char
  | [] => []
  | c :: cs =>
    if c == '\\' || c == quote then '\\' :: c :: escapedChars quote cs
    else c :: escapedChars quote cs

/-- The characters of a token. -/
def Token.spelling (quote : Char) : Token → List Char
  | int n => Text.digits n.toInt.toNat
  | float x => (Decimal.Layout.plain.render x).toList
  | text s => quote :: (escapedChars quote s.toList ++ [quote])
  | word s => s.toList
  | leftParen => ['(']
  | rightParen => [')']
  | leftBracket => ['[']
  | rightBracket => [']']
  | comma => [',']
  | dot => ['.']
  | questionDot => ['?', '.']
  | question => ['?']
  | doubleQuestion => ['?', '?']
  | colon => [':']
  | equal => ['=', '=']
  | notEqual => ['!', '=']
  | less => ['<']
  | lessEqual => ['<', '=']
  | greater => ['>']
  | greaterEqual => ['>', '=']
  | andAnd => ['&', '&']
  | orOr => ['|', '|']
  | bang => ['!']
  | plus => ['+']
  | minus => ['-']
  | star => ['*']
  | slash => ['/']
  | percent => ['%']
  | ending => []

/-- The characters of tokens with a blank between any two of them. -/
def spelled (quote : Char) (ts : List Token) : List Char :=
  [' '].intercalate (ts.map (Token.spelling quote))

/-- Whether the text can be read as one word. -/
def isIdentifier (s : String) : Bool :=
  match s.toList with
  | [] => false
  | c :: cs => isWordStart c && cs.all isWordChar

/-- The words that are operators or constants. -/
def keywords : List String := ["true", "false", "nil"] ++ operatorWords

/-! ## Operators -/

/-- The token of an operator. -/
def UnaryOp.token : UnaryOp → Token
  | not => .bang
  | negate => .minus

/-- The tokens of an operator. -/
def BinaryOp.tokens : BinaryOp → List Token
  | coalesce => [.doubleQuestion]
  | or => [.orOr]
  | and => [.andAnd]
  | equal => [.equal]
  | notEqual => [.notEqual]
  | less => [.less]
  | lessEqual => [.lessEqual]
  | greater => [.greater]
  | greaterEqual => [.greaterEqual]
  | isIn => [.word "in"]
  | notIn => [.word "not", .word "in"]
  | matchesPattern => [.word "matches"]
  | contains => [.word "contains"]
  | startsWith => [.word "startsWith"]
  | endsWith => [.word "endsWith"]
  | add => [.plus]
  | subtract => [.minus]
  | multiply => [.star]
  | divide => [.slash]
  | modulo => [.percent]

/-- An operator is written as its symbol. -/
theorem BinaryOp.spelled_tokens (quote : Char) (op : BinaryOp) :
    String.ofList (spelled quote op.tokens) = op.symbol := by
  cases op <;> rfl

/-- The least precedence of a left operand without parentheses. -/
def BinaryOp.leftPrecedence (op : BinaryOp) : Nat :=
  if op = coalesce then op.precedence + 1 else op.precedence

/-! ## Trees -/

namespace Expr

/-- How tightly a condition binds: a choice the least, an operand without operators the most. -/
def precedence : Expr → Nat
  | .choice .. => 0
  | .binary op .. => op.precedence
  | .unary .. => 7
  | _ => 8

/-- The tokens of an operand of the given precedence, in parentheses if its place asks for more. -/
def enclosed (precedence least : Nat) (ts : List Token) : List Token :=
  if precedence < least then .leftParen :: (ts ++ [.rightParen]) else ts

mutual

/-- The tokens of a condition. -/
def tokens : Expr → List Token
  | .nil => [.word "nil"]
  | .bool b => [.word (if b then "true" else "false")]
  | .int n => [.int n]
  | .float x => [.float x]
  | .text s => [.text s]
  | .array items => .leftBracket :: (tokensOfAll items ++ [.rightBracket])
  | .name s => [.word s]
  | .member object key optional =>
    enclosed object.precedence 8 object.tokens ++
      [if optional then .questionDot else .dot, .word key]
  | .index object position =>
    enclosed object.precedence 8 object.tokens ++
      .leftBracket :: (position.tokens ++ [.rightBracket])
  | .call function arguments =>
    .word function :: .leftParen :: (tokensOfAll arguments ++ [.rightParen])
  | .unary op operand => op.token :: enclosed operand.precedence 7 operand.tokens
  | .binary op left right =>
    enclosed left.precedence op.leftPrecedence left.tokens ++
      (op.tokens ++ enclosed right.precedence op.rightPrecedence right.tokens)
  | .choice test yes no =>
    enclosed test.precedence 1 test.tokens ++
      .question :: (yes.tokens ++ .colon :: no.tokens)

/-- The tokens of conditions with commas between them. -/
def tokensOfAll : List Expr → List Token
  | [] => []
  | [e] => e.tokens
  | e :: others => e.tokens ++ .comma :: tokensOfAll others

end

mutual

/-- How many nodes the tree has. -/
def size : Expr → Nat
  | .array items => sizeOfAll items + 1
  | .member object _ _ => object.size + 1
  | .index object position => object.size + position.size + 1
  | .call _ arguments => sizeOfAll arguments + 1
  | .unary _ operand => operand.size + 1
  | .binary _ left right => left.size + right.size + 1
  | .choice test yes no => test.size + yes.size + no.size + 1
  | _ => 1

/-- How many nodes the trees have together. -/
def sizeOfAll : List Expr → Nat
  | [] => 0
  | e :: others => e.size + sizeOfAll others

end

mutual

/-- Whether the tree can be written. -/
def isPrintable : Expr → Bool
  | .nil | .bool _ | .text _ => true
  | .int n => 0 ≤ n.toInt
  | .float _ => false
  | .array items => allPrintable items
  | .name s => isIdentifier s && !keywords.contains s
  | .member object key _ => object.isPrintable && isIdentifier key
  | .index object position => object.isPrintable && position.isPrintable
  | .call function arguments =>
    isIdentifier function && !keywords.contains function && allPrintable arguments
  | .unary _ operand => operand.isPrintable
  | .binary _ left right => left.isPrintable && right.isPrintable
  | .choice test yes no => test.isPrintable && yes.isPrintable && no.isPrintable

/-- Whether all of the trees can be written. -/
def allPrintable : List Expr → Bool
  | [] => true
  | e :: others => e.isPrintable && allPrintable others

end

/-- The condition as a text. -/
def print (quote : Char) (e : Expr) : String := String.ofList (spelled quote e.tokens)

example : (Expr.binary .multiply (.binary .add (.int 1) (.int 2)) (.member (.name "tags") "in" true)
    ).print '"' = "( 1 + 2 ) * tags ?. in" := by decide

/-- A row of trees can be written exactly if each of them can. -/
theorem allPrintable_iff {es : List Expr} :
    allPrintable es = true ↔ ∀ e ∈ es, e.isPrintable = true := by
  induction es with
  | nil => simp [allPrintable]
  | cons e es ih => simp [allPrintable, ih]

/-- Every tree has a positive size. -/
theorem size_pos (e : Expr) : 0 < e.size := by
  cases e <;> simp [size]

/-- A tree in a row is no larger than the row. -/
theorem size_le_sizeOfAll {e : Expr} {es : List Expr} (he : e ∈ es) : e.size ≤ sizeOfAll es := by
  induction es with
  | nil => exact absurd he List.not_mem_nil
  | cons first rest ih =>
    rw [sizeOfAll]
    rcases List.mem_cons.mp he with rfl | he
    · exact Nat.le_add_right _ _
    · exact Nat.le_trans (ih he) (Nat.le_add_left _ _)

end Expr

end Telemetry.Condition
