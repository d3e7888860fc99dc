/-!
# Syntax trees of conditions

Operators have six levels of precedence; all associate to the left but `??`.
-/

namespace Telemetry.Condition

/-- Operators with one operand. -/
inductive UnaryOp where
  | not | negate
  deriving DecidableEq, Repr

/-- Operators with two operands. -/
inductive BinaryOp where
  | coalesce | or | and
  | equal | notEqual | less | lessEqual | greater | greaterEqual
  | isIn | notIn | matchesPattern | contains | startsWith | endsWith
  | add | subtract | multiply | divide | modulo
  deriving DecidableEq, Repr

namespace UnaryOp

/-- The operator in a condition. -/
def symbol : UnaryOp → String
  | not => "!"
  | negate => "-"

end UnaryOp

namespace BinaryOp

/-- How tightly the operator binds. -/
def precedence : BinaryOp → Nat
  | coalesce => 1
  | or => 2
  | and => 3
  | equal | notEqual | less | lessEqual | greater | greaterEqual | isIn | notIn | matchesPattern
  | contains | startsWith | endsWith => 4
  | add | subtract => 5
  | multiply | divide | modulo => 6

/-- The least precedence of an operator in the right operand. -/
def rightPrecedence (op : BinaryOp) : Nat :=
  if op = coalesce then op.precedence else op.precedence + 1

/-- The operator in a condition. -/
def symbol : BinaryOp → String
  | coalesce => "??"
  | or => "||"
  | and => "&&"
  | equal => "=="
  | notEqual => "!="
  | less => "<"
  | lessEqual => "<="
  | greater => ">"
  | greaterEqual => ">="
  | isIn => "in"
  | notIn => "not in"
  | matchesPattern => "matches"
  | contains => "contains"
  | startsWith => "startsWith"
  | endsWith => "endsWith"
  | add => "+"
  | subtract => "-"
  | multiply => "*"
  | divide => "/"
  | modulo => "%"

end BinaryOp

/-- A condition, or a part of one. -/
inductive Expr where
  | nil
  | bool (b : Bool)
  | int (n : Int64)
  | float (x : Float)
  | text (s : String)
  | array (items : List Expr)
  | name (s : String)
  /-- `object.key`, or `object?.key`, which is nil where the object is nil. -/
  | member (object : Expr) (key : String) (optional : Bool)
  | index (object : Expr) (index : Expr)
  | call (function : String) (arguments : List Expr)
  | unary (op : UnaryOp) (operand : Expr)
  | binary (op : BinaryOp) (left right : Expr)
  | choice (test yes no : Expr)
  deriving Repr

/-- Induction over syntax trees, with a hypothesis for every member of a list of parts. -/
@[elab_as_elim, induction_eliminator]
theorem Expr.byParts {motive : Expr → Prop}
    (nil : motive .nil) (bool : ∀ b, motive (.bool b)) (int : ∀ n, motive (.int n))
    (float : ∀ x, motive (.float x)) (text : ∀ s, motive (.text s))
    (array : ∀ items, (∀ e ∈ items, motive e) → motive (.array items))
    (name : ∀ s, motive (.name s))
    (member : ∀ object key optional, motive object → motive (.member object key optional))
    (index : ∀ object position, motive object → motive position → motive (.index object position))
    (call : ∀ function arguments, (∀ e ∈ arguments, motive e) → motive (.call function arguments))
    (unary : ∀ op operand, motive operand → motive (.unary op operand))
    (binary : ∀ op left right, motive left → motive right → motive (.binary op left right))
    (choice : ∀ test yes no, motive test → motive yes → motive no → motive (.choice test yes no))
    (e : Expr) : motive e := by
  refine Expr.rec (motive_1 := motive) (motive_2 := fun es => ∀ e ∈ es, motive e) nil bool int float
    text array name member index call unary binary choice ?_ ?_ e
  · intro e he
    exact absurd he List.not_mem_nil
  · intro first rest hfirst hrest e he
    rcases List.mem_cons.mp he with rfl | he
    · exact hfirst
    · exact hrest e he

end Telemetry.Condition
