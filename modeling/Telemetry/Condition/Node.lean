import Telemetry.Condition.Typing

/-!
# Resolved conditions

A condition whose names are resolved and whose types are checked is a tree of nodes. Constants are
in place of their names, members of constant maps in place of the maps, and tests in place of
constant patterns.
-/

namespace Telemetry.Condition

/-- A resolved condition, or a part of one. -/
inductive Node where
  | constant (v : Value)
  | variable (v : Variable)
  | array (items : List Node)
  | member (object : Node) (key : String) (optional : Bool)
  | index (object index : Node)
  | call (f : Builtin) (argument : Node)
  | unary (op : UnaryOp) (operand : Node)
  | binary (op : BinaryOp) (left right : Node)
  /-- Whether a pattern occurs in a text, by the test of the pattern. -/
  | matching (subject : Node) (occursIn : String → Bool)
  | choice (test yes no : Node)

namespace Node

/-- The node of a member and its type. -/
def ofMember (object : Node) (t : StaticType) (key : String) (optional : Bool) :
    Except TypeFault (Node × StaticType) :=
  match object, t with
  | constant (.map entries), _ =>
    let value := (entries.lookup key).getD .nil
    .ok (constant value, .ofValue value)
  | .variable .message, .only .map => .ok (member object key optional, messageMemberType key)
  | _, .any | _, .only .map => .ok (member object key optional, .any)
  | _, .only .nil =>
    if optional then .ok (member object key optional, .only .nil) else .error (.memberOfNil key)
  | _, t => .error (.noMembers t key)

/-- The node of a value at an index and its type; a constant text as index is a member. -/
def ofIndex (object : Node) (t : StaticType) (position : Node) (u : StaticType) :
    Except TypeFault (Node × StaticType) :=
  let general : Except TypeFault (Node × StaticType) :=
    match indexType? t u with
    | some type => .ok (index object position, type)
    | none => .error (.index t u)
  match position with
  | constant (.text key) =>
    if t.accepts .map || t = .only .nil then ofMember object t key false else general
  | _ => general

/-- The node of an operation and its type. A constant pattern must be one. -/
def ofBinary (patterns : Pattern.Engine) (op : BinaryOp) (left : Node) (l : StaticType)
    (right : Node) (r : StaticType) : Except TypeFault (Node × StaticType) :=
  match op.resultType? l r with
  | none => .error (.operands op l r)
  | some type =>
    match op, right with
    | .matchesPattern, constant (.text source) =>
      match patterns.test? source with
      | some occursIn => .ok (matching left occursIn, type)
      | none => .error (.invalidPattern source)
    | _, _ => .ok (binary op left right, type)

/-- The node of a name and its type. -/
def ofName (env : Environment) (name : String) : Except TypeFault (Node × StaticType) :=
  match env.resolve name with
  | some (.variable v) => .ok (.variable v, v.staticType)
  | some (.constant c) => .ok (constant c, .ofValue c)
  | none => .error (.unknownName name)

mutual

/-- The node of a part of a condition and its type. -/
def ofExpr (env : Environment) : Expr → Except TypeFault (Node × StaticType)
  | .nil => .ok (constant .nil, .only .nil)
  | .bool b => .ok (constant (.bool b), .only .bool)
  | .int n => .ok (constant (.int n), .only .int)
  | .float x => .ok (constant (.float x), .only .float)
  | .text s => .ok (constant (.text s), .only .text)
  | .array items => do
    let nodes ← ofExprs env items
    .ok (array nodes, .only .array)
  | .name s => ofName env s
  | .member object key optional => do
    let (object, t) ← ofExpr env object
    ofMember object t key optional
  | .index object position => do
    let (object, t) ← ofExpr env object
    let (position, u) ← ofExpr env position
    ofIndex object t position u
  | .call function arguments =>
    match Builtin.ofName? function with
    | none => .error (.unknownFunction function)
    | some f =>
      match arguments with
      | [argument] => do
        let (argument, t) ← ofExpr env argument
        match f.resultType? t with
        | some type => .ok (call f argument, type)
        | none => .error (.argument f t)
      | _ => .error (.argumentCount function arguments.length)
  | .unary op operand => do
    let (operand, t) ← ofExpr env operand
    match op.resultType? t with
    | some type => .ok (unary op operand, type)
    | none => .error (.operand op t)
  | .binary op left right => do
    let (left, l) ← ofExpr env left
    let (right, r) ← ofExpr env right
    ofBinary env.patterns op left l right r
  | .choice test yes no => do
    let (test, t) ← ofExpr env test
    if t.accepts .bool then
      let (yes, l) ← ofExpr env yes
      let (no, r) ← ofExpr env no
      .ok (choice test yes no, if l = r then l else .any)
    else .error (.test t)

/-- The nodes of the items of an array. -/
def ofExprs (env : Environment) : List Expr → Except TypeFault (List Node)
  | [] => .ok []
  | e :: es => do
    let (node, _) ← ofExpr env e
    let nodes ← ofExprs env es
    .ok (node :: nodes)

end

/-- The node of a whole condition, which must be a truth value. -/
def ofCondition (env : Environment) (e : Expr) : Except TypeFault Node := do
  let (node, t) ← ofExpr env e
  if t.accepts .bool then .ok node else .error (.notTruth t)

end Node

end Telemetry.Condition
