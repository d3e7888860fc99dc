import Telemetry.Condition.Node
import Telemetry.Decimal.Reader
import Telemetry.Text.Case
import Telemetry.Text.Infix

/-!
# Evaluating conditions

A resolved condition is evaluated in a scope, which gives the parts of a message, and with an engine
for the patterns that are not known before. Operands are evaluated from left to right, and `and`,
`or`, `??` and the choice only as far as they are needed.
-/

namespace Telemetry.Condition

/-- The parts of a message as a condition reads them. The two functions with keys are shortcuts,
which a scope has for some variables. -/
structure Scope where
  /-- A whole part. -/
  value : Variable → Value
  /-- The entry of a key, nil where there is none. -/
  entry? : Variable → String → Option Value
  /-- Whether there is an entry of a key. -/
  hasEntry? : Variable → String → Option Bool

/-- Why an evaluation has no value. -/
inductive RuntimeFault where
  | integerOverflow
  | divisionByZero
  | indexOutOfRange (position : Int64) (size : Nat)
  | index (object position : Kind)
  | noMembers (key : String) (object : Kind)
  | operand (op : UnaryOp) (k : Kind)
  | operands (op : BinaryOp) (left right : Kind)
  /-- An operand of `and` or `or` that is no truth value. -/
  | notTruth (op : BinaryOp) (k : Kind)
  /-- What a constant pattern is matched with is no text. -/
  | notText (k : Kind)
  | test (k : Kind)
  | argument (f : Builtin) (k : Kind)
  | unreadableInteger (s : String)
  | unreadableNumber (s : String)
  | invalidPattern (source : String)
  /-- The condition as a whole is no truth value. -/
  | result (k : Kind)
  deriving DecidableEq, Repr

/-- The fault as a phrase. -/
def RuntimeFault.message : RuntimeFault → String
  | integerOverflow => "integer overflow"
  | divisionByZero => "integer divide by zero"
  | indexOutOfRange position size =>
    s!"index out of range: {position.toInt} (array length is {size})"
  | index object position => s!"cannot index {object.name} with {position.name}"
  | noMembers key object => s!"cannot fetch {key} from {object.name}"
  | operand op k => s!"invalid operation: {op.symbol}{k.name}"
  | operands op left right => s!"invalid operation: {left.name} {op.symbol} {right.name}"
  | notTruth op k => s!"invalid operation: {op.symbol} on {k.name}"
  | notText k => s!"invalid operation: {k.name} matches string"
  | test k => s!"non-bool value (type {k.name}) used as condition"
  | argument f k => s!"invalid argument for {f.name} (type {k.name})"
  | unreadableInteger s => s!"cannot convert '{s}' to int"
  | unreadableNumber s => s!"cannot convert '{s}' to float"
  | invalidPattern source => invalidPatternText source
  | result k => s!"expected bool, but got {k.name}"

namespace Value

/-- The integer of an exact result, if it fits. -/
def ofExact (n : Int) : Except RuntimeFault Value :=
  match exactInt64? n with
  | some w => .ok (int w)
  | none => .error .integerOverflow

/-- The member of a key. -/
def member (object : Value) (key : String) (optional : Bool) : Except RuntimeFault Value :=
  match object with
  | map entries => .ok ((entries.lookup key).getD nil)
  | nil => if optional then .ok nil else .error (.noMembers key .nil)
  | other => .error (.noMembers key other.kind)

/-- The value at an index; a negative one counts from the end of an array. -/
def atIndex (object position : Value) : Except RuntimeFault Value :=
  match object, position with
  | map entries, text key => .ok ((entries.lookup key).getD nil)
  | array items, int i =>
    let n := if i.toInt < 0 then items.length + i.toInt else i.toInt
    if n < 0 then .error (.indexOutOfRange i items.length)
    else
      match items[n.toNat]? with
      | some v => .ok v
      | none => .error (.indexOutOfRange i items.length)
  | object, position => .error (.index object.kind position.kind)

/-- The nearest integer of 64 bits to a number without its fraction. -/
def truncated (x : Float) : Option Value :=
  (BinaryValue.of x).truncate?.map fun n => int (Int64.ofIntClamp n)

/-- The integer that a text without blanks denotes. One that does not fit 64 bits is read as a
number like any other. -/
def readInteger? (cs : List Char) : Option Value :=
  match (Text.readInt? cs).bind exactInt64? with
  | some w => some (int w)
  | none => (Decimal.readFloat? cs).bind truncated

/-- Calls a function. -/
def apply (f : Builtin) (v : Value) : Except RuntimeFault Value :=
  match f, v with
  | .len, text s => ofExact s.length
  | .len, array items => ofExact items.length
  | .len, map entries => ofExact entries.length
  | .lower, text s => .ok (text (Text.lower s))
  | .upper, text s => .ok (text (Text.upper s))
  | .trim, text s => .ok (text (Text.trim s))
  | .int, int n => .ok (int n)
  | .int, float x =>
    match truncated x with
    | some v => .ok v
    | none => .error (.argument .int .float)
  | .int, text s =>
    match readInteger? (Text.trimChars s.toList) with
    | some v => .ok v
    | none => .error (.unreadableInteger (Text.trim s))
  | .float, int n => .ok (float (Float.ofInt n.toInt))
  | .float, float x => .ok (float x)
  | .float, text s =>
    match Decimal.readFloat? (Text.trimChars s.toList) with
    | some x => .ok (float x)
    | none => .error (.unreadableNumber s)
  | .text, v => .ok (text v.shown)
  | .abs, int n => ofExact n.toInt.natAbs
  | .abs, float x => .ok (float x.abs)
  | f, v => .error (.argument f v.kind)

/-- Applies an operator to one operand. -/
def applyUnary (op : UnaryOp) (v : Value) : Except RuntimeFault Value :=
  match op, v with
  | .not, bool b => .ok (bool !b)
  | .negate, int n => ofExact (-n.toInt)
  | .negate, float x => .ok (float (-x))
  | op, v => .error (.operand op v.kind)

/-- The result of an operator on two integers. -/
def integerResult (op : BinaryOp) (m n : Int64) : Except RuntimeFault Value :=
  match op with
  | .add => ofExact (m.toInt + n.toInt)
  | .subtract => ofExact (m.toInt - n.toInt)
  | .multiply => ofExact (m.toInt * n.toInt)
  | .divide => .ok (float (Float.ofInt m.toInt / Float.ofInt n.toInt))
  | .modulo =>
    if n = 0 then .error .divisionByZero
    else if m = Int64.minValue && n = -1 then .error .integerOverflow
    else ofExact (m.toInt.tmod n.toInt)
  | op => .error (.operands op .int .int)

/-- The result of an operator on two binary64 numbers. -/
def floatResult? (op : BinaryOp) (x y : Float) : Option Float :=
  match op with
  | .add => some (x + y)
  | .subtract => some (x - y)
  | .multiply => some (x * y)
  | .divide => some (x / y)
  | _ => none

/-- The result of an arithmetic operator. Two integers have an exact result or none, and any other
two numbers a binary64 number. -/
def arithmetic (op : BinaryOp) (a b : Value) : Except RuntimeFault Value :=
  let refuse : Except RuntimeFault Value := .error (.operands op a.kind b.kind)
  match a, b with
  | text s, text t => if op = .add then .ok (text (s ++ t)) else refuse
  | int m, int n => integerResult op m n
  | a, b =>
    match a.toFloat?, b.toFloat? with
    | some x, some y =>
      match floatResult? op x y with
      | some z => .ok (float z)
      | none => refuse
    | _, _ => refuse

/-- Whether two values stand in an order. -/
def ordered (op : BinaryOp) (accept : Ordering → Bool) (a b : Value) : Except RuntimeFault Value :=
  match a.compare? b with
  | some o => .ok (bool (accept o))
  | none => .error (.operands op a.kind b.kind)

/-- Whether two texts stand in a relation. -/
def related (op : BinaryOp) (holds : List Char → List Char → Bool) (a b : Value) :
    Except RuntimeFault Value :=
  match a, b with
  | text s, text t => .ok (bool (holds s.toList t.toList))
  | a, b => .error (.operands op a.kind b.kind)

/-- Whether a value is a key of a map or an item of an array. Nil has nothing in it. -/
def isIn (needle whole : Value) : Except RuntimeFault Bool :=
  match whole with
  | map entries =>
    match needle with
    | text key => .ok (entries.lookup key).isSome
    | _ => .ok false
  | array items => .ok (items.any (·.looseEq needle))
  | nil => .ok false
  | other => .error (.operands .isIn needle.kind other.kind)

/-- Whether a pattern that is given as a text occurs in a text. -/
def matchesText (patterns : Pattern.Engine) (a b : Value) : Except RuntimeFault Value :=
  match a, b with
  | text s, text source =>
    match patterns.test? source with
    | some occursIn => .ok (bool (occursIn s))
    | none => .error (.invalidPattern source)
  | a, b => .error (.operands .matchesPattern a.kind b.kind)

/-- Applies an operator to two operands. -/
def applyBinary (patterns : Pattern.Engine) (op : BinaryOp) (a b : Value) :
    Except RuntimeFault Value :=
  match op with
  | .equal => .ok (bool (a.looseEq b))
  | .notEqual => .ok (bool !(a.looseEq b))
  | .less => ordered op (· == .lt) a b
  | .lessEqual => ordered op (· != .gt) a b
  | .greater => ordered op (· == .gt) a b
  | .greaterEqual => ordered op (· != .lt) a b
  | .matchesPattern => matchesText patterns a b
  | .contains => related op (fun s t => Text.hasInfix t s) a b
  | .startsWith => related op (fun s t => t.isPrefixOf s) a b
  | .endsWith => related op (fun s t => t.isSuffixOf s) a b
  | op => arithmetic op a b

/-- The truth value that `and` or `or` asks for. -/
def truth (op : BinaryOp) : Value → Except RuntimeFault Bool
  | bool b => .ok b
  | v => .error (.notTruth op v.kind)

end Value

namespace Node

/-- The variable that a node is. -/
def asVariable? : Node → Option Variable
  | .variable v => some v
  | _ => none

/-- The entry of a variable's map, where the scope has a shortcut. -/
def shortcut? (scope : Scope) (object : Node) (key : String) : Option Value :=
  object.asVariable?.bind fun v => scope.entry? v key

/-- Whether a variable's map has a key, where the scope has a shortcut. -/
def membership? (scope : Scope) (whole : Node) (needle : Value) : Option Bool :=
  match whole, needle with
  | .variable v, .text key => scope.hasEntry? v key
  | _, _ => none

mutual

/-- The value of a node in a scope. -/
def eval (patterns : Pattern.Engine) (scope : Scope) : Node → Except RuntimeFault Value
  | constant v => .ok v
  | .variable v => .ok (scope.value v)
  | array items => do
    let values ← evalAll patterns scope items
    .ok (.array values)
  | member object key optional =>
    match shortcut? scope object key with
    | some v => .ok v
    | none => do
      let v ← eval patterns scope object
      v.member key optional
  | index object position => do
    let v ← eval patterns scope object
    let i ← eval patterns scope position
    v.atIndex i
  | call f argument => do
    let v ← eval patterns scope argument
    v.apply f
  | unary op operand => do
    let v ← eval patterns scope operand
    v.applyUnary op
  | binary .and left right => do
    let a ← eval patterns scope left
    if ← a.truth .and then
      let b ← eval patterns scope right
      return .bool (← b.truth .and)
    else return .bool false
  | binary .or left right => do
    let a ← eval patterns scope left
    if ← a.truth .or then return .bool true
    else
      let b ← eval patterns scope right
      return .bool (← b.truth .or)
  | binary .coalesce left right => do
    let a ← eval patterns scope left
    if a.isNil then eval patterns scope right else .ok a
  | binary .isIn left right => do
    let needle ← eval patterns scope left
    match membership? scope right needle with
    | some found => return .bool found
    | none =>
      let whole ← eval patterns scope right
      return .bool (← needle.isIn whole)
  | binary .notIn left right => do
    let needle ← eval patterns scope left
    match membership? scope right needle with
    | some found => return .bool !found
    | none =>
      let whole ← eval patterns scope right
      return .bool !(← needle.isIn whole)
  | binary op left right => do
    let a ← eval patterns scope left
    let b ← eval patterns scope right
    a.applyBinary patterns op b
  | matching subject occursIn => do
    let v ← eval patterns scope subject
    match v with
    | .text s => .ok (.bool (occursIn s))
    | v => .error (.notText v.kind)
  | choice test yes no => do
    let t ← eval patterns scope test
    match t with
    | .bool true => eval patterns scope yes
    | .bool false => eval patterns scope no
    | v => .error (.test v.kind)

/-- The values of the items of an array. -/
def evalAll (patterns : Pattern.Engine) (scope : Scope) :
    List Node → Except RuntimeFault (List Value)
  | [] => .ok []
  | n :: ns => do
    let v ← eval patterns scope n
    let vs ← evalAll patterns scope ns
    .ok (v :: vs)

end

end Node

end Telemetry.Condition
