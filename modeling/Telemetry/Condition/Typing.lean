import Telemetry.Condition.Environment
import Telemetry.Condition.Syntax

/-!
# Types of conditions

Before there is a message, the kind of a part of a condition is known or unknown. An operation on
operands of known kinds that it never accepts is a fault; unknown kinds are checked later.
-/

namespace Telemetry.Condition

/-- What is known of the kind of a value. -/
inductive StaticType where
  | any
  | only (k : Kind)
  deriving DecidableEq, Repr

namespace StaticType

/-- The type of a value. -/
def ofValue (v : Value) : StaticType := only v.kind

/-- Whether a value of the type may be of the kind. -/
def accepts (t : StaticType) (k : Kind) : Bool := t = any || t = only k

/-- Whether a value of the type may be a number. -/
def isNumeric (t : StaticType) : Bool := t = any || t = only .int || t = only .float

/-- The name of the type. -/
def name : StaticType → String
  | any => "interface {}"
  | only .float => "float64"
  | only k => k.name

end StaticType

/-- The functions that a condition can call, each on one argument. -/
inductive Builtin where
  | len | lower | upper | trim | int | float | text | abs
  deriving DecidableEq, Repr

namespace Builtin

/-- The name of a function. -/
def name : Builtin → String
  | len => "len"
  | lower => "lower"
  | upper => "upper"
  | trim => "trim"
  | int => "int"
  | float => "float"
  | text => "string"
  | abs => "abs"

/-- All functions. -/
def all : List Builtin := [len, lower, upper, trim, int, float, text, abs]

/-- The function of a name. -/
def ofName? (s : String) : Option Builtin := all.find? (·.name == s)

/-- The type of the result, if the function may take an argument of the type. -/
def resultType? (t : StaticType) : Builtin → Option StaticType
  | len =>
    if t.accepts .text || t = .only .array || t = .only .map then some (.only .int) else none
  | lower | upper | trim => if t.accepts .text then some (.only .text) else none
  | int => if t.isNumeric || t = .only .text then some (.only .int) else none
  | float => if t.isNumeric || t = .only .text then some (.only .float) else none
  | text => some (.only .text)
  | abs => if t.isNumeric then some t else none

end Builtin

/-- What can be wrong with the types of a condition. -/
inductive TypeFault where
  /-- The condition as a whole is no truth value. -/
  | notTruth (t : StaticType)
  | unknownName (name : String)
  | unknownFunction (name : String)
  | argumentCount (function : String) (found : Nat)
  | argument (f : Builtin) (t : StaticType)
  | index (object position : StaticType)
  | memberOfNil (key : String)
  | noMembers (object : StaticType) (key : String)
  | operand (op : UnaryOp) (t : StaticType)
  | operands (op : BinaryOp) (left right : StaticType)
  | test (t : StaticType)
  | invalidPattern (source : String)
  deriving DecidableEq, Repr

/-- A text that is no regular expression. -/
def invalidPatternText (source : String) : String :=
  "invalid regular expression '" ++ source ++ "': it is malformed or too large"

/-- The fault as a phrase. -/
def TypeFault.message : TypeFault → String
  | notTruth t => s!"expected bool, but got {t.name}"
  | unknownName name => s!"unknown name {name}"
  | unknownFunction name => s!"unknown function {name}"
  | argumentCount function found => s!"{function} expects 1 argument, got {found}"
  | argument f t => s!"invalid argument for {f.name} (type {t.name})"
  | .index object position => s!"cannot index {object.name} with {position.name}"
  | memberOfNil key => s!"cannot fetch {key} from nil"
  | noMembers object key => s!"type {object.name} has no field {key}"
  | operand op t => s!"invalid operation: {op.symbol}{t.name}"
  | operands op left right => s!"invalid operation: {left.name} {op.symbol} {right.name}"
  | test t => s!"non-bool expression (type {t.name}) used as condition"
  | invalidPattern source => invalidPatternText source

/-- What is known of the kind of a part of the message. -/
def Variable.staticType : Variable → StaticType
  | .name | .type => .only .text
  | .timestamp => .only .int
  | .field _ => .any
  | .fields | .tags | .metadata | .message => .only .map

/-- What is known of the kind of a member of the message. -/
def messageMemberType : String → StaticType
  | "name" | "type" | "messagetype" => .only .text
  | "timestamp" | "time" => .only .int
  | "tags" | "tag" | "meta" | "fields" | "field" => .only .map
  | _ => .any

/-- The type of the result of an operator, if it may take operands of the types. -/
def UnaryOp.resultType? (t : StaticType) : UnaryOp → Option StaticType
  | not => if t.accepts .bool then some (.only .bool) else none
  | negate => if t.isNumeric then some t else none

/-- The type of a sum. Texts add to texts and integers to integers. -/
def sumType? : StaticType → StaticType → Option StaticType
  | .only .text, .only .text => some (.only .text)
  | .only .int, .only .int => some (.only .int)
  | .any, t => if t.accepts .text || t.isNumeric then some .any else none
  | t, .any => if t.accepts .text || t.isNumeric then some .any else none
  | l, r => if l.isNumeric && r.isNumeric then some (.only .float) else none

/-- The type of a difference or product. -/
def productType? (l r : StaticType) : Option StaticType :=
  if !(l.isNumeric && r.isNumeric) then none
  else if l = .only .int && r = .only .int then some (.only .int)
  else if l = .any || r = .any then some .any
  else some (.only .float)

/-- The type of the result of an operator, if it may take operands of the types. -/
def BinaryOp.resultType? (l r : StaticType) : BinaryOp → Option StaticType
  | or | and => if l.accepts .bool && r.accepts .bool then some (.only .bool) else none
  | equal | notEqual => some (.only .bool)
  | less | lessEqual | greater | greaterEqual =>
    if l = .any || r = .any || (l.isNumeric && r.isNumeric) || (l = .only .text && r = .only .text)
    then some (.only .bool) else none
  | isIn | notIn =>
    if r.accepts .array || r = .only .map || r = .only .nil then some (.only .bool) else none
  | matchesPattern | contains | startsWith | endsWith =>
    if l.accepts .text && r.accepts .text then some (.only .bool) else none
  | add => sumType? l r
  | subtract | multiply => productType? l r
  | divide => if l.isNumeric && r.isNumeric then some (.only .float) else none
  | modulo => if l.accepts .int && r.accepts .int then some (.only .int) else none
  | coalesce => some (if l = .only .nil then r else if l = r then l else .any)

/-- The type of a value at an index, if the object may have one. -/
def indexType? (object index : StaticType) : Option StaticType :=
  match object with
  | .any => some .any
  | .only .array => if index.accepts .int then some .any else none
  | .only .map => if index.accepts .text then some .any else none
  | _ => none

end Telemetry.Condition
