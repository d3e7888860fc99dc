import Telemetry.Condition.Value
import Telemetry.Pattern.Engine

/-!
# Names in conditions

A name stands for a part of the message or for a constant of the environment. The names of the
parts of the message cannot be given to constants.
-/

namespace Telemetry.Condition

/-- Writes `typeid` for every `type-id`, from left to right. -/
def sanitizeChars : List Char → List Char
  | 't' :: 'y' :: 'p' :: 'e' :: '-' :: 'i' :: 'd' :: rest =>
    't' :: 'y' :: 'p' :: 'e' :: 'i' :: 'd' :: sanitizeChars rest
  | c :: rest => c :: sanitizeChars rest
  | [] => []

/-- The text with every `type-id` written as one word, as conditions can name it. -/
def sanitize (s : String) : String := String.ofList (sanitizeChars s.toList)

/-- A part of the message that a condition can read. -/
inductive Variable where
  | name
  | type
  /-- The seconds of the timestamp. -/
  | timestamp
  /-- The field that decides the type of the message. -/
  | field (key : String)
  | fields
  | tags
  | metadata
  | message
  deriving DecidableEq, Repr

/-- The part of the message that a name stands for. -/
def Variable.ofName? : String → Option Variable
  | "name" => some name
  | "messagetype" | "msgtype" => some type
  | "timestamp" | "time" => some timestamp
  | "value" | "metric" => some (field "value")
  | "event" => some (field "event")
  | "control" => some (field "control")
  | "log" => some (field "log")
  | "fields" | "field" => some fields
  | "tags" | "tag" => some tags
  | "meta" => some metadata
  | "message" | "msg" => some message
  | _ => none

/-- What a name stands for. -/
inductive Binding where
  /-- A part of the message. -/
  | variable (v : Variable)
  /-- A value that is known before there is a message. -/
  | constant (c : Value)

/-- What conditions are resolved with. -/
structure Environment where
  /-- The constants that conditions can name. -/
  constants : KeyMap Value
  /-- The engine for the patterns of conditions. -/
  patterns : Pattern.Engine

namespace Environment

/-- No constants. -/
def empty (patterns : Pattern.Engine) : Environment := ⟨∅, patterns⟩

@[simp] theorem empty_patterns (patterns : Pattern.Engine) : (empty patterns).patterns = patterns :=
  rfl

/-- What a name stands for; names of parts of the message come first. -/
def resolve (env : Environment) (name : String) : Option Binding :=
  match Variable.ofName? name with
  | some v => some (.variable v)
  | none => env.constants[name]?.map .constant

mutual

/-- The constant that JSON denotes: a scalar, or a map of constants. -/
def constant? : Json → Option Value
  | .null => none
  | .bool b => some (.bool b)
  | .number n => some (.ofNumber n)
  | .string s => some (.text s)
  | .array _ => none
  | .object members => some (.ofKeyMap (constantMembers members))

/-- The members of an object that are constants. -/
def constantMembers : List (String × Json) → KeyMap Value
  | [] => ∅
  | (k, j) :: rest =>
    match constant? j with
    | some v => (constantMembers rest).insert k v
    | none => constantMembers rest

end

/-- Adds one constant, unless it has a taken name or is no constant. A scalar replaces a constant of
the same name, a map does not. -/
def addOne? (env : Environment) (name : String) (j : Json) : Option Environment :=
  if (Variable.ofName? name).isSome then none
  else
    match constant? j with
    | some (.map entries) =>
      if env.constants.contains name then none
      else some { env with constants := env.constants.insert name (.map entries) }
    | some v => some { env with constants := env.constants.insert name v }
    | none => none

/-- Adds constants, and counts those that were added. -/
def add (env : Environment) : List (String × Json) → Environment × Nat
  | [] => (env, 0)
  | (name, j) :: rest =>
    match env.addOne? name j with
    | some env =>
      let (env, n) := env.add rest
      (env, n + 1)
    | none => env.add rest

end Environment

end Telemetry.Condition
