import Telemetry.Json.Number

/-!
# JSON values

A value has its numbers and strings resolved and each key once per object. A text is read as a
value only if all its numbers and strings have a meaning and it is not nested too deeply.
-/

namespace Telemetry

/-- A JSON value; the members of an object are in the order in which their keys first appeared. -/
inductive Json where
  | null
  | bool (b : Bool)
  | number (n : Json.Number)
  | string (s : String)
  | array (items : List Json)
  | object (members : List (String × Json))
  deriving Repr

namespace Json

/-- Sets the member of a key: in its place if the key is there, else behind all others. -/
def put (key : String) (value : Json) : List (String × Json) → List (String × Json)
  | [] => [(key, value)]
  | (k, v) :: rest => if k == key then (k, value) :: rest else (k, v) :: put key value rest

/-- A repeated key keeps its first place and its last value. -/
def ofMembers (members : List (String × Json)) : List (String × Json) :=
  members.foldl (fun done member => put member.1 member.2 done) []

/-- The levels of arrays and objects that a value may be nested. -/
def depthLimit : Nat := 127

mutual

/-- The value of a text nested at most so many levels. -/
def ofSyntax? (levels : Nat) : Syntax → Option Json
  | .null => some .null
  | .bool b => some (.bool b)
  | .number t => (Number.ofText? t).map .number
  | .string t => t.map .string
  | .array items =>
    match levels with
    | 0 => none
    | levels + 1 => (ofItems? levels items).map .array
  | .object members =>
    match levels with
    | 0 => none
    | levels + 1 => (ofMemberList? levels members).map fun ms => .object (ofMembers ms)

/-- The values of the items of an array. -/
def ofItems? (levels : Nat) : List Syntax → Option (List Json)
  | [] => some []
  | item :: rest => do
    let item ← ofSyntax? levels item
    let rest ← ofItems? levels rest
    some (item :: rest)

/-- The members of an object, with repetitions. -/
def ofMemberList? (levels : Nat) : List (Option String × Syntax) → Option (List (String × Json))
  | [] => some []
  | (key, value) :: rest => do
    let key ← key
    let value ← ofSyntax? levels value
    let rest ← ofMemberList? levels rest
    some ((key, value) :: rest)

end

/-- Reads a whole text as a value. -/
def read? (s : String) : Option Json :=
  (Syntax.read? s.toList).bind (ofSyntax? depthLimit)

end Json

end Telemetry
