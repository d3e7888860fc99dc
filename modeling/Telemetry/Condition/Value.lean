import Telemetry.Message.FieldValue
import Telemetry.Json.Value
import Telemetry.KeyMap

/-!
# Values of conditions

Integers and binary64 numbers are compared as numbers, arrays and maps part by part. Only numbers
and only texts have an order, and a NaN has none.
-/

namespace Telemetry.Condition

/-- The kinds of values. -/
inductive Kind where
  | nil | bool | int | float | text | array | map
  deriving DecidableEq, Repr

/-- The name of a kind. -/
def Kind.name : Kind → String
  | nil => "nil"
  | bool => "bool"
  | int => "int"
  | float => "float"
  | text => "string"
  | array => "array"
  | map => "map"

/-- A value; the entries of a map are in ascending order of their keys, each key once. -/
inductive Value where
  | nil
  | bool (b : Bool)
  | int (n : Int64)
  | float (x : Float)
  | text (s : String)
  | array (items : List Value)
  | map (entries : List (String × Value))
  deriving Repr

namespace Value

/-- Induction over values, with a hypothesis for every item and for the value of every entry. -/
@[elab_as_elim, induction_eliminator]
theorem byParts {motive : Value → Prop} (nil : motive .nil) (bool : ∀ b, motive (.bool b))
    (int : ∀ n, motive (.int n)) (float : ∀ x, motive (.float x)) (text : ∀ s, motive (.text s))
    (array : ∀ items, (∀ v ∈ items, motive v) → motive (.array items))
    (map : ∀ entries, (∀ entry ∈ entries, motive entry.2) → motive (.map entries))
    (v : Value) : motive v := by
  refine Value.rec (motive_1 := motive) (motive_2 := fun vs => ∀ v ∈ vs, motive v)
    (motive_3 := fun entries => ∀ entry ∈ entries, motive entry.2)
    (motive_4 := fun entry => motive entry.2) nil bool int float text array map ?_ ?_ ?_ ?_ ?_ v
  · exact List.forall_mem_nil _
  · intro first rest hfirst hrest
    exact List.forall_mem_cons.mpr ⟨hfirst, hrest⟩
  · exact List.forall_mem_nil _
  · intro first rest hfirst hrest
    exact List.forall_mem_cons.mpr ⟨hfirst, hrest⟩
  · intro key v hv
    exact hv

/-- The kind of a value. -/
def kind : Value → Kind
  | nil => .nil
  | bool _ => .bool
  | int _ => .int
  | float _ => .float
  | text _ => .text
  | array _ => .array
  | map _ => .map

/-- Whether the value is nil. -/
def isNil : Value → Bool
  | nil => true
  | _ => false

/-- The value as a binary64 number, if it is a number. -/
def toFloat? : Value → Option Float
  | int n => some (Float.ofInt n.toInt)
  | float x => some x
  | _ => none

/-- The map of the given entries. -/
def ofKeyMap (entries : KeyMap Value) : Value := map entries.toList

mutual

/-- Whether two values are equal; an integer and a binary64 number are equal as numbers. -/
def looseEq : Value → Value → Bool
  | nil, nil => true
  | bool a, bool b => a == b
  | int m, int n => m == n
  | int m, float y => Float.ofInt m.toInt == y
  | float x, int n => x == Float.ofInt n.toInt
  | float x, float y => x == y
  | text s, text t => s == t
  | array xs, array ys => looseEqAll xs ys
  | map xs, map ys => xs.length == ys.length && looseEqEntries xs ys
  | _, _ => false

/-- Whether two lists have equal items. -/
def looseEqAll : List Value → List Value → Bool
  | [], [] => true
  | x :: xs, y :: ys => looseEq x y && looseEqAll xs ys
  | _, _ => false

/-- Whether each of the first entries has an equal value under its key among the others. -/
def looseEqEntries : List (String × Value) → List (String × Value) → Bool
  | [], _ => true
  | (k, x) :: xs, ys =>
    match ys.lookup k with
    | some y => looseEq x y && looseEqEntries xs ys
    | none => false

end

/-- The order of two binary64 numbers; a NaN has none. -/
def compareFloats? (x y : Float) : Option Ordering :=
  if x < y then some .lt
  else if y < x then some .gt
  else if x == y then some .eq
  else none

/-- The order of two values, if they are two numbers or two texts. -/
def compare? : Value → Value → Option Ordering
  | int m, int n => some (compare m.toInt n.toInt)
  | text s, text t => some (compare s t)
  | a, b =>
    match a.toFloat?, b.toFloat? with
    | some x, some y => compareFloats? x y
    | _, _ => none

mutual

/-- The value alone, as a text. -/
def shown : Value → String
  | nil => "nil"
  | bool b => if b then "true" else "false"
  | int n => toString n.toInt
  | float x => Decimal.Layout.plain.render x
  | text s => s
  | array items => "[" ++ ", ".intercalate (shownItems items) ++ "]"
  | map entries => "\x7b" ++ ", ".intercalate (shownEntries entries) ++ "\x7d"

/-- The items of an array as texts. -/
def shownItems : List Value → List String
  | [] => []
  | v :: vs => shown v :: shownItems vs

/-- The entries of a map as texts. -/
def shownEntries : List (String × Value) → List String
  | [] => []
  | (k, v) :: rest => (k ++ ": " ++ shown v) :: shownEntries rest

end

/-- The value of a field. An unsigned word too large for a signed one is a binary64 number. -/
def ofField : FieldValue → Value
  | .int n => int n
  | .uint n =>
    match exactInt64? n.toNat with
    | some w => int w
    | none => float (Float.ofNat n.toNat)
  | .float x => float x
  | .bool b => bool b
  | .string s => text s

/-- The value of a number in JSON. -/
def ofNumber : Json.Number → Value
  | .integer n =>
    match exactInt64? n with
    | some w => int w
    | none => float (Float.ofInt n)
  | .real x => float x

mutual

/-- The value that JSON denotes. -/
def ofJson : Json → Value
  | .null => nil
  | .bool b => bool b
  | .number n => ofNumber n
  | .string s => text s
  | .array items => array (ofJsonItems items)
  | .object members => ofKeyMap (ofJsonMembers members)

/-- The values of the items of an array. -/
def ofJsonItems : List Json → List Value
  | [] => []
  | j :: js => ofJson j :: ofJsonItems js

/-- The values of the members of an object. -/
def ofJsonMembers : List (String × Json) → KeyMap Value
  | [] => ∅
  | (k, j) :: rest => (ofJsonMembers rest).insert k (ofJson j)

end

end Value

end Telemetry.Condition
