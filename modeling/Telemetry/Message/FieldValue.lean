import Telemetry.Word
import Telemetry.Decimal.Layout
import Telemetry.Json.Value

/-!
# Field values

A field of a message holds a signed or unsigned word, a binary64 number, a truth value or a text.
-/

namespace Telemetry

/-- The value of a field. -/
inductive FieldValue where
  | int (n : Int64)
  | uint (n : UInt64)
  | float (x : Float)
  | bool (b : Bool)
  | string (s : String)
  deriving DecidableEq, Repr

namespace FieldValue

/-- Whether the value is no infinity and no NaN; values that are no numbers are finite. -/
def isFinite : FieldValue → Bool
  | float x => x.isFinite
  | _ => true

/-- The value as a binary64 number, if it is a number. -/
def toFloat? : FieldValue → Option Float
  | int n => some (Float.ofInt n.toInt)
  | uint n => some (Float.ofNat n.toNat)
  | float x => some x
  | bool _ | string _ => none

/-- The text, if the value is one. -/
def toText? : FieldValue → Option String
  | string s => some s
  | _ => none

/-- Whether the value is a number. -/
def isNumeric (v : FieldValue) : Bool := v.toFloat?.isSome

/-- Whether the two values are of one kind and equal; a NaN equals nothing. -/
def same : FieldValue → FieldValue → Bool
  | int m, int n => m == n
  | uint m, uint n => m == n
  | float x, float y => x == y
  | bool a, bool b => a == b
  | string s, string t => s == t
  | _, _ => false

/-- The value alone, as a text. -/
def text : FieldValue → String
  | int n => toString n.toInt
  | uint n => toString n.toNat
  | float x => Decimal.Layout.plain.render x
  | bool b => if b then "true" else "false"
  | string s => s

/-- The value in JSON. -/
def toJson : FieldValue → Json
  | int n => .number (.integer n.toInt)
  | uint n => .number (.integer n.toNat)
  | float x => .number (.real x)
  | bool b => .bool b
  | string s => .string s

/-- An integer is signed where it fits, else unsigned. -/
def ofNumber : Json.Number → FieldValue
  | .integer n =>
    match exactInt64? n with
    | some w => int w
    | none => uint (UInt64.ofNat n.toNat)
  | .real x => float x

end FieldValue

end Telemetry
