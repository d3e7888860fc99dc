import Telemetry.Json.Syntax

/-!
# What JSON numbers mean

A number without point and exponent is an integer as long as it fits 64 bits, signed or not. Any
other number is a binary64 number: its leading digits, as far as they fit 64 bits, are converted
and then scaled by one power of ten, in steps of at most 308 places. A number that becomes infinite
is refused.
-/

namespace Telemetry.Json

/-- A number that has been read. -/
inductive Number where
  /-- An integer from `-2 ^ 63` to below `2 ^ 64`. -/
  | integer (n : Int)
  | real (x : Float)
  deriving DecidableEq, Repr

namespace Number

/-- The digits that have been taken in, and how many were left out. -/
structure Significand where
  value : Nat
  /-- Once a digit has been left out, all later ones are. -/
  full : Bool
  omitted : Nat
  deriving Repr

/-- Takes in one more digit if the value then still fits 64 bits. -/
def Significand.push (s : Significand) (c : Char) : Significand :=
  let next := s.value * 10 + Text.digitValue c
  if s.full || UInt64.size ≤ next then { s with full := true, omitted := s.omitted + 1 }
  else { s with value := next }

/-- Takes in a row of digits. -/
def Significand.ofDigits (value : Nat) (ds : List Char) : Significand :=
  ds.foldl Significand.push ⟨value, false, 0⟩

/-- Scales by a power of ten, 308 places at a time; the first argument bounds the steps. -/
def scale? : Nat → Float → Int → Option Float
  | 0, x, _ => some x
  | steps + 1, x, e =>
    if e.natAbs ≤ 308 then
      if 0 ≤ e then
        let y := x * Float.ofScientific 1 false e.toNat
        if y.isFinite then some y else none
      else some (x / Float.ofScientific 1 false e.natAbs)
    else if x == 0.0 then some x
    else if 0 ≤ e then none
    else scale? steps (x / Float.ofScientific 1 false 308) (e + 308)

/-- Exponents beyond these bounds do not differ from the bounds themselves. -/
def clampExponent (e : Int) : Int := max (-2147483648) (min 2147483647 e)

/-- The binary64 number of a significand and a power of ten. Four steps are enough: after two of
them every significand has become zero. -/
def real? (negative : Bool) (value : Nat) (exponent : Int) : Option Number :=
  (scale? 4 (Float.ofNat value) (clampExponent exponent)).map fun x =>
    real (if negative then -x else x)

/-- The number that a text denotes, if it is finite. -/
def ofText? (t : NumberText) : Option Number :=
  let whole := Significand.ofDigits 0 t.whole
  let exponent : Int := match t.exponent with
    | none => 0
    | some (negative, ds) =>
      let n : Int := Text.digitsValue ds
      if negative then -n else n
  match t.places, t.exponent with
  | none, none =>
    if whole.full then real? t.negative whole.value whole.omitted
    else if !t.negative then some (integer whole.value)
    else if whole.value = 0 ∨ -(whole.value : Int) < Int64.minValue.toInt then
      some (real (-Float.ofNat whole.value))
    else some (integer (-(whole.value : Int)))
  | places, _ =>
    let all := Significand.ofDigits whole.value (places.getD [])
    let taken : Int := ((places.getD []).length : Int) - all.omitted
    real? t.negative all.value (whole.omitted - taken + exponent)

end Number

end Telemetry.Json
