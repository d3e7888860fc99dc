import Telemetry.Text.Digits

/-!
# Decimals and the nearest binary number

A `Decimal` is a whole number times a power of ten. `toFloat` is the binary64 number nearest to
it; past the largest finite number it is infinite.
-/

namespace Telemetry

/-- The number `digits * 10 ^ exponent`. -/
structure Decimal where
  digits : Nat
  exponent : Int
  deriving DecidableEq, Repr

namespace Decimal

/-- The power of ten of the first digit. -/
def leading (d : Decimal) : Int := (Text.digitCount d.digits : Int) + d.exponent - 1

/-- The nearest binary64 number. Beyond four hundred places on either side the answer is infinity
or zero, whatever the digits are. -/
def toFloat (d : Decimal) : Float :=
  if d.digits = 0 then 0.0
  else if d.leading > 400 then 1.0 / 0.0
  else if d.leading < -400 then 0.0
  else if 0 ≤ d.exponent then Float.ofScientific d.digits false d.exponent.toNat
  else Float.ofScientific d.digits true (-d.exponent).toNat

end Decimal

end Telemetry
