import Telemetry.Units.UnitOfMeasure

/-!
# Conversions between units

Units of one measure differ by the ratio of their prefixes. The two temperature scales differ by an
affine map, whatever their prefixes.
-/

namespace Telemetry

/-- A way from one unit to another. -/
inductive Conversion where
  /-- Between two prefixes of one measure. -/
  | rescale (source target : Prefix)
  /-- From degrees Celsius to degrees Fahrenheit. -/
  | celsiusToFahrenheit
  /-- From degrees Fahrenheit to degrees Celsius. -/
  | fahrenheitToCelsius
  deriving DecidableEq, Repr

namespace Conversion

/-- The value in the target unit. -/
def apply : Conversion → Float → Float
  | rescale source target, x => x * source.ratio target
  | celsiusToFahrenheit, x => x * 1.8 + 32.0
  | fahrenheitToCelsius, x => (x - 32.0) / 1.8

/-- The way between two units, if they count the same. -/
def between (source target : UnitOfMeasure) : Except UnitError Conversion :=
  match source.measure, target.measure with
  | .celsius, .fahrenheit => .ok celsiusToFahrenheit
  | .fahrenheit, .celsius => .ok fahrenheitToCelsius
  | m, n =>
    if m.isKnown && m == n && source.per == target.per then
      .ok (rescale source.scale target.scale)
    else
      .error (.incompatible source.long target.long)

end Conversion

end Telemetry
