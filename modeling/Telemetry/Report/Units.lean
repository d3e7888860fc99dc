import Telemetry.Report.Basic
import Telemetry.Units.Conversion

/-!
# Reports on units

What a unit is made of, and how values are converted to another unit.
-/

namespace Telemetry

/-- How values of a unit are converted, and what becomes of one value. -/
structure ConversionReport where
  /-- The other unit as it was given. -/
  target : String
  targetShort : String
  conversion : Conversion
  value? : Option Float

/-- What a unit is made of. -/
structure UnitReport where
  /-- The unit as it was given. -/
  input : String
  unit : UnitOfMeasure
  conversion? : Option ConversionReport

/-- The conversion as a formula. -/
def Conversion.formula : Conversion → String
  | rescale p q => "x " ++ Decimal.Layout.plain.render (p.ratio q)
  | celsiusToFahrenheit => "c * 1.8 + 32"
  | fahrenheitToCelsius => "(f - 32) / 1.8"

namespace ConversionReport

/-- The converted value. -/
def converted? (c : ConversionReport) : Option Float := c.value?.map c.conversion.apply

end ConversionReport

namespace UnitReport

/-- The report on a unit, and on its conversion to another one. -/
def of (input : String) (target? : Option String) (value? : Option Float) :
    Except UnitError UnitReport := do
  let u ← UnitOfMeasure.parse? input
  match target? with
  | none => .ok ⟨input, u, none⟩
  | some target => do
    let v ← UnitOfMeasure.parse? target
    let conversion ← Conversion.between u v
    .ok ⟨input, u, some ⟨target, v.short, conversion, value?⟩⟩

/-- The lines on a conversion of a unit. -/
def conversionLines (short : String) (c : ConversionReport) : List String :=
  let number (x : Float) : String := Decimal.Layout.plain.render x
  let values := match c.value?, c.converted? with
    | some x, some y => [s!"  {number x} {short} = {number y} {c.targetShort}"]
    | _, _ => []
  s!"Conversion: {short} -> {c.targetShort} ({c.conversion.formula})" :: values

/-- The conversion as an object. -/
def conversionJson (c : ConversionReport) : Json :=
  let number (x : Float) : Json := .number (.real x)
  .object ([("to", .string c.target), ("to_short", .string c.targetShort),
    ("function", .string c.conversion.formula)] ++
    Report.member? "value" (c.value?.map number) ++
    Report.member? "converted" (c.converted?.map number))

/-- The report in both of its forms. -/
def report (r : UnitReport) : Report where
  text :=
    let symbol := r.unit.scale.symbol
    let per := match r.unit.per with
      | some d => [s!"  Divisor: {d.short}"]
      | none => []
    let conversion := match r.conversion? with
      | some c => conversionLines r.unit.short c
      | none => []
    Report.ofLines ([s!"Unit: {r.input} -> {r.unit.short}", s!"  Long:    {r.unit.long}",
      "  Prefix:  " ++ (if symbol.isEmpty then "(none)" else symbol),
      s!"  Measure: {r.unit.measure.short}"] ++ per ++ conversion)
  json :=
    .object ([("input", .string r.input), ("short", .string r.unit.short),
      ("long", .string r.unit.long), ("prefix", .string r.unit.scale.symbol),
      ("measure", .string r.unit.measure.short)] ++
      Report.member? "divisor" (r.unit.per.map fun d => .string d.short) ++
      Report.member? "conversion" (r.conversion?.map conversionJson))

end UnitReport

end Telemetry
