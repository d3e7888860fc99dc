import Telemetry.Decimal.Shortest

/-!
# Layouts of decimal numbers

A layout says which powers of ten are written positionally, whether a whole number shows a zero
behind the point, and how an exponent and the numbers that are not finite are written.
-/

namespace Telemetry

namespace Decimal

/-- The choices of one written form. -/
structure Layout where
  /-- Which of two equally near shortest decimals is written. -/
  tie : Tie
  /-- The powers of ten of a first digit that are written without an exponent; `none` for all. -/
  positional : Option (Int × Int)
  /-- Whether a whole number ends in `.0`. -/
  pointZero : Bool
  /-- Whether a positive exponent has a sign. -/
  exponentPlus : Bool
  deriving Repr

namespace Layout

/-- Always positional, whole numbers without a point. -/
def plain : Layout := ⟨.up, none, false, false⟩

/-- The form of a number in a listing: a point always shows, and the exponent is left out from
`1e-4` to below `1e16`. -/
def listing : Layout := ⟨.up, some (-4, 15), true, false⟩

/-- Whether the first digit's power of ten is written without an exponent. -/
def isPositional (l : Layout) (leading : Int) : Bool :=
  match l.positional with
  | none => true
  | some (low, high) => low ≤ leading && leading ≤ high

/-- The decimal without an exponent. -/
def positionalText (pointZero : Bool) (d : Decimal) : List Char :=
  let ds := Text.digits d.digits
  if 0 ≤ d.exponent then
    ds ++ List.replicate d.exponent.toNat '0' ++ if pointZero then ['.', '0'] else []
  else
    let places := (-d.exponent).toNat
    if places < ds.length then
      ds.take (ds.length - places) ++ '.' :: ds.drop (ds.length - places)
    else
      '0' :: '.' :: (List.replicate (places - ds.length) '0' ++ ds)

/-- One digit before the point, then the power of ten behind an `e`. -/
def exponentText (plus : Bool) (d : Decimal) : List Char :=
  let mantissa := match Text.digits d.digits with
    | first :: second :: rest => first :: '.' :: second :: rest
    | ds => ds
  let sign := if d.leading < 0 then ['-'] else if plus then ['+'] else []
  mantissa ++ 'e' :: sign ++ Text.digits d.leading.natAbs

/-- A magnitude in the layout. -/
def decimalText (l : Layout) (d : Decimal) : List Char :=
  if d.digits = 0 || l.isPositional d.leading then positionalText l.pointZero d
  else exponentText l.exponentPlus d

/-- A binary64 number in the layout. -/
def render (l : Layout) (x : Float) : String :=
  match BinaryValue.of x with
  | .nan => "NaN"
  | .infinite negative => if negative then "-inf" else "inf"
  | .finite negative m e =>
    String.ofList ((if negative then ['-'] else []) ++ l.decimalText (shortest l.tie m e))

end Layout

end Decimal

end Telemetry
