import Telemetry.Decimal.Basic
import Telemetry.Decimal.Binary

/-!
# Shortest decimals

`shortest` finds the fewest digits that read back to a given binary64 number, and of those the
decimal nearest to it.
-/

namespace Telemetry

namespace Decimal

/-- Which of two equally near decimals is taken. -/
inductive Tie where
  | up | even
  deriving DecidableEq, Repr

/-- The largest multiple of `10 ^ grid` not above `num / den`, counted in that unit. -/
def floorOn (num den : Nat) (grid : Int) : Nat :=
  if 0 ≤ grid then num / (den * Nat.pow 10 grid.toNat) else num * Nat.pow 10 (-grid).toNat / den

/-- Whether `num / den` lies below, on or above the middle between two neighbours on a grid. -/
def compareMiddle (num den low : Nat) (grid : Int) : Ordering :=
  if 0 ≤ grid then compare (2 * num) ((2 * low + 1) * (den * Nat.pow 10 grid.toNat))
  else compare (2 * num * Nat.pow 10 (-grid).toNat) ((2 * low + 1) * den)

/-- The power of ten of the first digit of `num / den`. -/
def leadingOf (num den : Nat) : Int :=
  if den ≤ num then (Text.digitCount (num / den) : Int) - 1
  else
    let places := Text.digitCount (den / num)
    if den ≤ num * Nat.pow 10 (places - 1) then 1 - (places : Int) else -(places : Int)

/-- Takes zeros off the end of the digits; the first argument bounds their number. -/
def dropZeros : Nat → Decimal → Decimal
  | 0, d => d
  | n + 1, d =>
    if d.digits % 10 = 0 ∧ d.digits ≠ 0 then dropZeros n ⟨d.digits / 10, d.exponent + 1⟩ else d

/-- The neighbour of `num / den` with the given number of digits that reads back as `x`; of two
the nearer one. -/
def nearestWith (tie : Tie) (x : Float) (num den count : Nat) : Option Decimal :=
  let grid := leadingOf num den + 1 - (count : Int)
  let low := floorOn num den grid
  let below : Decimal := ⟨low, grid⟩
  let above : Decimal := ⟨low + 1, grid⟩
  match below.toFloat == x, above.toFloat == x with
  | false, false => none
  | true, false => some below
  | false, true => some above
  | true, true =>
    match compareMiddle num den low grid with
    | .lt => some below
    | .gt => some above
    | .eq => match tie with
      | .up => some above
      | .even => some (if low % 2 = 0 then below else above)

/-- The exact decimal of a magnitude `mantissa * 2 ^ exponent`. -/
def exact (mantissa : Nat) (exponent : Int) : Decimal :=
  if 0 ≤ exponent then ⟨mantissa * Nat.pow 2 exponent.toNat, 0⟩
  else ⟨mantissa * Nat.pow 5 (-exponent).toNat, exponent⟩

/-- The fewest digits that read back as `mantissa * 2 ^ exponent`. Seventeen always suffice; the
exact decimal stands behind them. -/
def shortest (tie : Tie) (mantissa : Nat) (exponent : Int) : Decimal :=
  if mantissa = 0 then ⟨0, 0⟩
  else
    let (num, den) := BinaryValue.fraction mantissa exponent
    let x := (exact mantissa exponent).toFloat
    let found := (List.range 17).findSome? fun n => nearestWith tie x num den (n + 1)
    dropZeros 400 (found.getD (exact mantissa exponent))

end Decimal

end Telemetry
