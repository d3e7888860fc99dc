/-!
# Binary numbers taken apart

A binary64 number is no number, an infinity, or a sign with a mantissa times a power of two. All
exact work on floating-point numbers starts from this reading of their bits.
-/

namespace Telemetry

/-- What a binary64 number denotes. -/
inductive BinaryValue where
  | nan
  | infinite (negative : Bool)
  /-- The magnitude is `mantissa * 2 ^ exponent`. -/
  | finite (negative : Bool) (mantissa : Nat) (exponent : Int)
  deriving DecidableEq, Repr

namespace BinaryValue

/-- Reads the sign, exponent and fraction fields. -/
def ofBits (bits : Nat) : BinaryValue :=
  let negative := bits / Nat.pow 2 63 % 2 == 1
  let exponent : Nat := bits / Nat.pow 2 52 % Nat.pow 2 11
  let fraction : Nat := bits % Nat.pow 2 52
  if exponent = 2047 then
    if fraction = 0 then infinite negative else nan
  else if exponent = 0 then finite negative fraction (-1074)
  else finite negative (Nat.pow 2 52 + fraction) ((exponent : Int) - 1075)

/-- What the number denotes. -/
def of (x : Float) : BinaryValue := ofBits x.toBits.toNat

/-- The magnitude of a finite number as a fraction. -/
def fraction (mantissa : Nat) (exponent : Int) : Nat × Nat :=
  if 0 ≤ exponent then (mantissa * Nat.pow 2 exponent.toNat, 1)
  else (mantissa, Nat.pow 2 (-exponent).toNat)

/-- The number without its fraction part, for a finite number. -/
def truncate? : BinaryValue → Option Int
  | finite negative m e =>
    let (num, den) := fraction m e
    let n : Int := num / den
    some (if negative then -n else n)
  | _ => none

end BinaryValue

end Telemetry
