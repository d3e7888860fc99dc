import Telemetry.Text.Digits

/-!
# Hexadecimal digits

Reading whole numbers in bases up to sixteen, and the characters that have such numbers.
-/

namespace Telemetry.Text

/-- The value of a hexadecimal digit. -/
def hexDigit? (c : Char) : Option Nat :=
  if isDigit c then some (c.toNat - '0'.toNat)
  else if 'a' ≤ c && c ≤ 'f' then some (c.toNat - 'a'.toNat + 10)
  else if 'A' ≤ c && c ≤ 'F' then some (c.toNat - 'A'.toNat + 10)
  else none

/-- Whether a character is a digit of a base up to sixteen. -/
def isDigitOf (base : Nat) (c : Char) : Bool := (hexDigit? c).any (· < base)

/-- The number of one or more digits in a base up to sixteen. -/
def natOfBase? (base : Nat) (cs : List Char) : Option Nat :=
  if cs.isEmpty || !cs.all (isDigitOf base) then none
  else (cs.mapM hexDigit?).map fun ds => ds.foldl (fun n d => base * n + d) 0

/-- The character of a code in hexadecimal digits. -/
def charOfHex? (cs : List Char) : Option Char := do
  let code ← natOfBase? 16 cs
  if code.isValidChar then some (Char.ofNat code) else none

end Telemetry.Text
