import Telemetry.Decimal.Basic

/-!
# Reading decimals

A decimal text has digits with at most one point among, before or after them, and may end in an
exponent. A number text is a signed decimal text, or names infinity or no number in any case.
-/

namespace Telemetry

namespace Decimal

/-- Reads a signed run of digits to the end of the text. -/
def readExponent? : List Char → Option Int
  | '-' :: cs => (Text.readNat? cs).map fun n => -(n : Int)
  | '+' :: cs => (Text.readNat? cs).map fun n => (n : Int)
  | cs => (Text.readNat? cs).map fun n => (n : Int)

/-- The decimal with these digits before and behind the point. -/
def ofPlaces (whole places : List Char) (exponent : Int) : Decimal :=
  ⟨Text.digitsValue (whole ++ places), exponent - places.length⟩

/-- Reads a whole unsigned text. -/
def read? (cs : List Char) : Option Decimal :=
  let whole := cs.takeWhile Text.isDigit
  let (places, rest) := match cs.dropWhile Text.isDigit with
    | '.' :: rest => (rest.takeWhile Text.isDigit, rest.dropWhile Text.isDigit)
    | rest => ([], rest)
  if whole.isEmpty && places.isEmpty then none
  else match rest with
    | [] => some (ofPlaces whole places 0)
    | c :: rest =>
      if c == 'e' || c == 'E' then (readExponent? rest).map (ofPlaces whole places) else none

/-- Reads a number text. -/
def readFloat? (cs : List Char) : Option Float :=
  let (negative, rest) := match cs with
    | '-' :: rest => (true, rest)
    | '+' :: rest => (false, rest)
    | rest => (false, rest)
  let word := String.ofList (rest.map Char.toLower)
  let magnitude : Option Float :=
    if word == "inf" || word == "infinity" then some (1.0 / 0.0)
    else if word == "nan" then some (0.0 / 0.0)
    else (read? rest).map toFloat
  magnitude.map fun x => if negative then -x else x

end Decimal

end Telemetry
