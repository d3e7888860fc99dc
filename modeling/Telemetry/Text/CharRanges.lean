/-!
# Sets of characters as ranges

A set of characters is a list of code point ranges, both ends included.
-/

namespace Telemetry.Text

/-- Ranges of code points. -/
abbrev CharRanges := List (Nat × Nat)

namespace CharRanges

/-- Whether one of the ranges holds the character. -/
def contains (ranges : CharRanges) (c : Char) : Bool :=
  ranges.any fun range => range.1 ≤ c.toNat && c.toNat ≤ range.2

end CharRanges

end Telemetry.Text
