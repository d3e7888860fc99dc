import Telemetry.Word
import Telemetry.Timestamp.Calendar

/-!
# Points in time

A timestamp counts whole seconds from the start of 1970 in UTC, rounded down, and nanoseconds
within the second. A leap second has a billion nanoseconds more than the second it prolongs.
-/

namespace Telemetry

/-- A point in time. -/
structure Timestamp where
  /-- Seconds since the start of 1970, rounded down. -/
  seconds : Int
  /-- Nanoseconds within the second, from a billion on for a leap second. -/
  nanos : Nat
  deriving DecidableEq, Repr

namespace Timestamp

/-- The start of 1970. -/
def epoch : Timestamp := ⟨0, 0⟩

/-- Nanoseconds since the epoch, if they fit a signed word. -/
def nanoseconds? (t : Timestamp) : Option Int64 :=
  exactInt64? (t.seconds * 1000000000 + t.nanos)

/-- Nanoseconds since the epoch, zero where they do not fit a signed word. -/
def nanosecondsOrZero (t : Timestamp) : Int64 := t.nanoseconds?.getD 0

end Timestamp

end Telemetry
