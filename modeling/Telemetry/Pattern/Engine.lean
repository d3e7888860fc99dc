import Telemetry.Pattern.Meaning

/-!
# Engines for patterns

Conditions use patterns in two ways only: the text of a pattern is read, and the pattern is searched
for in texts. An engine does both, and conditions are the same whatever engine they are given.
-/

namespace Telemetry.Pattern

/-- An engine for patterns. -/
structure Engine where
  /-- The test whether a pattern occurs in a text, if a text is a pattern. -/
  test? : String → Option (String → Bool)

/-- The engine that reads and searches patterns as they are defined here. -/
def Engine.standard : Engine := ⟨fun source => (Pattern.read? source).map Pattern.occursIn⟩

end Telemetry.Pattern
