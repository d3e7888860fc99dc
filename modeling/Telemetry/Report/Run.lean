import Telemetry.Report.Basic
import Telemetry.Run.Basic

/-!
# Reports on runs

What a run has counted.
-/

namespace Telemetry.RunSummary

/-- The report in both of its forms. -/
def report (s : RunSummary) : Report where
  text := Report.ofLines [s!"Processed {s.processed} of {s.read} messages: " ++
    s!"{s.dropped} dropped, {s.errors} errors, {s.malformed} malformed, {s.skipped} skipped"]
  json :=
    let count (n : Nat) : Json := .number (.integer n)
    .object [("read", count s.read), ("processed", count s.processed),
      ("dropped", count s.dropped), ("errors", count s.errors), ("malformed", count s.malformed),
      ("skipped", count s.skipped)]

end Telemetry.RunSummary
