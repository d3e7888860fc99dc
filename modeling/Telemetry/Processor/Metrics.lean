import Telemetry.Rules.Application

/-!
# Metrics of a processor

What a processor counts: one counter per outcome of a message, split by the reason of a drop and
by the stage of a failure; a sample of the time taken for each message that did not fail; and the
number of its rules, as last seen.
-/

namespace Telemetry

/-- The kinds of metrics. -/
inductive MetricKind where
  | counter | gauge | histogram
  deriving DecidableEq, Repr

/-- The name of a kind. -/
def MetricKind.name : MetricKind → String
  | counter => "counter"
  | gauge => "gauge"
  | histogram => "histogram"

/-- The metrics of a processor. -/
inductive Metric where
  | processed | dropped | failed | rulesLoaded | duration
  deriving DecidableEq, Repr

namespace Metric

/-- All metrics. -/
def all : List Metric := [processed, dropped, failed, rulesLoaded, duration]

/-- The name of a metric. -/
def name : Metric → String
  | processed => "ironmetric_processor_messages_processed_total"
  | dropped => "ironmetric_processor_messages_dropped_total"
  | failed => "ironmetric_processor_evaluation_errors_total"
  | rulesLoaded => "ironmetric_processor_rules_loaded"
  | duration => "ironmetric_processor_processing_duration_seconds"

/-- The kind of a metric. -/
def kind : Metric → MetricKind
  | processed | dropped | failed => .counter
  | rulesLoaded => .gauge
  | duration => .histogram

/-- What a metric tells. -/
def description : Metric → String
  | processed => "Total number of messages that passed through the processor"
  | dropped => "Messages dropped by name, type or condition"
  | failed => "Condition evaluation or protected-field errors per stage"
  | rulesLoaded => "Number of rules currently configured in the processor"
  | duration => "Per-message processing latency in seconds"

/-- The name of a metric for one value of a label. -/
def labelled (m : Metric) (label value : String) : String :=
  m.name ++ "\x7b" ++ label ++ "=" ++ value ++ "\x7d"

end Metric

/-- What a processor has counted. -/
structure Metrics where
  processed : Nat
  dropped : DropReason → Nat
  failed : Stage → Nat
  /-- The number of rules, once it was seen. -/
  rulesLoaded? : Option Nat
  /-- How often the time of a message was taken. -/
  durations : Nat

/-- All reasons. -/
def DropReason.all : List DropReason := [name, type, condition]

namespace Metrics

/-- Nothing counted. -/
def empty : Metrics := ⟨0, fun _ => 0, fun _ => 0, none, 0⟩

/-- Counts a message by what became of it. -/
def record (m : Metrics) : Verdict → Metrics
  | .forward _ => { m with processed := m.processed + 1, durations := m.durations + 1 }
  | .drop reason =>
    { m with
      dropped := fun r => if r = reason then m.dropped r + 1 else m.dropped r
      durations := m.durations + 1 }
  | .fail f => { m with failed := fun s => if s = f.stage then m.failed s + 1 else m.failed s }

/-- Sees the number of rules. -/
def recordRules (m : Metrics) (n : Nat) : Metrics := { m with rulesLoaded? := some n }

/-- The metrics that were touched, by their names and labels. -/
def samples (m : Metrics) : List (String × Nat) :=
  let counts := [(Metric.processed.name, m.processed)] ++
    DropReason.all.map (fun r => (Metric.dropped.labelled "reason" r.label, m.dropped r)) ++
    Stage.all.map (fun s => (Metric.failed.labelled "stage" s.name, m.failed s)) ++
    [(Metric.duration.name, m.durations)]
  (m.rulesLoaded?.map fun n => (Metric.rulesLoaded.name, n)).toList ++
    counts.filter fun sample => sample.2 != 0

end Metrics

end Telemetry
