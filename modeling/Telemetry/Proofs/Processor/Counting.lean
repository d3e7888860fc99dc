import Telemetry.Proofs.Distinct
import Telemetry.Proofs.Processor.Calls

/-!
# What a processor counts

Every message is counted once, as what became of it; the time is taken for those that did not fail.
The number of rules is that of the last call that looked at the rules, and no other call changes
them.
-/

namespace Telemetry

/-! ## Verdicts by kind -/

/-- What a message is counted as. -/
inductive Verdict.Kind where
  | forwarded
  | dropped (reason : DropReason)
  | failed (stage : Stage)
  deriving DecidableEq

/-- What a verdict is counted as. -/
def Verdict.kind : Verdict → Kind
  | forward _ => .forwarded
  | drop reason => .dropped reason
  | fail f => .failed f.stage

namespace Verdict.Kind

/-- All kinds. -/
def all : List Kind := forwarded :: (DropReason.all.map dropped ++ Stage.all.map failed)

/-- Whether the time of such a message is taken. -/
def isTimed : Kind → Bool
  | failed _ => false
  | _ => true

/-- The name of the counter of a kind, with the reason or the stage as its label. -/
def counter : Kind → String
  | forwarded => Metric.processed.name
  | dropped reason => Metric.dropped.labelled "reason" reason.label
  | failed stage => Metric.failed.labelled "stage" stage.name

/-- Every kind is listed once. -/
theorem count_all (k : Kind) : all.count k = 1 := by
  cases k with
  | forwarded => rfl
  | dropped reason => cases reason <;> rfl
  | failed stage => cases stage <;> rfl

end Verdict.Kind

/-! ## Metrics -/

namespace Metrics

variable (m : Metrics)

/-- How many messages of a kind were counted. -/
def count : Verdict.Kind → Nat
  | .forwarded => m.processed
  | .dropped reason => m.dropped reason
  | .failed stage => m.failed stage

/-- A counter of some kinds goes up by one where a message of these kinds is counted. -/
structure Counter (value : Metrics → Nat) (counted : Verdict.Kind → Bool) : Prop where
  record (m : Metrics) (v : Verdict) : value (m.record v) = value m + [v.kind].countP counted
  recordRules (m : Metrics) (n : Nat) : value (m.recordRules n) = value m

/-- A verdict counts for its own kind. -/
theorem count_counter (k : Verdict.Kind) : Counter (·.count k) (· == k) where
  record m v := by
    rw [List.countP_singleton, beq_eq_decide]
    cases v with
    | forward => cases k <;> simp [record, count, Verdict.kind]
    | drop reason =>
      cases k with
      | dropped other =>
        by_cases h : other = reason
        · simp [record, count, Verdict.kind, h]
        · simp [record, count, Verdict.kind, h, Ne.symm h]
      | forwarded | failed => simp [record, count, Verdict.kind]
    | fail f =>
      cases k with
      | failed other =>
        by_cases h : other = f.stage
        · simp [record, count, Verdict.kind, h]
        · simp [record, count, Verdict.kind, h, Ne.symm h]
      | forwarded | dropped => simp [record, count, Verdict.kind]
  recordRules m n := by cases k <;> rfl

/-- The time of a message is taken unless it fails. -/
theorem durations_counter : Counter (·.durations) Verdict.Kind.isTimed where
  record m v := by cases v <;> rfl
  recordRules m n := rfl

/-- The counts under their names. -/
def counts : List (String × Nat) :=
  (Verdict.Kind.all.map fun k => (k.counter, m.count k)) ++ [(Metric.duration.name, m.durations)]

/-- What is listed under a name. -/
def sample? (name : String) : Option Nat := m.samples.lookup name

/-- What is listed under a name, or zero. -/
def sample (name : String) : Nat := (m.sample? name).getD 0

/-- No two metrics have the same name. -/
theorem nodup_names :
    (Metric.rulesLoaded.name ::
      (Verdict.Kind.all.map Verdict.Kind.counter ++ [Metric.duration.name])).Nodup := by
  decide +kernel

/-- The names of the counts are those of the kinds and that of the durations. -/
theorem names_counts :
    m.counts.map (·.1) = Verdict.Kind.all.map Verdict.Kind.counter ++ [Metric.duration.name] := by
  simp [counts, Function.comp_def]

/-- The number of rules is listed under its name once it was seen, whatever is listed behind it. -/
theorem sample?_eq (name : String) :
    m.sample? name =
      (if name = Metric.rulesLoaded.name then m.rulesLoaded? else none).or
        ((m.counts.lookup name).filter (· != 0)) := by
  have hnodup : (m.counts.map (·.1)).Nodup := by
    rw [names_counts]
    exact (List.nodup_cons.mp nodup_names).2
  have hsamples : m.samples =
      (m.rulesLoaded?.map fun n => (Metric.rulesLoaded.name, n)).toList ++
        m.counts.filter fun sample => sample.2 != 0 := rfl
  rw [sample?, hsamples, List.lookup_append, lookup_filter hnodup]
  congr 1
  cases m.rulesLoaded? with
  | none => simp
  | some n =>
    by_cases h : name = Metric.rulesLoaded.name
    · simp [h]
    · simp [h, List.lookup_cons, beq_eq_false_iff_ne.mpr h]

/-- A count is listed under its name, unless it is zero. -/
theorem sample_of_mem {name : String} {n : Nat} (h : (name, n) ∈ m.counts) : m.sample name = n := by
  obtain ⟨hgauge, hnodup⟩ := List.nodup_cons.mp nodup_names
  rw [← m.names_counts] at hgauge hnodup
  have hne : name ≠ Metric.rulesLoaded.name := by
    intro hname
    exact hgauge (hname ▸ List.mem_map_of_mem h)
  rw [sample, sample?_eq, if_neg hne, (lookup_eq_some_iff hnodup).mpr h]
  by_cases hzero : n = 0
  · simp [Option.filter_some, hzero]
  · simp [Option.filter_some, hzero]

/-- Under the name of a counter there is its count. -/
theorem sample_counter (k : Verdict.Kind) : m.sample k.counter = m.count k := by
  have hk : k ∈ Verdict.Kind.all := List.count_pos_iff.mp (by rw [k.count_all]; exact Nat.one_pos)
  exact m.sample_of_mem (List.mem_append_left _ (List.mem_map.mpr ⟨k, hk, rfl⟩))

/-- Under the name of the durations there is their count. -/
theorem sample_duration : m.sample Metric.duration.name = m.durations :=
  m.sample_of_mem (List.mem_append_right _ (List.mem_singleton.mpr rfl))

/-- Under the name of the rules there is their number as last seen, if it was. -/
theorem sample?_rulesLoaded : m.sample? Metric.rulesLoaded.name = m.rulesLoaded? := by
  have hgauge := (List.nodup_cons.mp nodup_names).1
  rw [← m.names_counts] at hgauge
  have hnone : m.counts.lookup Metric.rulesLoaded.name = none := by
    rw [List.lookup_eq_none_iff]
    intro entry hentry
    simp only [bne_iff_ne]
    intro hname
    exact hgauge (hname ▸ List.mem_map_of_mem hentry)
  rw [sample?_eq, if_pos rfl, hnone]
  cases m.rulesLoaded? <;> rfl

end Metrics

/-! ## Runs of calls -/

namespace Processor

/-- A command is seen in the number of rules if it looks at the rules, and nowhere else. -/
theorem metrics_perform (p : Processor) (c : Command) :
    (p.perform c).1.metrics =
      if c.touchesRules then p.metrics.recordRules (p.perform c).1.rulebook.totalRules
      else p.metrics := rfl

/-- A command that does not look at the rules does not change them. -/
theorem rulebook_perform_of_not_touches (p : Processor) {c : Command}
    (h : c.touchesRules = false) : (p.perform c).1.rulebook = p.rulebook := by
  cases c with
  | keepType name =>
    have hnone : MessageType.ofName? name = none := by simpa [Command.touchesRules] using h
    rw [rulebook_perform, Rulebook.perform, hnone]
  | _ => exact absurd h (by simp [Command.touchesRules])

section Counter

variable {value : Metrics → Nat} {counted : Verdict.Kind → Bool}

/-- A call counts the message that it brings, and nothing else. -/
theorem counter_serve (h : Metrics.Counter value counted) (p : Processor) (call : Call) :
    value (p.serve call).1.metrics =
      value p.metrics + ((p.serve call).2.toList.map Verdict.kind).countP counted := by
  rw [serve]
  cases call.message? with
  | some brought => exact h.record p.metrics (p.process brought.1 brought.2).2
  | none =>
    cases call.command? with
    | none => rfl
    | some c =>
      simp only [obey, Option.elim_some, metrics_perform]
      split
      · exact h.recordRules p.metrics _
      · rfl

/-- Calls count the messages that they bring. -/
theorem counter_serveAll (h : Metrics.Counter value counted) (p : Processor) (calls : List Call) :
    value (p.serveAll calls).1.metrics =
      value p.metrics + ((p.serveAll calls).2.map Verdict.kind).countP counted := by
  induction calls generalizing p with
  | nil => rfl
  | cons call calls ih =>
    rw [serveAll, List.map_append, List.countP_append, ih, counter_serve h, Nat.add_assoc]

end Counter

/-- The number of rules is right after a call that looks at them. -/
theorem rulesLoaded?_serve (p : Processor) {call : Call} (h : call.seesRules = true) :
    (p.serve call).1.metrics.rulesLoaded? = some (p.serve call).1.rulebook.totalRules := by
  obtain ⟨c, hc, htouches⟩ := (Option.any_eq_true _ _).mp h
  have hmessage : call.message? = none := by
    cases hm : call.message? with
    | none => rfl
    | some brought => exact absurd (Call.command?_of_message? hm) (by simp [hc])
  rw [serve, hmessage, hc]
  simp only [obey, Option.elim_some, metrics_perform, htouches, if_true]
  rfl

/-- A call that does not look at the rules changes neither them nor their number as last seen. -/
theorem serve_of_not_seesRules (p : Processor) {call : Call} (h : call.seesRules = false) :
    (p.serve call).1.rulebook = p.rulebook ∧
      (p.serve call).1.metrics.rulesLoaded? = p.metrics.rulesLoaded? := by
  rw [serve]
  cases call.message? with
  | some brought =>
    obtain ⟨order, m⟩ := brought
    have hrecord :
        (p.metrics.record (p.process order m).2).rulesLoaded? = p.metrics.rulesLoaded? := by
      cases (p.process order m).2 <;> rfl
    exact ⟨rfl, hrecord⟩
  | none =>
    cases hcommand : call.command? with
    | none => exact ⟨rfl, rfl⟩
    | some c =>
      have htouches : c.touchesRules = false := (Option.any_eq_false _ _).mp h c hcommand
      refine ⟨p.rulebook_perform_of_not_touches htouches, ?_⟩
      simp only [obey, Option.elim_some, metrics_perform, htouches]
      rfl

/-- Calls that do not look at the rules do not change them. -/
theorem rulebook_serveAll_of_not_seesRules (p : Processor) {calls : List Call}
    (h : ∀ call ∈ calls, call.seesRules = false) :
    (p.serveAll calls).1.rulebook = p.rulebook := by
  induction calls generalizing p with
  | nil => rfl
  | cons call calls ih =>
    obtain ⟨hcall, hcalls⟩ := List.forall_mem_cons.mp h
    exact (ih _ hcalls).trans (p.serve_of_not_seesRules hcall).1

/-- Behind a call that looks at the rules, their number as last seen stays right. -/
theorem rulesLoaded?_serveAll (p : Processor) (calls : List Call) :
    (p.serveAll calls).1.metrics.rulesLoaded? =
      if calls.any Call.seesRules then some (p.serveAll calls).1.rulebook.totalRules
      else p.metrics.rulesLoaded? := by
  induction calls generalizing p with
  | nil => rfl
  | cons call calls ih =>
    rw [serveAll, List.any_cons]
    by_cases hlater : calls.any Call.seesRules = true
    · rw [ih, if_pos hlater, hlater, Bool.or_true, if_pos rfl]
    · have hkept : ∀ later ∈ calls, later.seesRules = false := by simpa using hlater
      rw [ih, if_neg hlater, eq_false_of_ne_true hlater, Bool.or_false]
      by_cases hcall : call.seesRules = true
      · rw [if_pos hcall, rulebook_serveAll_of_not_seesRules _ hkept]
        exact p.rulesLoaded?_serve hcall
      · rw [if_neg hcall]
        exact (p.serve_of_not_seesRules (eq_false_of_ne_true hcall)).2

/-- The metrics add up: in every run of calls on a new processor each counter shows how many
messages came to its outcome, with the reason of the drop or the stage of the failure as its label;
together they show how many messages there were; the time was taken for each message that did not
fail; and once a call has looked at the rules, their number is the one that is listed. -/
theorem metrics_add_up (patterns : Pattern.Engine) (calls : List Call) :
    let r := (Processor.empty patterns).serveAll calls
    let metrics := r.1.metrics
    (∀ k : Verdict.Kind, metrics.sample k.counter = (r.2.map Verdict.kind).count k) ∧
    metrics.sample Metric.processed.name +
        (DropReason.all.map fun reason =>
          metrics.sample (Metric.dropped.labelled "reason" reason.label)).sum +
        (Stage.all.map fun stage =>
          metrics.sample (Metric.failed.labelled "stage" stage.name)).sum =
      (calls.filterMap Call.message?).length ∧
    metrics.sample Metric.duration.name = (r.2.map Verdict.kind).countP Verdict.Kind.isTimed ∧
    metrics.sample? Metric.rulesLoaded.name =
      if calls.any Call.seesRules then some r.1.rulebook.totalRules else none := by
  intro r metrics
  have hcount (k : Verdict.Kind) : metrics.sample k.counter = (r.2.map Verdict.kind).count k := by
    rw [Metrics.sample_counter]
    have h := counter_serveAll (Metrics.count_counter k) (Processor.empty patterns) calls
    have hzero : (Processor.empty patterns).metrics.count k = 0 := by cases k <;> rfl
    rw [hzero, Nat.zero_add] at h
    exact h
  refine ⟨hcount, ?_, ?_, ?_⟩
  · have hsum : (Verdict.Kind.all.map fun k => metrics.sample k.counter).sum =
        (calls.filterMap Call.message?).length := by
      simp only [hcount]
      rw [sum_count Verdict.Kind.count_all, List.length_map]
      exact (Processor.empty patterns).length_serveAll calls
    rw [← hsum, Verdict.Kind.all, List.map_cons, List.sum_cons, List.map_append, List.sum_append,
      List.map_map, List.map_map, Nat.add_assoc]
    rfl
  · rw [Metrics.sample_duration]
    have h := counter_serveAll Metrics.durations_counter (Processor.empty patterns) calls
    exact h.trans (Nat.zero_add _)
  · rw [Metrics.sample?_rulesLoaded]
    exact (Processor.empty patterns).rulesLoaded?_serveAll calls

/-- A message passes, and another one is dropped by the name that it has. -/
example :
    ((empty .standard).serveAll [.message .ascending .empty, .command (.dropName ""),
      .message .ascending .empty]).1.metrics.samples =
      [("ironmetric_processor_rules_loaded", 1),
        ("ironmetric_processor_messages_processed_total", 1),
        ("ironmetric_processor_messages_dropped_total\x7breason=name\x7d", 1),
        ("ironmetric_processor_processing_duration_seconds", 2)] := by
  decide +kernel

end Processor

end Telemetry
