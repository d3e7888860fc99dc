import Telemetry.CommandLine.Execution
import Telemetry.Proofs.Distinct
import Telemetry.Proofs.Processor.Calls
import Telemetry.Proofs.Text.Lines
import Telemetry.Proofs.Text.Trimming

/-!
# What comes of the lines of a run

A run hands the messages of its lines to the processor, one after the other, and its summary and its
output are what the lines and the verdicts come to: every line that is not blank is counted once,
and every message that is written is a verdict that was counted. The time at which a line is read
and the orders in which the entries of its message are visited are those of its moment. Two runs one
after the other add up, where the second one has the moments that follow those of the first.
-/

namespace Telemetry

/-! ## Lines and verdicts -/

section Timed

variable {α β : Type} (moments : Nat → Moment)

/-- Items behind others have the later moments. -/
theorem timed_append (items items' : List α) :
    timed moments (items ++ items') =
      timed moments items ++ timed (fun i => moments (i + items.length)) items' :=
  List.mapIdx_append

/-- Items have the same moments before and after they are mapped. -/
theorem timed_map (f : α → β) (items : List α) :
    timed moments (items.map f) = (timed moments items).map (Prod.map id f) := by
  apply List.ext_getElem?
  intro i
  simp only [timed, List.getElem?_mapIdx, List.getElem?_map, Option.map_map]
  rfl

/-- The moments do not change what is read. -/
theorem map_snd_timed (items : List α) : (timed moments items).map Prod.snd = items := by
  apply List.ext_getElem?
  intro i
  simp only [timed, List.getElem?_mapIdx, List.getElem?_map, Option.map_map]
  exact congrFun Option.map_id _

end Timed

namespace Message

/-- The message that a line holds at its moment, if it is not blank and holds one. -/
def ofLine? (c : Codec) (line : Moment × String) : Option (Moment × Message) :=
  if Text.allBlank line.2 then none
  else (ofJson? c (Text.trim line.2) line.1.time).map fun m => (line.1, m)

variable {c : Codec} {line : Moment × String}

/-- A blank line holds no message. -/
theorem ofLine?_of_allBlank (h : Text.allBlank line.2 = true) : ofLine? c line = none := by
  rw [ofLine?, if_pos h]

/-- A line that is not blank holds what is read from it. -/
theorem ofLine?_of_not_allBlank (h : Text.allBlank line.2 = false) :
    ofLine? c line = (ofJson? c (Text.trim line.2) line.1.time).map fun m => (line.1, m) := by
  rw [ofLine?, h, if_neg Bool.false_ne_true]

/-- A line that holds a message is not blank. -/
theorem allBlank_of_ofLine? {brought : Moment × Message} (h : ofLine? c line = some brought) :
    Text.allBlank line.2 = false := by
  by_cases hblank : Text.allBlank line.2 = true
  · exact absurd h (by simp [ofLine?_of_allBlank hblank])
  · exact eq_false_of_ne_true hblank

/-- Whether a line holds something, but no message. -/
def isMalformed (c : Codec) (line : Moment × String) : Bool :=
  !Text.allBlank line.2 && (ofLine? c line).isNone

/-- Every line that is not blank holds a message or is malformed. -/
theorem countP_not_allBlank (c : Codec) (lines : List (Moment × String)) :
    (lines.countP fun line => !Text.allBlank line.2) =
      lines.countP (isMalformed c) + (lines.filterMap (ofLine? c)).length := by
  induction lines with
  | nil => rfl
  | cons line lines ih =>
    rw [List.countP_cons, List.countP_cons, ih, List.filterMap_cons, isMalformed]
    by_cases hblank : Text.allBlank line.2 = true
    · simp [hblank, ofLine?_of_allBlank hblank]
    · cases ofLine? c line with
      | none =>
        simp [hblank]
        omega
      | some brought =>
        simp [hblank]
        omega

end Message

/-- The message that failed, as far as it got. -/
def Verdict.partial? : Verdict → Option Message
  | fail f => some f.partialMessage
  | _ => none

namespace RunOptions

/-- How a message ends in a run. -/
inductive Ending where
  | processed | dropped | failed | skipped
  deriving DecidableEq

/-- All endings. -/
def Ending.all : List Ending := [processed, dropped, failed, skipped]

/-- Every ending is listed once. -/
theorem Ending.count_all (e : Ending) : all.count e = 1 := by
  cases e <;> rfl

variable (o : RunOptions)

/-- Whether a message can be written. -/
def canWrite (m : Message) : Bool := (o.encode? .ascending m).isSome

/-- Whether a message can be written does not depend on the orders in which its entries are
visited. -/
theorem isSome_encode? (order : Message.Order) (m : Message) :
    (o.encode? order m).isSome = o.canWrite m := by
  simp only [canWrite, encode?]
  split
  · rfl
  · cases o.format with
    | json => simp only [Option.isSome_some]
    | line => rfl

/-- How a message ends, by what became of it. -/
def ending : Verdict → Ending
  | .forward m => if o.canWrite m then .processed else .skipped
  | .drop _ => .dropped
  | .fail _ => .failed

/-- What is written for a message, by what became of it and by the orders in which the entries are
visited. -/
def written? (order : Message.Order) (v : Verdict) : Option String :=
  (v.forwarded? o.forwardsOnError).bind (o.encode? order)

/-- A message is written if it is processed, or if it failed, may be written as far as it got, and
something of it can be. -/
theorem isSome_written? (order : Message.Order) (v : Verdict) :
    (o.written? order v).isSome =
      (o.ending v == .processed || (o.forwardsOnError && v.partial?.any o.canWrite)) := by
  cases v with
  | forward m =>
    have hwritten : o.written? order (.forward m) = o.encode? order m := rfl
    rw [hwritten, isSome_encode?, ending]
    cases o.canWrite m <;> simp [Verdict.partial?]
  | drop reason => simp [written?, ending, Verdict.forwarded?, Verdict.partial?]
  | fail f =>
    cases ho : o.forwardsOnError <;>
      simp [written?, ending, Verdict.forwarded?, Verdict.partial?, ho, isSome_encode?]

/-- No message is both processed and failed. -/
theorem partial?_of_ending {v : Verdict} (h : o.ending v = .processed) : v.partial? = none := by
  cases v with
  | fail f => exact absurd h (by simp [ending])
  | _ => rfl

/-- What is written for messages, one after the other. -/
def outputs (orders : List Message.Order) (vs : List Verdict) : List String :=
  (orders.zip vs).filterMap fun outcome => o.written? outcome.1 outcome.2

/-- What is written for the first message stands in front of the others. -/
theorem outputs_cons (order : Message.Order) (orders : List Message.Order) (v : Verdict)
    (vs : List Verdict) :
    o.outputs (order :: orders) (v :: vs) = (o.written? order v).toList ++ o.outputs orders vs := by
  rw [outputs, List.zip_cons_cons, List.filterMap_cons]
  cases o.written? order v <;> rfl

/-- Of a single message, what its verdict says is written. -/
theorem outputs_singleton (order : Message.Order) (v : Verdict) :
    o.outputs [order] [v] = (o.written? order v).toList := by
  rw [outputs_cons]
  exact List.append_nil _

/-- Messages in two parts are written as all of them are. -/
theorem outputs_append {orders orders' : List Message.Order} {vs vs' : List Verdict}
    (h : orders.length = vs.length) :
    o.outputs (orders ++ orders') (vs ++ vs') = o.outputs orders vs ++ o.outputs orders' vs' := by
  rw [outputs, List.zip_append h, List.filterMap_append]
  rfl

/-- What is written is what is processed, and with it what failed and can be written, if that is
wanted. -/
theorem length_outputs {orders : List Message.Order} {vs : List Verdict}
    (h : orders.length = vs.length) :
    (o.outputs orders vs).length =
      (vs.map o.ending).count .processed +
        if o.forwardsOnError then vs.countP fun v => v.partial?.any o.canWrite else 0 := by
  induction vs generalizing orders with
  | nil => simp [outputs]
  | cons v vs ih =>
    obtain ⟨order, orders, rfl⟩ := List.exists_cons_of_length_eq_add_one h
    have hrest := ih (Nat.succ.inj h)
    have hwritten := o.isSome_written? order v
    rw [outputs_cons, List.length_append, hrest, Option.length_toList, hwritten]
    simp only [List.countP_cons, List.map_cons, List.count_cons]
    by_cases hv : o.ending v = .processed
    · simp [hv, o.partial?_of_ending hv]
      omega
    · cases o.forwardsOnError with
      | false => simp [hv]
      | true =>
        simp [hv]
        omega

end RunOptions

/-! ## Summaries -/

namespace RunSummary

/-- What lines and the verdicts on their messages come to. -/
def tally (o : RunOptions) (lines : List (Moment × String)) (vs : List Verdict) :
    RunSummary where
  read := lines.countP fun line => !Text.allBlank line.2
  processed := (vs.map o.ending).count .processed
  dropped := (vs.map o.ending).count .dropped
  errors := (vs.map o.ending).count .failed
  malformed := lines.countP (Message.isMalformed o.codec)
  skipped := (vs.map o.ending).count .skipped

variable (o : RunOptions) {lines lines' : List (Moment × String)} {vs vs' : List Verdict}

/-- Lines and verdicts in two parts come to the sum of both. -/
theorem tally_append :
    tally o (lines ++ lines') (vs ++ vs') = (tally o lines vs).add (tally o lines' vs') := by
  simp [tally, add]

/-- Sums of summaries may be put together from either end. -/
theorem add_assoc (r s t : RunSummary) : (r.add s).add t = r.add (s.add t) := by
  simp [add, Nat.add_assoc]

@[simp] theorem zero_add (s : RunSummary) : zero.add s = s := by
  simp [add, zero]

/-- Where there is a verdict for each message, nothing that is read gets lost. -/
theorem tally_adds_up (h : vs.length = (lines.filterMap (Message.ofLine? o.codec)).length) :
    let s := tally o lines vs
    s.read = s.processed + s.dropped + s.errors + s.malformed + s.skipped := by
  intro s
  have hendings := sum_count RunOptions.Ending.count_all (vs.map o.ending)
  have hread := Message.countP_not_allBlank o.codec lines
  rw [List.length_map, h] at hendings
  simp only [RunOptions.Ending.all, List.map_cons, List.map_nil, List.sum_cons, List.sum_nil]
    at hendings
  simp only [s, tally]
  omega

end RunSummary

/-! ## Runs -/

/-- What comes of a message is what the verdict on it comes to. -/
theorem RunOptions.write_eq {o : RunOptions} {line : Moment × String}
    {brought : Moment × Message} (h : Message.ofLine? o.codec line = some brought)
    (order : Message.Order) (v : Verdict) :
    o.write order v = ((o.written? order v).toList, .tally o [line] [v]) := by
  have hblank := Message.allBlank_of_ofLine? h
  have hmalformed : Message.isMalformed o.codec line = false := by simp [Message.isMalformed, h]
  cases v with
  | forward m =>
    have hwritten : o.written? order (.forward m) = o.encode? order m := rfl
    have hcan := o.isSome_encode? order m
    rw [write, hwritten]
    cases hm : o.encode? order m with
    | none =>
      rw [hm, Option.isSome_none] at hcan
      simp [RunSummary.tally, ending, RunSummary.zero, ← hcan, hblank, hmalformed]
    | some text =>
      rw [hm, Option.isSome_some] at hcan
      simp [RunSummary.tally, ending, RunSummary.zero, ← hcan, hblank, hmalformed]
  | drop reason =>
    simp [write, written?, Verdict.forwarded?, RunSummary.tally, ending, RunSummary.zero, hblank,
      hmalformed]
  | fail f =>
    simp [write, written?, RunSummary.tally, ending, RunSummary.zero, hblank, hmalformed]

/-- What comes of a run and of one that goes on where it ended. -/
def RunResult.andThen (r r' : RunResult) : RunResult :=
  ⟨r'.processor, r.output ++ r'.output, r.summary.add r'.summary, r'.fault?⟩

namespace Processor

open RunSummary (tally)

variable {p : Processor} {o : RunOptions}

/-- What comes of a line is what its message comes to, if it holds one. -/
theorem runLine_eq (p : Processor) (o : RunOptions) (line : Moment × String) :
    let messages := (Message.ofLine? o.codec line).toList
    let served := p.serveAll (messages.map fun x => .message x.1.seen x.2)
    p.runLine o line.1 line.2 =
      ⟨served.1, o.outputs (messages.map (·.1.written)) served.2, tally o [line] served.2⟩ := by
  intro messages served
  rw [runLine, Text.isEmpty_trim]
  cases hblank : Text.allBlank line.2 with
  | true =>
    have hnone := Message.ofLine?_of_allBlank (c := o.codec) hblank
    have hserved : served = (p, []) := by simp [served, messages, hnone, serveAll]
    rw [hserved]
    simp [tally, RunOptions.outputs, Message.isMalformed, RunSummary.zero, hblank]
  | false =>
    have hline := Message.ofLine?_of_not_allBlank (c := o.codec) hblank
    cases hm : Message.ofJson? o.codec (Text.trim line.2) line.1.time with
    | none =>
      have hnone : Message.ofLine? o.codec line = none := by rw [hline, hm, Option.map_none]
      have hserved : served = (p, []) := by simp [served, messages, hnone, serveAll]
      rw [hserved]
      simp [tally, RunOptions.outputs, Message.isMalformed, RunSummary.zero, hblank, hnone]
    | some m =>
      have hsome : Message.ofLine? o.codec line = some (line.1, m) := by
        rw [hline, hm, Option.map_some]
      have hmessages : messages = [(line.1, m)] := by simp [messages, hsome]
      have hserved : served = ((p.process line.1.seen m).1, [(p.process line.1.seen m).2]) := by
        simp [served, hmessages, serveAll, serve, Call.message?]
      rw [hserved, hmessages]
      simp only [RunOptions.write_eq hsome, List.map_cons, List.map_nil,
        RunOptions.outputs_singleton, Bool.false_eq_true, if_false]

/-- What comes of lines is what their messages come to. -/
theorem run_texts (p : Processor) (o : RunOptions) (lines : List (Moment × String)) :
    let messages := lines.filterMap (Message.ofLine? o.codec)
    let served := p.serveAll (messages.map fun x => .message x.1.seen x.2)
    p.run o (lines.map (Prod.map id .ok)) =
      ⟨served.1, o.outputs (messages.map (·.1.written)) served.2, tally o lines served.2,
        none⟩ := by
  induction lines generalizing p with
  | nil => rfl
  | cons line lines ih =>
    have hmessages : (line :: lines).filterMap (Message.ofLine? o.codec) =
        (Message.ofLine? o.codec line).toList ++ lines.filterMap (Message.ofLine? o.codec) := by
      cases hm : Message.ofLine? o.codec line <;> simp [hm]
    have hlength := p.length_serveAll_messages (·.1.seen) (·.2)
      (Message.ofLine? o.codec line).toList
    intro messages served
    rw [List.map_cons, Prod.map, run, id, p.runLine_eq o line, ih]
    simp only [served, messages, hmessages, List.map_append, serveAll_append]
    rw [o.outputs_append (by rw [List.length_map, hlength]), ← RunSummary.tally_append,
      List.singleton_append]

/-- A line that is text does not end a run. -/
theorem fault?_run_cons (now : Moment) (text : String)
    (lines : List (Moment × Except Text.Utf8Fault String)) :
    (p.run o ((now, .ok text) :: lines)).fault? =
      ((p.runLine o now text).processor.run o lines).fault? := by
  rw [run]

/-- A run that goes through to the end has read texts. -/
theorem exists_texts_of_run {lines : List (Moment × Except Text.Utf8Fault String)}
    (h : (p.run o lines).fault? = none) :
    ∃ texts : List String, lines.map Prod.snd = texts.map .ok := by
  induction lines generalizing p with
  | nil => exact ⟨[], rfl⟩
  | cons line lines ih =>
    obtain ⟨now, line⟩ := line
    cases line with
    | error fault => exact absurd h (by simp [run])
    | ok text =>
      rw [fault?_run_cons] at h
      obtain ⟨texts, htexts⟩ := ih h
      refine ⟨text :: texts, ?_⟩
      rw [List.map_cons, List.map_cons, htexts]

/-- A run that goes through to the end goes on with further lines where it ended. -/
theorem run_append {lines : List (Moment × Except Text.Utf8Fault String)}
    (h : (p.run o lines).fault? = none)
    (lines' : List (Moment × Except Text.Utf8Fault String)) :
    p.run o (lines ++ lines') =
      (p.run o lines).andThen ((p.run o lines).processor.run o lines') := by
  induction lines generalizing p with
  | nil => simp [run, RunResult.andThen]
  | cons line lines ih =>
    obtain ⟨now, line⟩ := line
    cases line with
    | error fault => exact absurd h (by simp [run])
    | ok text =>
      rw [fault?_run_cons] at h
      have hrest := ih h
      rw [List.cons_append, run, hrest]
      simp only [RunResult.andThen, run, List.append_assoc, RunSummary.add_assoc]

end Processor

/-- The command succeeds exactly if the run goes through to the end and nothing went wrong on the
way. -/
theorem CommandLine.processMessages_fault? (p : Processor) (o : RunOptions) (bs : List UInt8)
    (moments : Nat → Moment) (format : OutputFormat) :
    (processMessages p o bs moments format).fault? = none ↔
      (p.runBytes o bs moments).fault? = none ∧
        (p.runBytes o bs moments).summary.isComplete = true := by
  rw [processMessages]
  cases (p.runBytes o bs moments).fault? with
  | some fault => simp
  | none => simp

namespace Processor

/-- A run loses and invents nothing, whatever the moments of its lines are. Where it goes through to
the end, every message of a line gets one verdict, and the summary and the output are what the lines
and the verdicts come to: lines that are not blank are read, and each of them is counted once; what
is written is what was processed and, if that is wanted, what failed and can be written still.
Behind a line feed another run goes on, and both add up. The command succeeds exactly if nothing
failed, was malformed or was skipped. -/
theorem run_accounted_for (p : Processor) (o : RunOptions) {bs : List UInt8}
    {moments : Nat → Moment} (h : (p.runBytes o bs moments).fault? = none) :
    let r := p.runBytes o bs moments
    let s := r.summary
    (∃ (texts : List String) (vs : List Verdict),
      let lines := timed moments texts
      let messages := lines.filterMap (Message.ofLine? o.codec)
      (Text.lines bs).map Text.decode = texts.map .ok ∧
      p.serveAll (messages.map fun x => .message x.1.seen x.2) = (r.processor, vs) ∧
      (p.Reachable → vs = messages.map fun x => p.rulebook.process x.1.seen x.2) ∧
      s = RunSummary.tally o lines vs ∧
      s.read = (texts.countP fun text => !Text.allBlank text) ∧
      r.output = o.outputs (messages.map (·.1.written)) vs ∧
      r.output.length = s.processed +
        if o.forwardsOnError then vs.countP fun v => v.partial?.any o.canWrite else 0) ∧
    s.read = s.processed + s.dropped + s.errors + s.malformed + s.skipped ∧
    (bs = [] ∨ bs.getLast? = some 10 → ∀ bs',
      p.runBytes o (bs ++ bs') moments =
        r.andThen (r.processor.runBytes o bs' fun i => moments (i + (Text.lines bs).length))) ∧
    ∀ format, (CommandLine.processMessages p o bs moments format).fault? = none ↔
      s.errors = 0 ∧ s.malformed = 0 ∧ s.skipped = 0 := by
  intro r s
  obtain ⟨texts, htexts⟩ := exists_texts_of_run h
  rw [map_snd_timed] at htexts
  let lines := timed moments texts
  let messages := lines.filterMap (Message.ofLine? o.codec)
  let served := p.serveAll (messages.map fun x => .message x.1.seen x.2)
  have hrun : r =
      ⟨served.1, o.outputs (messages.map (·.1.written)) served.2, .tally o lines served.2,
        none⟩ := by
    rw [← run_texts, ← timed_map, ← htexts]
    rfl
  have hsummary : s = .tally o lines served.2 := congrArg RunResult.summary hrun
  have houtput : r.output = o.outputs (messages.map (·.1.written)) served.2 :=
    congrArg RunResult.output hrun
  have hverdicts : served.2.length = messages.length := p.length_serveAll_messages _ _ messages
  refine ⟨⟨texts, served.2, htexts, ?_, ?_, hsummary, ?_, houtput, ?_⟩, ?_, ?_, ?_⟩
  · exact Prod.ext (congrArg RunResult.processor hrun).symm rfl
  · intro hreachable
    exact hreachable.serveAll_messages _ _ messages
  · rw [hsummary, ← map_snd_timed moments texts, List.countP_map]
    rfl
  · rw [houtput, hsummary]
    exact o.length_outputs (by rw [List.length_map, hverdicts])
  · rw [hsummary]
    exact RunSummary.tally_adds_up o hverdicts
  · intro hend bs'
    rw [runBytes, Text.lines_append hend, List.map_append, timed_append, List.length_map]
    exact run_append h _
  · intro format
    rw [CommandLine.processMessages_fault?, RunSummary.isComplete]
    simp [h, r, s, and_assoc]

/-- Of these lines one is no message and one is blank; one message is dropped, one fails and is
written as far as it got, and one is processed. -/
theorem run_accounted_for_each_ending :
    let p := (((empty .standard).perform (.dropName "noisy")).1.perform
      (.addEdit (.delete .fields) "name == 'odd'" "value" "")).1
    let o : RunOptions := ⟨.json, [], true, .standard⟩
    let bs := Text.bytes ("\x7b\"name\":\"noisy\"\x7d\n\nnoise\n\x7b\"name\":\"even\"\x7d\n" ++
      "\x7b\"name\":\"odd\",\"fields\":\x7b\"value\":1\x7d\x7d\n")
    let r := p.runBytes o bs
    r.fault? = none ∧ r.summary = ⟨4, 1, 1, 1, 1, 0⟩ ∧ r.output.length = 2 ∧
      (∀ bs', p.runBytes o (bs ++ bs') = r.andThen (r.processor.runBytes o bs')) ∧
      ∀ format, (CommandLine.processMessages p o bs (fun _ => .epoch) format).fault? ≠ none := by
  intro p o bs r
  have hfault : (p.runBytes o bs).fault? = none := by decide +kernel
  have hsummary : r.summary = ⟨4, 1, 1, 1, 1, 0⟩ := by decide +kernel
  have hlength : r.output.length = 2 := by decide +kernel
  have hend : bs.getLast? = some 10 := by decide +kernel
  obtain ⟨-, -, hnext, hcommand⟩ := run_accounted_for p o hfault
  refine ⟨hfault, hsummary, hlength, hnext (.inr hend), ?_⟩
  intro format hsuccess
  have hclean := (hcommand format).mp hsuccess
  rw [hsummary] at hclean
  exact absurd hclean.1 (by decide)

end Processor

end Telemetry
