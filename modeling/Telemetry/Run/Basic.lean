import Telemetry.Message.Json
import Telemetry.Message.LineProtocol
import Telemetry.Processor.Basic
import Telemetry.Text.Blank
import Telemetry.Text.Utf8

/-!
# Runs

A run reads one message a line, processes it and writes what is left of it. Blank lines are left
out; a line that is no message and a message that fails are counted and do not end the run.
-/

namespace Telemetry

/-- How messages are written. -/
inductive MessageFormat where
  | json | line
  deriving DecidableEq, Repr

/-- The options of a run. -/
structure RunOptions where
  format : MessageFormat
  /-- The meta entries that are written as tags in lines. -/
  metaAsTags : List String
  /-- Whether a message that failed is written as far as it got. -/
  forwardsOnError : Bool
  /-- The libraries with which messages are read and written. -/
  codec : Message.Codec

/-- What a run has counted. -/
structure RunSummary where
  /-- Lines that are not blank. -/
  read : Nat
  /-- Messages that passed all stages and were written. -/
  processed : Nat
  dropped : Nat
  /-- Messages that failed. -/
  errors : Nat
  /-- Lines that are no messages. -/
  malformed : Nat
  /-- Messages that passed all stages and cannot be written. -/
  skipped : Nat
  deriving DecidableEq, Repr

namespace RunSummary

/-- Nothing counted. -/
def zero : RunSummary := ⟨0, 0, 0, 0, 0, 0⟩

/-- The sums of two counts. -/
def add (s t : RunSummary) : RunSummary :=
  ⟨s.read + t.read, s.processed + t.processed, s.dropped + t.dropped, s.errors + t.errors,
    s.malformed + t.malformed, s.skipped + t.skipped⟩

/-- Whether every line was a message that passed or was dropped. -/
def isComplete (s : RunSummary) : Bool := s.errors == 0 && s.malformed == 0 && s.skipped == 0

end RunSummary

/-- What is written for a message, given the orders in which its entries are visited. Fields that
are not finite are left out; nothing is written if that leaves none, or if a line has no field at
all. -/
def RunOptions.encode? (o : RunOptions) (order : Message.Order) (m : Message) : Option String :=
  let finite := m.withoutNonFinite
  if !m.nonFiniteKeys.isEmpty && finite.fields.isEmpty then none
  else
    match o.format with
    | .json => some (finite.jsonText o.codec order)
    | .line => finite.line? o.metaAsTags

/-- What comes of a line. -/
structure LineResult where
  processor : Processor
  /-- What is written. -/
  output : List String
  summary : RunSummary

/-- What comes of a message, by what became of it. -/
def RunOptions.write (o : RunOptions) (order : Message.Order) (v : Verdict) :
    List String × RunSummary :=
  match v with
  | .forward m =>
    match o.encode? order m with
    | some s => ([s], { RunSummary.zero with read := 1, processed := 1 })
    | none => ([], { RunSummary.zero with read := 1, skipped := 1 })
  | .drop _ => ([], { RunSummary.zero with read := 1, dropped := 1 })
  | .fail _ =>
    (((v.forwarded? o.forwardsOnError).bind (o.encode? order)).toList,
      { RunSummary.zero with read := 1, errors := 1 })

/-- What a run finds at a line beside its text. None of it is in the hands of the run. -/
structure Moment where
  /-- The time at which the line is read. -/
  time : Timestamp
  /-- The orders in which the entries of the message are visited when it comes in. -/
  seen : Message.Order
  /-- The orders in which the entries are visited when the message is written. -/
  written : Message.Order

/-- At the epoch, with all entries by ascending key. -/
def Moment.epoch : Moment := ⟨.epoch, .ascending, .ascending⟩

/-- Processes a line. -/
def Processor.runLine (p : Processor) (o : RunOptions) (now : Moment) (line : String) :
    LineResult :=
  let line := Text.trim line
  if line.isEmpty then ⟨p, [], .zero⟩
  else
    match Message.ofJson? o.codec line now.time with
    | none => ⟨p, [], { RunSummary.zero with read := 1, malformed := 1 }⟩
    | some m =>
      let (p, v) := p.process now.seen m
      let (output, summary) := o.write now.written v
      ⟨p, output, summary⟩

/-- What comes of a run. -/
structure RunResult where
  processor : Processor
  output : List String
  summary : RunSummary
  /-- Why the run ended early. -/
  fault? : Option Text.Utf8Fault

/-- Processes lines, each at its moment; one that is no text ends the run. -/
def Processor.run (p : Processor) (o : RunOptions) :
    List (Moment × Except Text.Utf8Fault String) → RunResult
  | [] => ⟨p, [], .zero, none⟩
  | (_, .error fault) :: _ => ⟨p, [], .zero, some fault⟩
  | (now, .ok line) :: rest =>
    let first := p.runLine o now line
    let r := first.processor.run o rest
    ⟨r.processor, first.output ++ r.output, first.summary.add r.summary, r.fault?⟩

/-- Items with the moments at which they are read. -/
def timed {α : Type} (moments : Nat → Moment) (items : List α) : List (Moment × α) :=
  items.mapIdx fun i item => (moments i, item)

/-- Processes the lines of bytes. -/
def Processor.runBytes (p : Processor) (o : RunOptions) (bs : List UInt8)
    (moments : Nat → Moment := fun _ => .epoch) : RunResult :=
  p.run o (timed moments ((Text.lines bs).map Text.decode))

end Telemetry
