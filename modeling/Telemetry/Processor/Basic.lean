import Telemetry.Processor.Metrics
import Telemetry.Rules.Configure

/-!
# Processors

A processor holds a rulebook, a pool of maps for the snapshots of messages, and metrics. It is
changed by commands, each of which is answered; a refused command changes no rule.
-/

namespace Telemetry

/-- A rulebook at work. -/
structure Processor where
  rulebook : Rulebook
  pool : Condition.SnapshotPool
  metrics : Metrics

/-- A change of the rules of a processor. -/
inductive Command where
  | setStages (names : List String)
  | dropName (name : String)
  | keepName (name : String)
  | dropType (name : String)
  | keepType (name : String)
  | addDropIf (condition : String)
  | removeDropIf (condition : String)
  | addRename (old new : String)
  | removeRename (old : String)
  | addRenameIf (condition name : String)
  | removeRenameIf (condition : String)
  | addEdit (e : Edit) (condition key value : String)
  | removeEdit (e : Edit) (condition : String)
  | addPrefix (condition symbol : String)
  | removePrefix (condition : String)
  | normalizeUnits (enabled : Bool)
  | addConstants (members : List (String × Json))
  | configure (config : RuleConfig)

/-- The answer to a command. -/
inductive Reply where
  | done
  /-- Whether there was something to remove. -/
  | removed (found : Bool)
  /-- How many constants were added. -/
  | added (n : Nat)
  | badRule (fault : RuleFault)
  | badConfig (fault : ConfigFault)
  deriving DecidableEq, Repr

namespace Rulebook

/-- The rulebook after a change that may be refused. -/
def orRefuse (b : Rulebook) : Except RuleFault Rulebook → Rulebook × Reply
  | .ok b => (b, .done)
  | .error fault => (b, .badRule fault)

/-- The rulebook after a removal. -/
def afterRemoval (result : Rulebook × Bool) : Rulebook × Reply := (result.1, .removed result.2)

/-- The rulebook after a command, and the answer. -/
def perform (b : Rulebook) : Command → Rulebook × Reply
  | .setStages names => b.orRefuse (b.setStages names)
  | .dropName name => (b.dropName name, .done)
  | .keepName name => afterRemoval (b.keepName name)
  | .dropType name => b.orRefuse (b.dropType name)
  | .keepType name =>
    match MessageType.ofName? name with
    | some type => afterRemoval (b.keepType type)
    | none => (b, .removed false)
  | .addDropIf condition => b.orRefuse (b.addDropIf condition)
  | .removeDropIf condition => afterRemoval (b.removeDropIf condition)
  | .addRename old new => (b.addRename old new, .done)
  | .removeRename old => afterRemoval (b.removeRename old)
  | .addRenameIf condition name => b.orRefuse (b.addRenameIf condition name)
  | .removeRenameIf condition => afterRemoval (b.removeRenameIf condition)
  | .addEdit e condition key value => b.orRefuse (b.addEdit e condition key value)
  | .removeEdit e condition => afterRemoval (b.removeEdit e condition)
  | .addPrefix condition symbol => b.orRefuse (b.addPrefix condition symbol)
  | .removePrefix condition => afterRemoval (b.removePrefix condition)
  | .normalizeUnits enabled => ({ b with normalizesUnits := enabled }, .done)
  | .addConstants members =>
    let (b, n) := b.addConstants members
    (b, .added n)
  | .configure config =>
    match b.configure config with
    | .ok b => (b, .done)
    | .error fault => (b, .badConfig fault)

end Rulebook

/-- Whether a command looks at the rules at all: the name of no message type is turned away before
that. -/
def Command.touchesRules : Command → Bool
  | keepType name => (MessageType.ofName? name).isSome
  | _ => true

namespace Processor

/-- The name of a processor among the handlers of messages. -/
def handlerName : String := "message_processor"

/-- A processor without rules. -/
def empty (patterns : Pattern.Engine) : Processor := ⟨.empty patterns, .standard, .empty⟩

/-- Performs a command; the number of rules is seen afterwards. -/
def perform (p : Processor) (c : Command) : Processor × Reply :=
  let (b, reply) := p.rulebook.perform c
  let metrics := if c.touchesRules then p.metrics.recordRules b.totalRules else p.metrics
  ({ p with rulebook := b, metrics := metrics }, reply)

/-- A processor with the rules of a document. -/
def ofConfig (patterns : Pattern.Engine) (c : RuleConfig) : Except ConfigFault Processor :=
  match (empty patterns).perform (.configure c) with
  | (_, .badConfig fault) => .error fault
  | (p, _) => .ok p

/-- Processes a message in maps that are borrowed from the pool, and counts it; the orders in which
the entries of the message are visited are given. -/
def process (p : Processor) (order : Message.Order) (m : Message) : Processor × Verdict :=
  let (maps, pool) := p.pool.acquire
  let snapshot := Condition.Snapshot.fill order m maps
  let verdict := p.rulebook.processOn snapshot
  ({ p with pool := pool.release snapshot.maps, metrics := p.metrics.record verdict }, verdict)

end Processor

namespace Verdict

/-- The message that leaves the processor. A message that failed leaves as far as it got, if that is
wanted. -/
def forwarded? (v : Verdict) (onError : Bool) : Option Message :=
  match v with
  | forward m => some m
  | drop _ => none
  | fail f => if onError then some f.partialMessage else none

/-- Why the message failed. -/
def failure? : Verdict → Option String
  | fail f => some f.message
  | _ => none

end Verdict

end Telemetry
