import Telemetry.Rules.Rulebook
import Telemetry.Units.Conversion

/-!
# Applying rules

A message passes through the stages of a rulebook. All conditions are judged on the message as it
came in; what the rules do builds up. A fault ends the way of a message, which then is as far as it
got.
-/

namespace Telemetry

/-- Why a message is dropped. -/
inductive DropReason where
  | name | type | condition
  deriving DecidableEq, Repr

/-- The name of a reason. -/
def DropReason.label : DropReason → String
  | name => "name"
  | type => "type"
  | condition => "condition"

/-- Why a stage fails. -/
inductive FailureCause where
  | evaluation (fault : Condition.RuntimeFault)
  /-- A rule would take away a field that decides the type of the message. -/
  | protectedField (key : String)
  deriving DecidableEq, Repr

/-- The cause as a phrase. -/
def FailureCause.message : FailureCause → String
  | evaluation fault => s!"failed to evaluate: {fault.report}"
  | protectedField key => s!"cannot delete protected fields: '{key}'"

/-- Decides whether a condition holds. -/
abbrev Judge := Condition.Program → Except Condition.RuntimeFault Bool

/-- What a stage makes of a message. -/
inductive StageResult where
  | next (m : Message)
  | drop (reason : DropReason)
  | failed (cause : FailureCause) (partialMessage : Message)

/-- Applies the rules whose conditions hold, one after the other. A rule that asks for a protected
field is left out; the first such field fails the stage in the end. A condition without truth value
fails it at once. -/
def applyRules {α : Type} (judge : Judge) (protects : α → Option String)
    (apply : α → Message → Message) : Option String → List (Rule α) → Message → StageResult
  | none, [], m => .next m
  | some key, [], m => .failed (.protectedField key) m
  | refused, r :: rest, m =>
    match judge r.condition with
    | .error fault => .failed (.evaluation fault) m
    | .ok false => applyRules judge protects apply refused rest m
    | .ok true =>
      match protects r.action with
      | some key => applyRules judge protects apply (refused <|> some key) rest m
      | none => applyRules judge protects apply refused rest (apply r.action m)

namespace Message

/-- The meta key of the name that a message had before. -/
def oldNameKey : String := "oldname"

/-- The key of the unit of a message, in its meta entries or its tags. -/
def unitKey : String := "unit"

/-- Renames the message and notes its old name. -/
def rename (m : Message) (name : String) : Message :=
  { m with name := name, metadata := m.metadata.insert oldNameKey m.name }

/-- Where the unit of the message is, and what it is. -/
def unit? (m : Message) : Option (Location × UnitOfMeasure) :=
  match m.metadata[unitKey]? with
  | some raw => some (.metadata, .parse raw)
  | none => m.tags[unitKey]?.map fun raw => (.tags, .parse raw)

/-- Writes the unit of a metric in its normal text. -/
def normalizeUnit (m : Message) : Message :=
  if m.type = .metric then
    match m.unit? with
    | some (place, u) => if u.isKnown then place.insert m unitKey u.short else m
    | none => m
  else m

/-- Converts the value of the message to its unit with another prefix, if it has a unit and a
numeric value. -/
def changePrefix (target : Prefix) (m : Message) : Message :=
  match m.unit? with
  | none => m
  | some (place, u) =>
    if u.isKnown then
      let v := u.withPrefix target
      match Conversion.between u v, m.fields["value"]?.bind FieldValue.toFloat? with
      | .ok conversion, some x =>
        place.insert { m with fields := m.fields.insert "value" (.float (conversion.apply x)) }
          unitKey v.short
      | _, _ => m
    else m

/-- Moves an entry. An empty target key stands for the same key. -/
def moveEntry (source target : Location) (kv : KeyValue) (m : Message) : Message :=
  match source.get? m kv.key with
  | none => m
  | some s => target.insert (source.erase m kv.key) (if kv.value == "" then kv.key else kv.value) s

end Message

namespace Edit

/-- The key that an edit must not take away. -/
def protectedKey? (e : Edit) (kv : KeyValue) : Option String :=
  match e with
  | delete .fields | move .fields _ => if isReserved kv.key then some kv.key else none
  | _ => none

/-- Edits an entry. -/
def apply (e : Edit) (kv : KeyValue) (m : Message) : Message :=
  match e with
  | add l => l.insert m kv.key kv.value
  | delete l => l.erase m kv.key
  | move source target => m.moveEntry source target kv

end Edit

namespace Rulebook

/-- Drops a message if one of the conditions holds. -/
def judgeDrops (judge : Judge) : List (Rule PUnit) → Message → StageResult
  | [], m => .next m
  | r :: rest, m =>
    match judge r.condition with
    | .error fault => .failed (.evaluation fault) m
    | .ok true => .drop .condition
    | .ok false => judgeDrops judge rest m

/-- Applies the rules of one stage. -/
def runStage (b : Rulebook) (judge : Judge) (s : Stage) (m : Message) : StageResult :=
  match s with
  | .dropByName => if b.droppedNames.contains m.name then .drop .name else .next m
  | .dropByType => if b.droppedTypes.contains m.type then .drop .type else .next m
  | .dropIf => judgeDrops judge b.dropIf m
  | .rename =>
    match b.renames[m.name]? with
    | some name => .next (m.rename name)
    | none => .next m
  | .renameIf =>
    applyRules judge (fun _ => none) (fun name m => m.rename name) none b.renameIf m
  | .changeUnitPrefix =>
    if m.type = .metric then
      applyRules judge (fun _ => none) Message.changePrefix none b.prefixes m
    else .next m
  | .normalizeUnit => .next (if b.normalizesUnits then m.normalizeUnit else m)
  | s =>
    match s.edit? with
    | some e => applyRules judge e.protectedKey? e.apply none (b.edits e) m
    | none => .next m

end Rulebook

/-- A stage that failed, and the message as it was then. -/
structure Failure where
  stage : Stage
  cause : FailureCause
  partialMessage : Message

/-- The failure as a sentence. -/
def Failure.message (f : Failure) : String := s!"stage '{f.stage.name}': {f.cause.message}"

/-- What becomes of a message. -/
inductive Verdict where
  | forward (m : Message)
  | drop (reason : DropReason)
  | fail (f : Failure)

namespace Rulebook

/-- Takes a message through stages. -/
def runStages (b : Rulebook) (judge : Judge) : List Stage → Message → Verdict
  | [], m => .forward m
  | s :: rest, m =>
    match b.runStage judge s m with
    | .next m => runStages b judge rest m
    | .drop reason => .drop reason
    | .failed cause partialMessage => .fail ⟨s, cause, partialMessage⟩

/-- Judges conditions on a snapshot. -/
def judgeOn (snapshot : Condition.Snapshot) : Judge := fun p => p.holds snapshot.scope

/-- Takes a message through all stages, in the order of the rulebook; its snapshot is given. -/
def processOn (b : Rulebook) (snapshot : Condition.Snapshot) : Verdict :=
  b.runStages (judgeOn snapshot) b.stages snapshot.message

/-- Takes a message through all stages, given the orders in which its entries are visited. -/
def process (b : Rulebook) (order : Message.Order) (m : Message) : Verdict :=
  b.processOn (.ofMessage order m)

end Rulebook

end Telemetry
