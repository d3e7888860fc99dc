import Telemetry.KeyMap
import Telemetry.Message.FieldValue
import Telemetry.Timestamp.Basic

/-!
# Messages

A message is one observation: a name, tags that identify its source, meta entries that describe it,
fields with what was observed, and a timestamp. Four field keys are reserved; the first of them
that is present says what kind of message it is.
-/

namespace Telemetry

/-- The kinds of messages, in the order in which they are recognised. -/
inductive MessageType where
  | metric | event | control | log | unknown
  deriving DecidableEq, Repr

namespace MessageType

/-- The name of the kind. -/
def name : MessageType → String
  | metric => "metric"
  | event => "event"
  | control => "control"
  | log => "log"
  | unknown => "unknown"

/-- The kind of a name; `unknown` is no name to ask for. -/
def ofName? : String → Option MessageType
  | "metric" => some metric
  | "event" => some event
  | "control" => some control
  | "log" => some log
  | _ => none

/-- The field key that makes a message one of this kind. -/
def reservedKey? : MessageType → Option String
  | metric => some "value"
  | event => some "event"
  | control => some "control"
  | log => some "log"
  | unknown => none

end MessageType

/-- The field keys that decide the kind of a message. -/
def reservedKeys : List String := ["value", "event", "control", "log"]

/-- Whether a field of this key decides the kind of a message. -/
def isReserved (key : String) : Bool := reservedKeys.contains key

/-- One observation. -/
structure Message where
  name : String
  /-- Identifies the source. -/
  tags : KeyMap String
  /-- Describes the observation. -/
  metadata : KeyMap String
  /-- What was observed. -/
  fields : KeyMap FieldValue
  timestamp : Timestamp

namespace Message

/-- The orders in which the maps of a message visit their entries. -/
structure Order where
  tags : KeyMap.Order
  metadata : KeyMap.Order
  fields : KeyMap.Order

/-- All by ascending key. -/
def Order.ascending : Order := ⟨.ascending, .ascending, .ascending⟩

/-- The message without name and entries, at the epoch. -/
def empty : Message := ⟨"", ∅, ∅, ∅, .epoch⟩

/-- The kind of the message. -/
def type (m : Message) : MessageType :=
  if m.fields.contains "value" then .metric
  else if m.fields.contains "event" then .event
  else if m.fields.contains "control" then .control
  else if m.fields.contains "log" then .log
  else .unknown

/-- A message of the given kind with one field. -/
def single (name : String) (tags metadata : KeyMap String) (key : String) (value : FieldValue)
    (timestamp : Timestamp) : Message :=
  ⟨name, tags, metadata, (∅ : KeyMap FieldValue).insert key value, timestamp⟩

/-- The keys of the fields that are not finite, ascending. -/
def nonFiniteKeys (m : Message) : List String :=
  (m.fields.toList.filter fun entry => !entry.2.isFinite).map (·.1)

/-- The message without the fields that are not finite. -/
def withoutNonFinite (m : Message) : Message :=
  { m with fields := m.fields.filter fun _ v => v.isFinite }

end Message

end Telemetry
