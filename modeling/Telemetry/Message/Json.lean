import Telemetry.Message.Basic
import Telemetry.Message.Codec

/-!
# Messages in JSON

A message is written as an object of its parts, in which the entries of the maps come in the order
in which the maps visit them. It is read from an object with at least a name, or from an array of
the parts in order, from the name on. What is not given is empty, and the message is of the time at
which it is read. Keys of the object that name no part are passed over, whatever stands behind them;
a part must not be given twice, while of a repeated entry the last one counts. How values and times
are texts is up to the libraries.
-/

namespace Telemetry.Message

/-- Entries as an object with a member for each of them. -/
def objectOf {α : Type} (write : α → Json) (entries : List (String × α)) : Json :=
  .object (entries.map fun entry => (entry.1, write entry.2))

section Texts

variable (c : Codec)

/-- The message in JSON. -/
def toJson (order : Order) (m : Message) : Json :=
  .object
    [("name", .string m.name), ("tags", objectOf .string (m.tags.entriesIn order.tags)),
      ("meta", objectOf .string (m.metadata.entriesIn order.metadata)),
      ("fields", objectOf FieldValue.toJson (m.fields.entriesIn order.fields)),
      ("timestamp", .string (c.time.print m.timestamp))]

/-- The message as a JSON text. -/
def jsonText (order : Order) (m : Message) : String := c.json.print (m.toJson c order)

/-- A string with a meaning. -/
def readText? : Json.Syntax → Option String
  | .string s => s
  | _ => none

/-- A field value: an integer, a number, a truth value or a string. -/
def readValue? : Json.Syntax → Option FieldValue
  | .number t => (c.json.number? t).map FieldValue.ofNumber
  | .bool b => some (.bool b)
  | .string s => s.map .string
  | _ => none

/-- The entries of an object; the last of a repeated key counts. -/
def readEntries? {α : Type} (read : Json.Syntax → Option α) : Json.Syntax → Option (KeyMap α)
  | .object members =>
    members.foldlM (fun map member => do
      let key ← member.1
      let value ← read member.2
      some (map.insert key value)) ∅
  | _ => none

/-- A timestamp. -/
def readTimestamp? (s : Json.Syntax) : Option Timestamp := (readText? s).bind c.time.read?

/-- The parts that have been read so far. -/
structure Parts where
  name : Option String
  tags : Option (KeyMap String)
  metadata : Option (KeyMap String)
  fields : Option (KeyMap FieldValue)
  timestamp : Option Timestamp

/-- Fills a part that must still be empty. -/
def fillPart? {α : Type} (slot : Option α) (value : Option α) : Option (Option α) :=
  match slot with
  | some _ => none
  | none => value.map some

/-- Reads one member of the object. -/
def Parts.read? (parts : Parts) (member : Option String × Json.Syntax) : Option Parts :=
  match member with
  | (none, _) => none
  | (some "name", s) =>
    (fillPart? parts.name (readText? s)).map fun v => { parts with name := v }
  | (some "tags", s) =>
    (fillPart? parts.tags (readEntries? readText? s)).map fun v => { parts with tags := v }
  | (some "meta", s) =>
    (fillPart? parts.metadata (readEntries? readText? s)).map fun v => { parts with metadata := v }
  | (some "fields", s) =>
    (fillPart? parts.fields (readEntries? (Message.readValue? c) s)).map
      fun v => { parts with fields := v }
  | (some "timestamp", s) =>
    (fillPart? parts.timestamp (readTimestamp? c s)).map fun v => { parts with timestamp := v }
  | (some _, _) => some parts

/-- The message of the parts: without a name there is none. -/
def Parts.message? (now : Timestamp) (parts : Parts) : Option Message :=
  parts.name.map fun name =>
    ⟨name, parts.tags.getD ∅, parts.metadata.getD ∅, parts.fields.getD ∅, parts.timestamp.getD now⟩

/-- Reads an item of an array, for which something else stands in where the array is too short. -/
def readItem? {α : Type} (read : Json.Syntax → Option α) (otherwise : α) :
    Option Json.Syntax → Option α
  | some item => read item
  | none => some otherwise

/-- The message that a JSON text denotes at a point in time. -/
def ofSyntax? (now : Timestamp) : Json.Syntax → Option Message
  | .object members =>
    (members.foldlM (Parts.read? c) ⟨none, none, none, none, none⟩).bind (Parts.message? now)
  | .array (name :: items) =>
    if items.length ≤ 4 then do
      let name ← readText? name
      let tags ← readItem? (readEntries? readText?) ∅ items[0]?
      let metadata ← readItem? (readEntries? readText?) ∅ items[1]?
      let fields ← readItem? (readEntries? (readValue? c)) ∅ items[2]?
      let timestamp ← readItem? (readTimestamp? c) now items[3]?
      some ⟨name, tags, metadata, fields, timestamp⟩
    else none
  | _ => none

/-- Reads a message from a JSON text at a point in time, which is the epoch where there is no
clock. -/
def ofJson? (s : String) (now : Timestamp := .epoch) : Option Message :=
  (c.json.parse? s).bind (ofSyntax? c now)

end Texts

end Telemetry.Message
