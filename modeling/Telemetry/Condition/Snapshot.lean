import Telemetry.Condition.Evaluation
import Telemetry.Message.Basic

/-!
# Messages as conditions see them

A snapshot is taken before a message is changed, so that all conditions see the message as it came
in. Keys of tags and meta entries are sanitised, so that conditions can name them; of entries whose
keys become the same, the one that is visited last counts. The two maps for them are borrowed from a
pool and given back empty.
-/

namespace Telemetry.Condition

/-- The two maps of a snapshot. -/
structure SnapshotMaps where
  tags : KeyMap String
  metadata : KeyMap String

/-- Maps without entries. -/
def SnapshotMaps.empty : SnapshotMaps := ⟨∅, ∅⟩

/-- Maps that wait for the next message, the one that waits longest first. -/
structure SnapshotPool where
  capacity : Nat
  idle : List SnapshotMaps

namespace SnapshotPool

/-- A pool that keeps so many maps, but at least one. -/
def ofCapacity (n : Nat) : SnapshotPool := ⟨max n 1, []⟩

/-- The pool of a processor. -/
def standard : SnapshotPool := ofCapacity 64

/-- Takes maps out of the pool, or new ones if none wait. -/
def acquire (pool : SnapshotPool) : SnapshotMaps × SnapshotPool :=
  match pool.idle with
  | [] => (.empty, pool)
  | maps :: rest => (maps, { pool with idle := rest })

/-- Empties maps and gives them back; a full pool drops them. -/
def release (pool : SnapshotPool) (maps : SnapshotMaps) : SnapshotPool :=
  let cleared : SnapshotMaps := { maps with tags := ∅, metadata := ∅ }
  if pool.idle.length < pool.capacity then { pool with idle := pool.idle ++ [cleared] } else pool

end SnapshotPool

/-- A message and the maps of its sanitised keys. -/
structure Snapshot where
  message : Message
  maps : SnapshotMaps

namespace Snapshot

/-- Adds entries under their sanitised keys, one after the other: where two keys become the same,
the later entry replaces the earlier one. -/
def addSanitized (map : KeyMap String) (entries : List (String × String)) : KeyMap String :=
  entries.foldl (fun map entry => map.insert (sanitize entry.1) entry.2) map

/-- The snapshot of a message in borrowed maps, given the orders in which its entries are
visited. -/
def fill (order : Message.Order) (m : Message) (maps : SnapshotMaps) : Snapshot :=
  ⟨m, ⟨addSanitized maps.tags (m.tags.entriesIn order.tags),
    addSanitized maps.metadata (m.metadata.entriesIn order.metadata)⟩⟩

/-- The snapshot of a message. -/
def ofMessage (order : Message.Order) (m : Message) : Snapshot := fill order m .empty

/-- Texts as a map of values. -/
def textMap (entries : KeyMap String) : Value :=
  .ofKeyMap (entries.map fun _ s => .text s)

/-- A part of the message other than the message itself. -/
def part (s : Snapshot) : Variable → Value
  | .name => .text s.message.name
  | .type => .text s.message.type.name
  | .timestamp => .int (Int64.ofInt s.message.timestamp.seconds)
  | .field key => (s.message.fields[key]?.map Value.ofField).getD .nil
  | .fields => .ofKeyMap (s.message.fields.map fun _ v => .ofField v)
  | .tags => textMap s.maps.tags
  | .metadata => textMap s.maps.metadata
  | .message => .nil

/-- The whole message as a map. -/
def messageMap (s : Snapshot) : Value :=
  .ofKeyMap (KeyMap.ofEntries
    [("name", s.part .name), ("type", s.part .type), ("timestamp", s.part .timestamp),
      ("tags", s.part .tags), ("meta", s.part .metadata), ("fields", s.part .fields)])

/-- A whole part of the message. -/
def value (s : Snapshot) : Variable → Value
  | .message => s.messageMap
  | v => s.part v

/-- A member of the message, by any of its names. -/
def messageMember (s : Snapshot) : String → Value
  | "name" => s.value .name
  | "type" | "messagetype" => s.value .type
  | "timestamp" | "time" => s.value .timestamp
  | "tags" | "tag" => s.value .tags
  | "meta" => s.value .metadata
  | "fields" | "field" => s.value .fields
  | _ => .nil

/-- The entry of a key, nil where there is none. -/
def entry? (s : Snapshot) (v : Variable) (key : String) : Option Value :=
  match v with
  | .tags => some ((s.maps.tags[key]?.map .text).getD .nil)
  | .metadata => some ((s.maps.metadata[key]?.map .text).getD .nil)
  | .fields => some ((s.message.fields[key]?.map Value.ofField).getD .nil)
  | .message => some (s.messageMember key)
  | _ => none

/-- Whether there is an entry of a key. -/
def hasEntry? (s : Snapshot) (v : Variable) (key : String) : Option Bool :=
  match v with
  | .tags => some (s.maps.tags.contains key)
  | .metadata => some (s.maps.metadata.contains key)
  | .fields => some (s.message.fields.contains key)
  | _ => none

/-- The snapshot as a scope for conditions. -/
def scope (s : Snapshot) : Scope := ⟨s.value, s.entry?, s.hasEntry?⟩

end Snapshot

end Telemetry.Condition
