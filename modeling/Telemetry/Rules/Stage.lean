import Telemetry.Message.Basic

/-!
# Stages

A message passes through stages, each of which applies the rules of one kind. The twelve stages
that add, delete or move entries are told apart by where the entries are.
-/

namespace Telemetry

/-- The parts of a message that hold entries. -/
inductive Location where
  | tags | metadata | fields
  deriving DecidableEq, Repr

namespace Location

/-- The value of an entry as a text. -/
def get? (l : Location) (m : Message) (key : String) : Option String :=
  match l with
  | tags => m.tags[key]?
  | metadata => m.metadata[key]?
  | fields => m.fields[key]?.map FieldValue.text

/-- The message without an entry. -/
def erase (l : Location) (m : Message) (key : String) : Message :=
  match l with
  | tags => { m with tags := m.tags.erase key }
  | metadata => { m with metadata := m.metadata.erase key }
  | fields => { m with fields := m.fields.erase key }

/-- The message with an entry, which is a text. -/
def insert (l : Location) (m : Message) (key value : String) : Message :=
  match l with
  | tags => { m with tags := m.tags.insert key value }
  | metadata => { m with metadata := m.metadata.insert key value }
  | fields => { m with fields := m.fields.insert key (.string value) }

end Location

/-- What a stage does to entries. -/
inductive Edit where
  | add (l : Location)
  | delete (l : Location)
  | move (source target : Location)
  deriving DecidableEq, Repr

/-- A step on the way of a message. -/
inductive Stage where
  | dropByName | dropByType | dropIf
  | addTag | deleteTag | moveTagToMeta | moveTagToFields
  | addMeta | deleteMeta | moveMetaToTags | moveMetaToFields
  | addField | deleteField | moveFieldToTags | moveFieldToMeta
  | rename | renameIf | changeUnitPrefix | normalizeUnit
  deriving DecidableEq, Repr

namespace Stage

/-- All stages, in the order in which a message passes through them by default. -/
def all : List Stage :=
  [dropByName, dropByType, dropIf, addTag, deleteTag, moveTagToMeta, moveTagToFields, addMeta,
    deleteMeta, moveMetaToTags, moveMetaToFields, addField, deleteField, moveFieldToTags,
    moveFieldToMeta, rename, renameIf, changeUnitPrefix, normalizeUnit]

/-- The name of a stage. -/
def name : Stage → String
  | dropByName => "drop_by_name"
  | dropByType => "drop_by_type"
  | dropIf => "drop_if"
  | addTag => "add_tag"
  | deleteTag => "delete_tag"
  | moveTagToMeta => "move_tag_to_meta"
  | moveTagToFields => "move_tag_to_fields"
  | addMeta => "add_meta"
  | deleteMeta => "delete_meta"
  | moveMetaToTags => "move_meta_to_tags"
  | moveMetaToFields => "move_meta_to_fields"
  | addField => "add_field"
  | deleteField => "delete_field"
  | moveFieldToTags => "move_field_to_tags"
  | moveFieldToMeta => "move_field_to_meta"
  | rename => "rename"
  | renameIf => "rename_if"
  | changeUnitPrefix => "change_unit_prefix"
  | normalizeUnit => "normalize_unit"

/-- The stage of a name. -/
def ofName? (s : String) : Option Stage := all.find? (·.name == s)

/-- Whether the rules of a stage have conditions. -/
def isConditional : Stage → Bool
  | dropByName | dropByType | rename | normalizeUnit => false
  | _ => true

/-- What a stage does to entries, if that is what it does. -/
def edit? : Stage → Option Edit
  | addTag => some (.add .tags)
  | deleteTag => some (.delete .tags)
  | moveTagToMeta => some (.move .tags .metadata)
  | moveTagToFields => some (.move .tags .fields)
  | addMeta => some (.add .metadata)
  | deleteMeta => some (.delete .metadata)
  | moveMetaToTags => some (.move .metadata .tags)
  | moveMetaToFields => some (.move .metadata .fields)
  | addField => some (.add .fields)
  | deleteField => some (.delete .fields)
  | moveFieldToTags => some (.move .fields .tags)
  | moveFieldToMeta => some (.move .fields .metadata)
  | dropByName | dropByType | dropIf | rename | renameIf | changeUnitPrefix | normalizeUnit => none

/-- The place of a stage in the default order. -/
def index (s : Stage) : Nat := all.idxOf s

/-- A stage is found by its name. -/
theorem ofName?_name (s : Stage) : ofName? s.name = some s := by
  cases s <;> rfl

end Stage

end Telemetry
