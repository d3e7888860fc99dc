import Telemetry.Json.Value
import Telemetry.Rules.Rulebook

/-!
# Rule documents

A rule document is an object whose members are options. Unknown members are ignored, missing ones
and `null` stand for nothing. The members of a map option keep their order. A document that is
refused is blamed on the first member that is refused where it stands alone.
-/

namespace Telemetry

/-- A condition, and the key and value of the entry to edit. -/
structure ConditionalEntry where
  condition : String
  key : String
  value : String
  deriving DecidableEq, Repr

/-- The options of a rule document. -/
structure RuleConfig where
  /-- The names of the stages; if empty, the order is kept as it is. -/
  stageOrder : List String
  droppedNames : List String
  dropIf : List String
  droppedTypes : List String
  /-- Old and new names. -/
  renames : List (String × String)
  /-- Conditions and new names. -/
  renameIf : List (String × String)
  /-- Conditions and prefix symbols. -/
  prefixes : List (String × String)
  normalizesUnits : Bool
  edits : Edit → List ConditionalEntry
  constants : List (String × Json)

/-- A name for one of the parts of a message, as option names have it. -/
def Location.singular : Location → String
  | tags => "tag"
  | metadata => "meta"
  | fields => "field"

/-- The plural name of one of the parts of a message. -/
def Location.plural : Location → String
  | tags => "tags"
  | metadata => "meta"
  | fields => "fields"

/-- The name of the option with the rules of an edit. -/
def Edit.optionName : Edit → String
  | add l => s!"add_{l.plural}_if"
  | delete l => s!"delete_{l.plural}_if"
  | move source target => s!"move_{source.singular}_to_{target.singular}_if"

/-- The edits that options are for, in the order in which their rules are registered. -/
def Edit.all : List Edit :=
  [add .tags, add .metadata, add .fields, delete .tags, delete .metadata, delete .fields,
    move .tags .metadata, move .tags .fields, move .metadata .tags, move .metadata .fields,
    move .fields .tags, move .fields .metadata]

/-- An option of a rule document. -/
inductive RuleOption where
  | stageOrder | dropMessages | dropMessagesIf | dropByMessageType
  | renameMessages | renameMessagesIf | changeUnitPrefix | normalizeUnits
  | edit (e : Edit)
  | addBaseEnv
  deriving DecidableEq, Repr

namespace RuleOption

/-- All options. -/
def all : List RuleOption :=
  [stageOrder, dropMessages, dropMessagesIf, dropByMessageType, renameMessages, renameMessagesIf,
    changeUnitPrefix, normalizeUnits, addBaseEnv] ++ Edit.all.map edit

/-- The name of an option. -/
def name : RuleOption → String
  | stageOrder => "stage_order"
  | dropMessages => "drop_messages"
  | dropMessagesIf => "drop_messages_if"
  | dropByMessageType => "drop_by_message_type"
  | renameMessages => "rename_messages"
  | renameMessagesIf => "rename_messages_if"
  | changeUnitPrefix => "change_unit_prefix"
  | normalizeUnits => "normalize_units"
  | edit e => e.optionName
  | addBaseEnv => "add_base_env"

/-- The option that a key stands for; two options have a second name. -/
def ofKey? : String → Option RuleOption
  | "add_field_if" => some (edit (.add .fields))
  | "delete_field_if" => some (edit (.delete .fields))
  | key => all.find? (·.name == key)

end RuleOption

/-! What the value of an option must be; `null` is always allowed and stands for nothing. -/

/-- A text. -/
def Json.text? : Json → Option String
  | .string s => some s
  | _ => none

/-- A list of texts. -/
def Json.texts? : Json → Option (List String)
  | .null => some []
  | .array items => items.mapM Json.text?
  | _ => none

/-- A map of texts. -/
def Json.textPairs? : Json → Option (List (String × String))
  | .null => some []
  | .object members => members.mapM fun (key, j) => j.text?.map fun s => (key, s)
  | _ => none

/-- A truth value. -/
def Json.flag? : Json → Option Bool
  | .null => some false
  | .bool b => some b
  | _ => none

/-- Any members. -/
def Json.members? : Json → Option (List (String × Json))
  | .null => some []
  | .object members => some members
  | _ => none

namespace ConditionalEntry

/-- An entry is an object with the members `if`, `key` and perhaps `value`, or an array of the
same. Without a value the value is empty. -/
def ofJson? : Json → Option ConditionalEntry
  | .array [.string condition, .string key] => some ⟨condition, key, ""⟩
  | .array [.string condition, .string key, .string value] => some ⟨condition, key, value⟩
  | .object members =>
    match members.lookup "if", members.lookup "key", members.lookup "value" with
    | some (.string condition), some (.string key), none => some ⟨condition, key, ""⟩
    | some (.string condition), some (.string key), some (.string value) =>
      some ⟨condition, key, value⟩
    | _, _, _ => none
  | _ => none

/-- A list of entries. -/
def listOfJson? : Json → Option (List ConditionalEntry)
  | .null => some []
  | .array items => items.mapM ofJson?
  | _ => none

end ConditionalEntry

namespace RuleConfig

/-- No options. -/
def empty : RuleConfig := ⟨[], [], [], [], [], [], [], false, fun _ => [], []⟩

/-- Sets an option. -/
def set? (c : RuleConfig) (o : RuleOption) (j : Json) : Option RuleConfig :=
  match o with
  | .stageOrder => j.texts?.map fun v => { c with stageOrder := v }
  | .dropMessages => j.texts?.map fun v => { c with droppedNames := v }
  | .dropMessagesIf => j.texts?.map fun v => { c with dropIf := v }
  | .dropByMessageType => j.texts?.map fun v => { c with droppedTypes := v }
  | .renameMessages => j.textPairs?.map fun v => { c with renames := v }
  | .renameMessagesIf => j.textPairs?.map fun v => { c with renameIf := v }
  | .changeUnitPrefix => j.textPairs?.map fun v => { c with prefixes := v }
  | .normalizeUnits => j.flag?.map fun v => { c with normalizesUnits := v }
  | .edit e =>
    (ConditionalEntry.listOfJson? j).map fun v =>
      { c with edits := fun f => if f = e then v else c.edits f }
  | .addBaseEnv => j.members?.map fun v => { c with constants := v }

/-- Reads the members of a document behind those of the given options. No option may come twice. -/
def readMembers? (seen : List RuleOption) (c : RuleConfig) :
    List (String × Json) → Option RuleConfig
  | [] => some c
  | (key, j) :: rest =>
    match RuleOption.ofKey? key with
    | none => readMembers? seen c rest
    | some o =>
      if o ∈ seen then none
      else
        match c.set? o j with
        | none => none
        | some c => readMembers? (o :: seen) c rest

/-- The options of a document with these members. -/
def ofMembers? (members : List (String × Json)) : Option RuleConfig :=
  readMembers? [] empty members

/-- The first member that is refused where it stands alone. -/
def refusedKey? (members : List (String × Json)) : Option String :=
  (members.find? fun member => (ofMembers? [member]).isNone).map (·.1)

/-- How many rules there are; the unit flag counts as one. -/
def entryCount (c : RuleConfig) : Nat :=
  c.droppedNames.length + c.dropIf.length + c.droppedTypes.length + c.renames.length +
    c.renameIf.length + c.prefixes.length + (if c.normalizesUnits then 1 else 0) +
    Edit.all.foldl (fun total e => total + (c.edits e).length) 0

end RuleConfig

/-- What is wrong with an option. -/
inductive OptionFault where
  /-- The document cannot be read at all. -/
  | malformed
  | notObject
  | unsuitable
  /-- One of its rules is wrong. -/
  | ofRule (fault : RuleFault)
  deriving DecidableEq, Repr

/-- The fault as a phrase. -/
def OptionFault.message : OptionFault → String
  | malformed => "the document is malformed"
  | notObject => "expected an object at the top level"
  | unsuitable => "the value does not suit the option"
  | ofRule fault => fault.message

/-- Why a document is refused, and which option is to blame. -/
structure ConfigFault where
  option : String
  cause : OptionFault
  deriving DecidableEq, Repr

/-- The fault as a phrase. -/
def ConfigFault.message (f : ConfigFault) : String :=
  s!"failed to parse option '{f.option}': {f.cause.message}"

/-- What stands for the option if the document as a whole is to blame. -/
def wholeDocument : String := "<document>"

namespace RuleConfig

/-- The options of a document. -/
def ofJson : Json → Except ConfigFault RuleConfig
  | .object members =>
    match ofMembers? members with
    | some c => .ok c
    | none => .error ⟨(refusedKey? members).getD wholeDocument, .unsuitable⟩
  | _ => .error ⟨wholeDocument, .notObject⟩

/-- The options of a document, if it could be read. -/
def ofDocument : Option Json → Except ConfigFault RuleConfig
  | some j => ofJson j
  | none => .error ⟨wholeDocument, .malformed⟩

end RuleConfig

end Telemetry
