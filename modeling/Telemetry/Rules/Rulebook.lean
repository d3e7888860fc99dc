import Telemetry.Condition.Snapshot
import Telemetry.Rules.Rule
import Telemetry.Rules.Stage
import Telemetry.Units.UnitOfMeasure

/-!
# Rulebooks

A rulebook holds the rules of all stages, the order of the stages, and the constants that
conditions can name. Conditions are sanitised before they are compiled, so that a rule is found
again by its condition in either form.
-/

namespace Telemetry

/-- What can be wrong with a rule. -/
inductive RuleFault where
  /-- A stage list has an unknown name at a position. -/
  | invalidStage (position : Nat) (name : String)
  | notCondition (condition : String) (e : Condition.CompileError)
  | invalidMessageType (name : String)
  | invalidPrefix (symbol : String)
  deriving DecidableEq, Repr

/-- The fault as a phrase. -/
def RuleFault.message : RuleFault → String
  | invalidStage position name => s!"invalid stage {name} at index {position}"
  | notCondition condition e =>
    s!"failed to create condition evaluable of '{condition}': {e.message}"
  | invalidMessageType name => s!"invalid message type '{name}'"
  | invalidPrefix symbol => s!"invalid unit prefix '{symbol}'"

/-- A key, and a value or a second key. -/
structure KeyValue where
  key : String
  value : String
  deriving DecidableEq, Repr

/-- The rules of all stages. -/
structure Rulebook where
  /-- The order of the stages, if it is not the default one. -/
  stages? : Option (List Stage)
  /-- Messages of these names are dropped. -/
  droppedNames : KeyMap PUnit
  /-- Messages of these types are dropped; each type is there once. -/
  droppedTypes : List MessageType
  dropIf : List (Rule PUnit)
  /-- New names by old names. -/
  renames : KeyMap String
  renameIf : List (Rule String)
  /-- The rules that add, delete or move entries. -/
  edits : Edit → List (Rule KeyValue)
  prefixes : List (Rule Prefix)
  normalizesUnits : Bool
  environment : Condition.Environment

namespace Rulebook

/-- No rules. -/
def empty (patterns : Pattern.Engine) : Rulebook :=
  ⟨none, ∅, [], [], ∅, [], fun _ => [], [], false, .empty patterns⟩

/-- The stages in their order. -/
def stages (b : Rulebook) : List Stage := b.stages?.getD Stage.all

/-- Compiles a condition. -/
def compile (b : Rulebook) (condition : String) : Except RuleFault Condition.Program :=
  match Condition.Program.compile b.environment (Condition.sanitize condition) with
  | .ok p => .ok p
  | .error e => .error (.notCondition condition e)

/-- The stages of a list of names, the first of which is at the given position. -/
def stagesOf (position : Nat) : List String → Except RuleFault (List Stage)
  | [] => .ok []
  | name :: names =>
    match Stage.ofName? name with
    | none => .error (.invalidStage position name)
    | some stage => do
      let rest ← stagesOf (position + 1) names
      .ok (stage :: rest)

/-- Sets the order of the stages by their names. -/
def setStages (b : Rulebook) (names : List String) : Except RuleFault Rulebook := do
  let stages ← stagesOf 0 names
  .ok { b with stages? := some stages }

/-- Drops messages of a name. -/
def dropName (b : Rulebook) (name : String) : Rulebook :=
  { b with droppedNames := b.droppedNames.insert name ⟨⟩ }

/-- Keeps messages of a name, and tells whether they were dropped. -/
def keepName (b : Rulebook) (name : String) : Rulebook × Bool :=
  ({ b with droppedNames := b.droppedNames.erase name }, b.droppedNames.contains name)

/-- Drops messages of a type. -/
def dropType (b : Rulebook) (name : String) : Except RuleFault Rulebook :=
  match MessageType.ofName? name with
  | some type => .ok { b with droppedTypes := b.droppedTypes.insert type }
  | none => .error (.invalidMessageType name)

/-- Keeps messages of a type, and tells whether they were dropped. -/
def keepType (b : Rulebook) (type : MessageType) : Rulebook × Bool :=
  ({ b with droppedTypes := b.droppedTypes.erase type }, b.droppedTypes.contains type)

/-- Renames messages of a name. -/
def addRename (b : Rulebook) (old new : String) : Rulebook :=
  { b with renames := b.renames.insert old new }

/-- Keeps a name, and tells whether it was changed. -/
def removeRename (b : Rulebook) (old : String) : Rulebook × Bool :=
  ({ b with renames := b.renames.erase old }, b.renames.contains old)

/-- Drops messages under a condition. -/
def addDropIf (b : Rulebook) (condition : String) : Except RuleFault Rulebook := do
  let p ← b.compile condition
  .ok { b with dropIf := Rules.upsert ⟨p, ⟨⟩⟩ b.dropIf }

/-- Removes a condition under which messages are dropped, and tells whether it was there. -/
def removeDropIf (b : Rulebook) (condition : String) : Rulebook × Bool :=
  let source := Condition.sanitize condition
  ({ b with dropIf := Rules.remove source b.dropIf }, Rules.has source b.dropIf)

/-- Renames messages under a condition. -/
def addRenameIf (b : Rulebook) (condition name : String) : Except RuleFault Rulebook := do
  let p ← b.compile condition
  .ok { b with renameIf := Rules.upsert ⟨p, name⟩ b.renameIf }

/-- Removes a condition under which messages are renamed, and tells whether it was there. -/
def removeRenameIf (b : Rulebook) (condition : String) : Rulebook × Bool :=
  let source := Condition.sanitize condition
  ({ b with renameIf := Rules.remove source b.renameIf }, Rules.has source b.renameIf)

/-- Changes the rules of one edit. -/
def withEdits (b : Rulebook) (e : Edit) (rules : List (Rule KeyValue)) : Rulebook :=
  { b with edits := fun f => if f = e then rules else b.edits f }

/-- Edits entries under a condition. -/
def addEdit (b : Rulebook) (e : Edit) (condition key value : String) :
    Except RuleFault Rulebook := do
  let p ← b.compile condition
  .ok (b.withEdits e (Rules.upsert ⟨p, ⟨key, value⟩⟩ (b.edits e)))

/-- Removes a condition under which entries are edited, and tells whether it was there. -/
def removeEdit (b : Rulebook) (e : Edit) (condition : String) : Rulebook × Bool :=
  let source := Condition.sanitize condition
  (b.withEdits e (Rules.remove source (b.edits e)), Rules.has source (b.edits e))

/-- Changes the prefix of units under a condition. -/
def addPrefix (b : Rulebook) (condition symbol : String) : Except RuleFault Rulebook :=
  match Prefix.ofSymbol? symbol with
  | none => .error (.invalidPrefix symbol)
  | some target => do
    let p ← b.compile condition
    .ok { b with prefixes := Rules.upsert ⟨p, target⟩ b.prefixes }

/-- Removes a condition under which prefixes are changed, and tells whether it was there. -/
def removePrefix (b : Rulebook) (condition : String) : Rulebook × Bool :=
  let source := Condition.sanitize condition
  ({ b with prefixes := Rules.remove source b.prefixes }, Rules.has source b.prefixes)

/-- Adds constants for the conditions that are compiled from now on, and counts them. -/
def addConstants (b : Rulebook) (members : List (String × Json)) : Rulebook × Nat :=
  let (environment, n) := b.environment.add members
  ({ b with environment := environment }, n)

/-- How many rules a stage has. -/
def ruleCount (b : Rulebook) (s : Stage) : Nat :=
  match s with
  | .dropByName => b.droppedNames.size
  | .dropByType => b.droppedTypes.length
  | .dropIf => b.dropIf.length
  | .rename => b.renames.size
  | .renameIf => b.renameIf.length
  | .changeUnitPrefix => b.prefixes.length
  | .normalizeUnit => if b.normalizesUnits then 1 else 0
  | s =>
    match s.edit? with
    | some e => (b.edits e).length
    | none => 0

/-- How many rules there are. -/
def totalRules (b : Rulebook) : Nat := Stage.all.foldl (fun total s => total + b.ruleCount s) 0

end Rulebook

end Telemetry
