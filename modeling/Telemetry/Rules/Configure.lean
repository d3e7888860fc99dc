import Telemetry.Rules.Config

/-!
# Configuring a rulebook

A rule document adds to a rulebook: constants first, so that the conditions of the document can
name them. Either all of it is added, or the rulebook stays as it is.
-/

namespace Telemetry.Rulebook

/-- Adds rules one after the other; a fault is blamed on the option that they are from. -/
def addAll {α : Type} (o : RuleOption) (add : Rulebook → α → Except RuleFault Rulebook) :
    Rulebook → List α → Except ConfigFault Rulebook
  | b, [] => .ok b
  | b, x :: rest =>
    match add b x with
    | .ok b => addAll o add b rest
    | .error fault => .error ⟨o.name, .ofRule fault⟩

/-- Sets the order of the stages, if there is one. -/
def configureStages (b : Rulebook) (names : List String) : Except ConfigFault Rulebook :=
  if names.isEmpty then .ok b
  else addAll .stageOrder Rulebook.setStages b [names]

/-- Adds the rules that edit entries. -/
def configureEdits (entries : Edit → List ConditionalEntry) :
    Rulebook → List Edit → Except ConfigFault Rulebook
  | b, [] => .ok b
  | b, e :: rest => do
    let b ← addAll (.edit e) (fun b x => b.addEdit e x.condition x.key x.value) b (entries e)
    configureEdits entries b rest

/-- Adds a rule document. -/
def configure (b : Rulebook) (c : RuleConfig) : Except ConfigFault Rulebook := do
  let b := (b.addConstants c.constants).1
  let b ← b.configureStages c.stageOrder
  let b := c.droppedNames.foldl dropName b
  let b ← addAll .dropByMessageType dropType b c.droppedTypes
  let b ← addAll .dropMessagesIf addDropIf b c.dropIf
  let b ← addAll .renameMessagesIf (fun b rule => b.addRenameIf rule.1 rule.2) b c.renameIf
  let b := c.renames.foldl (fun b rename => b.addRename rename.1 rename.2) b
  let b ← addAll .changeUnitPrefix (fun b rule => b.addPrefix rule.1 rule.2) b c.prefixes
  let b ← configureEdits c.edits b Edit.all
  .ok { b with normalizesUnits := c.normalizesUnits }

end Telemetry.Rulebook
