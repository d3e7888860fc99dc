import Telemetry.Processor.Basic
import Telemetry.Proofs.Fallible

/-!
# Commands and rule documents

Whether a command is refused depends on nothing but the command and the constants that conditions
can name. A rule document stands for a row of commands, option by option in a fixed order: to add
the document is to perform them one after the other, unless one of them is refused.
-/

namespace Telemetry

open Condition (Environment)

/-! ## Refused commands -/

/-- Why a condition is refused where these constants are known. -/
def conditionFault? (env : Environment) (condition : String) : Option RuleFault :=
  match Condition.Program.compile env (Condition.sanitize condition) with
  | .ok _ => none
  | .error e => some (.notCondition condition e)

/-- The first unknown name of a list of stages, which starts at a position. -/
def stagesFault? (position : Nat) : List String → Option RuleFault
  | [] => none
  | name :: names =>
    if (Stage.ofName? name).isSome then stagesFault? (position + 1) names
    else some (.invalidStage position name)

/-- Why a command is refused where these constants are known. -/
def Command.fault? (env : Environment) : Command → Option RuleFault
  | setStages names => stagesFault? 0 names
  | dropType name =>
    if (MessageType.ofName? name).isSome then none else some (.invalidMessageType name)
  | addDropIf condition | addRenameIf condition _ | addEdit _ condition _ _ =>
    conditionFault? env condition
  | addPrefix condition symbol =>
    if (Prefix.ofSymbol? symbol).isSome then conditionFault? env condition
    else some (.invalidPrefix symbol)
  | _ => none

/-- Whether a command leaves the constants as they are, whatever they are. -/
def Command.keepsConstants : Command → Bool
  | addConstants _ | configure _ => false
  | _ => true

namespace Rulebook

variable {b : Rulebook}

/-- The rulebook after a command, unless the command is refused. -/
def attempt (b : Rulebook) (c : Command) : Except RuleFault Rulebook :=
  match (b.perform c).2 with
  | .badRule fault => .error fault
  | _ => .ok (b.perform c).1

/-- The rulebook after commands, one after the other. -/
def performAll (b : Rulebook) (cs : List Command) : Rulebook :=
  cs.foldl (fun b c => (b.perform c).1) b

@[simp] theorem performAll_cons (b : Rulebook) (c : Command) (cs : List Command) :
    b.performAll (c :: cs) = (b.perform c).1.performAll cs := rfl

/-- Commands in two parts do what they do one after the other. -/
theorem performAll_append (b : Rulebook) (cs cs' : List Command) :
    b.performAll (cs ++ cs') = (b.performAll cs).performAll cs' := List.foldl_append

/-- A condition that is compiled is refused for its fault. -/
theorem fault?_compile (b : Rulebook) (condition : String) :
    (b.compile condition).fault? = conditionFault? b.environment condition := by
  unfold compile conditionFault?
  cases Condition.Program.compile b.environment (Condition.sanitize condition) <;> rfl

/-- Names of stages are refused for the first unknown one. -/
theorem fault?_stagesOf (position : Nat) (names : List String) :
    (stagesOf position names).fault? = stagesFault? position names := by
  induction names generalizing position with
  | nil => rfl
  | cons name names ih =>
    rw [stagesOf, stagesFault?]
    cases Stage.ofName? name with
    | none => rfl
    | some stage => exact (Except.fault?_bind_ok _ _).trans (ih (position + 1))

/-- What a change that may be refused comes to. -/
theorem attempt_of_orRefuse (b : Rulebook) (c : Command) (x : Except RuleFault Rulebook)
    (h : b.perform c = b.orRefuse x) : b.attempt c = x := by
  rw [attempt, h]
  cases x <;> rfl

/-- A change is refused for its fault, if it has one. -/
theorem attempt_of_fault? (b : Rulebook) (c : Command) (x : Except RuleFault Rulebook)
    (h : b.perform c = b.orRefuse x) (hfault : x.fault? = c.fault? b.environment) :
    b.attempt c =
      match c.fault? b.environment with
      | some fault => .error fault
      | none => .ok (b.perform c).1 := by
  rw [b.attempt_of_orRefuse c x h, h, ← hfault]
  cases x <;> rfl

/-- A command is refused for its fault, if it has one. -/
theorem attempt_eq (b : Rulebook) (c : Command) :
    b.attempt c =
      match c.fault? b.environment with
      | some fault => .error fault
      | none => .ok (b.perform c).1 := by
  cases c with
  | setStages names =>
    refine b.attempt_of_fault? (.setStages names) (b.setStages names) rfl ?_
    rw [setStages, Except.fault?_bind_ok, fault?_stagesOf, Command.fault?]
  | dropType name =>
    refine b.attempt_of_fault? (.dropType name) (b.dropType name) rfl ?_
    rw [dropType, Command.fault?]
    cases MessageType.ofName? name <;> rfl
  | addDropIf condition =>
    refine b.attempt_of_fault? (.addDropIf condition) (b.addDropIf condition) rfl ?_
    rw [addDropIf, Except.fault?_bind_ok, fault?_compile, Command.fault?]
  | addRenameIf condition name =>
    refine b.attempt_of_fault? (.addRenameIf condition name) (b.addRenameIf condition name) rfl ?_
    rw [addRenameIf, Except.fault?_bind_ok, fault?_compile, Command.fault?]
  | addEdit e condition key value =>
    refine b.attempt_of_fault? (.addEdit e condition key value) (b.addEdit e condition key value)
      rfl ?_
    rw [addEdit, Except.fault?_bind_ok, fault?_compile, Command.fault?]
  | addPrefix condition symbol =>
    refine b.attempt_of_fault? (.addPrefix condition symbol) (b.addPrefix condition symbol) rfl ?_
    rw [addPrefix, Command.fault?]
    cases Prefix.ofSymbol? symbol with
    | none => rfl
    | some target => simp only [Except.fault?_bind_ok, fault?_compile, Option.isSome_some, if_true]
  | keepType name =>
    rw [attempt, perform]
    cases MessageType.ofName? name <;> rfl
  | configure config =>
    rw [attempt, perform]
    cases b.configure config <;> rfl
  | _ => rfl

/-- A change that may be refused leaves the constants as they are if its results do. -/
theorem orRefuse_bind_environment {α : Type} (x : Except RuleFault α) (f : α → Rulebook)
    (h : ∀ a, (f a).environment = b.environment) :
    (b.orRefuse (x >>= fun a => .ok (f a))).1.environment = b.environment := by
  cases x with
  | error fault => rfl
  | ok a => exact h a

/-- Most commands leave the constants as they are. -/
theorem perform_environment (b : Rulebook) {c : Command} (h : c.keepsConstants = true) :
    (b.perform c).1.environment = b.environment := by
  cases c with
  | setStages names =>
    rw [perform, setStages]
    exact orRefuse_bind_environment _ _ fun _ => rfl
  | addDropIf condition =>
    rw [perform, addDropIf]
    exact orRefuse_bind_environment _ _ fun _ => rfl
  | addRenameIf condition name =>
    rw [perform, addRenameIf]
    exact orRefuse_bind_environment _ _ fun _ => rfl
  | addEdit e condition key value =>
    rw [perform, addEdit]
    exact orRefuse_bind_environment _ _ fun _ => rfl
  | addPrefix condition symbol =>
    rw [perform, addPrefix]
    cases Prefix.ofSymbol? symbol with
    | none => rfl
    | some target =>
      dsimp only
      exact orRefuse_bind_environment _ _ fun _ => rfl
  | dropType name =>
    rw [perform, dropType]
    cases MessageType.ofName? name <;> rfl
  | keepType name =>
    rw [perform]
    cases MessageType.ofName? name <;> rfl
  | addConstants | configure => exact absurd h (by simp [Command.keepsConstants])
  | _ => rfl

end Rulebook

/-! ## Rule documents as commands -/

/-- The options of a rule document, in the order in which their entries are added. -/
def RuleOption.applied : List RuleOption :=
  [stageOrder, dropMessages, dropByMessageType, dropMessagesIf, renameMessagesIf, renameMessages,
    changeUnitPrefix] ++ Edit.all.map edit ++ [normalizeUnits]

namespace RuleConfig

/-- The commands that the entries of an option stand for. -/
def commandsOf (c : RuleConfig) : RuleOption → List Command
  | .addBaseEnv => [.addConstants c.constants]
  | .stageOrder => if c.stageOrder.isEmpty then [] else [.setStages c.stageOrder]
  | .dropMessages => c.droppedNames.map .dropName
  | .dropByMessageType => c.droppedTypes.map .dropType
  | .dropMessagesIf => c.dropIf.map .addDropIf
  | .renameMessagesIf => c.renameIf.map fun rule => .addRenameIf rule.1 rule.2
  | .renameMessages => c.renames.map fun rename => .addRename rename.1 rename.2
  | .changeUnitPrefix => c.prefixes.map fun rule => .addPrefix rule.1 rule.2
  | .edit e => (c.edits e).map fun x => .addEdit e x.condition x.key x.value
  | .normalizeUnits => [.normalizeUnits c.normalizesUnits]

/-- The commands that a rule document stands for: its constants come first. -/
def commands (c : RuleConfig) : List Command :=
  .addConstants c.constants :: RuleOption.applied.flatMap c.commandsOf

/-- The constants that the conditions of a rule document can name. -/
def knownTo (c : RuleConfig) (env : Environment) : Environment := (env.add c.constants).1

/-- Why entries of an option are refused where these constants are known. -/
def faults (c : RuleConfig) (env : Environment) (o : RuleOption) : List RuleFault :=
  (c.commandsOf o).filterMap (Command.fault? env)

/-- The first refused entry of the given options. -/
def fault? (c : RuleConfig) (env : Environment) (os : List RuleOption) : Option ConfigFault :=
  os.findSome? fun o => (c.faults env o).head?.map fun fault => ⟨o.name, .ofRule fault⟩

end RuleConfig

namespace Rulebook

/-- Adds the entries of options one after the other. -/
def configureOptions (c : RuleConfig) : Rulebook → List RuleOption → Except ConfigFault Rulebook
  | b, [] => .ok b
  | b, o :: os => addAll o attempt b (c.commandsOf o) >>= fun b => configureOptions c b os

/-- Entries are added by the commands that they stand for. -/
theorem addAll_map {α : Type} (o : RuleOption) (f : α → Command)
    (add : Rulebook → α → Except RuleFault Rulebook) (h : ∀ b x, attempt b (f x) = add b x)
    (b : Rulebook) (xs : List α) : addAll o attempt b (xs.map f) = addAll o add b xs := by
  induction xs generalizing b with
  | nil => rfl
  | cons x xs ih =>
    rw [List.map_cons, addAll, addAll, h]
    cases add b x with
    | error fault => rfl
    | ok b => exact ih b

/-- Entries that cannot be refused are added one after the other. -/
theorem addAll_ok {α : Type} (o : RuleOption) (step : Rulebook → α → Rulebook) (b : Rulebook)
    (xs : List α) : addAll o (fun b x => .ok (step b x)) b xs = .ok (xs.foldl step b) := by
  induction xs generalizing b with
  | nil => rfl
  | cons x xs ih => exact ih (step b x)

section Options

variable (c : RuleConfig) (b : Rulebook)

/-- The order of stages, as a command, is the option for it. -/
theorem addAll_stageOrder :
    addAll .stageOrder attempt b (c.commandsOf .stageOrder) = b.configureStages c.stageOrder := by
  rw [RuleConfig.commandsOf, configureStages]
  split
  · rfl
  · exact addAll_map _ .setStages setStages
      (fun b names => b.attempt_of_orRefuse (.setStages names) (b.setStages names) rfl) b
      [c.stageOrder]

/-- The names of messages to drop, one command for each, are the option for them. -/
theorem addAll_dropMessages :
    addAll .dropMessages attempt b (c.commandsOf .dropMessages) =
      .ok (c.droppedNames.foldl dropName b) := by
  rw [RuleConfig.commandsOf, ← addAll_ok .dropMessages]
  exact addAll_map _ .dropName _ (fun b name => rfl) b c.droppedNames

/-- The types of messages to drop, one command for each, are the option for them. -/
theorem addAll_dropByMessageType :
    addAll .dropByMessageType attempt b (c.commandsOf .dropByMessageType) =
      addAll .dropByMessageType dropType b c.droppedTypes :=
  addAll_map _ .dropType dropType
    (fun b name => b.attempt_of_orRefuse (.dropType name) (b.dropType name) rfl) b c.droppedTypes

/-- The conditions for dropping messages, one command for each, are the option for them. -/
theorem addAll_dropMessagesIf :
    addAll .dropMessagesIf attempt b (c.commandsOf .dropMessagesIf) =
      addAll .dropMessagesIf addDropIf b c.dropIf :=
  addAll_map _ .addDropIf addDropIf
    (fun b condition => b.attempt_of_orRefuse (.addDropIf condition) (b.addDropIf condition) rfl) b
    c.dropIf

/-- The conditions for renaming messages, one command for each, are the option for them. -/
theorem addAll_renameMessagesIf :
    addAll .renameMessagesIf attempt b (c.commandsOf .renameMessagesIf) =
      addAll .renameMessagesIf (fun b rule => b.addRenameIf rule.1 rule.2) b c.renameIf :=
  addAll_map _ (fun rule : String × String => .addRenameIf rule.1 rule.2) _
    (fun b rule =>
      b.attempt_of_orRefuse (.addRenameIf rule.1 rule.2) (b.addRenameIf rule.1 rule.2) rfl) b
    c.renameIf

/-- The new names of messages, one command for each, are the option for them. -/
theorem addAll_renameMessages :
    addAll .renameMessages attempt b (c.commandsOf .renameMessages) =
      .ok (c.renames.foldl (fun b rename => b.addRename rename.1 rename.2) b) := by
  rw [RuleConfig.commandsOf, ← addAll_ok .renameMessages]
  exact addAll_map _ (fun rename : String × String => .addRename rename.1 rename.2) _
    (fun b rename => rfl) b c.renames

/-- The conditions for other prefixes, one command for each, are the option for them. -/
theorem addAll_changeUnitPrefix :
    addAll .changeUnitPrefix attempt b (c.commandsOf .changeUnitPrefix) =
      addAll .changeUnitPrefix (fun b rule => b.addPrefix rule.1 rule.2) b c.prefixes :=
  addAll_map _ (fun rule : String × String => .addPrefix rule.1 rule.2) _
    (fun b rule =>
      b.attempt_of_orRefuse (.addPrefix rule.1 rule.2) (b.addPrefix rule.1 rule.2) rfl) b
    c.prefixes

/-- The rules of an edit, one command for each, are the option for them. -/
theorem addAll_edit (e : Edit) :
    addAll (.edit e) attempt b (c.commandsOf (.edit e)) =
      addAll (.edit e) (fun b x => b.addEdit e x.condition x.key x.value) b (c.edits e) :=
  addAll_map _ (fun x : ConditionalEntry => .addEdit e x.condition x.key x.value) _
    (fun b x => b.attempt_of_orRefuse (.addEdit e x.condition x.key x.value)
      (b.addEdit e x.condition x.key x.value) rfl) b (c.edits e)

/-- The options of edits do what all edits do, before the options behind them. -/
theorem configureOptions_edits (es : List Edit) (os : List RuleOption) :
    configureOptions c b (es.map .edit ++ os) =
      configureEdits c.edits b es >>= fun b => configureOptions c b os := by
  induction es generalizing b with
  | nil => rfl
  | cons e es ih =>
    rw [List.map_cons, List.cons_append, configureOptions, addAll_edit, configureEdits, bind_assoc]
    simp only [ih]

/-- A rule document is added option by option behind its constants. -/
theorem configure_eq_configureOptions :
    b.configure c = configureOptions c (b.addConstants c.constants).1 RuleOption.applied := by
  simp only [RuleOption.applied, List.cons_append, List.nil_append, configureOptions,
    configureOptions_edits, addAll_stageOrder, addAll_dropMessages, addAll_dropByMessageType,
    addAll_dropMessagesIf, addAll_renameMessagesIf, addAll_renameMessages, addAll_changeUnitPrefix]
  rfl

end Options

/-- Commands that leave the constants as they are do so together. -/
theorem performAll_environment {cs : List Command} (h : ∀ c ∈ cs, c.keepsConstants = true)
    (b : Rulebook) : (b.performAll cs).environment = b.environment := by
  induction cs generalizing b with
  | nil => rfl
  | cons c cs ih =>
    obtain ⟨hc, hcs⟩ := List.forall_mem_cons.mp h
    rw [performAll_cons, ih hcs, b.perform_environment hc]

/-- Commands are refused for the first fault that one of them has on its own. -/
theorem addAll_attempt {cs : List Command} (h : ∀ c ∈ cs, c.keepsConstants = true)
    (o : RuleOption) (b : Rulebook) :
    addAll o attempt b cs =
      match (cs.filterMap (Command.fault? b.environment)).head? with
      | some fault => .error ⟨o.name, .ofRule fault⟩
      | none => .ok (b.performAll cs) := by
  induction cs generalizing b with
  | nil => rfl
  | cons c cs ih =>
    obtain ⟨hc, hcs⟩ := List.forall_mem_cons.mp h
    rw [addAll, attempt_eq, List.filterMap_cons]
    cases c.fault? b.environment with
    | some fault => rfl
    | none =>
      rw [performAll_cons, ← b.perform_environment hc]
      exact ih hcs _

/-- The commands of an option that is applied keep the constants as they are. -/
theorem keepsConstants_of_applied {c : RuleConfig} {o : RuleOption} (ho : o ∈ RuleOption.applied) :
    ∀ command ∈ c.commandsOf o, command.keepsConstants = true := by
  intro command hcommand
  cases o with
  | addBaseEnv => exact absurd ho (by decide)
  | stageOrder =>
    rw [RuleConfig.commandsOf] at hcommand
    split at hcommand
    · exact absurd hcommand List.not_mem_nil
    · rw [List.mem_singleton.mp hcommand]
      rfl
  | normalizeUnits =>
    rw [List.mem_singleton.mp hcommand]
    rfl
  | _ =>
    obtain ⟨x, -, rfl⟩ := List.mem_map.mp hcommand
    rfl

/-- Options are refused for the first fault that one of their entries has on its own. -/
theorem configureOptions_eq (c : RuleConfig) {os : List RuleOption}
    (hos : ∀ o ∈ os, o ∈ RuleOption.applied) (b : Rulebook) :
    configureOptions c b os =
      match c.fault? b.environment os with
      | some fault => .error fault
      | none => .ok (b.performAll (os.flatMap c.commandsOf)) := by
  induction os generalizing b with
  | nil => rfl
  | cons o os ih =>
    obtain ⟨ho, hos⟩ := List.forall_mem_cons.mp hos
    have hkeeps := keepsConstants_of_applied (c := c) ho
    rw [configureOptions, addAll_attempt hkeeps, RuleConfig.fault?, List.findSome?_cons,
      RuleConfig.faults]
    cases (List.filterMap (Command.fault? b.environment) (c.commandsOf o)).head? with
    | some fault => rfl
    | none =>
      rw [List.flatMap_cons, performAll_append, ← performAll_environment hkeeps b]
      exact ih hos _

/-- A rule document is refused for the first fault that one of its entries has on its own, where its
constants are known. Otherwise the commands that it stands for are performed. -/
theorem configure_eq (b : Rulebook) (c : RuleConfig) :
    b.configure c =
      match c.fault? (c.knownTo b.environment) RuleOption.applied with
      | some fault => .error fault
      | none => .ok (b.performAll c.commands) := by
  rw [configure_eq_configureOptions, configureOptions_eq c fun _ ho => ho]
  rfl

end Rulebook

end Telemetry
