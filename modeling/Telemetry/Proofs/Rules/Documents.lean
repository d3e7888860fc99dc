import Telemetry.Proofs.Rules.Registry

/-!
# What a rule document does to a rulebook

A rule document works on each part of a rulebook on its own. An order of stages replaces the old
one, names and types are united with the old ones, new names replace old ones, the rules of a list
take the places of those with the same conditions or follow the others, and the flag of the
document replaces the old flag. A rulebook that has accepted a document has these parts.
-/

namespace Telemetry

open Condition (Environment sanitize)

/-! ## The parts of a rulebook after a document -/

namespace RuleConfig

/-- What a document registers in a list where these constants are known. -/
def registrations (c : RuleConfig) (env : Environment) (g : Registry) :
    List (Registration g.Action) :=
  c.commands.flatMap (Command.registrations env · g)

/-- The rules of a list after a document. -/
def rulesAfter (c : RuleConfig) (b : Rulebook) (g : Registry) : List (Rule g.Action) :=
  (c.registrations (c.knownTo b.environment) g).foldl Registration.applyTo (b.registered g)

/-- The rulebook after a document all of whose entries are good. -/
def appliedTo (c : RuleConfig) (b : Rulebook) : Rulebook where
  stages? :=
    if c.stageOrder.isEmpty then b.stages? else some (c.stageOrder.filterMap Stage.ofName?)
  droppedNames := c.droppedNames.foldl (fun names name => names.insert name ⟨⟩) b.droppedNames
  droppedTypes :=
    (c.droppedTypes.filterMap MessageType.ofName?).foldl (fun types type => types.insert type)
      b.droppedTypes
  dropIf := c.rulesAfter b .drops
  renames := c.renames.foldl (fun names rename => names.insert rename.1 rename.2) b.renames
  renameIf := c.rulesAfter b .renames
  edits e := c.rulesAfter b (.edits e)
  prefixes := c.rulesAfter b .prefixes
  normalizesUnits := c.normalizesUnits
  environment := c.knownTo b.environment

@[simp] theorem registered_appliedTo (c : RuleConfig) (b : Rulebook) (g : Registry) :
    (c.appliedTo b).registered g = c.rulesAfter b g := by
  cases g <;> rfl

/-- What the entries of an option do if they have no conditions. -/
def enter (c : RuleConfig) (b : Rulebook) : RuleOption → Rulebook
  | .stageOrder =>
    if c.stageOrder.isEmpty then b
    else { b with stages? := some (c.stageOrder.filterMap Stage.ofName?) }
  | .dropMessages =>
    { b with
      droppedNames := c.droppedNames.foldl (fun names name => names.insert name ⟨⟩) b.droppedNames }
  | .dropByMessageType =>
    { b with
      droppedTypes := (c.droppedTypes.filterMap MessageType.ofName?).foldl
        (fun types type => types.insert type) b.droppedTypes }
  | .renameMessages =>
    { b with
      renames := c.renames.foldl (fun names rename => names.insert rename.1 rename.2) b.renames }
  | .normalizeUnits => { b with normalizesUnits := c.normalizesUnits }
  | _ => b

end RuleConfig

/-! ## Parts without conditions -/

/-- Whether a command registers a rule with a condition. -/
def Command.isConditional : Command → Bool
  | addDropIf _ | addRenameIf _ _ | addEdit _ _ _ _ | addPrefix _ _ => true
  | _ => false

namespace Rulebook

/-- The rulebook without its rules that have conditions. -/
def unconditional (b : Rulebook) : Rulebook :=
  { b with dropIf := [], renameIf := [], edits := fun _ => [], prefixes := [] }

/-- A rulebook is known by what it holds without conditions and by its lists of rules. -/
theorem ext_registered {b b' : Rulebook} (hunconditional : b.unconditional = b'.unconditional)
    (hregistered : ∀ g, b.registered g = b'.registered g) : b = b' := by
  have hedits : b.edits = b'.edits := funext fun e => hregistered (.edits e)
  have hdrops : b.dropIf = b'.dropIf := hregistered .drops
  have hrenames : b.renameIf = b'.renameIf := hregistered .renames
  have hprefixes : b.prefixes = b'.prefixes := hregistered .prefixes
  cases b
  cases b'
  simp_all [unconditional]

/-- A change that may be refused touches rules with conditions only, if it does so where it is not
refused. -/
theorem unconditional_orRefuse_bind {b : Rulebook} {α : Type} (x : Except RuleFault α)
    (f : α → Rulebook) (h : ∀ a, (f a).unconditional = b.unconditional) :
    (b.orRefuse (x >>= fun a => .ok (f a))).1.unconditional = b.unconditional := by
  cases x with
  | error fault => rfl
  | ok a => exact h a

/-- A rule with a condition changes nothing else. -/
theorem unconditional_perform (b : Rulebook) {c : Command} (h : c.isConditional = true) :
    (b.perform c).1.unconditional = b.unconditional := by
  cases c with
  | addDropIf condition =>
    rw [perform, addDropIf]
    exact unconditional_orRefuse_bind _ _ fun _ => rfl
  | addRenameIf condition name =>
    rw [perform, addRenameIf]
    exact unconditional_orRefuse_bind _ _ fun _ => rfl
  | addEdit e condition key value =>
    rw [perform, addEdit]
    exact unconditional_orRefuse_bind _ _ fun _ => rfl
  | addPrefix condition symbol =>
    rw [perform, addPrefix]
    cases Prefix.ofSymbol? symbol with
    | none => rfl
    | some target =>
      dsimp only
      exact unconditional_orRefuse_bind _ _ fun _ => rfl
  | _ => exact absurd h (by simp [Command.isConditional])

/-- Commands that touch rules with conditions only leave everything else as it is. -/
theorem unconditional_performAll (b : Rulebook) {cs : List Command}
    (h : ∀ c ∈ cs, c.isConditional = true) :
    (b.performAll cs).unconditional = b.unconditional := by
  induction cs generalizing b with
  | nil => rfl
  | cons c cs ih =>
    obtain ⟨hc, hcs⟩ := List.forall_mem_cons.mp h
    rw [performAll_cons, ih _ hcs, b.unconditional_perform hc]

/-- Where every name is that of a stage, the order is that of these stages. -/
theorem stagesOf_eq {position : Nat} {names : List String}
    (h : ∀ name ∈ names, ∃ s, Stage.ofName? name = some s) :
    stagesOf position names = .ok (names.filterMap Stage.ofName?) := by
  induction names generalizing position with
  | nil => rfl
  | cons name names ih =>
    obtain ⟨⟨s, hs⟩, hnames⟩ := List.forall_mem_cons.mp h
    rw [stagesOf, hs, List.filterMap_cons, hs]
    simp only [ih hnames]
    rfl

/-- To drop messages by names, one after the other, is to enter all of them. -/
theorem performAll_dropName (b : Rulebook) (names : List String) :
    b.performAll (names.map .dropName) =
      { b with
        droppedNames := names.foldl (fun names name => names.insert name ⟨⟩) b.droppedNames } := by
  induction names generalizing b with
  | nil => rfl
  | cons name names ih => exact ih (b.dropName name)

/-- To drop messages by types, one after the other, is to enter those that there are. -/
theorem performAll_dropType (b : Rulebook) (names : List String) :
    b.performAll (names.map .dropType) =
      { b with
        droppedTypes := (names.filterMap MessageType.ofName?).foldl
          (fun types type => types.insert type) b.droppedTypes } := by
  induction names generalizing b with
  | nil => rfl
  | cons name names ih =>
    rw [List.map_cons, performAll_cons, ih, perform, dropType, List.filterMap_cons]
    cases MessageType.ofName? name <;> rfl

/-- To rename messages, one after the other, is to enter all new names. -/
theorem performAll_addRename (b : Rulebook) (renames : List (String × String)) :
    b.performAll (renames.map fun rename => .addRename rename.1 rename.2) =
      { b with
        renames := renames.foldl (fun names rename => names.insert rename.1 rename.2)
          b.renames } := by
  induction renames generalizing b with
  | nil => rfl
  | cons rename renames ih => exact ih (b.addRename rename.1 rename.2)

section Accepted

variable {c : RuleConfig} {env : Environment}

/-- The entries of an option without conditions do what the option is for. -/
theorem unconditional_commandsOf (hsuits : c.Suits env) {o : RuleOption}
    (ho : o ∈ RuleOption.applied) (b : Rulebook) :
    (b.performAll (c.commandsOf o)).unconditional = c.enter b.unconditional o := by
  have hconditional {α : Type} (xs : List α) (f : α → Command)
      (hf : ∀ x, (f x).isConditional = true) :
      (b.performAll (xs.map f)).unconditional = b.unconditional := by
    refine b.unconditional_performAll fun command hcommand => ?_
    obtain ⟨x, -, rfl⟩ := List.mem_map.mp hcommand
    exact hf x
  cases o with
  | stageOrder =>
    rw [RuleConfig.commandsOf, RuleConfig.enter]
    split
    · rfl
    · rw [performAll_cons, perform, setStages, stagesOf_eq hsuits.stages]
      rfl
  | dropMessages => rw [RuleConfig.commandsOf, performAll_dropName]; rfl
  | dropByMessageType => rw [RuleConfig.commandsOf, performAll_dropType]; rfl
  | renameMessages => rw [RuleConfig.commandsOf, performAll_addRename]; rfl
  | dropMessagesIf | renameMessagesIf | changeUnitPrefix | edit =>
    exact hconditional _ _ fun _ => rfl
  | normalizeUnits => rfl
  | addBaseEnv => exact absurd ho (by decide)

/-- What a suitable document does beside the rules with conditions is what its options enter, one
after the other. -/
theorem unconditional_options (hsuits : c.Suits env) {os : List RuleOption}
    (hos : ∀ o ∈ os, o ∈ RuleOption.applied) (b : Rulebook) :
    (b.performAll (os.flatMap c.commandsOf)).unconditional = os.foldl c.enter b.unconditional := by
  induction os generalizing b with
  | nil => rfl
  | cons o os ih =>
    obtain ⟨ho, hos⟩ := List.forall_mem_cons.mp hos
    rw [List.flatMap_cons, performAll_append, ih hos, unconditional_commandsOf hsuits ho,
      List.foldl_cons]

/-- The entries of a document without conditions do what their options are for. -/
theorem unconditional_appliedTo (c : RuleConfig) (b : Rulebook) :
    (c.appliedTo b).unconditional =
      RuleOption.applied.foldl c.enter (b.addConstants c.constants).1.unconditional := by
  simp only [RuleOption.applied, Edit.all, List.map_cons, List.map_nil, List.cons_append,
    List.nil_append, List.foldl_cons, List.foldl_nil, RuleConfig.enter]
  split <;> simp_all [unconditional, RuleConfig.appliedTo, addConstants, RuleConfig.knownTo]

/-- A document whose entries are all good is accepted, and does its work on each part. -/
theorem perform_configure (b : Rulebook) (c : RuleConfig) :
    b.perform (.configure c) =
      match c.fault? (c.knownTo b.environment) RuleOption.applied with
      | some fault => (b, .badConfig fault)
      | none => (c.appliedTo b, .done) := by
  have hregistered := fun g => registered_configure b c g
  simp only [perform, configure_eq] at hregistered ⊢
  cases hfault : c.fault? (c.knownTo b.environment) RuleOption.applied with
  | some fault => rfl
  | none =>
    have hsuits := RuleConfig.suits_iff_fault?.mpr hfault
    simp only [hfault, if_pos hsuits] at hregistered
    refine Prod.ext (ext_registered ?_ fun g => ?_) rfl
    · rw [RuleConfig.commands, performAll_cons, unconditional_appliedTo]
      exact unconditional_options hsuits (fun o ho => ho) _
    · rw [hregistered, RuleConfig.registered_appliedTo]
      rfl

end Accepted

end Rulebook

/-- A processor that accepts a document has the rulebook with all that the document says. -/
theorem Processor.rulebook_configure {p : Processor} {c : RuleConfig}
    (h : (p.perform (.configure c)).2 = .done) :
    (p.perform (.configure c)).1.rulebook = c.appliedTo p.rulebook := by
  simp only [Processor.perform, Rulebook.perform_configure] at h ⊢
  cases hfault : c.fault? (c.knownTo p.rulebook.environment) RuleOption.applied with
  | some fault => simp [hfault] at h
  | none => rfl

end Telemetry
