import Telemetry.Proofs.Condition.Sanitizing
import Telemetry.Proofs.Rules.Configuring
import Telemetry.Proofs.Rules.History

/-!
# Rules of a processor

Commands register rules and take them back. A rule is registered with its condition as it compiles
where the constants of that time are known; a command or a document that is refused registers
nothing. Whatever commands a processor has performed, the rules of each stage follow the history of
what was registered there and taken back.
-/

namespace Telemetry

open Condition (Environment sanitize)

/-! ## The lists of rules -/

/-- A list of rules with conditions. -/
inductive Registry where
  | drops
  | renames
  | edits (e : Edit)
  | prefixes
  deriving DecidableEq, Repr

namespace Registry

/-- What the rules of a list do. -/
@[reducible] def Action : Registry → Type
  | drops => PUnit
  | renames => String
  | edits _ => KeyValue
  | prefixes => Prefix

/-- The command that takes a condition out of a list. -/
def removal (condition : String) : Registry → Command
  | drops => .removeDropIf condition
  | renames => .removeRenameIf condition
  | edits e => .removeEdit e condition
  | prefixes => .removePrefix condition

end Registry

/-- The list with the rules of a stage. -/
def Stage.registry? : Stage → Option Registry
  | dropIf => some .drops
  | renameIf => some .renames
  | changeUnitPrefix => some .prefixes
  | s => s.edit?.map .edits

/-- The rules of a list. -/
def Rulebook.registered (b : Rulebook) : (g : Registry) → List (Rule g.Action)
  | .drops => b.dropIf
  | .renames => b.renameIf
  | .edits e => b.edits e
  | .prefixes => b.prefixes

/-- The rulebook with other rules in a list. -/
def Rulebook.withRegistered (b : Rulebook) : (g : Registry) → List (Rule g.Action) → Rulebook
  | .drops, rules => { b with dropIf := rules }
  | .renames, rules => { b with renameIf := rules }
  | .edits e, rules => b.withEdits e rules
  | .prefixes, rules => { b with prefixes := rules }

/-! ## What commands register -/

/-- A rule is registered under its sanitised condition, if that compiles where these constants are
known. -/
def registering {α : Type} (env : Environment) (condition : String) (action : α) :
    List (Registration α) :=
  match Condition.Program.compileNode env (sanitize condition) with
  | .ok root => [.put ⟨⟨sanitize condition, root, env.patterns⟩, action⟩]
  | .error _ => []

/-- What a command that is no document does to the rules of a list. -/
def Command.registrations (env : Environment) (c : Command) (g : Registry) :
    List (Registration g.Action) :=
  match g, c with
  | .drops, addDropIf condition => registering env condition ⟨⟩
  | .drops, removeDropIf condition => [.take (sanitize condition)]
  | .renames, addRenameIf condition name => registering env condition name
  | .renames, removeRenameIf condition => [.take (sanitize condition)]
  | .edits e, addEdit f condition key value =>
    if e = f then registering env condition ⟨key, value⟩ else []
  | .edits e, removeEdit f condition => if e = f then [.take (sanitize condition)] else []
  | .prefixes, addPrefix condition symbol =>
    match Prefix.ofSymbol? symbol with
    | some target => registering env condition target
    | none => []
  | .prefixes, removePrefix condition => [.take (sanitize condition)]
  | _, _ => []

/-- The constants that are known after a command. -/
def Command.constantsAfter (env : Environment) : Command → Environment
  | addConstants members => (env.add members).1
  | configure config => if config.Suits (config.knownTo env) then config.knownTo env else env
  | _ => env

/-- What becomes of the rules of a list while commands are performed. The rules of a document are
registered if all of its entries are good. -/
def history (g : Registry) : Environment → List Command → List (Registration g.Action)
  | _, [] => []
  | env, .configure config :: cs =>
    (if config.Suits (config.knownTo env) then
      config.commands.flatMap (Command.registrations (config.knownTo env) · g)
    else []) ++ history g (Command.constantsAfter env (.configure config)) cs
  | env, c :: cs => c.registrations env g ++ history g (c.constantsAfter env) cs

namespace Rulebook

variable {g g' : Registry}

@[simp] theorem registered_withRegistered (b : Rulebook) (g : Registry)
    (rules : List (Rule g.Action)) : (b.withRegistered g rules).registered g = rules := by
  cases g with
  | edits e => exact if_pos rfl
  | _ => rfl

/-- Lists of rules are changed one by one. -/
theorem registered_withRegistered_of_ne (h : g' ≠ g) (b : Rulebook) (rules : List (Rule g.Action)) :
    (b.withRegistered g rules).registered g' = b.registered g' := by
  cases g with
  | edits e =>
    cases g' with
    | edits e' => exact if_neg fun heq => h (congrArg Registry.edits heq)
    | _ => rfl
  | _ =>
    cases g' with
    | edits => rfl
    | _ => first | rfl | exact absurd rfl h

/-- Puts a rule into a list. -/
def register (b : Rulebook) (g : Registry) (condition : String) (action : g.Action) :
    Except RuleFault Rulebook := do
  let p ← b.compile condition
  .ok (b.withRegistered g (Rules.upsert ⟨p, action⟩ (b.registered g)))

/-- A rule that is registered, or refused, makes the list that its registrations make. -/
theorem registered_register (b : Rulebook) (g : Registry) (condition : String) (action : g.Action) :
    (b.orRefuse (b.register g condition action)).1.registered g =
      (registering b.environment condition action).foldl Registration.applyTo (b.registered g) := by
  rw [register, compile, Condition.Program.compile, registering]
  cases Condition.Program.compileNode b.environment (sanitize condition) with
  | error e => rfl
  | ok root => exact b.registered_withRegistered g _

/-- A rule that is registered in a list leaves the other lists as they are. -/
theorem registered_register_of_ne (h : g' ≠ g) (b : Rulebook) (condition : String)
    (action : g.Action) :
    (b.orRefuse (b.register g condition action)).1.registered g' = b.registered g' := by
  rw [register]
  cases b.compile condition with
  | error e => rfl
  | ok p => exact registered_withRegistered_of_ne h b _

/-- A removal takes a condition out of its list, and tells whether it was there. -/
theorem perform_removal (b : Rulebook) (g : Registry) (condition : String) :
    b.perform (g.removal condition) =
      (b.withRegistered g (Rules.remove (sanitize condition) (b.registered g)),
        .removed (Rules.has (sanitize condition) (b.registered g))) := by
  cases g <;> rfl

/-- A command that is no document does to the rules of a list what it registers there. -/
theorem registered_perform (b : Rulebook) {c : Command} (hc : ∀ config, c ≠ .configure config)
    (g : Registry) :
    (b.perform c).1.registered g =
      (c.registrations b.environment g).foldl Registration.applyTo (b.registered g) := by
  cases c with
  | setStages names =>
    rw [perform, setStages]
    cases stagesOf 0 names <;> cases g <;> rfl
  | dropType name =>
    rw [perform, dropType]
    cases MessageType.ofName? name <;> cases g <;> rfl
  | keepType name =>
    rw [perform]
    cases MessageType.ofName? name <;> cases g <;> rfl
  | addDropIf condition =>
    cases g with
    | drops => exact b.registered_register .drops condition ⟨⟩
    | _ => exact registered_register_of_ne (g := .drops) (by simp) b condition ⟨⟩
  | addRenameIf condition name =>
    cases g with
    | renames => exact b.registered_register .renames condition name
    | _ => exact registered_register_of_ne (g := .renames) (by simp) b condition name
  | addEdit e condition key value =>
    cases g with
    | edits e' =>
      by_cases heq : e' = e
      · subst heq
        rw [Command.registrations, if_pos rfl]
        exact b.registered_register (.edits e') condition ⟨key, value⟩
      · rw [Command.registrations, if_neg heq]
        exact registered_register_of_ne (g := .edits e) (by simpa using heq) b condition
          ⟨key, value⟩
    | _ => exact registered_register_of_ne (g := .edits e) (by simp) b condition ⟨key, value⟩
  | addPrefix condition symbol =>
    cases hsymbol : Prefix.ofSymbol? symbol with
    | none =>
      have hperform : (b.perform (.addPrefix condition symbol)).1 = b := by
        rw [perform, addPrefix, hsymbol]
        rfl
      rw [hperform]
      cases g with
      | prefixes => rw [Command.registrations, hsymbol]; rfl
      | _ => rfl
    | some target =>
      have hperform : b.perform (.addPrefix condition symbol) =
          b.orRefuse (b.register .prefixes condition target) := by
        rw [perform, addPrefix, hsymbol]
        rfl
      rw [hperform]
      cases g with
      | prefixes =>
        rw [Command.registrations, hsymbol]
        exact b.registered_register .prefixes condition target
      | _ => exact registered_register_of_ne (g := .prefixes) (by simp) b condition target
  | removeEdit e condition =>
    cases g with
    | edits e' =>
      by_cases heq : e' = e
      · subst heq
        rw [Command.registrations, if_pos rfl]
        exact if_pos rfl
      · rw [Command.registrations, if_neg heq]
        exact if_neg heq
    | _ => rfl
  | configure config => exact absurd rfl (hc config)
  | _ => cases g <;> rfl

/-- Commands that leave the constants as they are do to a list what they register there. -/
theorem registered_performAll {cs : List Command} (h : ∀ c ∈ cs, c.keepsConstants = true)
    (b : Rulebook) (g : Registry) :
    (b.performAll cs).registered g =
      (cs.flatMap (Command.registrations b.environment · g)).foldl Registration.applyTo
        (b.registered g) := by
  induction cs generalizing b with
  | nil => rfl
  | cons c cs ih =>
    obtain ⟨hc, hcs⟩ := List.forall_mem_cons.mp h
    have hdocument : ∀ config, c ≠ .configure config := by
      rintro config rfl
      exact absurd hc (by simp [Command.keepsConstants])
    rw [performAll_cons, ih hcs, b.perform_environment hc, b.registered_perform hdocument,
      List.flatMap_cons, List.foldl_append]

/-- The commands of a document, behind its constants, leave the constants as they are. -/
theorem keepsConstants_of_commands (config : RuleConfig) :
    ∀ c ∈ RuleOption.applied.flatMap config.commandsOf, c.keepsConstants = true := by
  intro c hc
  obtain ⟨o, ho, hc⟩ := List.mem_flatMap.mp hc
  exact keepsConstants_of_applied ho c hc

/-- A document that is accepted registers what its commands register. -/
theorem registered_configure (b : Rulebook) (config : RuleConfig) (g : Registry) :
    (b.perform (.configure config)).1.registered g =
      (if config.Suits (config.knownTo b.environment) then
        config.commands.flatMap (Command.registrations (config.knownTo b.environment) · g)
      else []).foldl Registration.applyTo (b.registered g) := by
  rw [perform, configure_eq]
  cases hfault : config.fault? (config.knownTo b.environment) RuleOption.applied with
  | some fault => rw [if_neg (by simp [RuleConfig.suits_iff_fault?, hfault])]; rfl
  | none =>
    -- the constants of the document register nothing themselves
    have hconstants : Command.registrations (config.knownTo b.environment)
        (.addConstants config.constants) g = [] := by cases g <;> rfl
    have hregistered : (b.addConstants config.constants).1.registered g = b.registered g := by
      cases g <;> rfl
    rw [if_pos (RuleConfig.suits_iff_fault?.mpr hfault), RuleConfig.commands, List.flatMap_cons,
      hconstants, List.nil_append, ← hregistered]
    exact registered_performAll (keepsConstants_of_commands config) _ g

/-- The constants that are known after a command. -/
theorem perform_environment_eq (b : Rulebook) (c : Command) :
    (b.perform c).1.environment = c.constantsAfter b.environment := by
  cases c with
  | configure config =>
    rw [perform, configure_eq, Command.constantsAfter]
    cases hfault : config.fault? (config.knownTo b.environment) RuleOption.applied with
    | some fault => rw [if_neg (by simp [RuleConfig.suits_iff_fault?, hfault])]
    | none =>
      rw [if_pos (RuleConfig.suits_iff_fault?.mpr hfault)]
      exact performAll_environment (keepsConstants_of_commands config) _
  | addConstants members => rfl
  | _ => exact b.perform_environment rfl

/-- After commands a list has the rules that follow the history of the commands. -/
theorem registered_performAll_history (cs : List Command) (b : Rulebook) (g : Registry) :
    (b.performAll cs).registered g =
      (history g b.environment cs).foldl Registration.applyTo (b.registered g) := by
  induction cs generalizing b with
  | nil => rfl
  | cons c cs ih =>
    rw [performAll_cons, ih, perform_environment_eq]
    cases c with
    | configure config =>
      rw [history, List.foldl_append, registered_configure]
    | _ =>
      rw [b.registered_perform (by simp) g, ← List.foldl_append]
      rfl

end Rulebook

/-! ## Refused and removed rules -/

/-- Whether the answer is that the command is refused. -/
def Reply.isRefusal : Reply → Bool
  | badRule _ | badConfig _ => true
  | _ => false

namespace Rulebook

/-- A change that is refused leaves the rulebook as it is. -/
theorem orRefuse_of_isRefusal {b : Rulebook} {x : Except RuleFault Rulebook}
    (h : (b.orRefuse x).2.isRefusal = true) : (b.orRefuse x).1 = b := by
  cases x with
  | error fault => rfl
  | ok b' => exact absurd h (by simp [orRefuse, Reply.isRefusal])

/-- A refused command changes nothing. -/
theorem perform_of_isRefusal {b : Rulebook} {c : Command}
    (h : (b.perform c).2.isRefusal = true) : (b.perform c).1 = b := by
  cases c with
  | setStages | dropType | addDropIf | addRenameIf | addEdit | addPrefix =>
    rw [perform] at h ⊢
    exact orRefuse_of_isRefusal h
  | keepType name =>
    rw [perform] at h ⊢
    cases htype : MessageType.ofName? name with
    | none => rfl
    | some type =>
      rw [htype] at h
      exact absurd h (by simp [afterRemoval, Reply.isRefusal])
  | configure config =>
    rw [perform] at h ⊢
    cases hconfig : b.configure config with
    | error fault => rfl
    | ok b' =>
      rw [hconfig] at h
      exact absurd h (by simp [Reply.isRefusal])
  | _ => exact absurd h (by simp [perform, afterRemoval, Reply.isRefusal])

end Rulebook

namespace Processor

/-- The processor after commands, one after the other. -/
def performAll (p : Processor) (cs : List Command) : Processor :=
  cs.foldl (fun p c => (p.perform c).1) p

/-- The commands of a processor do to its rules what they do to a rulebook. -/
theorem rulebook_performAll (p : Processor) (cs : List Command) :
    (p.performAll cs).rulebook = p.rulebook.performAll cs := by
  induction cs generalizing p with
  | nil => rfl
  | cons c cs ih => exact ih (p.perform c).1

/-- Whatever commands a new processor has performed, the rules of each list follow what was
registered and taken back. A refused command changes no rule. A removal finds a rule exactly if the
list has one of the condition, in its own or its sanitised form, and then the list has none. -/
theorem rules_follow_history (patterns : Pattern.Engine) (commands : List Command) (g : Registry) :
    let p := (Processor.empty patterns).performAll commands
    Follows (p.rulebook.registered g) (history g (.empty patterns) commands) ∧
    (∀ c, (p.perform c).2.isRefusal = true → (p.perform c).1.rulebook = p.rulebook) ∧
    ∀ condition,
      let after := p.perform (g.removal condition)
      p.perform (g.removal (sanitize condition)) = after ∧
      (∃ found, after.2 = .removed found ∧
        (found = true ↔ ∃ r ∈ p.rulebook.registered g, r.source = sanitize condition)) ∧
      ∀ r ∈ after.1.rulebook.registered g, r.source ≠ sanitize condition := by
  intro p
  refine ⟨?_, fun c h => Rulebook.perform_of_isRefusal h, fun condition => ⟨?_, ?_, ?_⟩⟩
  · rw [rulebook_performAll, Rulebook.registered_performAll_history]
    have hempty : (Processor.empty patterns).rulebook.registered g = [] := by cases g <;> rfl
    rw [hempty]
    exact foldl_applyTo_follows _
  · unfold perform
    simp only [Rulebook.perform_removal, Condition.sanitize_sanitize]
    cases g <;> rfl
  · refine ⟨_, congrArg Prod.snd (p.rulebook.perform_removal g condition), ?_⟩
    simp [Rules.has]
  · intro r hr
    have hlist : ((p.perform (g.removal condition)).1.rulebook).registered g =
        Rules.remove (sanitize condition) (p.rulebook.registered g) := by
      have hperform := congrArg Prod.fst (p.rulebook.perform_removal g condition)
      exact (congrArg (Rulebook.registered · g) hperform).trans
        (p.rulebook.registered_withRegistered g _)
    exact (Rules.mem_remove.mp (hlist ▸ hr)).2

/-- A rule replaced under another form of its condition, a condition that does not compile, and a
rule taken back and registered again. -/
def renamesInTurn : List Command :=
  [.addRenameIf "tags.type-id == 1" "first", .addRenameIf "*" "all",
    .addRenameIf "tags.typeid == 1" "second", .addRenameIf "name ==" "none", .removeRenameIf "*",
    .addRenameIf "*" "every"]

/-- The replaced rule has kept its place, and the one registered again is the last. -/
theorem rules_follow_history_renamesInTurn :
    let p := (Processor.empty .standard).performAll renamesInTurn
    (p.rulebook.renameIf.map fun r => (r.source, r.action)) =
      [("tags.typeid == 1", "second"), ("*", "every")] ∧
    p.rulebook.renameIf =
      (OrderedMap.ofHistory (history .renames (.empty .standard) renamesInTurn)).values ∧
    (p.perform (.addRenameIf "name ==" "none")).1.rulebook = p.rulebook ∧
    p.perform (.removeRenameIf "tags.typeid == 1") =
      p.perform (.removeRenameIf "tags.type-id == 1") :=
  have h := rules_follow_history .standard renamesInTurn .renames
  ⟨by decide +kernel, h.1.reference, h.2.1 (.addRenameIf "name ==" "none") (by decide +kernel),
    (h.2.2 "tags.type-id == 1").1⟩

end Processor

end Telemetry
