import Telemetry.Proofs.Rules.Commands

/-!
# All of a rule document or nothing

Each entry of a rule document is good or bad on its own, where the constants of the document are
known. A document without bad entries is added as a whole. Any other document is refused for the
first option that has a bad entry, and leaves no trace.
-/

namespace Telemetry

open Condition (Environment)

namespace RuleConfig

/-- The conditions of a rule document. -/
def conditions (c : RuleConfig) : List String :=
  c.dropIf ++ c.renameIf.map (·.1) ++ c.prefixes.map (·.1) ++
    Edit.all.flatMap fun e => (c.edits e).map (·.condition)

/-- Whether all entries are good where these constants are known: the names and symbols are known,
and the conditions compile. -/
structure Suits (c : RuleConfig) (env : Environment) : Prop where
  stages : ∀ name ∈ c.stageOrder, ∃ s, Stage.ofName? name = some s
  types : ∀ name ∈ c.droppedTypes, ∃ t, MessageType.ofName? name = some t
  symbols : ∀ rule ∈ c.prefixes, ∃ p, Prefix.ofSymbol? rule.2 = some p
  compiles : ∀ condition ∈ c.conditions,
    ∃ p, Condition.Program.compile env (Condition.sanitize condition) = .ok p

/-- An option has a bad entry, which is bad for a reason. -/
inductive Refused (c : RuleConfig) (env : Environment) : RuleOption → RuleFault → Prop where
  | stage {before after : List String} {name : String}
      (hentry : c.stageOrder = before ++ name :: after) (hname : Stage.ofName? name = none) :
      Refused c env .stageOrder (.invalidStage before.length name)
  | type {name : String} (hentry : name ∈ c.droppedTypes)
      (hname : MessageType.ofName? name = none) :
      Refused c env .dropByMessageType (.invalidMessageType name)
  | dropIf {condition : String} {e : Condition.CompileError} (hentry : condition ∈ c.dropIf)
      (herror : Condition.Program.compile env (Condition.sanitize condition) = .error e) :
      Refused c env .dropMessagesIf (.notCondition condition e)
  | renameIf {rule : String × String} {e : Condition.CompileError} (hentry : rule ∈ c.renameIf)
      (herror : Condition.Program.compile env (Condition.sanitize rule.1) = .error e) :
      Refused c env .renameMessagesIf (.notCondition rule.1 e)
  | symbol {rule : String × String} (hentry : rule ∈ c.prefixes)
      (hsymbol : Prefix.ofSymbol? rule.2 = none) :
      Refused c env .changeUnitPrefix (.invalidPrefix rule.2)
  | prefixIf {rule : String × String} {e : Condition.CompileError} (hentry : rule ∈ c.prefixes)
      (herror : Condition.Program.compile env (Condition.sanitize rule.1) = .error e) :
      Refused c env .changeUnitPrefix (.notCondition rule.1 e)
  | editIf {edit : Edit} {x : ConditionalEntry} {e : Condition.CompileError}
      (hentry : x ∈ c.edits edit)
      (herror : Condition.Program.compile env (Condition.sanitize x.condition) = .error e) :
      Refused c env (.edit edit) (.notCondition x.condition e)

end RuleConfig

/-! ## Entries on their own -/

variable {env : Environment}

/-- A condition is at fault exactly if it does not compile in its sanitised form. -/
theorem conditionFault?_eq_some {condition : String} {fault : RuleFault} :
    conditionFault? env condition = some fault ↔
      ∃ e, Condition.Program.compile env (Condition.sanitize condition) = .error e ∧
        .notCondition condition e = fault := by
  unfold conditionFault?
  cases Condition.Program.compile env (Condition.sanitize condition) <;> simp

/-- The names of stages are at fault exactly if one of them names no stage. -/
theorem stagesFault?_eq_none {position : Nat} {names : List String} :
    stagesFault? position names = none ↔ ∀ name ∈ names, ∃ s, Stage.ofName? name = some s := by
  induction names generalizing position with
  | nil => simp [stagesFault?]
  | cons name names ih =>
    rw [stagesFault?, List.forall_mem_cons]
    cases Stage.ofName? name with
    | none => simp
    | some s => simpa using ih

/-- The first unknown name of a stage is blamed, with its place. -/
theorem stagesFault?_eq_some {position : Nat} {names : List String} {fault : RuleFault}
    (h : stagesFault? position names = some fault) :
    ∃ before name after, names = before ++ name :: after ∧ Stage.ofName? name = none ∧
      fault = .invalidStage (position + before.length) name := by
  induction names generalizing position with
  | nil => exact absurd h (by simp [stagesFault?])
  | cons first names ih =>
    rw [stagesFault?] at h
    cases hfirst : Stage.ofName? first with
    | none =>
      rw [hfirst] at h
      exact ⟨[], first, names, rfl, hfirst, (Option.some.inj h).symm⟩
    | some s =>
      rw [hfirst] at h
      obtain ⟨before, name, after, rfl, hname, rfl⟩ := ih h
      refine ⟨first :: before, name, after, rfl, hname, ?_⟩
      rw [List.length_cons, Nat.add_right_comm]
      rfl

namespace RuleConfig

variable {c : RuleConfig} {o : RuleOption} {fault : RuleFault}

/-- An entry that is refused is bad. -/
theorem refused_of_mem_faults (h : fault ∈ c.faults env o) : c.Refused env o fault := by
  obtain ⟨command, hcommand, hfault⟩ := List.mem_filterMap.mp h
  cases o with
  | stageOrder =>
    rw [commandsOf] at hcommand
    split at hcommand
    · exact absurd hcommand List.not_mem_nil
    · obtain rfl := List.mem_singleton.mp hcommand
      obtain ⟨before, name, after, hentry, hname, rfl⟩ := stagesFault?_eq_some hfault
      rw [Nat.zero_add]
      exact .stage hentry hname
  | dropByMessageType =>
    obtain ⟨name, hentry, rfl⟩ := List.mem_map.mp hcommand
    simp only [Command.fault?] at hfault
    split at hfault
    · exact absurd hfault (by simp)
    · rename_i hname
      obtain rfl := Option.some.inj hfault
      exact .type hentry (by simpa using hname)
  | dropMessagesIf =>
    obtain ⟨condition, hentry, rfl⟩ := List.mem_map.mp hcommand
    rw [Command.fault?] at hfault
    obtain ⟨e, herror, rfl⟩ := conditionFault?_eq_some.mp hfault
    exact .dropIf hentry herror
  | renameMessagesIf =>
    obtain ⟨rule, hentry, rfl⟩ := List.mem_map.mp hcommand
    rw [Command.fault?] at hfault
    obtain ⟨e, herror, rfl⟩ := conditionFault?_eq_some.mp hfault
    exact .renameIf hentry herror
  | changeUnitPrefix =>
    obtain ⟨rule, hentry, rfl⟩ := List.mem_map.mp hcommand
    simp only [Command.fault?] at hfault
    split at hfault
    · obtain ⟨e, herror, rfl⟩ := conditionFault?_eq_some.mp hfault
      exact .prefixIf hentry herror
    · rename_i hsymbol
      obtain rfl := Option.some.inj hfault
      exact .symbol hentry (by simpa using hsymbol)
  | edit e =>
    obtain ⟨x, hentry, rfl⟩ := List.mem_map.mp hcommand
    rw [Command.fault?] at hfault
    obtain ⟨e, herror, rfl⟩ := conditionFault?_eq_some.mp hfault
    exact .editIf hentry herror
  | addBaseEnv | normalizeUnits =>
    obtain rfl := List.mem_singleton.mp hcommand
    exact absurd hfault (by simp [Command.fault?])
  | dropMessages | renameMessages =>
    obtain ⟨x, -, rfl⟩ := List.mem_map.mp hcommand
    exact absurd hfault (by simp [Command.fault?])

/-- An option with a bad entry has an entry that is refused. -/
theorem faults_ne_nil_of_refused (h : c.Refused env o fault) : c.faults env o ≠ [] := by
  -- the refused entry need not be the one that is known to be bad: of an unknown symbol and its
  -- condition only the symbol is blamed
  have hmem {command : Command} (hcommand : command ∈ c.commandsOf o)
      (hfault : command.fault? env ≠ none) : c.faults env o ≠ [] := by
    obtain ⟨fault, hfault⟩ := Option.ne_none_iff_exists'.mp hfault
    exact List.ne_nil_of_mem (List.mem_filterMap.mpr ⟨command, hcommand, hfault⟩)
  have hcondition {condition : String} {e : Condition.CompileError}
      (herror : Condition.Program.compile env (Condition.sanitize condition) = .error e) :
      conditionFault? env condition ≠ none :=
    Option.ne_none_iff_exists'.mpr ⟨_, conditionFault?_eq_some.mpr ⟨e, herror, rfl⟩⟩
  cases h with
  | @stage before after name hentry hname =>
    have hne : c.stageOrder.isEmpty = false := by
      rw [hentry]
      cases before <;> rfl
    refine @hmem (.setStages c.stageOrder) ?_ ?_
    · rw [commandsOf, hne]
      exact List.mem_singleton_self _
    · rw [Command.fault?, ne_eq, stagesFault?_eq_none]
      intro hall
      obtain ⟨s, hs⟩ := hall name (hentry ▸ List.mem_append_right _ List.mem_cons_self)
      exact absurd (hs.symm.trans hname) (by simp)
  | type hentry hname =>
    refine hmem (List.mem_map_of_mem hentry) ?_
    rw [Command.fault?, hname]
    simp
  | dropIf hentry herror | renameIf hentry herror | editIf hentry herror =>
    refine hmem (List.mem_map_of_mem hentry) ?_
    rw [Command.fault?]
    exact hcondition herror
  | symbol hentry hsymbol =>
    refine hmem (List.mem_map_of_mem hentry) ?_
    rw [Command.fault?, hsymbol]
    simp
  | prefixIf hentry herror =>
    refine hmem (List.mem_map_of_mem hentry) ?_
    rw [Command.fault?]
    split
    · exact hcondition herror
    · simp

/-- A document that suits has no entry to refuse. -/
theorem Suits.not_refused (h : c.Suits env) (ho : o ∈ RuleOption.applied) :
    ¬ c.Refused env o fault := by
  have hcompiles {condition : String} {e : Condition.CompileError}
      (hmem : condition ∈ c.conditions)
      (herror : Condition.Program.compile env (Condition.sanitize condition) = .error e) :
      False := by
    obtain ⟨p, hp⟩ := h.compiles condition hmem
    exact absurd (hp.symm.trans herror) (by simp)
  intro hrefused
  cases hrefused with
  | @stage before after name hentry hname =>
    obtain ⟨s, hs⟩ := h.stages name (hentry ▸ List.mem_append_right _ List.mem_cons_self)
    exact absurd (hs.symm.trans hname) (by simp)
  | type hentry hname =>
    obtain ⟨t, ht⟩ := h.types _ hentry
    exact absurd (ht.symm.trans hname) (by simp)
  | symbol hentry hsymbol =>
    obtain ⟨p, hp⟩ := h.symbols _ hentry
    exact absurd (hp.symm.trans hsymbol) (by simp)
  | dropIf hentry herror => exact hcompiles (by simp [conditions, hentry]) herror
  | @renameIf rule e hentry herror =>
    refine hcompiles ?_ herror
    simp only [conditions, List.mem_append, List.mem_map]
    exact .inl (.inl (.inr ⟨rule, hentry, rfl⟩))
  | @prefixIf rule e hentry herror =>
    refine hcompiles ?_ herror
    simp only [conditions, List.mem_append, List.mem_map]
    exact .inl (.inr ⟨rule, hentry, rfl⟩)
  | @editIf edit x e hentry herror =>
    have hedit : edit ∈ Edit.all := by simpa [RuleOption.applied] using ho
    refine hcompiles ?_ herror
    simp only [conditions, List.mem_append, List.mem_flatMap, List.mem_map]
    exact .inr ⟨edit, hedit, x, hentry, rfl⟩

/-- A document without an entry to refuse suits. -/
theorem suits_of_not_refused
    (h : ∀ o ∈ RuleOption.applied, ∀ fault, ¬ c.Refused env o fault) : c.Suits env where
  stages name hname := by
    obtain ⟨before, after, hentry⟩ := List.append_of_mem hname
    cases hknown : Stage.ofName? name with
    | none => exact (h .stageOrder (by decide) _ (.stage hentry hknown)).elim
    | some s => exact ⟨s, rfl⟩
  types name hname := by
    cases hknown : MessageType.ofName? name with
    | none => exact (h .dropByMessageType (by decide) _ (.type hname hknown)).elim
    | some t => exact ⟨t, rfl⟩
  symbols rule hrule := by
    cases hknown : Prefix.ofSymbol? rule.2 with
    | none => exact (h .changeUnitPrefix (by decide) _ (.symbol hrule hknown)).elim
    | some p => exact ⟨p, rfl⟩
  compiles condition hcondition := by
    cases herror : Condition.Program.compile env (Condition.sanitize condition) with
    | ok p => exact ⟨p, rfl⟩
    | error e =>
      simp only [conditions, List.mem_append, List.mem_flatMap, List.mem_map] at hcondition
      rcases hcondition with ((hentry | ⟨rule, hentry, rfl⟩) | ⟨rule, hentry, rfl⟩) |
        ⟨edit, hedit, x, hentry, rfl⟩
      · exact (h .dropMessagesIf (by decide) _ (.dropIf hentry herror)).elim
      · exact (h .renameMessagesIf (by decide) _ (.renameIf hentry herror)).elim
      · exact (h .changeUnitPrefix (by decide) _ (.prefixIf hentry herror)).elim
      · have hoption : RuleOption.edit edit ∈ RuleOption.applied := by
          simpa [RuleOption.applied] using hedit
        exact (h _ hoption _ (.editIf hentry herror)).elim

/-- A document suits exactly if none of its options has a bad entry. -/
theorem suits_iff :
    c.Suits env ↔ ∀ o ∈ RuleOption.applied, c.faults env o = [] := by
  constructor
  · intro h o ho
    exact List.eq_nil_iff_forall_not_mem.mpr fun fault hfault =>
      h.not_refused ho (refused_of_mem_faults hfault)
  · intro h
    exact suits_of_not_refused fun o ho fault hrefused =>
      faults_ne_nil_of_refused hrefused (h o ho)

/-- The first refused entry is the first that an option has, of the first option that has one. -/
theorem fault?_eq_some {os : List RuleOption} {fault : ConfigFault}
    (h : c.fault? env os = some fault) :
    ∃ before o rest fault', os = before ++ o :: rest ∧
      (∀ earlier ∈ before, c.faults env earlier = []) ∧
      fault' ∈ c.faults env o ∧ fault = ⟨o.name, .ofRule fault'⟩ := by
  obtain ⟨before, o, rest, rfl, ho, hbefore⟩ := List.findSome?_eq_some_iff.mp h
  obtain ⟨fault', hhead, rfl⟩ := Option.map_eq_some_iff.mp ho
  refine ⟨before, o, rest, fault', rfl, fun earlier hearlier => ?_, List.mem_of_head? hhead, rfl⟩
  simpa using hbefore earlier hearlier

/-- A document suits exactly if nothing of it is refused. -/
theorem suits_iff_fault? : c.Suits env ↔ c.fault? env RuleOption.applied = none := by
  rw [suits_iff]
  simp [fault?]

instance : Decidable (c.Suits env) := decidable_of_iff _ suits_iff.symm

end RuleConfig

/-- A rule document is accepted exactly if all of its names and symbols are known and each of its
conditions compiles on its own, where the constants of the document are known. Then all that it says
is done. Otherwise the first option with a bad entry is blamed, and no rule has changed. -/
theorem Processor.configure_all_or_nothing (p : Processor) (c : RuleConfig) :
    let env := (p.rulebook.environment.add c.constants).1
    let after := p.perform (.configure c)
    (after.2 = .done ↔ c.Suits env) ∧
    (after.2 = .done → after.1.rulebook = p.rulebook.performAll c.commands) ∧
    (after.2 ≠ .done → after.1.rulebook = p.rulebook ∧
      ∃ before o rest fault, RuleOption.applied = before ++ o :: rest ∧
        (∀ earlier ∈ before, ∀ fault, ¬ c.Refused env earlier fault) ∧
        c.Refused env o fault ∧ after.2 = .badConfig ⟨o.name, .ofRule fault⟩) := by
  intro env after
  have hrulebook : after.1.rulebook = (p.rulebook.perform (.configure c)).1 := rfl
  have hreply : after.2 = (p.rulebook.perform (.configure c)).2 := rfl
  rw [hrulebook, hreply, Rulebook.perform, Rulebook.configure_eq]
  cases hfault : c.fault? (c.knownTo p.rulebook.environment) RuleOption.applied with
  | none =>
    have hsuits : c.Suits env := RuleConfig.suits_iff_fault?.mpr hfault
    exact ⟨⟨fun _ => hsuits, fun _ => rfl⟩, fun _ => rfl, fun h => absurd rfl h⟩
  | some fault =>
    obtain ⟨before, o, rest, cause, happlied, hbefore, hcause, rfl⟩ :=
      RuleConfig.fault?_eq_some hfault
    have hrefused : c.Refused env o cause := RuleConfig.refused_of_mem_faults hcause
    have hnot : ¬ c.Suits env := fun h => h.not_refused (by rw [happlied]; simp) hrefused
    refine ⟨⟨fun h => absurd h (by simp), fun h => absurd h hnot⟩, fun h => absurd h (by simp),
      fun _ => ⟨rfl, before, o, rest, cause, happlied, fun earlier hearlier other hother => ?_,
        hrefused, rfl⟩⟩
    exact RuleConfig.faults_ne_nil_of_refused hother (hbefore earlier hearlier)

/-- A document whose second prefix is unknown is refused for it, and its renaming is not kept. -/
theorem Processor.configure_all_or_nothing_unknownSymbol :
    ∃ (p : Processor) (c : RuleConfig) (fault : ConfigFault),
      (p.perform (.configure c)).2 = .badConfig fault ∧ fault.option = "change_unit_prefix" ∧
      c.renameIf ≠ [] ∧ (p.perform (.configure c)).1.rulebook.renameIf = [] := by
  let c : RuleConfig :=
    { RuleConfig.empty with renameIf := [("*", "disk")], prefixes := [("*", "k"), ("*", "q")] }
  have hreply : ((Processor.empty .standard).perform (.configure c)).2 =
      .badConfig ⟨"change_unit_prefix", .ofRule (.invalidPrefix "q")⟩ := rfl
  obtain ⟨hrulebook, -⟩ :=
    (configure_all_or_nothing (.empty .standard) c).2.2 (by rw [hreply]; simp)
  exact ⟨.empty .standard, c, _, hreply, rfl, by simp [c], by rw [hrulebook]; rfl⟩

end Telemetry
