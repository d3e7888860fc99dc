import Telemetry.Proofs.Rules.Cumulative
import Telemetry.Proofs.Rules.Membership

/-!
# Sanitised conditions and keys

A condition is registered in its sanitised form, by a command of its own or with a document, and
its list keeps it until it is taken back. Since a sanitised text is its own sanitised form, either
form of the condition takes it back, and the keys of a snapshot are as conditions name them.
-/

namespace Telemetry

open Condition (Environment Snapshot hyphenated sanitize)

/-! ## Conditions that a command adds -/

/-- The conditions that a command adds to a list. -/
def Command.conditionsOf : Command → Registry → List String
  | addDropIf condition, .drops => [condition]
  | addRenameIf condition _, .renames => [condition]
  | addEdit e condition _ _, .edits f => if f = e then [condition] else []
  | addPrefix condition _, .prefixes => [condition]
  | configure config, g => config.conditionsOf g
  | _, _ => []

variable {env : Environment} {g : Registry} {condition source : String}

/-- A condition without a fault is registered in its sanitised form. -/
theorem registering_of_fault? {α : Type} (action : α) (h : conditionFault? env condition = none) :
    ∃ r : Rule α, registering env condition action = [.put r] ∧ r.source = sanitize condition := by
  rw [conditionFault?, Condition.Program.compile] at h
  rw [registering]
  cases hnode : Condition.Program.compileNode env (sanitize condition) with
  | error e =>
    rw [hnode] at h
    exact absurd h (by simp [Except.map])
  | ok root => exact ⟨_, rfl, rfl⟩

/-- A command without a fault registers the condition that it adds. -/
theorem Command.registrations_of_fault? {c : Command} (hc : ∀ config, c ≠ .configure config)
    (h : condition ∈ c.conditionsOf g) (hfault : c.fault? env = none) :
    ∃ r : Rule g.Action, c.registrations env g = [.put r] ∧ r.source = sanitize condition := by
  unfold conditionsOf at h
  split at h
  case h_1 | h_2 =>
    obtain rfl := List.mem_singleton.mp h
    rw [fault?] at hfault
    rw [registrations]
    exact registering_of_fault? _ hfault
  case h_3 =>
    split at h
    · rename_i heq
      obtain rfl := List.mem_singleton.mp h
      rw [fault?] at hfault
      rw [registrations, if_pos heq]
      exact registering_of_fault? _ hfault
    · exact absurd h List.not_mem_nil
  case h_4 symbol =>
    obtain rfl := List.mem_singleton.mp h
    rw [fault?] at hfault
    rw [registrations]
    cases hsymbol : Prefix.ofSymbol? symbol with
    | none =>
      rw [hsymbol] at hfault
      exact absurd hfault (by simp)
    | some target =>
      rw [hsymbol, Option.isSome_some, if_pos rfl] at hfault
      exact registering_of_fault? _ hfault
  case h_5 => exact absurd rfl (hc _)
  case h_6 => exact absurd h List.not_mem_nil

namespace RuleConfig

variable {config : RuleConfig}

/-- The edits that stages make have options. -/
theorem edit_mem_applied {s : Stage} {e : Edit} (hs : s.registry? = some (.edits e)) :
    .edit e ∈ RuleOption.applied := by
  cases s <;> cases hs <;> decide

/-- The conditions of a document are added by the commands that it stands for. -/
theorem exists_command {s : Stage} (hs : s.registry? = some g)
    (h : condition ∈ config.conditionsOf g) :
    ∃ o ∈ RuleOption.applied, ∃ c ∈ config.commandsOf o, condition ∈ c.conditionsOf g := by
  cases g with
  | drops =>
    refine ⟨.dropMessagesIf, by decide, _, List.mem_map_of_mem h, ?_⟩
    exact List.mem_singleton_self _
  | renames =>
    obtain ⟨rule, hrule, rfl⟩ := List.mem_map.mp h
    refine ⟨.renameMessagesIf, by decide, _, List.mem_map_of_mem hrule, ?_⟩
    exact List.mem_singleton_self _
  | edits e =>
    obtain ⟨entry, hentry, rfl⟩ := List.mem_map.mp h
    refine ⟨.edit e, edit_mem_applied hs, _, List.mem_map_of_mem hentry, ?_⟩
    simp [Command.conditionsOf]
  | prefixes =>
    obtain ⟨rule, hrule, rfl⟩ := List.mem_map.mp h
    refine ⟨.changeUnitPrefix, by decide, _, List.mem_map_of_mem hrule, ?_⟩
    exact List.mem_singleton_self _

/-- A document without bad entries registers its conditions. -/
theorem exists_put {s : Stage} (hs : s.registry? = some g) (hsuits : config.Suits env)
    (h : condition ∈ config.conditionsOf g) :
    ∃ r : Rule g.Action, .put r ∈ config.registrations env g ∧ r.source = sanitize condition := by
  obtain ⟨o, ho, c, hc, hcondition⟩ := exists_command hs h
  have hfault : c.fault? env = none := by
    have hnone := List.findSome?_eq_none_iff.mp (suits_iff_fault?.mp hsuits) o ho
    rw [Option.map_eq_none_iff, List.head?_eq_none_iff] at hnone
    exact List.filterMap_eq_nil_iff.mp hnone c hc
  have hdocument : ∀ config', c ≠ .configure config' := by
    rintro config' rfl
    exact absurd (Rulebook.keepsConstants_of_applied ho _ hc) (by simp [Command.keepsConstants])
  obtain ⟨r, hr, hsource⟩ := Command.registrations_of_fault? hdocument hcondition hfault
  refine ⟨r, List.mem_flatMap.mpr ⟨c, ?_, hr ▸ List.mem_singleton_self _⟩, hsource⟩
  exact List.mem_cons_of_mem _ (List.mem_flatMap.mpr ⟨o, ho, hc⟩)

/-- A document takes no condition back. -/
theorem take_not_mem_registrations : .take source ∉ config.registrations env g := by
  intro h
  cases puts_of_mem_registrations h

end RuleConfig

/-! ## Conditions that a list has -/

/-- The conditions of a list with one more rule are those from before and its own. -/
theorem Rules.mem_sources_upsert {α : Type} {r : Rule α} {rules : List (Rule α)} :
    source ∈ (upsert r rules).map Rule.source ↔
      source ∈ rules.map Rule.source ∨ r.source = source := by
  rw [sources_upsert]
  split
  · rename_i hr
    exact ⟨.inl, fun h => h.elim id fun heq => heq ▸ hr⟩
  · rw [List.mem_append, List.mem_singleton, eq_comm (a := source)]

/-- What was registered is there unless it is taken back. -/
theorem mem_sources_foldl {α : Type} {xs : List (Registration α)} {rules : List (Rule α)}
    (h : source ∈ rules.map Rule.source ∨ ∃ r, .put r ∈ xs ∧ r.source = source)
    (htake : .take source ∉ xs) :
    source ∈ (xs.foldl Registration.applyTo rules).map Rule.source := by
  induction xs generalizing rules with
  | nil => exact h.resolve_right (by simp)
  | cons x xs ih =>
    obtain ⟨hx, hxs⟩ := not_or.mp (mt List.mem_cons.mpr htake)
    refine ih ?_ hxs
    cases x with
    | put r =>
      rw [Registration.applyTo, Rules.mem_sources_upsert]
      rcases h with h | ⟨r', hr', hsource⟩
      · exact .inl (.inl h)
      rcases List.mem_cons.mp hr' with heq | hr'
      · cases heq
        exact .inl (.inr hsource)
      · exact .inr ⟨r', hr', hsource⟩
    | take other =>
      rw [Registration.applyTo, Rules.sources_remove]
      rcases h with h | ⟨r, hr, hsource⟩
      · have hother : (source != other) = true := bne_iff_ne.mpr fun heq => hx (heq ▸ rfl)
        exact .inl (List.mem_filter.mpr ⟨h, hother⟩)
      · exact .inr ⟨r, (List.mem_cons.mp hr).resolve_left (by simp), hsource⟩

namespace Rulebook

variable {b : Rulebook} {c : Command}

/-- Whether a list has a rule with a condition. -/
def Has (b : Rulebook) (g : Registry) (source : String) : Prop :=
  source ∈ (b.registered g).map Rule.source

/-- A condition that was added is there. -/
theorem has_of_added {s : Stage} (hs : s.registry? = some g) (h : condition ∈ c.conditionsOf g)
    (hdone : (b.perform c).2 = .done) :
    (b.perform c).1.Has g (sanitize condition) := by
  by_cases hdocument : ∃ config, c = .configure config
  · obtain ⟨config, rfl⟩ := hdocument
    have hsuits : config.Suits (config.knownTo b.environment) := by
      rw [RuleConfig.suits_iff_fault?]
      rw [perform, configure_eq] at hdone
      cases hfault : config.fault? (config.knownTo b.environment) RuleOption.applied with
      | none => rfl
      | some fault =>
        rw [hfault] at hdone
        exact absurd hdone (by simp)
    rw [Has, registered_configure, if_pos hsuits]
    exact mem_sources_foldl (.inr (RuleConfig.exists_put hs hsuits h))
      RuleConfig.take_not_mem_registrations
  · have hc : ∀ config, c ≠ .configure config := fun config heq => hdocument ⟨config, heq⟩
    have hfault : c.fault? b.environment = none := by
      have hattempt := b.attempt_eq c
      rw [attempt, hdone] at hattempt
      cases hfault : c.fault? b.environment with
      | none => rfl
      | some fault =>
        rw [hfault] at hattempt
        cases hattempt
    obtain ⟨r, hr, hsource⟩ := Command.registrations_of_fault? hc h hfault
    rw [Has, registered_perform b hc, hr]
    exact mem_sources_foldl (.inr ⟨r, List.mem_singleton_self _, hsource⟩) (by simp)

/-- Only its removal takes a condition back. -/
theorem take_mem_registrations (h : .take source ∈ c.registrations env g) :
    ∃ text, c = g.removal text ∧ sanitize text = source := by
  have hregistering : ∀ {α : Type} {condition : String} {action : α},
      .take source ∉ registering env condition action := by
    intro α condition action h
    unfold registering at h
    split at h
    · cases List.mem_singleton.mp h
    · exact absurd h List.not_mem_nil
  unfold Command.registrations at h
  split at h
  case h_1 | h_3 => exact absurd h hregistering
  case h_2 condition | h_4 condition | h_8 condition =>
    cases List.mem_singleton.mp h
    exact ⟨condition, rfl, rfl⟩
  case h_5 =>
    split at h
    · exact absurd h hregistering
    · exact absurd h List.not_mem_nil
  case h_6 condition =>
    split at h
    · rename_i heq
      cases List.mem_singleton.mp h
      exact ⟨condition, heq ▸ rfl, rfl⟩
    · exact absurd h List.not_mem_nil
  case h_7 =>
    split at h
    · exact absurd h hregistering
    · exact absurd h List.not_mem_nil
  case h_9 => exact absurd h List.not_mem_nil

/-- A command keeps a condition that it does not remove. -/
theorem Has.perform (h : b.Has g source)
    (hc : ∀ text, c = g.removal text → sanitize text ≠ source) : (b.perform c).1.Has g source := by
  by_cases hdocument : ∃ config, c = .configure config
  · obtain ⟨config, rfl⟩ := hdocument
    rw [Has, registered_configure]
    refine mem_sources_foldl (.inl h) ?_
    split
    · exact RuleConfig.take_not_mem_registrations
    · exact List.not_mem_nil
  · rw [Has, registered_perform b fun config heq => hdocument ⟨config, heq⟩]
    refine mem_sources_foldl (.inl h) fun htake => ?_
    obtain ⟨text, heq, hsource⟩ := take_mem_registrations htake
    exact hc text heq hsource

/-- Commands keep a condition that none of them removes. -/
theorem Has.performAll {cs : List Command} (h : b.Has g source)
    (hcs : ∀ text, g.removal text ∈ cs → sanitize text ≠ source) :
    (b.performAll cs).Has g source := by
  induction cs generalizing b with
  | nil => exact h
  | cons c cs ih =>
    refine ih (h.perform ?_) fun text htext => hcs text (List.mem_cons_of_mem _ htext)
    rintro text rfl
    exact hcs text List.mem_cons_self

/-- A condition that is there is found by its removal. -/
theorem Has.removed (h : b.Has g (sanitize condition)) :
    (b.perform (g.removal condition)).2 = .removed true := by
  obtain ⟨r, hr, hsource⟩ := List.mem_map.mp h
  have hhas : Rules.has (sanitize condition) (b.registered g) = true :=
    List.any_eq_true.mpr ⟨r, hr, by rw [hsource, beq_self_eq_true]⟩
  rw [perform_removal, hhas]

end Rulebook

/-! ## Snapshots -/

/-- The keys of the snapshot in which a processor judges a message are sanitised. -/
theorem Processor.Reachable.sanitize_key {p : Processor} (hp : p.Reachable)
    (order : Message.Order) (m : Message) {key : String}
    (hkey : key ∈ (Snapshot.fill order m p.pool.acquire.1).maps.tags ∨
      key ∈ (Snapshot.fill order m p.pool.acquire.1).maps.metadata) : sanitize key = key := by
  rw [hp.isClean.acquire.1, Snapshot.fill, Condition.SnapshotMaps.empty,
    Snapshot.mem_addSanitized_entriesIn, Snapshot.mem_addSanitized_entriesIn] at hkey
  have hsanitized : ∀ entries : KeyMap String,
      (key ∈ (∅ : KeyMap String) ∨ ∃ k ∈ entries, sanitize k = key) → sanitize key = key := by
    rintro entries (hnone | ⟨k, -, rfl⟩)
    · exact absurd hnone (by simp)
    · exact Condition.sanitize_sanitize k
  exact hkey.elim (hsanitized _) (hsanitized _)

/-- A sanitised text does not have the word and is its own sanitised form. So a condition that was
added to the list of a stage, by a command of its own or with a document, is found there in either
form as long as it was not taken back, and no key of a snapshot is to be sanitised again. -/
theorem sanitize_settles (condition : String) :
    ¬ hyphenated <:+: (sanitize condition).toList ∧
    sanitize (sanitize condition) = sanitize condition ∧
    (∀ (s : Stage) (g : Registry), s.registry? = some g → ∀ (p : Processor) (c : Command),
      condition ∈ c.conditionsOf g → (p.perform c).2 = .done → ∀ later : List Command,
      (∀ text, g.removal text ∈ later → sanitize text ≠ sanitize condition) →
      let q := (p.perform c).1.performAll later
      (q.perform (g.removal condition)).2 = .removed true ∧
      q.perform (g.removal (sanitize condition)) = q.perform (g.removal condition)) ∧
    ∀ p : Processor, p.Reachable → ∀ (order : Message.Order) (m : Message) (key : String),
      key ∈ (Snapshot.fill order m p.pool.acquire.1).maps.tags ∨
        key ∈ (Snapshot.fill order m p.pool.acquire.1).maps.metadata →
      sanitize key = key := by
  refine ⟨Condition.not_infix_sanitize condition, Condition.sanitize_sanitize condition, ?_,
    fun p hp order m key hkey => hp.sanitize_key order m hkey⟩
  intro s g hs p c hcondition hdone later hlater q
  have hadded := Rulebook.has_of_added hs hcondition hdone
  have hthere : q.rulebook.Has g (sanitize condition) := by
    rw [Processor.rulebook_performAll]
    exact hadded.performAll hlater
  refine ⟨hthere.removed, ?_⟩
  unfold Processor.perform
  simp only [Rulebook.perform_removal, Condition.sanitize_sanitize]
  cases g <;> rfl

/-- Sanitising brings the ends of two words together without making a third one. The condition is
found in its sanitised form behind other commands, and the key of a tag is as conditions name it. -/
theorem sanitize_settles_overlapping :
    let condition := "'ttype-idype-id' in tags"
    let later : List Command :=
      [.addRenameIf "*" "all", .removeRenameIf "*", .removeDropIf condition]
    let p := Processor.empty .standard
    let q := (p.perform (.addRenameIf condition "named")).1.performAll later
    let m := Processor.hyphenated .tags
    sanitize condition = "'ttypeidype-id' in tags" ∧
    ¬ hyphenated <:+: (sanitize condition).toList ∧
    (q.perform (.removeRenameIf condition)).2 = .removed true ∧
    q.perform (.removeRenameIf (sanitize condition)) = q.perform (.removeRenameIf condition) ∧
    "typeid" ∈ (Snapshot.fill .ascending m p.pool.acquire.1).maps.tags ∧
    sanitize "typeid" = "typeid" := by
  intro condition later p q m
  obtain ⟨hnone, -, hfound, hkeys⟩ := sanitize_settles condition
  have hdone : (p.perform (.addRenameIf condition "named")).2 = .done := by
    decide +kernel
  have hlater : ∀ text, Registry.renames.removal text ∈ later →
      sanitize text ≠ sanitize condition := by
    intro text htext
    have hstar : text = "*" := by simpa [later, Registry.removal] using htext
    rw [hstar]
    decide
  obtain ⟨hremoved, hsame⟩ := hfound .renameIf .renames rfl p _ (List.mem_singleton_self _)
    hdone later hlater
  have hkey : "typeid" ∈ (Snapshot.fill .ascending m p.pool.acquire.1).maps.tags := by
    refine Snapshot.mem_addSanitized_entriesIn.mpr (.inr ⟨"type-id", ?_, by decide⟩)
    simp [m, Processor.hyphenated, Location.insert]
  exact ⟨by decide, hnone, hremoved, hsame, hkey, hkeys p (.empty _) _ m "typeid" (.inl hkey)⟩

end Telemetry
