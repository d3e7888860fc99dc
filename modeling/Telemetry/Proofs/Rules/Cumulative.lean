import Telemetry.Proofs.Condition.Constants
import Telemetry.Proofs.Rules.Documents
import Telemetry.Proofs.Rules.Failure

/-!
# What a rule document keeps

Rule documents add to what a rulebook holds: what a document does not mention stays as it is, and
where it is. The flag is the exception. A document that does not mention it switches the
normalisation of units off, so that even the empty document can change what becomes of a message.
-/

namespace Telemetry

open Condition (Environment sanitize)

/-! ## Rules -/

namespace Rules

variable {α : Type}

/-- A rule stays in its place if another one is put into the list. -/
theorem getElem?_upsert_of_ne {r x : Rule α} {rules : List (Rule α)} {i : Nat}
    (hx : rules[i]? = some x) (hne : r.source ≠ x.source) : (upsert r rules)[i]? = some x := by
  induction rules generalizing i with
  | nil => exact absurd hx (by simp)
  | cons first rules ih =>
    rw [upsert]
    cases i with
    | zero =>
      obtain rfl : first = x := Option.some.inj hx
      rw [if_neg (by simpa using Ne.symm hne)]
      rfl
    | succ i =>
      split
      · exact hx
      · exact ih hx

/-- Conditions keep their places if a rule is put into the list. -/
theorem sources_prefix_upsert (r : Rule α) (rules : List (Rule α)) :
    rules.map Rule.source <+: (upsert r rules).map Rule.source := by
  rw [sources_upsert]
  split
  · exact List.prefix_rfl
  · exact List.prefix_append _ _

end Rules

namespace RuleConfig

variable {c : RuleConfig} {env : Environment} {g : Registry}

/-- The conditions that a document has for a list. -/
def conditionsOf (c : RuleConfig) : Registry → List String
  | .drops => c.dropIf
  | .renames => c.renameIf.map (·.1)
  | .edits e => (c.edits e).map (·.condition)
  | .prefixes => c.prefixes.map (·.1)

/-- A document puts rules with its conditions into a list and takes none out. -/
inductive Puts (c : RuleConfig) (g : Registry) : Registration g.Action → Prop where
  | put (r : Rule g.Action) {condition : String} (hcondition : condition ∈ c.conditionsOf g)
      (hsource : r.source = sanitize condition) : Puts c g (.put r)

/-- A rule that is registered under a condition of the document is one that the document puts into
the list. -/
theorem puts_of_mem_registering {condition : String} {action : g.Action}
    {x : Registration g.Action} (hcondition : condition ∈ c.conditionsOf g)
    (hx : x ∈ registering env condition action) : c.Puts g x := by
  unfold registering at hx
  split at hx
  · obtain rfl := List.mem_singleton.mp hx
    exact .put _ hcondition rfl
  · exact absurd hx List.not_mem_nil

/-- What the entries of an option put into a list has their conditions. -/
theorem puts_of_mem_commandsOf {o : RuleOption} {command : Command}
    (hcommand : command ∈ c.commandsOf o) {x : Registration g.Action}
    (hx : x ∈ command.registrations env g) : c.Puts g x := by
  cases o with
  | stageOrder =>
    rw [commandsOf] at hcommand
    split at hcommand
    · exact absurd hcommand List.not_mem_nil
    · obtain rfl := List.mem_singleton.mp hcommand
      cases g <;> exact absurd hx List.not_mem_nil
  | addBaseEnv | normalizeUnits =>
    obtain rfl := List.mem_singleton.mp hcommand
    cases g <;> exact absurd hx List.not_mem_nil
  | dropMessages | dropByMessageType | renameMessages =>
    obtain ⟨entry, -, rfl⟩ := List.mem_map.mp hcommand
    cases g <;> exact absurd hx List.not_mem_nil
  | dropMessagesIf =>
    obtain ⟨condition, hentry, rfl⟩ := List.mem_map.mp hcommand
    cases g with
    | drops =>
      rw [Command.registrations] at hx
      exact puts_of_mem_registering hentry hx
    | _ => exact absurd hx List.not_mem_nil
  | renameMessagesIf =>
    obtain ⟨entry, hentry, rfl⟩ := List.mem_map.mp hcommand
    cases g with
    | renames =>
      rw [Command.registrations] at hx
      have hcondition : entry.1 ∈ c.conditionsOf .renames := List.mem_map_of_mem hentry
      exact puts_of_mem_registering hcondition hx
    | _ => exact absurd hx List.not_mem_nil
  | changeUnitPrefix =>
    obtain ⟨entry, hentry, rfl⟩ := List.mem_map.mp hcommand
    cases g with
    | prefixes =>
      rw [Command.registrations] at hx
      have hcondition : entry.1 ∈ c.conditionsOf .prefixes := List.mem_map_of_mem hentry
      split at hx
      · exact puts_of_mem_registering hcondition hx
      · exact absurd hx List.not_mem_nil
    | _ => exact absurd hx List.not_mem_nil
  | edit e =>
    obtain ⟨entry, hentry, rfl⟩ := List.mem_map.mp hcommand
    cases g with
    | edits e' =>
      rw [Command.registrations] at hx
      split at hx
      · rename_i heq
        subst heq
        have hcondition : entry.condition ∈ c.conditionsOf (.edits e') :=
          List.mem_map_of_mem hentry
        exact puts_of_mem_registering hcondition hx
      · exact absurd hx List.not_mem_nil
    | _ => exact absurd hx List.not_mem_nil

/-- What a document does to a list is to put rules of its own into it. -/
theorem puts_of_mem_registrations {x : Registration g.Action} (hx : x ∈ c.registrations env g) :
    c.Puts g x := by
  obtain ⟨command, hcommand, hx⟩ := List.mem_flatMap.mp hx
  rcases List.mem_cons.mp hcommand with rfl | hcommand
  · exact puts_of_mem_commandsOf (o := .addBaseEnv) (List.mem_singleton_self _) hx
  · obtain ⟨o, -, hcommand⟩ := List.mem_flatMap.mp hcommand
    exact puts_of_mem_commandsOf hcommand hx

/-- Conditions keep their places when rules are put into the list. -/
theorem sources_prefix_foldl {xs : List (Registration g.Action)} (h : ∀ x ∈ xs, c.Puts g x)
    (rules : List (Rule g.Action)) :
    rules.map Rule.source <+: (xs.foldl Registration.applyTo rules).map Rule.source := by
  induction xs generalizing rules with
  | nil => exact List.prefix_rfl
  | cons x xs ih =>
    obtain ⟨hx, hxs⟩ := List.forall_mem_cons.mp h
    obtain ⟨r, -, -⟩ := hx
    exact (Rules.sources_prefix_upsert r rules).trans (ih hxs _)

/-- A rule whose condition is not among those of the document stays in its place. -/
theorem getElem?_foldl_applyTo {xs : List (Registration g.Action)} (h : ∀ x ∈ xs, c.Puts g x)
    {rules : List (Rule g.Action)} {i : Nat} {r : Rule g.Action} (hr : rules[i]? = some r)
    (hnew : ∀ condition ∈ c.conditionsOf g, sanitize condition ≠ r.source) :
    (xs.foldl Registration.applyTo rules)[i]? = some r := by
  induction xs generalizing rules with
  | nil => exact hr
  | cons x xs ih =>
    obtain ⟨hx, hxs⟩ := List.forall_mem_cons.mp h
    obtain ⟨r', hcondition, hsource⟩ := hx
    exact ih hxs (Rules.getElem?_upsert_of_ne hr (hsource ▸ hnew _ hcondition))

end RuleConfig

/-! ## Names, types and new names -/

/-- The names that are dropped are those from before and those of the document. -/
theorem mem_foldl_insert {names : List String} {old : KeyMap PUnit} {name : String} :
    name ∈ names.foldl (fun names name => names.insert name ⟨⟩) old ↔
      name ∈ old ∨ name ∈ names := by
  induction names generalizing old with
  | nil => simp
  | cons first names ih =>
    rw [List.foldl_cons, ih, Std.ExtTreeMap.mem_insert, Std.LawfulEqCmp.compare_eq_iff_eq,
      List.mem_cons]
    tauto

/-- The types that are dropped are those from before and those of the document. -/
theorem mem_foldl_insertType {types old : List MessageType} {t : MessageType} :
    t ∈ types.foldl (fun types type => types.insert type) old ↔ t ∈ old ∨ t ∈ types := by
  induction types generalizing old with
  | nil => simp
  | cons first types ih =>
    rw [List.foldl_cons, ih, List.mem_insert_iff, List.mem_cons]
    tauto

/-- A name that a document does not rename is renamed as before. -/
theorem getElem?_foldl_insert {renames : List (String × String)} {old : KeyMap String}
    {name : String} (h : name ∉ renames.map Prod.fst) :
    (renames.foldl (fun names rename => names.insert rename.1 rename.2) old)[name]? =
      old[name]? := by
  induction renames generalizing old with
  | nil => rfl
  | cons rename renames ih =>
    obtain ⟨hrename, hrenames⟩ := not_or.mp (mt List.mem_cons.mpr h)
    rw [List.foldl_cons, ih hrenames, KeyMap.getElem?_insert, if_neg hrename]

/-! ## Documents -/

/-- What a rulebook keeps of another one that has accepted a document. -/
structure RuleConfig.Keeps (c : RuleConfig) (b b' : Rulebook) : Prop where
  stages : c.stageOrder = [] → b'.stages? = b.stages?
  names (name : String) :
    name ∈ b'.droppedNames ↔ name ∈ b.droppedNames ∨ name ∈ c.droppedNames
  types (t : MessageType) :
    t ∈ b'.droppedTypes ↔
      t ∈ b.droppedTypes ∨ ∃ name ∈ c.droppedTypes, MessageType.ofName? name = some t
  renames (name : String) : name ∉ c.renames.map Prod.fst → b'.renames[name]? = b.renames[name]?
  order (g : Registry) :
    (b.registered g).map Rule.source <+: (b'.registered g).map Rule.source
  rules (g : Registry) (i : Nat) (r : Rule g.Action) : (b.registered g)[i]? = some r →
    (∀ condition ∈ c.conditionsOf g, sanitize condition ≠ r.source) →
      (b'.registered g)[i]? = some r
  constants (name : String) : name ∉ c.constants.map Prod.fst →
    b'.environment.constants[name]? = b.environment.constants[name]?

namespace RuleConfig

/-- What a document does not mention is kept. -/
theorem keeps_appliedTo (c : RuleConfig) (b : Rulebook) : c.Keeps b (c.appliedTo b) where
  stages h := by simp [appliedTo, h]
  names name := mem_foldl_insert
  types t := by simp [appliedTo, mem_foldl_insertType]
  renames name h := getElem?_foldl_insert h
  order g := by
    rw [registered_appliedTo]
    exact sources_prefix_foldl (fun _ => puts_of_mem_registrations) _
  rules g i r hr hnew := by
    rw [registered_appliedTo]
    exact getElem?_foldl_applyTo (fun _ => puts_of_mem_registrations) hr hnew
  constants name h := b.environment.getElem?_add_of_notMem h

/-- An empty document does nothing but to switch the normalisation of units off. -/
theorem appliedTo_empty (b : Rulebook) :
    empty.appliedTo b = { b with normalizesUnits := false } := by
  refine Rulebook.ext_registered rfl fun g => ?_
  rw [registered_appliedTo]
  cases g <;> rfl

/-- A document sets nothing that is not among its options. -/
theorem readMembers?_normalizesUnits {seen : List RuleOption} {c c' : RuleConfig}
    {members : List (String × Json)} (h : readMembers? seen c members = some c')
    (habsent : ∀ member ∈ members, RuleOption.ofKey? member.1 ≠ some .normalizeUnits) :
    c'.normalizesUnits = c.normalizesUnits := by
  induction members generalizing seen c with
  | nil => rw [Option.some.inj h]
  | cons member members ih =>
    obtain ⟨hmember, hmembers⟩ := List.forall_mem_cons.mp habsent
    rw [readMembers?] at h
    cases ho : RuleOption.ofKey? member.1 with
    | none =>
      rw [ho] at h
      exact ih h hmembers
    | some o =>
      simp only [ho] at h
      split at h
      · exact absurd h (by simp)
      · cases hset : c.set? o member.2 with
        | none => simp [hset] at h
        | some next =>
          simp only [hset] at h
          refine (ih h hmembers).trans ?_
          cases o with
          | normalizeUnits => exact absurd ho hmember
          | _ =>
            obtain ⟨v, -, rfl⟩ := Option.map_eq_some_iff.mp hset
            rfl

end RuleConfig

namespace Processor

/-- A processor that accepts a document keeps what the document does not mention: the order of
stages, each rule in its place, dropped names and types, new names, and constants. Only the flag is
always that of the document, which is off in a document that does not mention it. So the empty
document does to messages what it does to switch the normalisation of units off, and nothing where
it was off. -/
theorem configure_keeps (p : Processor) (c : RuleConfig)
    (h : (p.perform (.configure c)).2 = .done) :
    let after := (p.perform (.configure c)).1
    let emptied := p.perform (.configure .empty)
    c.Keeps p.rulebook after.rulebook ∧
    after.rulebook.normalizesUnits = c.normalizesUnits ∧
    (∀ members, RuleConfig.ofMembers? members = some c →
      (∀ member ∈ members, RuleOption.ofKey? member.1 ≠ some .normalizeUnits) →
        after.rulebook.normalizesUnits = false) ∧
    emptied.2 = .done ∧
    (∀ order m, (emptied.1.process order m).2 =
      ((p.perform (.normalizeUnits false)).1.process order m).2) ∧
    (p.rulebook.normalizesUnits = false →
      ∀ order m, (emptied.1.process order m).2 = (p.process order m).2) := by
  intro after emptied
  have hafter : after.rulebook = c.appliedTo p.rulebook := rulebook_configure h
  have hempty : p.rulebook.perform (.configure .empty) =
      ({ p.rulebook with normalizesUnits := false }, .done) := by
    rw [Rulebook.perform_configure, ← RuleConfig.appliedTo_empty]
    rfl
  have hemptied (order : Message.Order) (m : Message) : (emptied.1.process order m).2 =
      ((p.perform (.normalizeUnits false)).1.process order m).2 := by
    simp only [emptied, process_verdict, judge, perform, hempty]
    rfl
  refine ⟨?_, ?_, fun members hmembers habsent => ?_, ?_, hemptied, fun hoff order m => ?_⟩
  · rw [hafter]
    exact c.keeps_appliedTo p.rulebook
  · rw [hafter]
    rfl
  · rw [hafter]
    exact RuleConfig.readMembers?_normalizesUnits hmembers habsent
  · exact congrArg Prod.snd hempty
  · rw [hemptied, process_verdict, process_verdict]
    have hsame : { p.rulebook with normalizesUnits := false } = p.rulebook := by rw [← hoff]
    simp only [perform, Rulebook.perform, hsame]
    rfl

/-- An order of stages, a condition under which messages are dropped, and normalised units. -/
def dropsInOrder : List Command :=
  [.setStages ["drop_if", "rename"], .addDropIf "name == 'a'", .normalizeUnits true]

/-- Another condition. -/
def secondDrop : RuleConfig := { RuleConfig.empty with dropIf := ["fields.value > 5"] }

/-- The first condition keeps its place in front of the second, and the order of stages is kept. -/
theorem configure_keeps_secondDrop :
    let p := (Processor.empty .standard).performAll dropsInOrder
    let after := p.perform (.configure secondDrop)
    after.2 = .done ∧ secondDrop.Keeps p.rulebook after.1.rulebook ∧
    after.1.rulebook.stages = [.dropIf, .rename] ∧
    after.1.rulebook.dropIf.map Rule.source = ["name == 'a'", "fields.value > 5"] ∧
    p.rulebook.normalizesUnits = true ∧ after.1.rulebook.normalizesUnits = false :=
  have hdone : (((Processor.empty .standard).performAll dropsInOrder).perform
      (.configure secondDrop)).2 = .done := by decide +kernel
  ⟨hdone, (configure_keeps _ secondDrop hdone).1, by decide +kernel, by decide +kernel,
    by decide +kernel, (configure_keeps _ secondDrop hdone).2.1⟩

/-- A number of bytes, with its unit in full. -/
def bytesInFull : Message :=
  .single "disk_used" ∅ ((∅ : KeyMap String).insert "unit" "Byte") "value" (.int 5) .epoch

/-- The unit with which a message leaves. -/
def unitOf? (v : Verdict) : Option String := (v.forwarded? false).bind (·.metadata["unit"]?)

/-- Where units are normalised, the empty document changes what becomes of a message. -/
theorem process_emptyDocument_unit :
    ∃ c : RuleConfig, RuleConfig.ofJson (.object []) = .ok c ∧
      let p := ((Processor.empty .standard).perform (.normalizeUnits true)).1
      let after := p.perform (.configure c)
      after.2 = .done ∧ unitOf? (p.process .ascending bytesInFull).2 = some "B" ∧
      unitOf? (after.1.process .ascending bytesInFull).2 = some "Byte" ∧
      (after.1.process .ascending bytesInFull).2 ≠ (p.process .ascending bytesInFull).2 :=
  ⟨.empty, rfl, by decide +kernel, by decide +kernel, by decide +kernel,
    fun hsame => absurd (congrArg unitOf? hsame) (by decide +kernel)⟩

end Processor

end Telemetry
