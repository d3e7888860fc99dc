import Telemetry.Proofs.Rules.Cumulative
import Telemetry.Proofs.Settling

/-!
# A rule document a second time

To add a rule document that was just added changes nothing. Each part of a rulebook takes in its
entries of the document one after the other, and entries that were taken in may come again. Since
the constants of the document are known by then and stay what they are, its conditions compile to
what they compiled to before.
-/

namespace Telemetry

open Condition (Environment Value)

/-! ## Names, types and new names -/

/-- Entries of a map settle: the last one of a key is there. -/
theorem settles_insert {X α : Type} (key : X → String) (v : X → α) :
    Settles (fun (map : KeyMap α) x => map.insert (key x) (v x))
      fun map x => some (v x) = none ∨ (map[key x]?).isSome = true :=
  .of_lookup (fun _ => ()) (fun map k => map[k]?) key (fun x _ => some (v x))
    (fun _ _ _ h => Std.ExtTreeMap.ext_getElem? h) (fun _ _ => rfl)
    (fun map x k => KeyMap.getElem?_insert map (key x) (v x) k) (fun _ _ _ => rfl) (fun _ _ => rfl)
    fun _ _ _ _ => .inr rfl

/-- Types settle: each is there once. -/
theorem settles_insertType :
    Settles (fun (types : List MessageType) type => types.insert type)
      fun types type => type ∈ types where
  here types type := List.mem_insert_self
  stays type h := List.mem_insert_of_mem h
  twice types type := List.insert_of_mem List.mem_insert_self
  past {types type} other h := by
    rw [List.insert_of_mem h, List.insert_of_mem (List.mem_insert_of_mem h)]
    exact .inl rfl

/-! ## Rules -/

namespace Rules

variable {α : Type}

/-- A rule replaces another one of its condition that was put into the list just before. -/
theorem upsert_upsert_of_eq {r x : Rule α} (h : r.source = x.source) (rules : List (Rule α)) :
    upsert x (upsert r rules) = upsert x rules := by
  induction rules with
  | nil => simp [upsert, h]
  | cons first rules ih =>
    by_cases hfirst : first.source = x.source
    · simp [upsert, h, hfirst]
    · simp [upsert, h, hfirst, ih]

/-- A rule whose condition has its place may be put there before or after a rule of another
condition. -/
theorem upsert_comm {r x : Rule α} (h : r.source ≠ x.source) {rules : List (Rule α)}
    (hx : x.source ∈ rules.map Rule.source) :
    upsert x (upsert r rules) = upsert r (upsert x rules) := by
  induction rules with
  | nil => exact absurd hx List.not_mem_nil
  | cons first rules ih =>
    by_cases hfirst : first.source = x.source
    · simp [upsert, hfirst, Ne.symm h]
    · have hrest : x.source ∈ rules.map Rule.source := by
        simpa [Ne.symm hfirst] using hx
      by_cases hr : first.source = r.source
      · simp [upsert, hr, h]
      · simp [upsert, hfirst, hr, ih hrest]

/-- Rules settle: the last one of a condition has the place of the first. -/
theorem settles_upsert :
    Settles (fun (rules : List (Rule α)) r => upsert r rules)
      fun rules r => r.source ∈ rules.map Rule.source where
  here rules r := by
    rw [sources_upsert]
    split <;> simp_all
  stays {rules r} other h := (sources_prefix_upsert other rules).subset h
  twice rules r := upsert_upsert_of_eq rfl rules
  past {rules x} r h := by
    by_cases heq : r.source = x.source
    · exact .inr (upsert_upsert_of_eq heq rules)
    · exact .inl (upsert_comm heq h)

end Rules

/-! ## Constants -/

namespace Condition.Environment

/-- Constants settle: the first map and the last scalar of a name are there. -/
theorem settles_addOne :
    Settles addOne fun env entry =>
      valueAfter entry.1 entry.2 none = none ∨ (env.constants[entry.1]?).isSome = true := by
  refine .of_lookup patterns (fun (env : Environment) (name : String) => env.constants[name]?)
    Prod.fst (fun entry => valueAfter entry.1 entry.2) (fun _ _ => ext_getElem?) patterns_addOne
    getElem?_addOne (fun entry old h => ?_) (fun entry old => ?_) fun entry other old h => ?_
  · rcases valueAfter_cases entry.1 entry.2 with hentry | ⟨v, hentry⟩ | ⟨v, hentry⟩ <;>
      simp [hentry, h]
  · rcases valueAfter_cases entry.1 entry.2 with hentry | ⟨v, hentry⟩ | ⟨v, hentry⟩ <;>
      simp [hentry]
  · rcases valueAfter_cases entry.1 entry.2 with hentry | ⟨v, hentry⟩ | ⟨v, hentry⟩
    · exact .inl (by rw [hentry, hentry])
    · exact .inr (by rw [hentry, hentry])
    · -- where there is something, the other entry leaves something too
      obtain ⟨w, rfl⟩ := Option.isSome_iff_exists.mp (h.resolve_left (by simp [hentry]))
      refine .inl ?_
      rcases valueAfter_cases other.1 other.2 with hother | ⟨u, hother⟩ | ⟨u, hother⟩ <;>
        simp [hentry, hother]

end Condition.Environment

/-! ## Documents -/

namespace RuleConfig

variable (c : RuleConfig)

/-- The constants of a document are known after it is added, and stay what they are when they are
added again. -/
theorem knownTo_knownTo (env : Environment) : c.knownTo (c.knownTo env) = c.knownTo env := by
  simp only [knownTo, Environment.add_eq_foldl]
  exact Environment.settles_addOne.foldl_foldl env c.constants

/-- What a document does to a list is to put rules into it. -/
theorem exists_foldl_upsert {g : Registry} {xs : List (Registration g.Action)}
    (h : ∀ x ∈ xs, c.Puts g x) :
    ∃ rs : List (Rule g.Action), ∀ rules,
      xs.foldl Registration.applyTo rules =
        rs.foldl (fun rules r => Rules.upsert r rules) rules := by
  induction xs with
  | nil => exact ⟨[], fun _ => rfl⟩
  | cons x xs ih =>
    obtain ⟨hx, hxs⟩ := List.forall_mem_cons.mp h
    obtain ⟨r, -, -⟩ := hx
    obtain ⟨rs, hrs⟩ := ih hxs
    exact ⟨r :: rs, fun rules => hrs (Rules.upsert r rules)⟩

/-- The rules of a document stay as they are when they are put into the list again. -/
theorem rulesAfter_appliedTo (b : Rulebook) (g : Registry) :
    c.rulesAfter (c.appliedTo b) g = c.rulesAfter b g := by
  have hknown : c.knownTo (c.appliedTo b).environment = c.knownTo b.environment :=
    c.knownTo_knownTo b.environment
  have hputs : ∀ x ∈ c.registrations (c.knownTo b.environment) g, c.Puts g x :=
    fun _ => puts_of_mem_registrations
  obtain ⟨rs, hrs⟩ := c.exists_foldl_upsert hputs
  rw [rulesAfter, hknown, registered_appliedTo, rulesAfter, hrs, hrs]
  exact Rules.settles_upsert.foldl_foldl (b.registered g) rs

/-- A rulebook stays as it is when a document is added again. -/
theorem appliedTo_appliedTo (b : Rulebook) : c.appliedTo (c.appliedTo b) = c.appliedTo b := by
  refine Rulebook.ext_registered ?_ fun g => ?_
  · have hstages : (c.appliedTo (c.appliedTo b)).stages? = (c.appliedTo b).stages? := by
      simp only [appliedTo]
      split <;> rfl
    have hnames : (c.appliedTo (c.appliedTo b)).droppedNames = (c.appliedTo b).droppedNames :=
      (settles_insert id fun _ => PUnit.unit).foldl_foldl b.droppedNames c.droppedNames
    have htypes : (c.appliedTo (c.appliedTo b)).droppedTypes = (c.appliedTo b).droppedTypes :=
      settles_insertType.foldl_foldl b.droppedTypes _
    have hrenames : (c.appliedTo (c.appliedTo b)).renames = (c.appliedTo b).renames :=
      (settles_insert Prod.fst Prod.snd).foldl_foldl b.renames c.renames
    have hconstants : (c.appliedTo (c.appliedTo b)).environment = (c.appliedTo b).environment :=
      c.knownTo_knownTo b.environment
    simp only [Rulebook.unconditional, hstages, hnames, htypes, hrenames, hconstants]
    rfl
  · rw [registered_appliedTo, rulesAfter_appliedTo, registered_appliedTo]

end RuleConfig

namespace Processor

/-- A processor that accepts a document accepts it a second time, and then nothing changes: not the
order of stages, not the rules, their order, programs and actions, not the names and types, not the
flag and not the constants. -/
theorem configure_configure (p : Processor) (c : RuleConfig)
    (h : (p.perform (.configure c)).2 = .done) :
    (p.perform (.configure c)).1.perform (.configure c) = p.perform (.configure c) := by
  have hperform : p.rulebook.perform (.configure c) = (c.appliedTo p.rulebook, .done) := by
    rw [← rulebook_configure h, ← h]
    rfl
  have hagain : (c.appliedTo p.rulebook).perform (.configure c) =
      (c.appliedTo p.rulebook, .done) := by
    have hknown : c.knownTo (c.appliedTo p.rulebook).environment =
        c.knownTo p.rulebook.environment := c.knownTo_knownTo p.rulebook.environment
    rw [Rulebook.perform_configure] at hperform ⊢
    rw [hknown]
    cases hfault : c.fault? (c.knownTo p.rulebook.environment) RuleOption.applied with
    | some fault => simp [hfault] at hperform
    | none => rw [c.appliedTo_appliedTo]
  simp only [perform, hperform, hagain]
  rfl

/-- A document that says several things twice, and names its own constant in a condition. -/
def repeatedEntries : RuleConfig :=
  { RuleConfig.empty with
    droppedNames := ["swap", "swap"], droppedTypes := ["log", "log"],
    dropIf := ["name == host", "*", "name == host"],
    renames := [("disk", "first"), ("disk", "second")],
    renameIf := [("tags.type-id == 1", "first"), ("*", "all"), ("tags.typeid == 1", "second")],
    constants := [("host", .string "a"), ("limits", .object [("x", .string "1")]),
      ("host", .string "b"), ("limits", .object [])] }

/-- The later of two rules with the same condition is there after both times, in the place of the
earlier one. -/
theorem configure_configure_repeatedEntries :
    let once := (Processor.empty .standard).perform (.configure repeatedEntries)
    once.2 = .done ∧ once.1.rulebook.dropIf.map Rule.source = ["name == host", "*"] ∧
    (once.1.rulebook.renameIf.map fun r => (r.source, r.action)) =
      [("tags.typeid == 1", "second"), ("*", "all")] ∧
    once.1.perform (.configure repeatedEntries) = once :=
  have hdone : ((Processor.empty .standard).perform (.configure repeatedEntries)).2 = .done := by
    decide +kernel
  ⟨hdone, by decide +kernel, by decide +kernel,
    configure_configure (.empty .standard) repeatedEntries hdone⟩

end Processor

end Telemetry
