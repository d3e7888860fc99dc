import Telemetry.Proofs.Rules.Reachability
import Telemetry.Proofs.Rules.Repetition

/-!
# Entries that are moved there and back

A processor that has been given one rule, whose condition always holds, edits this entry of every
message and does nothing else. So an entry that one such processor moves to a free place comes back
by another one that moves it from there: every message is restored, whatever the keys are, as long
as the entry is a text, which is what a moved field becomes.
-/

namespace Telemetry

namespace Rulebook

/-- Whether a text is a condition that holds whatever it is judged on. -/
def AlwaysHolds (b : Rulebook) (condition : String) : Prop :=
  ∃ p, b.compile condition = .ok p ∧ ∀ scope, p.holds scope = .ok true

/-- The star always holds, whatever constants there are. -/
theorem alwaysHolds_star (b : Rulebook) : b.AlwaysHolds "*" :=
  ⟨⟨"*", .constant (.bool true), b.environment.patterns⟩, rfl, fun _ => rfl⟩

/-- Whether the only rule is to edit an entry, under a condition that always holds. -/
structure OnlyEdits (b : Rulebook) (e : Edit) (kv : KeyValue) : Prop where
  rules : ∃ p : Condition.Program, b.edits e = [⟨p, kv⟩] ∧ ∀ scope, p.holds scope = .ok true
  others : ∀ s, s.edit? ≠ some e → b.ruleCount s = 0

variable {b : Rulebook} {e : Edit} {kv : KeyValue}

/-- The stage of an edit has as many rules as the edit. -/
theorem ruleCount_edit {s : Stage} (hs : s.edit? = some e) :
    b.ruleCount s = (b.edits e).length := by
  cases s <;> simp only [Stage.edit?, Option.some.injEq, reduceCtorEq] at hs <;> subst hs <;> rfl

/-- Other rules for an edit do not change the number of rules of other stages. -/
theorem ruleCount_withEdits_of_ne {s : Stage} (hs : s.edit? ≠ some e)
    (rules : List (Rule KeyValue)) : (b.withEdits e rules).ruleCount s = b.ruleCount s := by
  cases hedit : s.edit? with
  | none => cases s <;> first | rfl | exact absurd hedit (by simp [Stage.edit?])
  | some f =>
    have hne : f ≠ e := by
      rintro rfl
      exact hs hedit
    rw [ruleCount_edit hedit, ruleCount_edit hedit, withEdits]
    exact congrArg List.length (if_neg hne)

/-- A rulebook without rules that is given one to edit an entry has this rule alone. -/
theorem onlyEdits_perform (hempty : ∀ s, b.ruleCount s = 0) {s : Stage} (hs : s.edit? = some e)
    {condition : String} (hcondition : b.AlwaysHolds condition) (key value : String) :
    ∃ b', b.perform (.addEdit e condition key value) = (b', .done) ∧ b'.stages = b.stages ∧
      b'.OnlyEdits e ⟨key, value⟩ := by
  obtain ⟨p, hp, hholds⟩ := hcondition
  have hnone : b.edits e = [] := by
    apply List.length_eq_zero_iff.mp
    rw [← ruleCount_edit hs]
    exact hempty s
  refine ⟨b.withEdits e [⟨p, ⟨key, value⟩⟩], ?_, rfl, ?_, ?_⟩
  · rw [perform, addEdit, hp, hnone]
    rfl
  · exact ⟨p, if_pos rfl, hholds⟩
  · intro t ht
    rw [ruleCount_withEdits_of_ne ht]
    exact hempty t

/-- The stage with the rule edits the entry. -/
theorem OnlyEdits.runStage (h : b.OnlyEdits e kv) (hallowed : e.protectedKey? kv = none)
    (snapshot : Condition.Snapshot) {s : Stage} (hs : s.edit? = some e) (m : Message) :
    b.runStage (judgeOn snapshot) s m = .next (e.apply kv m) := by
  obtain ⟨p, hrules, hholds⟩ := h.rules
  have hjudge : judgeOn snapshot p = .ok true := hholds snapshot.scope
  have hsome : s.edit?.isSome = true := by rw [hs]; rfl
  rw [runStage_edit b _ hsome, stageRules_edit hs, hrules, ← applyRules_eq_outcome]
  simp only [applyRules, hjudge, hallowed]

/-- Any list of stages with the one that has the rule edits the entry once, and any other list
leaves messages alone. -/
theorem OnlyEdits.runStages (h : b.OnlyEdits e kv) (hallowed : e.protectedKey? kv = none)
    (snapshot : Condition.Snapshot) (stages : List Stage) (m : Message) :
    b.runStages (judgeOn snapshot) stages m =
      .forward (if some e ∈ stages.map Stage.edit? then e.apply kv m else m) := by
  induction stages generalizing m with
  | nil => rfl
  | cons s stages ih =>
    rw [Rulebook.runStages, List.map_cons]
    by_cases hs : s.edit? = some e
    · have hagain : e.apply kv (e.apply kv m) = e.apply kv m :=
        (Edit.settles (Stage.nodup_places hs)).twice m kv
      rw [h.runStage hallowed snapshot hs, hs, if_pos List.mem_cons_self]
      exact (ih (e.apply kv m)).trans (by rw [hagain, ite_self])
    · have hmem : some e ∈ s.edit? :: stages.map Stage.edit? ↔
          some e ∈ stages.map Stage.edit? := by
        simp [Ne.symm hs]
      rw [runStage_of_ruleCount_eq_zero (h.others s hs)]
      simp only [hmem]
      exact ih m

end Rulebook

namespace Processor

/-- A processor without rules that is given one to edit an entry edits it in every message. -/
theorem process_onlyEdit {p : Processor} (hempty : ∀ s, p.rulebook.ruleCount s = 0) {e : Edit}
    (hlisted : some e ∈ p.rulebook.stages.map Stage.edit?) {condition : String}
    (hcondition : p.rulebook.AlwaysHolds condition) (key value : String)
    (hallowed : e.protectedKey? ⟨key, value⟩ = none) :
    (p.perform (.addEdit e condition key value)).2 = .done ∧
      ∀ order m, ((p.perform (.addEdit e condition key value)).1.process order m).2 =
        .forward (e.apply ⟨key, value⟩ m) := by
  obtain ⟨s, -, hs⟩ := List.mem_map.mp hlisted
  obtain ⟨b, hb, hstages, honly⟩ := Rulebook.onlyEdits_perform hempty hs hcondition key value
  refine ⟨?_, fun order m => ?_⟩
  · rw [reply_perform, hb]
  · have hrulebook : (p.perform (.addEdit e condition key value)).1.rulebook = b := by
      rw [rulebook_perform, hb]
    rw [process_verdict, hrulebook, hstages, judge, honly.runStages hallowed, if_pos hlisted]

end Processor

/-! ## There and back -/

/-- The default order lists a stage for every two different parts of a message. -/
theorem Stage.move_mem_all {source target : Location} (hne : source ≠ target) :
    some (Edit.move source target) ∈ all.map edit? := by
  cases source <;> cases target <;> first | exact absurd rfl hne | decide

namespace Message

variable {source target : Location} {m : Message} {key newKey text : String}

/-- A text is moved by taking it from its place and writing it to the new one. -/
theorem moveEntry_text (hkey : newKey ≠ "") (h : m.lookup? source key = some (.string text)) :
    m.moveEntry source target ⟨key, newKey⟩ = target.insert (source.erase m key) newKey text := by
  have hget : source.get? m key = some text := by
    rw [source.get?_eq_lookup?, h]
    rfl
  have hnewKey : (newKey == "") = false := beq_false_of_ne hkey
  simp only [moveEntry, hget, hnewKey, Bool.false_eq_true, if_false]

/-- A text that is moved to a free place and back is where it was. -/
theorem moveEntry_moveEntry (hkey : key ≠ "") (hnewKey : newKey ≠ "")
    (hthere : m.lookup? source key = some (.string text)) (hfree : m.lookup? target newKey = none) :
    (m.moveEntry source target ⟨key, newKey⟩).moveEntry target source ⟨newKey, key⟩ = m := by
  have hmoved : (target.insert (source.erase m key) newKey text).lookup? target newKey =
      some (.string text) := by
    rw [Location.lookup?_insert, if_pos ⟨rfl, rfl⟩]
  rw [moveEntry_text hnewKey hthere, moveEntry_text hkey hmoved]
  apply ext_entries
  · simp
  · simp
  · intro l k
    simp only [Location.lookup?_insert, Location.lookup?_erase]
    by_cases hback : source = l ∧ key = k
    · obtain ⟨rfl, rfl⟩ := hback
      rw [if_pos ⟨rfl, rfl⟩, hthere]
    · rw [if_neg hback]
      by_cases hvia : target = l ∧ newKey = k
      · obtain ⟨rfl, rfl⟩ := hvia
        rw [if_pos ⟨rfl, rfl⟩, hfree]
      · rw [if_neg hvia, if_neg hvia, if_neg hback]

end Message

namespace Processor

/-- One processor has no rule but to move an entry to another part of a message, another one has no
rule but to move it back, both under conditions that always hold. Each message in which the entry is
a text and its new place is free is forwarded by the first one with the text in its new place, and
then by the second one as it came in. Fields that decide the type of a message are not moved. -/
theorem process_movedBack {p q : Processor} (hp : ∀ s, p.rulebook.ruleCount s = 0)
    (hq : ∀ s, q.rulebook.ruleCount s = 0) {source target : Location}
    (hlisted : some (.move source target) ∈ p.rulebook.stages.map Stage.edit?)
    (hlisted' : some (.move target source) ∈ q.rulebook.stages.map Stage.edit?)
    {condition condition' : String} (hcondition : p.rulebook.AlwaysHolds condition)
    (hcondition' : q.rulebook.AlwaysHolds condition') {m : Message} {key newKey text : String}
    (hkey : key ≠ "") (hnewKey : newKey ≠ "")
    (hthere : m.lookup? source key = some (.string text))
    (hfree : m.lookup? target newKey = none)
    (hsource : source = .fields → isReserved key = false)
    (htarget : target = .fields → isReserved newKey = false) :
    let there := p.perform (.addEdit (.move source target) condition key newKey)
    let back := q.perform (.addEdit (.move target source) condition' newKey key)
    there.2 = .done ∧ back.2 = .done ∧
      ∃ moved, moved = target.insert (source.erase m key) newKey text ∧
        (∀ order, (there.1.process order m).2 = .forward moved) ∧
        ∀ order, (back.1.process order moved).2 = .forward m := by
  intro there back
  have hallowed {l l' : Location} {k k' : String} (h : l = .fields → isReserved k = false) :
      (Edit.move l l').protectedKey? ⟨k, k'⟩ = none := by
    cases l with
    | fields => simp [Edit.protectedKey?, h rfl]
    | tags | metadata => rfl
  obtain ⟨hdone, hforward⟩ := process_onlyEdit hp hlisted hcondition key newKey (hallowed hsource)
  obtain ⟨hdone', hforward'⟩ :=
    process_onlyEdit hq hlisted' hcondition' newKey key (hallowed htarget)
  refine ⟨hdone, hdone', _, rfl, fun order => ?_, fun order => ?_⟩
  · rw [← Message.moveEntry_text hnewKey hthere]
    exact hforward order m
  · rw [← Message.moveEntry_text hnewKey hthere]
    have hback := Message.moveEntry_moveEntry hkey hnewKey hthere hfree
    exact (hforward' order _).trans (congrArg Verdict.forward hback)

/-- A field with the hyphen in its key becomes a tag of the same key and then the field again, by
processors with different orders of stages and different conditions. -/
theorem process_movedBack_hyphenatedField :
    ∃ (q : Processor) (m moved : Message),
      (∀ s, q.rulebook.ruleCount s = 0) ∧ q.rulebook.stages = [.moveTagToFields, .moveTagToFields] ∧
      q.rulebook.AlwaysHolds "true" ∧ m.lookup? .fields "type-id" = some (.string "7") ∧
      m.lookup? .tags "type-id" = none ∧
      (((Processor.empty .standard).perform
        (.addEdit (.move .fields .tags) "*" "type-id" "type-id")).1.process .ascending m).2 =
          .forward moved ∧
      moved.lookup? .fields "type-id" = none ∧
      moved.lookup? .tags "type-id" = some (.string "7") ∧
      ((q.perform (.addEdit (.move .tags .fields) "true" "type-id" "type-id")).1.process
        .ascending moved).2 = .forward m := by
  let q : Processor := { Processor.empty .standard with
    rulebook := { Rulebook.empty .standard with
      stages? := some [.moveTagToFields, .moveTagToFields] } }
  let m : Message := .single "disk" ∅ ∅ "type-id" (.string "7") .epoch
  have hempty (s : Stage) : (Processor.empty .standard).rulebook.ruleCount s = 0 := by
    cases s <;> rfl
  have hq (s : Stage) : q.rulebook.ruleCount s = 0 := by cases s <;> rfl
  have hlisted : some (Edit.move .fields .tags) ∈
      (Processor.empty .standard).rulebook.stages.map Stage.edit? := Stage.move_mem_all (by decide)
  have hlisted' : some (Edit.move .tags .fields) ∈ q.rulebook.stages.map Stage.edit? := by decide
  have hcondition : q.rulebook.AlwaysHolds "true" :=
    ⟨⟨"true", .constant (.bool true), .standard⟩, by rfl, fun _ => rfl⟩
  have hthere : m.lookup? .fields "type-id" = some (.string "7") := by
    simp [m, Message.single, Message.lookup?]
  have hfree : m.lookup? .tags "type-id" = none := by simp [m, Message.single, Message.lookup?]
  obtain ⟨-, -, moved, hmoved, hforward, hback⟩ := process_movedBack hempty hq hlisted hlisted'
    (Rulebook.alwaysHolds_star _) hcondition (by decide) (by decide) hthere hfree
    (fun _ => by decide) (by simp)
  refine ⟨q, m, moved, hq, rfl, hcondition, hthere, hfree, hforward _, ?_, ?_, hback _⟩
  · simp [hmoved, Location.lookup?_insert, Location.lookup?_erase]
  · simp [hmoved, Location.lookup?_insert]

end Processor

end Telemetry
