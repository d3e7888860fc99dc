import Mathlib.Data.List.Basic
import Telemetry.Proofs.Rules.Frame

/-!
# Stages on different parts of a message

A stage that edits entries looks at the parts of the message that it works on and at no others, and
it changes no others. Whether it fails does not depend on the message at all. So two such stages
that share no part may change places in the order of the stages: each message has the same fate,
but for the stage that a failure is blamed on.
-/

namespace Telemetry

/-- The parts of a message that an edit looks at or changes. -/
def Edit.places : Edit → List Location
  | add l | delete l => [l]
  | move source target => [source, target]

/-- An edit is about entries in its parts. -/
theorem Edit.Concerns.mem_places {e : Edit} {kv : KeyValue} {l : Location} {key : String}
    (h : e.Concerns kv l key) : l ∈ e.places := by
  cases e with
  | add place | delete place =>
    obtain ⟨rfl, -⟩ := h
    exact List.mem_singleton_self _
  | move source target =>
    rcases h with ⟨rfl, -⟩ | ⟨rfl, -⟩
    · exact List.mem_cons_self
    · exact List.mem_cons_of_mem _ (List.mem_singleton_self _)

/-! ## Acting on parts of a message -/

/-- Whether two messages have the same entries in these parts. -/
def AgreeOn (places : List Location) (m w : Message) : Prop :=
  ∀ l ∈ places, ∀ key, m.lookup? l key = w.lookup? l key

/-- Whether what is done to a message is about these parts of it: the rest stays as it is, and
nothing but these parts decides what becomes of them. -/
structure ActsOn (places : List Location) (act : Message → Message) : Prop where
  name (m : Message) : (act m).name = m.name
  timestamp (m : Message) : (act m).timestamp = m.timestamp
  frame (m : Message) : ∀ l ∉ places, ∀ key, (act m).lookup? l key = m.lookup? l key
  agree (m w : Message) : AgreeOn places m w → AgreeOn places (act m) (act w)

namespace ActsOn

variable {places others : List Location} {act act' : Message → Message}

/-- To leave a message as it is acts on any places. -/
theorem id : ActsOn places fun m => m :=
  ⟨fun _ => rfl, fun _ => rfl, fun _ _ _ _ => rfl, fun _ _ h => h⟩

/-- Two actions on the same places act on them one after the other. -/
theorem comp (h : ActsOn places act) (h' : ActsOn places act') :
    ActsOn places fun m => act' (act m) where
  name m := (h'.name _).trans (h.name m)
  timestamp m := (h'.timestamp _).trans (h.timestamp m)
  frame m l hl key := (h'.frame _ l hl key).trans (h.frame m l hl key)
  agree m w hagree := h'.agree _ _ (h.agree m w hagree)

/-- What is done to other parts is not noticed. -/
theorem lookup?_behind (h : ActsOn places act) (h' : ActsOn others act')
    (hdisjoint : places.Disjoint others) {l : Location} (hl : l ∉ others) (m : Message)
    (key : String) : (act (act' m)).lookup? l key = (act' (act m)).lookup? l key := by
  rw [h'.frame _ l hl]
  by_cases hplace : l ∈ places
  · exact h.agree _ _ (fun l hl key => h'.frame m l (fun hother => hdisjoint hl hother) key) l
      hplace key
  · rw [h.frame _ l hplace, h'.frame m l hl, h.frame m l hplace]

/-- What is done to different parts may be done in either order. -/
theorem commute (h : ActsOn places act) (h' : ActsOn others act')
    (hdisjoint : places.Disjoint others) (m : Message) : act (act' m) = act' (act m) := by
  refine Message.ext_entries ?_ ?_ fun l key => ?_
  · rw [h.name, h'.name, h'.name, h.name]
  · rw [h.timestamp, h'.timestamp, h'.timestamp, h.timestamp]
  · by_cases hother : l ∈ others
    · exact (h'.lookup?_behind h (fun _ hl hl' => hdisjoint hl' hl)
      (fun hl => hdisjoint hl hother) m key).symm
    · exact h.lookup?_behind h' hdisjoint hother m key

end ActsOn

/-! ## Edits -/

/-- An entry as a text is what the entry holds. -/
theorem Location.get?_eq_lookup? (l : Location) (m : Message) (key : String) :
    l.get? m key = (m.lookup? l key).map FieldValue.text := by
  cases l with
  | fields => rfl
  | _ => simp [get?, Message.lookup?, Function.comp_def, FieldValue.text]

namespace AgreeOn

variable {places : List Location} {m w : Message}

/-- The same entry may be written into two messages that agree. -/
theorem insert (h : AgreeOn places m w) (place : Location) (key value : String) :
    AgreeOn places (place.insert m key value) (place.insert w key value) := by
  intro l hl key'
  rw [Location.lookup?_insert, Location.lookup?_insert, h l hl key']

/-- The same entry may be taken out of two messages that agree. -/
theorem erase (h : AgreeOn places m w) (place : Location) (key : String) :
    AgreeOn places (place.erase m key) (place.erase w key) := by
  intro l hl key'
  rw [Location.lookup?_erase, Location.lookup?_erase, h l hl key']

/-- Messages that agree on a place have the same entries there. -/
theorem get? (h : AgreeOn places m w) {l : Location} (hl : l ∈ places) (key : String) :
    l.get? m key = l.get? w key := by
  rw [l.get?_eq_lookup?, l.get?_eq_lookup?, h l hl key]

end AgreeOn

/-- An edit looks at its parts only. -/
theorem Edit.apply_agree (e : Edit) (kv : KeyValue) {m w : Message} (h : AgreeOn e.places m w) :
    AgreeOn e.places (e.apply kv m) (e.apply kv w) := by
  cases e with
  | add place => exact h.insert place kv.key kv.value
  | delete place => exact h.erase place kv.key
  | move source target =>
    have hsource : source.get? m kv.key = source.get? w kv.key := h.get? List.mem_cons_self kv.key
    simp only [apply, Message.moveEntry, ← hsource]
    cases source.get? m kv.key with
    | none => exact h
    | some s => exact (h.erase source kv.key).insert target _ s

/-- An edit is about its parts. -/
theorem Edit.apply_actsOn (e : Edit) (kv : KeyValue) : ActsOn e.places (e.apply kv) where
  name m := (e.apply_frame kv m).1
  timestamp m := (e.apply_frame kv m).2.1
  frame m l hl key := (e.apply_frame kv m).2.2 l key fun hconcerns => hl hconcerns.mem_places
  agree _ _ h := e.apply_agree kv h

/-! ## Stages -/

namespace StageRule

variable {judge : Judge} {places : List Location}

/-- A rule acts on the places on which its effect acts. -/
theorem applyTo_actsOn {r : StageRule} (h : ActsOn places r.effect) :
    ActsOn places (r.applyTo judge) := by
  unfold applyTo
  split
  · exact h
  · exact .id

/-- Rules act on the places on which all of their effects act. -/
theorem applyAll_actsOn {rules : List StageRule} (h : ∀ r ∈ rules, ActsOn places r.effect) :
    ActsOn places (applyAll judge rules) := by
  induction rules with
  | nil => exact .id
  | cons r rules ih =>
    obtain ⟨hr, hrules⟩ := List.forall_mem_cons.mp h
    exact (applyTo_actsOn hr).comp (ih hrules)

/-- Whether rules fail, and why, does not depend on the message. -/
theorem outcome_cases (judge : Judge) (refused : Option String) (rules : List StageRule) :
    (∀ m, outcome judge refused rules m = .next (applyAll judge rules m)) ∨
      ∃ cause, ∀ m, ∃ m', outcome judge refused rules m = .failed cause m' := by
  unfold outcome
  cases rules.findSome? (fault? judge) with
  | some fault => exact .inr ⟨_, fun m => ⟨_, rfl⟩⟩
  | none =>
    cases refused.or (rules.findSome? (refused? judge)) with
    | some key => exact .inr ⟨_, fun m => ⟨_, rfl⟩⟩
    | none => exact .inl fun m => rfl

end StageRule

/-- Two messages have the same fate, but for a failure in one of the stages: both are dropped for
the same reason, or forwarded as the same message, or fail. -/
inductive Verdict.SameBut (stages : List Stage) : Verdict → Verdict → Prop where
  | same (v : Verdict) : SameBut stages v v
  | fail (f g : Failure) (hf : f.stage ∈ stages) (hg : g.stage ∈ stages) :
    SameBut stages (.fail f) (.fail g)

/-- Where no failure may differ, the fates are the same. -/
theorem Verdict.SameBut.eq {v w : Verdict} (h : v.SameBut [] w) : v = w := by
  cases h with
  | same => rfl
  | fail f g hf hg => exact absurd hf List.not_mem_nil

namespace Rulebook

variable (b : Rulebook) (judge : Judge) {s t : Stage} {e f : Edit}

/-- The rules of a stage that edits entries are about the parts of the edit. -/
theorem stageRules_actsOn (hs : s.edit? = some e) :
    ActsOn e.places (StageRule.applyAll judge (b.stageRules s)) := by
  refine StageRule.applyAll_actsOn fun r hr => ?_
  rw [stageRules_edit hs] at hr
  obtain ⟨rule, -, rfl⟩ := List.mem_map.mp hr
  exact e.apply_actsOn rule.action

/-- A stage that edits entries fails on every message, or on none. -/
theorem runStage_cases (hs : s.edit? = some e) :
    (∀ m, b.runStage judge s m = .next (StageRule.applyAll judge (b.stageRules s) m)) ∨
      ∃ cause, ∀ m, ∃ m', b.runStage judge s m = .failed cause m' := by
  have hsome : s.edit?.isSome = true := by rw [hs]; rfl
  simp only [b.runStage_edit judge hsome]
  exact StageRule.outcome_cases judge none (b.stageRules s)

/-- Two stages in front that share no part of a message may change places. -/
theorem runStages_swap (hs : s.edit? = some e) (ht : t.edit? = some f)
    (hdisjoint : e.places.Disjoint f.places) (rest : List Stage) (m : Message) :
    (b.runStages judge (s :: t :: rest) m).SameBut [s, t]
      (b.runStages judge (t :: s :: rest) m) := by
  simp only [runStages]
  rcases b.runStage_cases judge hs with hs' | ⟨cause, hs'⟩ <;>
    rcases b.runStage_cases judge ht with ht' | ⟨cause', ht'⟩
  · have hcommute :=
      (b.stageRules_actsOn judge hs).commute (b.stageRules_actsOn judge ht) hdisjoint m
    simp only [hs', ht', hcommute]
    exact .same _
  · obtain ⟨m₁, h₁⟩ := ht' (StageRule.applyAll judge (b.stageRules s) m)
    obtain ⟨m₂, h₂⟩ := ht' m
    simp only [hs', h₁, h₂]
    exact .fail _ _ (by simp) (by simp)
  · obtain ⟨m₁, h₁⟩ := hs' (StageRule.applyAll judge (b.stageRules t) m)
    obtain ⟨m₂, h₂⟩ := hs' m
    simp only [ht', h₁, h₂]
    exact .fail _ _ (by simp) (by simp)
  · obtain ⟨m₁, h₁⟩ := hs' m
    obtain ⟨m₂, h₂⟩ := ht' m
    simp only [h₁, h₂]
    exact .fail _ _ (by simp) (by simp)

/-- What two rows of stages make of a message is also the same behind other stages. -/
theorem runStages_sameBut {stages run run' : List Stage}
    (h : ∀ m, (b.runStages judge run m).SameBut stages (b.runStages judge run' m))
    (before : List Stage) (m : Message) :
    (b.runStages judge (before ++ run) m).SameBut stages
      (b.runStages judge (before ++ run') m) := by
  induction before generalizing m with
  | nil => exact h m
  | cons first before ih =>
    rw [List.cons_append, List.cons_append, runStages, runStages]
    cases b.runStage judge first m with
    | next m' => exact ih m'
    | drop reason => exact .same _
    | failed cause m' => exact .same _

end Rulebook

namespace Processor

/-- Two stages next to each other that edit entries and share no part of a message may change
places: the processor drops, forwards or fails the same messages, and forwards the same in their
place. -/
theorem process_independentStages (p : Processor) (order : Message.Order) (m : Message)
    {s t : Stage} {e f : Edit} (hs : s.edit? = some e) (ht : t.edit? = some f)
    (hdisjoint : e.places.Disjoint f.places) (before after : List Stage) :
    ((p.withStages (before ++ [s, t] ++ after)).process order m).2.SameBut [s, t]
      ((p.withStages (before ++ [t, s] ++ after)).process order m).2 := by
  have hswap := p.rulebook.runStages_sameBut (p.judge order m)
    (p.rulebook.runStages_swap (p.judge order m) hs ht hdisjoint after) before m
  have hrun (stages : List Stage) : ((p.withStages stages).process order m).2 =
      p.rulebook.runStages (p.judge order m) stages m := by
    rw [process_verdict]
    exact Rulebook.runStages_withStages _ _ m
  rw [hrun, hrun, List.append_assoc, List.append_assoc]
  exact hswap

/-- A tag is added and a field deleted in either order, between stages that pass the message on. -/
theorem process_independentStages_addTag :
    ∃ (p : Processor) (m m' : Message),
      Stage.addTag.edit? = some (.add .tags) ∧ Stage.deleteField.edit? = some (.delete .fields) ∧
      (Edit.add .tags).places.Disjoint (Edit.delete .fields).places ∧
      ((p.withStages [.dropByName, .addTag, .deleteField, .rename]).process .ascending m).2 =
        .forward m' ∧
      m'.lookup? .tags "site" = some (.string "lab") ∧ m'.lookup? .fields "online" = none ∧
      ((p.withStages [.dropByName, .addTag, .deleteField, .rename]).process .ascending m).2.SameBut
        [.addTag, .deleteField]
        ((p.withStages [.dropByName, .deleteField, .addTag, .rename]).process .ascending m).2 := by
  let always : Condition.Program := ⟨"*", .constant (.bool true), .standard⟩
  let edits (e : Edit) : List (Rule KeyValue) :=
    if e = .add .tags then [⟨always, ⟨"site", "lab"⟩⟩]
    else if e = .delete .fields then [⟨always, ⟨"online", ""⟩⟩]
    else []
  let p : Processor :=
    { Processor.empty .standard with rulebook := { Rulebook.empty .standard with edits := edits } }
  let m : Message := .single "disk" ∅ ∅ "online" (.bool true) .epoch
  let m' : Message := Location.fields.erase (Location.tags.insert m "site" "lab") "online"
  have hforward : ((p.withStages [.dropByName, .addTag, .deleteField, .rename]).process
      .ascending m).2 = .forward m' := rfl
  have htag : m'.lookup? .tags "site" = some (.string "lab") := by
    simp [m', Location.lookup?_insert, Location.lookup?_erase]
  have hfield : m'.lookup? .fields "online" = none := by
    simp [m', Location.lookup?_erase]
  have hdisjoint : (Edit.add .tags).places.Disjoint (Edit.delete .fields).places := by
    simp [Edit.places]
  exact ⟨p, m, m', rfl, rfl, hdisjoint, hforward, htag, hfield,
    process_independentStages p _ m rfl rfl hdisjoint [.dropByName] [.rename]⟩

end Processor

end Telemetry
