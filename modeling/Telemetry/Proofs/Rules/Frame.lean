import Telemetry.Proofs.Rules.Changes
import Telemetry.Proofs.Rules.Entries

/-!
# What processing leaves alone

A processor never changes the timestamp of a message, it changes the name only where a message is
renamed, and it changes an entry only where a rule that holds is about this entry, where a message
is renamed, or where units are rescaled or normalised.
-/

namespace Telemetry

/-- Whether an edit is about an entry: the one that it writes or the one that it takes away. -/
def Edit.Concerns (e : Edit) (kv : KeyValue) (l : Location) (key : String) : Prop :=
  match e with
  | add place | delete place => place = l ∧ kv.key = key
  | move source target => source = l ∧ kv.key = key ∨ target = l ∧ kv.targetKey = key

section Listed

variable (b : Rulebook) (judge : Judge) (stages : List Stage)

/-- Whether messages of a name are renamed in the listed stages. -/
inductive Renames (name : String) : Prop where
  | byName (hs : .rename ∈ stages) (h : b.renames.contains name = true)
  | byCondition (r : Rule String) (hs : .renameIf ∈ stages) (hr : r ∈ b.renameIf)
      (hholds : judge r.condition = .ok true)

/-- Whether a rule for the prefix of the unit holds in the listed stages. -/
def Rescales : Prop :=
  .changeUnitPrefix ∈ stages ∧ ∃ r ∈ b.prefixes, judge r.condition = .ok true

/-- Whether units are normalised in the listed stages. -/
def Normalizes : Prop := .normalizeUnit ∈ stages ∧ b.normalizesUnits = true

/-- Whether the listed stages may change an entry of a message of a name. -/
inductive Touches (name : String) : Location → String → Prop where
  /-- A rule about the entry holds and is not refused. -/
  | edit (s : Stage) (e : Edit) (r : Rule KeyValue) {l : Location} {key : String} (hs : s ∈ stages)
      (he : s.edit? = some e) (hr : r ∈ b.edits e) (hholds : judge r.condition = .ok true)
      (hallowed : e.protectedKey? r.action = none) (hconcerns : e.Concerns r.action l key) :
      Touches name l key
  /-- A message that is renamed notes its old name. -/
  | oldName (h : Renames b judge stages name) : Touches name .metadata Message.oldNameKey
  /-- The unit of a message is in its tags or its meta entries. -/
  | unit {l : Location} (hl : l ≠ .fields)
      (h : Rescales b judge stages ∨ Normalizes b stages) : Touches name l Message.unitKey
  /-- A value is rescaled with its unit. -/
  | value (h : Rescales b judge stages) : Touches name .fields "value"

/-- Whether anything in the listed stages applies to messages of a name. -/
inductive Applies (name : String) : Prop where
  | rule (s : Stage) (r : StageRule) (hs : s ∈ stages) (hr : r ∈ b.stageRules s)
      (hholds : judge r.condition = .ok true)
  | rename (hs : .rename ∈ stages) (h : b.renames.contains name = true)
  | normalize (h : Normalizes b stages)

end Listed

variable {b : Rulebook} {judge : Judge} {stages : List Stage}

/-! ## Entries that are touched -/

/-- The rules of a stage that edits entries. -/
theorem Rulebook.stageRules_edit {s : Stage} {e : Edit} (hs : s.edit? = some e) :
    b.stageRules s = (b.edits e).map (.ofRule e.protectedKey? e.apply) := by
  cases s with
  | dropByName | dropByType | dropIf | rename | renameIf | changeUnitPrefix | normalizeUnit =>
    exact absurd hs (by simp [Stage.edit?])
  | _ =>
    obtain rfl := Option.some.inj hs
    rfl

/-- Where a rule renames a message, rules apply to it. -/
theorem Renames.applies {name : String} (h : Renames b judge stages name) :
    Applies b judge stages name := by
  cases h with
  | byName hs h => exact .rename hs h
  | byCondition r hs hr hholds => exact .rule .renameIf _ hs (List.mem_map_of_mem hr) hholds

/-- Where a rule rescales a message, rules apply to it. -/
theorem Rescales.applies {name : String} (h : Rescales b judge stages) :
    Applies b judge stages name := by
  obtain ⟨hs, r, hr, hholds⟩ := h
  exact .rule .changeUnitPrefix _ hs (List.mem_map_of_mem hr) hholds

/-- Where nothing applies no entry is touched. -/
theorem Touches.applies {name : String} {l : Location} {key : String}
    (h : Touches b judge stages name l key) : Applies b judge stages name := by
  cases h with
  | edit s e r hs he hr hholds hallowed hconcerns =>
    refine .rule s (.ofRule e.protectedKey? e.apply r) hs ?_ hholds
    rw [Rulebook.stageRules_edit he]
    exact List.mem_map_of_mem hr
  | oldName h => exact h.applies
  | unit hl h =>
    rcases h with h | h
    · exact h.applies
    · exact .normalize h
  | value h => exact h.applies

/-- A message that is renamed has the entries touched that are touched under another name. -/
theorem Touches.of_renames {name other : String} {l : Location} {key : String}
    (h : Touches b judge stages name l key) (hother : Renames b judge stages other) :
    Touches b judge stages other l key := by
  cases h with
  | edit s e r hs he hr hholds hallowed hconcerns =>
    exact .edit s e r hs he hr hholds hallowed hconcerns
  | oldName => exact .oldName hother
  | unit hl h => exact .unit hl h
  | value h => exact .value h

/-! ## Changes -/

namespace Message

variable (m : Message) (l : Location) (key : String)

/-- A renamed message has another name and notes the old one. -/
theorem lookup?_rename (name : String) :
    (m.rename name).lookup? l key =
      if .metadata = l ∧ oldNameKey = key then some (.string m.name) else m.lookup? l key := by
  have hinsert := Location.lookup?_insert .metadata l m oldNameKey m.name key
  cases l <;> exact hinsert

/-- A rescaled message has another value and another text of its unit. -/
theorem lookup?_rescale {place : Location} {u : UnitOfMeasure} {target : Prefix} {x : Float}
    (hunit : ¬(place = l ∧ unitKey = key)) (hvalue : ¬(.fields = l ∧ "value" = key)) :
    (m.rescale place u target x).lookup? l key = m.lookup? l key := by
  rw [rescale, Location.lookup?_insert, if_neg hunit, lookup?_insertField, if_neg hvalue]

@[simp] theorem name_rescale (place : Location) (u : UnitOfMeasure) (target : Prefix) (x : Float) :
    (m.rescale place u target x).name = m.name :=
  Location.name_insert place _ _ _

@[simp] theorem timestamp_rescale (place : Location) (u : UnitOfMeasure) (target : Prefix)
    (x : Float) : (m.rescale place u target x).timestamp = m.timestamp :=
  Location.timestamp_insert place _ _ _

/-- The unit of a message is no field. -/
theorem place_ne_fields {m : Message} {place : Location} {u : UnitOfMeasure}
    (h : m.unit? = some (place, u)) : place ≠ .fields := by
  rcases place_of_unit? h with rfl | rfl <;> decide

end Message

/-- An edit leaves the name, the timestamp and the entries alone that it is not about. -/
theorem Edit.apply_frame (e : Edit) (kv : KeyValue) (m : Message) :
    (e.apply kv m).name = m.name ∧ (e.apply kv m).timestamp = m.timestamp ∧
      ∀ l key, ¬e.Concerns kv l key → (e.apply kv m).lookup? l key = m.lookup? l key := by
  cases e with
  | add place =>
    refine ⟨place.name_insert m _ _, place.timestamp_insert m _ _, fun l key hnot => ?_⟩
    rw [Concerns] at hnot
    rw [apply, Location.lookup?_insert, if_neg hnot]
  | delete place =>
    refine ⟨place.name_erase m _, place.timestamp_erase m _, fun l key hnot => ?_⟩
    rw [Concerns] at hnot
    rw [apply, Location.lookup?_erase, if_neg hnot]
  | move source target =>
    rcases m.moveEntry_cases source target kv with hnone | ⟨s, -, hmove⟩
    · rw [apply, hnone]
      exact ⟨rfl, rfl, fun _ _ _ => rfl⟩
    · rw [apply, hmove]
      refine ⟨by simp, by simp, fun l key hnot => ?_⟩
      rw [Concerns, not_or] at hnot
      rw [Location.lookup?_insert, if_neg hnot.2, Location.lookup?_erase, if_neg hnot.1]

/-- The second message is the first one outside of what the listed stages may change. -/
structure Framed (b : Rulebook) (judge : Judge) (stages : List Stage) (m m' : Message) : Prop where
  timestamp : m'.timestamp = m.timestamp
  name : ¬Renames b judge stages m.name → m'.name = m.name
  entries : ∀ l key, ¬Touches b judge stages m.name l key → m'.lookup? l key = m.lookup? l key

namespace Framed

variable {m w m' : Message}

/-- A message frames itself. -/
theorem refl (m : Message) : Framed b judge stages m m := ⟨rfl, fun _ => rfl, fun _ _ _ => rfl⟩

/-- Two changes that leave the rest alone do so together. -/
theorem trans (h : Framed b judge stages m w) (h' : Framed b judge stages w m') :
    Framed b judge stages m m' := by
  by_cases hrenames : Renames b judge stages m.name
  · refine ⟨h'.timestamp.trans h.timestamp, fun hnot => absurd hrenames hnot, ?_⟩
    intro l key hnot
    -- the message in between may have another name
    have hnot' : ¬Touches b judge stages w.name l key := fun ht => hnot (ht.of_renames hrenames)
    exact (h'.entries l key hnot').trans (h.entries l key hnot)
  · have hname := h.name hrenames
    refine ⟨h'.timestamp.trans h.timestamp, fun hnot => ?_, fun l key hnot => ?_⟩
    · exact (h'.name (hname ▸ hnot)).trans hname
    · exact (h'.entries l key (hname ▸ hnot)).trans (h.entries l key hnot)

/-- A message that is renamed. -/
theorem rename (hrenames : Renames b judge stages m.name) (name : String) :
    Framed b judge stages m (m.rename name) := by
  refine ⟨rfl, fun hnot => absurd hrenames hnot, fun l key hnot => ?_⟩
  rw [m.lookup?_rename, if_neg]
  rintro ⟨rfl, rfl⟩
  exact hnot (.oldName hrenames)

/-- Nothing is applied to a message where nothing applies to messages of its name. -/
theorem eq_of_not_applies (h : Framed b judge stages m m')
    (hnot : ¬Applies b judge stages m.name) : m' = m :=
  Message.ext_entries (h.name fun hrenames => hnot hrenames.applies) h.timestamp
    fun l key => h.entries l key fun htouches => hnot htouches.applies

end Framed

/-- A change leaves alone what the listed stages leave alone. -/
theorem Change.framed {m m' : Message} (h : Change b judge stages m m') :
    Framed b judge stages m m' := by
  cases h with
  | rename name hs hname =>
    refine .rename (.byName hs ?_) name
    rw [Std.ExtTreeMap.contains_eq_isSome_getElem?, hname]
    rfl
  | renameIf r hs hr hholds => exact .rename (.byCondition r hs hr hholds) _
  | edit s e r hs he hr hholds hallowed =>
    obtain ⟨hname, htimestamp, hentries⟩ := e.apply_frame r.action m
    refine ⟨htimestamp, fun _ => hname, fun l key hnot => hentries l key fun hconcerns => ?_⟩
    exact hnot (.edit s e r hs he hr hholds hallowed hconcerns)
  | changePrefix r hs hr hholds =>
    have hrescales : Rescales b judge stages := ⟨hs, r, hr, hholds⟩
    rcases m.changePrefix_cases r.action with hnone | ⟨place, u, x, hunit, -, -, hrescale⟩
    · rw [hnone]
      exact .refl m
    · rw [hrescale]
      refine ⟨by simp, fun _ => by simp, fun l key hnot => m.lookup?_rescale l key ?_ ?_⟩
      · rintro ⟨rfl, rfl⟩
        exact hnot (.unit (Message.place_ne_fields hunit) (.inl hrescales))
      · rintro ⟨rfl, rfl⟩
        exact hnot (.value hrescales)
  | normalize hs hon =>
    rcases m.normalizeUnit_cases with hnone | ⟨place, u, hunit, -, hwrite⟩
    · rw [hnone]
      exact .refl m
    · rw [hwrite]
      refine ⟨by simp, fun _ => by simp, fun l key hnot => ?_⟩
      rw [Location.lookup?_insert, if_neg]
      rintro ⟨rfl, rfl⟩
      exact hnot (.unit (Message.place_ne_fields hunit) (.inr ⟨hs, hon⟩))

/-- A row of changes leaves alone what the listed stages leave alone. -/
theorem framed_of_changes {m m' : Message}
    (h : Relation.ReflTransGen (Change b judge stages) m m') : Framed b judge stages m m' := by
  induction h with
  | refl => exact .refl m
  | tail _ hstep ih => exact ih.trans hstep.framed

namespace Processor

/-- A message that leaves a processor, whether it is forwarded or has failed, has the timestamp that
it came in with; it has its name unless it is renamed, and it has each entry unless the entry is
touched. Where nothing applies to the message it leaves as it came in. -/
theorem process_frame (p : Processor) (order : Message.Order) (m m' : Message) (onError : Bool)
    (h : (p.process order m).2.forwarded? onError = some m') :
    m'.timestamp = m.timestamp ∧
      (¬Renames p.rulebook (p.judge order m) p.rulebook.stages m.name → m'.name = m.name) ∧
      (∀ l key, ¬Touches p.rulebook (p.judge order m) p.rulebook.stages m.name l key →
        m'.lookup? l key = m.lookup? l key) ∧
      (¬Applies p.rulebook (p.judge order m) p.rulebook.stages m.name → m' = m) := by
  have hframed := framed_of_changes (process_changes h)
  exact ⟨hframed.timestamp, hframed.name, hframed.entries, hframed.eq_of_not_applies⟩

/-- A message that is tagged and whose value is to be deleted fails with its new tag and its
name. -/
theorem process_frame_addTag :
    ∃ (p : Processor) (m m' : Message),
      p.rulebook.stages = [.addTag, .deleteField, .rename] ∧ m.name = "disk" ∧
      (p.process .ascending m).2 = .fail ⟨.deleteField, .protectedField "value", m'⟩ ∧
      (p.process .ascending m).2.forwarded? true = some m' ∧
      m'.lookup? .tags "site" = some (.string "lab") ∧
      ¬Renames p.rulebook (p.judge .ascending m) p.rulebook.stages m.name ∧
      m'.timestamp = m.timestamp ∧
      (¬Renames p.rulebook (p.judge .ascending m) p.rulebook.stages m.name → m'.name = m.name) ∧
      (∀ l key, ¬Touches p.rulebook (p.judge .ascending m) p.rulebook.stages m.name l key →
        m'.lookup? l key = m.lookup? l key) ∧
      (¬Applies p.rulebook (p.judge .ascending m) p.rulebook.stages m.name → m' = m) := by
  let always : Condition.Program := ⟨"*", .constant (.bool true), .standard⟩
  let edits (e : Edit) : List (Rule KeyValue) :=
    if e = .add .tags then [⟨always, ⟨"site", "lab"⟩⟩]
    else if e = .delete .fields then [⟨always, ⟨"value", ""⟩⟩]
    else []
  let p : Processor := { Processor.empty .standard with
    rulebook := { Rulebook.empty .standard with
      stages? := some [.addTag, .deleteField, .rename], edits := edits } }
  let m : Message := .single "disk" ∅ ∅ "value" (.int 5) .epoch
  let m' : Message := Location.tags.insert m "site" "lab"
  have hfail : (p.process .ascending m).2 = .fail ⟨.deleteField, .protectedField "value", m'⟩ := rfl
  have hleaves : (p.process .ascending m).2.forwarded? true = some m' := rfl
  have hname : ¬Renames p.rulebook (p.judge .ascending m) p.rulebook.stages m.name := by
    rintro (⟨hs, h⟩ | ⟨r, hs, hr, hholds⟩)
    · exact absurd h (by simp [p, Rulebook.empty])
    · exact absurd hr List.not_mem_nil
  refine ⟨p, m, m', rfl, rfl, hfail, hleaves, ?_, hname, process_frame p _ m m' true hleaves⟩
  rw [Location.lookup?_insert, if_pos ⟨rfl, rfl⟩]

end Processor

end Telemetry
