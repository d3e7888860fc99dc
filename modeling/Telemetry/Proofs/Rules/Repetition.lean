import Telemetry.Proofs.Rules.Independence
import Telemetry.Proofs.Settling

/-!
# Stages that come twice in a row

A stage that edits entries has nothing left to do when it comes again at once. What it adds is
written again with the same last value, what it deletes is gone, and what it moves is gone from the
place that it looks at, since it never writes there. Its conditions are judged on the message as it
came in, so that the same rules hold both times; and where the stage fails, it fails the first time.
-/

namespace Telemetry

/-! ## Entries that are edited twice -/

namespace Location

variable (place : Location) (m : Message)

/-- An entry keeps the last text that is written. -/
theorem insert_insert (key value value' : String) :
    place.insert (place.insert m key value) key value' = place.insert m key value' := by
  apply Message.ext_entries
  · simp
  · simp
  · intro l key'
    simp only [lookup?_insert]
    split <;> rfl

/-- Different entries may be written in either order. -/
theorem insert_comm {key key' : String} (hne : key ≠ key') (value value' : String) :
    place.insert (place.insert m key value) key' value' =
      place.insert (place.insert m key' value') key value := by
  apply Message.ext_entries
  · simp
  · simp
  · intro l k
    simp only [lookup?_insert]
    by_cases hkey : key = k
    · have hkey' : ¬(place = l ∧ key' = k) := by
        rintro ⟨-, rfl⟩
        exact hne hkey
      rw [if_neg hkey', if_neg hkey']
    · have hnot : ¬(place = l ∧ key = k) := fun h => hkey h.2
      rw [if_neg hnot, if_neg hnot]

/-- An entry that was taken out is not there to be taken out again. -/
theorem erase_erase (key : String) : place.erase (place.erase m key) key = place.erase m key := by
  apply Message.ext_entries
  · simp
  · simp
  · intro l key'
    simp only [lookup?_erase]
    split <;> rfl

/-- Entries may be taken away in either order. -/
theorem erase_comm (key key' : String) :
    place.erase (place.erase m key) key' = place.erase (place.erase m key') key := by
  apply Message.ext_entries
  · simp
  · simp
  · intro l k
    simp only [lookup?_erase]
    split <;> split <;> rfl

end Location

namespace Message

variable {source target : Location} {kv : KeyValue} {m : Message}

/-- An entry that is not there is not moved. -/
theorem moveEntry_of_absent (target : Location) (h : m.lookup? source kv.key = none) :
    m.moveEntry source target kv = m := by
  have hget : source.get? m kv.key = none := by rw [source.get?_eq_lookup?, h, Option.map_none]
  rw [moveEntry, hget]

/-- Moving entries to another place adds nothing to the place that they come from. -/
theorem lookup?_moveEntry_source (hne : source ≠ target) (key : String) :
    (m.moveEntry source target kv).lookup? source key =
      if kv.key = key then none else m.lookup? source key := by
  cases hlookup : m.lookup? source kv.key with
  | none =>
    rw [moveEntry_of_absent target hlookup]
    split
    · rename_i hkey
      rw [← hkey, hlookup]
    · rfl
  | some v =>
    have hget : source.get? m kv.key = some v.text := by
      rw [source.get?_eq_lookup?, hlookup, Option.map_some]
    have htarget : ¬(target = source ∧ (if kv.value == "" then kv.key else kv.value) = key) :=
      fun h => hne h.1.symm
    simp only [moveEntry, hget]
    rw [Location.lookup?_insert, if_neg htarget, Location.lookup?_erase]
    simp

end Message

namespace Edit

/-- Whether a later edit of the same kind undoes nothing of what this one has done: for a move, that
there is nothing left to move. -/
def Settled (e : Edit) (m : Message) (kv : KeyValue) : Prop :=
  match e with
  | add _ | delete _ => True
  | move source _ => m.lookup? source kv.key = none

/-- Edits of one kind settle, if they do not write to the place that they take entries from. -/
theorem settles {e : Edit} (he : e.places.Nodup) :
    Settles (fun m kv => e.apply kv m) e.Settled := by
  cases e with
  | add place =>
    refine ⟨fun _ _ => trivial, fun _ _ => trivial, fun m x => ?_, fun {m x} y _ => ?_⟩
    · exact place.insert_insert m x.key x.value x.value
    · by_cases hkey : y.key = x.key
      · refine .inr ?_
        simp only [apply, hkey]
        exact place.insert_insert m x.key y.value x.value
      · exact .inl (place.insert_comm m hkey y.value x.value)
  | delete place =>
    refine ⟨fun _ _ => trivial, fun _ _ => trivial, fun m x => ?_, fun {m x} y _ => ?_⟩
    · exact place.erase_erase m x.key
    · exact .inl (place.erase_comm m y.key x.key)
  | move source target =>
    have hne : source ≠ target := by simpa [places] using he
    have hhere (m : Message) (x : KeyValue) : (m.moveEntry source target x).lookup? source x.key =
        none := by
      rw [Message.lookup?_moveEntry_source hne, if_pos rfl]
    have hstays {m : Message} {x : KeyValue} (y : KeyValue) (hx : m.lookup? source x.key = none) :
        (m.moveEntry source target y).lookup? source x.key = none := by
      rw [Message.lookup?_moveEntry_source hne, hx, ite_self]
    refine ⟨hhere, hstays, fun m x => ?_, fun {m x} y hx => .inl ?_⟩
    · exact Message.moveEntry_of_absent target (hhere m x)
    · -- there is nothing to move for the second edit, whether the first one comes before or after
      have hnow : m.moveEntry source target x = m := Message.moveEntry_of_absent target hx
      simp only [apply, hnow]
      exact Message.moveEntry_of_absent target (hstays y hx)

/-- What an edit is given by a rule: its action, if the rule holds and is not refused. -/
def taken? (e : Edit) (judge : Judge) (r : Rule KeyValue) : Option KeyValue :=
  match judge r.condition, e.protectedKey? r.action with
  | .ok true, none => some r.action
  | _, _ => none

/-- The rules of an edit do what the actions do that are taken. -/
theorem applyAll_eq_foldl (e : Edit) (judge : Judge) (rules : List (Rule KeyValue)) (m : Message) :
    StageRule.applyAll judge (rules.map (.ofRule e.protectedKey? e.apply)) m =
      (rules.filterMap (e.taken? judge)).foldl (fun m kv => e.apply kv m) m := by
  induction rules generalizing m with
  | nil => rfl
  | cons r rules ih =>
    rw [List.map_cons, StageRule.applyAll_cons, ih, List.filterMap_cons]
    cases hholds : judge r.condition with
    | error fault => simp [StageRule.applyTo, StageRule.ofRule, taken?, hholds]
    | ok holds =>
      cases holds with
      | false => simp [StageRule.applyTo, StageRule.ofRule, taken?, hholds]
      | true =>
        cases hkey : e.protectedKey? r.action with
        | none => simp [StageRule.applyTo, StageRule.ofRule, taken?, hholds, hkey]
        | some key => simp [StageRule.applyTo, StageRule.ofRule, taken?, hholds, hkey]

end Edit

/-! ## Stages -/

/-- No stage writes to the place that it takes entries from. -/
theorem Stage.nodup_places {s : Stage} {e : Edit} (hs : s.edit? = some e) : e.places.Nodup := by
  cases s <;> simp only [edit?, Option.some.injEq, reduceCtorEq] at hs <;> subst hs <;> decide

namespace Rulebook

variable (b : Rulebook) (judge : Judge) {s : Stage}

/-- The rules of a stage that edits entries have nothing left to do behind themselves. -/
theorem applyAll_applyAll (hs : s.edit?.isSome = true) (m : Message) :
    StageRule.applyAll judge (b.stageRules s) (StageRule.applyAll judge (b.stageRules s) m) =
      StageRule.applyAll judge (b.stageRules s) m := by
  obtain ⟨e, he⟩ := Option.isSome_iff_exists.mp hs
  have hsettles := Edit.settles (Stage.nodup_places he)
  rw [stageRules_edit he, e.applyAll_eq_foldl, e.applyAll_eq_foldl]
  exact hsettles.foldl_foldl m _

/-- In front, a stage that edits entries may be listed twice. -/
theorem runStages_twice (hs : s.edit?.isSome = true) (rest : List Stage) (m : Message) :
    b.runStages judge (s :: s :: rest) m = b.runStages judge (s :: rest) m := by
  obtain ⟨e, he⟩ := Option.isSome_iff_exists.mp hs
  rw [runStages, runStages]
  rcases b.runStage_cases judge he with hnext | ⟨cause, hfailed⟩
  · rw [hnext]
    simp only [runStages, hnext, b.applyAll_applyAll judge hs]
  · obtain ⟨m', hm'⟩ := hfailed m
    rw [hm']

end Rulebook

namespace Processor

/-- A processor with a stage twice in a row that edits entries makes the same of every message as
with this stage once: it drops it for the same reason, forwards the same message, or fails in the
same stage with the same cause and leaves the same of the message. -/
theorem process_repeatedStage (p : Processor) (order : Message.Order) (m : Message) {s : Stage}
    (hs : s.edit?.isSome = true) (before after : List Stage) :
    ((p.withStages (before ++ [s, s] ++ after)).process order m).2 =
      ((p.withStages (before ++ [s] ++ after)).process order m).2 := by
  have hfront (m' : Message) :
      (p.rulebook.runStages (p.judge order m) (s :: s :: after) m').SameBut []
        (p.rulebook.runStages (p.judge order m) (s :: after) m') := by
    rw [p.rulebook.runStages_twice (p.judge order m) hs]
    exact .same _
  have hsame := p.rulebook.runStages_sameBut (p.judge order m) hfront before m
  rw [process_withStages, process_withStages, List.append_assoc, List.append_assoc]
  exact hsame.eq

/-- Two tags, one of which the stage before has added, are moved to one meta entry, twice. -/
theorem process_repeatedStage_collision :
    ∃ (p : Processor) (m m' : Message), Stage.moveTagToMeta.edit?.isSome = true ∧
      ((p.withStages ([.addTag] ++ [.moveTagToMeta] ++ [.rename])).process .ascending m).2 =
        .forward m' ∧
      m'.lookup? .tags "rack" = none ∧ m'.lookup? .tags "site" = none ∧
      m'.lookup? .metadata "place" = some (.string "lab") ∧
      ((p.withStages ([.addTag] ++ [.moveTagToMeta, .moveTagToMeta] ++ [.rename])).process
        .ascending m).2 = .forward m' := by
  let always : Condition.Program := ⟨"*", .constant (.bool true), .standard⟩
  let edits (e : Edit) : List (Rule KeyValue) :=
    if e = .add .tags then [⟨always, ⟨"site", "lab"⟩⟩]
    else if e = .move .tags .metadata then
      [⟨always, ⟨"rack", "place"⟩⟩, ⟨always, ⟨"site", "place"⟩⟩]
    else []
  let p : Processor :=
    { Processor.empty .standard with rulebook := { Rulebook.empty .standard with edits := edits } }
  let m : Message := Location.tags.insert .empty "rack" "7"
  let tagged : Message := Location.tags.insert m "site" "lab"
  let m' : Message := Message.moveEntry .tags .metadata ⟨"site", "place"⟩
    (Message.moveEntry .tags .metadata ⟨"rack", "place"⟩ tagged)
  have hforward :
      ((p.withStages ([.addTag] ++ [.moveTagToMeta] ++ [.rename])).process .ascending m).2 =
        .forward m' := rfl
  have hne : Location.tags ≠ .metadata := by decide
  have hrack : m'.lookup? .tags "rack" = none := by
    simp [m', Message.lookup?_moveEntry_source hne]
  have hsite : m'.lookup? .tags "site" = none := by
    simp [m', Message.lookup?_moveEntry_source hne]
  have hplace : m'.lookup? .metadata "place" = some (.string "lab") := rfl
  refine ⟨p, m, m', rfl, hforward, hrack, hsite, hplace, ?_⟩
  rw [process_repeatedStage p _ m rfl, hforward]

end Processor

end Telemetry
