import Telemetry.Proofs.Rules.Changes
import Telemetry.Proofs.Rules.Entries

/-!
# Reserved fields

No change takes a reserved field away: the rules that would do so are refused, and what other rules
write leaves every field in place. So the reserved fields of a message are there when it leaves, and
its type moves only towards the front of the order in which types are recognised.
-/

namespace Telemetry

/-! ## Types -/

/-- The types of messages in the order in which they are recognised. -/
def MessageType.order : List MessageType := [metric, event, control, log, unknown]

/-- The place of a type in the order. -/
def MessageType.rank (t : MessageType) : Nat := order.idxOf t

/-- The type of a message comes from its first reserved field. -/
theorem Message.rank_type (m : Message) :
    m.type.rank = reservedKeys.findIdx fun key => m.fields.contains key := by
  simp only [type, reservedKeys, List.findIdx_cons, List.findIdx_nil]
  cases m.fields.contains "value" <;> cases m.fields.contains "event" <;>
    cases m.fields.contains "control" <;> cases m.fields.contains "log" <;> rfl

/-- Whether the second message has all reserved fields of the first. -/
def KeepsReserved (m m' : Message) : Prop :=
  ∀ key, isReserved key = true → m.fields.contains key = true → m'.fields.contains key = true

namespace KeepsReserved

variable {m w m' : Message}

/-- Two changes that keep the reserved fields do so together. -/
theorem trans (h : KeepsReserved m w) (h' : KeepsReserved w m') : KeepsReserved m m' :=
  fun key hkey hfield => h' key hkey (h key hkey hfield)

/-- A message with more reserved fields has the same type or an earlier one. -/
theorem rank_le (h : KeepsReserved m m') : m'.type.rank ≤ m.type.rank := by
  rw [m.rank_type, m'.rank_type]
  refine List.findIdx_le_findIdx fun key hkey => h key ?_
  exact List.contains_iff_mem.mpr hkey

/-- A metric stays one. -/
theorem metric (h : KeepsReserved m m') (hm : m.type = .metric) : m'.type = .metric := by
  have hle := h.rank_le
  rw [hm] at hle
  cases htype : m'.type with
  | metric => rfl
  | _ =>
    rw [htype] at hle
    exact absurd hle (by decide)

end KeepsReserved

/-! ## Changes -/

namespace Location

/-- Writing an entry takes no field away. -/
theorem insert_keepsReserved (place : Location) (m : Message) (key value : String) :
    KeepsReserved m (place.insert m key value) := by
  intro k _ hfield
  rw [Message.fields_contains] at hfield ⊢
  rw [lookup?_insert]
  split
  · rfl
  · exact hfield

/-- Only a reserved field that is taken away itself is lost. -/
theorem erase_keepsReserved {place : Location} {key : String}
    (h : place = .fields → isReserved key = false) (m : Message) :
    KeepsReserved m (place.erase m key) := by
  intro k hk hfield
  rw [Message.fields_contains] at hfield ⊢
  rw [lookup?_erase]
  split
  · rename_i heq
    obtain ⟨hplace, rfl⟩ := heq
    exact absurd (hk.symm.trans (h hplace)) (by decide)
  · exact hfield

end Location

/-- An edit that is not refused takes no reserved field away. -/
theorem Edit.apply_keepsReserved {e : Edit} {kv : KeyValue} (h : e.protectedKey? kv = none)
    (m : Message) : KeepsReserved m (e.apply kv m) := by
  have hsource : ∀ place, (e = .delete place ∨ ∃ target, e = .move place target) →
      place = .fields → isReserved kv.key = false := by
    rintro place (rfl | ⟨target, rfl⟩) rfl
    · simpa [protectedKey?] using h
    · simpa [protectedKey?] using h
  cases e with
  | add place => exact place.insert_keepsReserved m _ _
  | delete place => exact Location.erase_keepsReserved (hsource place (.inl rfl)) m
  | move source target =>
    rcases m.moveEntry_cases source target kv with hnone | ⟨s, -, hmove⟩
    · rw [apply, hnone]
      exact fun _ _ hfield => hfield
    · rw [apply, hmove]
      have herase := Location.erase_keepsReserved (hsource source (.inr ⟨target, rfl⟩)) m
      exact herase.trans (target.insert_keepsReserved _ _ _)

/-- A rescaled message has the fields that it had. -/
theorem Message.rescale_keepsReserved (m : Message) (place : Location) (u : UnitOfMeasure)
    (target : Prefix) (x : Float) : KeepsReserved m (m.rescale place u target x) := by
  refine KeepsReserved.trans ?_ (place.insert_keepsReserved _ _ _)
  intro key _ hfield
  rw [Message.fields_contains] at hfield ⊢
  rw [lookup?_insertField]
  split
  · rfl
  · exact hfield

/-- No change takes a reserved field away. -/
theorem Change.keepsReserved {b : Rulebook} {judge : Judge} {stages : List Stage} {m m' : Message}
    (h : Change b judge stages m m') : KeepsReserved m m' := by
  cases h with
  | rename | renameIf => exact fun _ _ hfield => hfield
  | edit s e r hs he hr hholds hallowed => exact Edit.apply_keepsReserved hallowed m
  | changePrefix r =>
    rcases m.changePrefix_cases r.action with hnone | ⟨place, u, x, -, -, -, hrescale⟩
    · rw [hnone]
      exact fun _ _ hfield => hfield
    · rw [hrescale]
      exact m.rescale_keepsReserved place u r.action x
  | normalize =>
    rcases m.normalizeUnit_cases with hnone | ⟨place, u, -, -, hwrite⟩
    · rw [hnone]
      exact fun _ _ hfield => hfield
    · rw [hwrite]
      exact place.insert_keepsReserved m _ _

/-- A row of changes takes no reserved field away. -/
theorem keepsReserved_of_changes {b : Rulebook} {judge : Judge} {stages : List Stage}
    {m m' : Message} (h : Relation.ReflTransGen (Change b judge stages) m m') :
    KeepsReserved m m' := by
  induction h with
  | refl => exact fun _ _ hfield => hfield
  | tail _ hstep ih => exact ih.trans hstep.keepsReserved

/-- A message that leaves a processor has all reserved fields that it came in with, whether it is
forwarded or has failed. Its type is the one that it came in with or an earlier one, and a metric
stays a metric. -/
theorem Processor.process_keepsReserved (p : Processor) (order : Message.Order) (m m' : Message)
    (onError : Bool) (h : (p.process order m).2.forwarded? onError = some m') :
    KeepsReserved m m' ∧ m'.type.rank ≤ m.type.rank ∧
      (m.type = .metric → m'.type = .metric) := by
  have hkeeps := keepsReserved_of_changes (Processor.process_changes h)
  exact ⟨hkeeps, hkeeps.rank_le, hkeeps.metric⟩

/-- A log line that is made an event fails where its text is to be deleted, and keeps it. -/
theorem Processor.process_keepsReserved_log :
    ∃ (p : Processor) (m m' : Message),
      p.rulebook.stages = [.addField, .deleteField] ∧ m.type = .log ∧ m'.type = .event ∧
      (p.process .ascending m).2 = .fail ⟨.deleteField, .protectedField "log", m'⟩ ∧
      (p.process .ascending m).2.forwarded? true = some m' ∧ KeepsReserved m m' ∧
      m'.type.rank ≤ m.type.rank ∧ (m.type = .metric → m'.type = .metric) := by
  let always : Condition.Program := ⟨"*", .constant (.bool true), .standard⟩
  let edits (e : Edit) : List (Rule KeyValue) :=
    if e = .add .fields then [⟨always, ⟨"event", "restart"⟩⟩]
    else if e = .delete .fields then [⟨always, ⟨"log", ""⟩⟩]
    else []
  let p : Processor := { Processor.empty .standard with
    rulebook := { Rulebook.empty .standard with
      stages? := some [.addField, .deleteField], edits := edits } }
  let m : Message := .single "disk" ∅ ∅ "log" (.string "ok") .epoch
  let m' : Message := Location.fields.insert m "event" "restart"
  have hfail : (p.process .ascending m).2 = .fail ⟨.deleteField, .protectedField "log", m'⟩ := rfl
  have hleaves : (p.process .ascending m).2.forwarded? true = some m' := rfl
  refine ⟨p, m, m', rfl, ?_, ?_, hfail, hleaves, process_keepsReserved p _ m m' true hleaves⟩
  · simp [m, Message.type, Message.single]
  · simp [m', m, Message.type, Message.single, Location.insert]

end Telemetry
