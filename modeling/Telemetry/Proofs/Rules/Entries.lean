import Telemetry.Proofs.Units.Spelling
import Telemetry.Rules.Application

/-!
# Entries of messages

A message is determined by its name, its timestamp and what its entries hold. Each thing that a
stage does to a message is described by the entries that it writes or takes away.
-/

namespace Telemetry

open Std (ExtTreeMap)

namespace Message

/-- What an entry holds, which is a text unless it is a field. -/
def lookup? (m : Message) (l : Location) (key : String) : Option FieldValue :=
  match l with
  | .tags => m.tags[key]?.map .string
  | .metadata => m.metadata[key]?.map .string
  | .fields => m.fields[key]?

/-- Maps of texts that hold the same entries are equal. -/
private theorem texts_ext {a b : KeyMap String}
    (h : ∀ key : String, a[key]?.map FieldValue.string = b[key]?.map FieldValue.string) :
    a = b := by
  refine ExtTreeMap.ext_getElem? fun key => ?_
  exact Option.map_injective (fun _ _ hs => FieldValue.string.inj hs) (h key)

/-- Messages with equal names, timestamps and entries are equal. -/
theorem ext_entries {m m' : Message} (hname : m.name = m'.name)
    (htimestamp : m.timestamp = m'.timestamp)
    (hentries : ∀ l key, m.lookup? l key = m'.lookup? l key) : m = m' := by
  obtain ⟨name, tags, metadata, fields, timestamp⟩ := m
  obtain ⟨name', tags', metadata', fields', timestamp'⟩ := m'
  obtain rfl : tags = tags' := texts_ext (hentries .tags)
  obtain rfl : metadata = metadata' := texts_ext (hentries .metadata)
  obtain rfl : fields = fields' := ExtTreeMap.ext_getElem? (hentries .fields)
  obtain rfl : name = name' := hname
  obtain rfl : timestamp = timestamp' := htimestamp
  rfl

/-- A field is there exactly if its entry holds something. -/
theorem fields_contains (m : Message) (key : String) :
    m.fields.contains key = (m.lookup? .fields key).isSome :=
  ExtTreeMap.contains_eq_isSome_getElem?

/-- The entries of a message with another field. -/
theorem lookup?_insertField (m : Message) (key : String) (v : FieldValue) (l : Location)
    (key' : String) :
    ({ m with fields := m.fields.insert key v } : Message).lookup? l key' =
      if .fields = l ∧ key = key' then some v else m.lookup? l key' := by
  cases l with
  | fields => simp [lookup?, ExtTreeMap.getElem?_insert]
  | _ => simp [lookup?]

end Message

namespace Location

variable (place l : Location) (m : Message) (key value key' : String)

@[simp] theorem name_insert : (place.insert m key value).name = m.name := by
  cases place <;> rfl

@[simp] theorem name_erase : (place.erase m key).name = m.name := by
  cases place <;> rfl

@[simp] theorem timestamp_insert : (place.insert m key value).timestamp = m.timestamp := by
  cases place <;> rfl

@[simp] theorem timestamp_erase : (place.erase m key).timestamp = m.timestamp := by
  cases place <;> rfl

/-- The entries of a message with another text. -/
theorem lookup?_insert :
    (place.insert m key value).lookup? l key' =
      if place = l ∧ key = key' then some (.string value) else m.lookup? l key' := by
  cases place <;> cases l <;>
    simp [insert, Message.lookup?, ExtTreeMap.getElem?_insert] <;>
    split <;> rfl

/-- The entries of a message without one of them. -/
theorem lookup?_erase :
    (place.erase m key).lookup? l key' =
      if place = l ∧ key = key' then none else m.lookup? l key' := by
  cases place <;> cases l <;>
    simp [erase, Message.lookup?, ExtTreeMap.getElem?_erase] <;>
    split <;> rfl

end Location

/-! ## What rules write -/

/-- The key under which a moved entry is found. An empty target key stands for the same key. -/
def KeyValue.targetKey (kv : KeyValue) : String := if kv.value == "" then kv.key else kv.value

namespace Message

/-- Moving an entry does nothing, or takes the entry away and writes it in its new place. -/
theorem moveEntry_cases (source target : Location) (kv : KeyValue) (m : Message) :
    m.moveEntry source target kv = m ∨
      ∃ s, source.get? m kv.key = some s ∧
        m.moveEntry source target kv = target.insert (source.erase m kv.key) kv.targetKey s := by
  unfold moveEntry
  split
  · exact .inl rfl
  · rename_i s hs
    exact .inr ⟨s, hs, rfl⟩

/-- The unit of a message is in its meta entries or its tags. -/
theorem place_of_unit? {m : Message} {place : Location} {u : UnitOfMeasure}
    (h : m.unit? = some (place, u)) : place = .metadata ∨ place = .tags := by
  unfold unit? at h
  split at h
  · exact .inl (Prod.mk.inj (Option.some.inj h)).1.symm
  · obtain ⟨raw, -, hraw⟩ := Option.map_eq_some_iff.mp h
    exact .inr (Prod.mk.inj hraw).1.symm

/-- Normalising the unit does nothing, or writes the normal text of a known unit in its place. -/
theorem normalizeUnit_cases (m : Message) :
    m.normalizeUnit = m ∨
      ∃ place u, m.unit? = some (place, u) ∧ u.isKnown = true ∧
        m.normalizeUnit = place.insert m unitKey u.short := by
  unfold normalizeUnit
  split
  · split
    · rename_i place u hunit
      split
      · rename_i hknown
        exact .inr ⟨place, u, hunit, hknown, rfl⟩
      · exact .inl rfl
    · exact .inl rfl
  · exact .inl rfl

/-- The message with its value in the unit with another prefix, and with the text of this unit. -/
def rescale (m : Message) (place : Location) (u : UnitOfMeasure) (target : Prefix) (x : Float) :
    Message :=
  let v := u.withPrefix target
  place.insert
    { m with fields := m.fields.insert "value" (.float (x * u.scale.ratio v.scale)) }
    unitKey v.short

/-- Changing the prefix does nothing, or rescales a numeric value with a known unit. -/
theorem changePrefix_cases (target : Prefix) (m : Message) :
    m.changePrefix target = m ∨
      ∃ place u x, m.unit? = some (place, u) ∧ u.isKnown = true ∧
        m.fields["value"]?.bind FieldValue.toFloat? = some x ∧
        m.changePrefix target = m.rescale place u target x := by
  unfold changePrefix
  split
  · exact .inl rfl
  · rename_i place u hunit
    split
    · rename_i hknown
      simp only [Conversion.between_withPrefix hknown]
      cases hvalue : m.fields["value"]?.bind FieldValue.toFloat? with
      | none => exact .inl rfl
      | some x => exact .inr ⟨place, u, x, hunit, hknown, rfl, rfl⟩
    · exact .inl rfl

end Message

end Telemetry
