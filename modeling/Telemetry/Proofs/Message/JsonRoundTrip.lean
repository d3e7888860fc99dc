import Telemetry.Message.Json
import Telemetry.Proofs.Json.Codec
import Telemetry.Proofs.KeyMap
import Telemetry.Run.Basic

/-!
# Messages in JSON are read back

A message is written as an object of its parts, with the entries of each map in some order. The
parts are read from that object, whatever the orders are: the texts as they are, and each finite
field by the kind of its value, so that an unsigned word that fits a signed one is read as that.
This is so for every library that reads back the value of the message and its time.
-/

namespace Telemetry

open Std (ExtTreeMap)

/-! ## Field values -/

namespace FieldValue

/-- The value as it is read: an unsigned word that fits a signed one is read as that. -/
def asRead : FieldValue → FieldValue
  | uint n => if n.toNat ≤ Int64.maxValue.toInt then int (Int64.ofInt n.toNat) else uint n
  | v => v

/-- An integer that fits a signed word is read as a signed word. -/
theorem ofNumber_int (n : Int64) : ofNumber (.integer n.toInt) = int n := by
  rw [ofNumber, exactInt64?_eq_some_iff.mpr rfl]

/-- An unsigned word is read as a signed one if it fits. -/
theorem ofNumber_uint (n : UInt64) : ofNumber (.integer n.toNat) = (uint n).asRead := by
  have hlow : Int64.minValue.toInt ≤ (n.toNat : Int) :=
    Int.le_trans (by decide) (Int.natCast_nonneg _)
  by_cases hn : (n.toNat : Int) ≤ Int64.maxValue.toInt
  · simp [ofNumber, asRead, exactInt64?, hn]
  · simp [ofNumber, asRead, exactInt64?, hn]

/-- A text that holds the value is read by the kind of the value. -/
theorem readValue?_of_value? {c : Message.Codec} {v : FieldValue} {s : Json.Syntax}
    (h : c.json.value? s = some v.toJson) : Message.readValue? c s = some v.asRead := by
  cases v with
  | int n =>
    obtain ⟨t, rfl, ht⟩ := Json.Codec.eq_number_of_value? h
    rw [Message.readValue?, ht, Option.map_some, ofNumber_int]
    rfl
  | uint n =>
    obtain ⟨t, rfl, ht⟩ := Json.Codec.eq_number_of_value? h
    rw [Message.readValue?, ht, Option.map_some, ofNumber_uint]
  | float x =>
    obtain ⟨t, rfl, ht⟩ := Json.Codec.eq_number_of_value? h
    rw [Message.readValue?, ht, Option.map_some]
    rfl
  | bool b =>
    obtain rfl := Json.Codec.eq_bool_of_value? h
    rfl
  | string s =>
    obtain rfl := Json.Codec.eq_string_of_value? h
    rfl

end FieldValue

namespace Message

/-! ## Objects -/

/-- A text that holds a string is read as that string. -/
theorem readText?_of_value? {c : Json.Codec} {s : Json.Syntax} {text : String}
    (h : c.value? s = some (.string text)) : readText? s = some text := by
  obtain rfl := Json.Codec.eq_string_of_value? h
  rfl

section Entries

variable {c : Json.Codec} {α β : Type} {write : α → Json} {read : Json.Syntax → Option β}
  {f : α → β}

/-- What is read entry by entry is a map. -/
theorem foldlM_entries {written : List (Option String × Json.Syntax)} {entries : List (String × α)}
    (h : List.Forall₂ (fun member entry => member.1 = some entry.1 ∧
      read member.2 = some (f entry.2)) written entries) (map : KeyMap β) :
    written.foldlM
        (fun map member => do
          let key ← member.1
          let value ← read member.2
          some (map.insert key value)) map =
      some ((entries.map fun entry => (entry.1, f entry.2)).foldl
        (fun map entry => map.insert entry.1 entry.2) map) := by
  induction h generalizing map with
  | nil => rfl
  | cons hfirst hrest ih =>
    obtain ⟨hkey, hvalue⟩ := hfirst
    simp only [List.map_cons, List.foldlM_cons, List.foldl_cons, hkey, hvalue, Option.bind_eq_bind,
      Option.bind_some]
    exact ih _

/-- The entries of a map are read back, in whatever order they are written. -/
theorem readEntries?_objectOf {map : KeyMap α} {entries : List (String × α)} {s : Json.Syntax}
    (hs : c.value? s = some (objectOf write entries)) (hperm : entries.Perm map.toList)
    (h : ∀ (value : α) (s : Json.Syntax), c.value? s = some (write value) →
      read s = some (f value)) :
    readEntries? read s = some (map.map fun _ value => f value) := by
  obtain ⟨written, rfl, hwritten⟩ := Json.Codec.eq_object_of_value? hs
  rw [List.forall₂_map_right_iff] at hwritten
  have hread := hwritten.imp fun member entry hmember =>
    And.intro hmember.1 (h entry.2 member.2 hmember.2)
  have hmap : (entries.map fun entry => (entry.1, f entry.2)).Perm
      (map.map fun _ value => f value).toList := by
    rw [ExtTreeMap.toList_map]
    exact hperm.map _
  rw [readEntries?, ← KeyMap.ofEntries_of_perm hmap]
  exact foldlM_entries hread ∅

/-- Texts are read back as they are. -/
theorem readEntries?_texts {order : KeyMap.Order} {map : KeyMap String} {s : Json.Syntax}
    (hs : c.value? s = some (objectOf .string (map.entriesIn order))) :
    readEntries? readText? s = some map := by
  rw [readEntries?_objectOf (f := id) hs (KeyMap.entriesIn_perm order map) fun _ _ =>
    readText?_of_value?]
  refine congrArg some (ExtTreeMap.ext_getElem? fun key => ?_)
  simp

end Entries

/-! ## Messages -/

/-- The message as it is read: the kinds of some words are others. -/
def asRead (m : Message) : Message :=
  { m with fields := m.fields.map fun _ v => v.asRead }

/-- What a library is relied on for to read a message back: it reads back the value of the message
and its time. -/
structure Codec.ReadsBack (c : Codec) (order : Order) (m : Message) : Prop where
  value : c.json.ReadsBack (m.toJson c order)
  time : c.time.read? (c.time.print m.timestamp) = some m.timestamp

/-- The text of a message is read back as the message, in whatever orders its entries are
written. -/
theorem ofJson?_jsonText {c : Codec} {order : Order} {m : Message} (h : c.ReadsBack order m)
    (now : Timestamp) : ofJson? c (m.jsonText c order) now = some m.asRead := by
  obtain ⟨s, hs, hvalue⟩ := Option.bind_eq_some_iff.mp h.value.value
  obtain ⟨written, rfl, hwritten⟩ := Json.Codec.eq_object_of_value? hvalue
  obtain ⟨⟨_, name⟩, _, ⟨rfl, hname⟩, h₁, rfl⟩ := List.forall₂_cons_right_iff.mp hwritten
  obtain ⟨⟨_, tags⟩, _, ⟨rfl, htags⟩, h₂, rfl⟩ := List.forall₂_cons_right_iff.mp h₁
  obtain ⟨⟨_, metadata⟩, _, ⟨rfl, hmetadata⟩, h₃, rfl⟩ := List.forall₂_cons_right_iff.mp h₂
  obtain ⟨⟨_, fields⟩, _, ⟨rfl, hfields⟩, h₄, rfl⟩ := List.forall₂_cons_right_iff.mp h₃
  obtain ⟨⟨_, time⟩, _, ⟨rfl, htime⟩, h₅, rfl⟩ := List.forall₂_cons_right_iff.mp h₄
  obtain rfl := List.forall₂_nil_right_iff.mp h₅
  have hread : readTimestamp? c time = some m.timestamp := by
    rw [readTimestamp?, readText?_of_value? htime, Option.bind_some, h.time]
  have hentries : readEntries? (readValue? c) fields = some (m.fields.map fun _ v => v.asRead) :=
    readEntries?_objectOf hfields (KeyMap.entriesIn_perm order.fields m.fields) fun _ _ =>
      FieldValue.readValue?_of_value?
  rw [ofJson?, jsonText, hs, Option.bind_some, ofSyntax?]
  simp [Parts.read?, fillPart?, hentries, hread, readText?_of_value? hname,
    readEntries?_texts htags, readEntries?_texts hmetadata, Parts.message?]
  rfl

/-! ## The libraries of the program -/

/-- A field value is made up again from its text, a number that is not an integer as far as its text
denotes it. -/
theorem standard_value?_field {v : FieldValue} (hfloat : ∀ x, v = .float x →
    (Json.Number.real x).written?.bind Json.Number.ofText? = some (.real x)) :
    Json.Codec.standard.value? v.toJson.toSyntax = some v.toJson := by
  have hinteger : ∀ n : Int, Int64.minValue.toInt ≤ n → n < UInt64.size →
      Json.Codec.standard.value? (Json.number (.integer n)).toSyntax =
        some (.number (.integer n)) := fun n hlow hhigh =>
    Json.Codec.standard_value?_number (by
      rw [Json.Number.written?_integer, Option.bind_some,
        Json.Number.ofText?_integerText hlow hhigh])
  cases v with
  | int n => exact hinteger _ n.minValue_le_toInt (Int.lt_of_le_of_lt n.toInt_le (by decide))
  | uint n =>
    exact hinteger _ (Int.le_trans (by decide) (Int.natCast_nonneg _))
      (Int.ofNat_lt.mpr n.toNat_lt_size)
  | float x => exact Json.Codec.standard_value?_number (hfloat x rfl)
  | bool b => rfl
  | string s => rfl

/-- The libraries of the program read a message back if the texts of its numbers denote them and
its time is read back. -/
theorem readsBack_standard (order : Order) {m : Message}
    (hfloats : ∀ (key : String) (x : Float), m.fields[key]? = some (.float x) →
      (Json.Number.real x).written?.bind Json.Number.ofText? = some (.real x))
    (htime : Timestamp.read? m.timestamp.text = some m.timestamp) :
    Codec.standard.ReadsBack order m where
  value := by
    have htexts : ∀ (order : KeyMap.Order) (map : KeyMap String),
        Json.Codec.standard.value? (objectOf .string (map.entriesIn order)).toSyntax =
          some (objectOf .string (map.entriesIn order)) := by
      intro order map
      exact Json.Codec.standard_value?_object (List.forall_mem_map.mpr fun _ _ => rfl)
    have hfields : Json.Codec.standard.value?
        (objectOf FieldValue.toJson (m.fields.entriesIn order.fields)).toSyntax =
          some (objectOf FieldValue.toJson (m.fields.entriesIn order.fields)) := by
      refine Json.Codec.standard_value?_object (List.forall_mem_map.mpr fun entry hentry => ?_)
      exact standard_value?_field fun x hx =>
        hfloats entry.1 x (hx ▸ KeyMap.mem_entriesIn.mp hentry)
    refine Json.Codec.readsBack_standard (Json.Codec.standard_value?_object ?_)
    simp only [List.forall_mem_cons, List.not_mem_nil, false_implies, implies_true, and_true]
    exact ⟨rfl, htexts _ _, htexts _ _, hfields, rfl⟩
  time := htime

end Message

namespace RunOptions

variable {o : RunOptions} {m : Message}

/-- In JSON, nothing is written exactly if a field was left out and none is left. -/
theorem encode?_json (ho : o.format = .json) (order : Message.Order) :
    o.encode? order m =
      if m.nonFiniteKeys ≠ [] ∧ m.withoutNonFinite.fields = ∅ then none
      else some (m.withoutNonFinite.jsonText o.codec order) := by
  rw [encode?, ho]
  simp [ExtTreeMap.isEmpty_iff]

/-- Written JSON is read back: what is written for a message, in whatever orders its entries are
visited, is one line, which is read as the message without the fields that are not finite, where
every unsigned word that fits a signed one is read as that; and if nothing is written, a field was
left out and none is left. What is assumed of the libraries is that the value that is written is
printed on one line and read back, and that the time is read back. -/
theorem encode?_json_readsBack (ho : o.format = .json) (order : Message.Order)
    (hlibrary : o.codec.ReadsBack order m.withoutNonFinite) :
    (∀ line, o.encode? order m = some line → '\n' ∉ line.toList ∧
      ∀ now, Message.ofJson? o.codec line now = some m.withoutNonFinite.asRead) ∧
    (o.encode? order m = none → m.nonFiniteKeys ≠ [] ∧ m.withoutNonFinite.fields = ∅) := by
  rw [encode?_json ho order]
  refine ⟨fun line hline => ?_, fun hnone => ?_⟩
  · split at hline
    · nomatch hline
    · obtain rfl := Option.some.inj hline
      exact ⟨hlibrary.value.line, Message.ofJson?_jsonText hlibrary⟩
  · split at hnone
    · assumption
    · nomatch hnone

/-- A message with fields of every kind. -/
def observed : Message :=
  ⟨"disk \"a\"", .ofEntries [("host", "x\ty")], .ofEntries [("unit", "B")],
    .ofEntries [("big", .uint 9223372036854775808), ("count", .uint 7), ("delta", .int (-3)),
      ("lost", .float (0.0 / 0.0)), ("note", .string "up\n"), ("ok", .bool true),
      ("ratio", .float (-0.25))], ⟨1, 5000000⟩⟩

/-- The number that is not finite is left out, and the small unsigned word comes back signed. -/
theorem encode?_json_readsBack_observed :
    (∃ line, (⟨.json, [], false, .standard⟩ : RunOptions).encode? .ascending observed =
        some line ∧
      Message.ofJson? .standard line = some observed.withoutNonFinite.asRead) ∧
    observed.withoutNonFinite.asRead.fields.toList =
      [("big", .uint 9223372036854775808), ("count", .int 7), ("delta", .int (-3)),
        ("note", .string "up\n"), ("ok", .bool true), ("ratio", .float (-0.25))] := by
  have hfloats : ∀ (key : String) (x : Float),
      observed.withoutNonFinite.fields[key]? = some (.float x) →
        (Json.Number.real x).written?.bind Json.Number.ofText? = some (.real x) := by
    intro key x hx
    have hmem := ExtTreeMap.mem_toList_iff_getElem?_eq_some.mpr hx
    have hlist : observed.withoutNonFinite.fields.toList =
        [("big", .uint 9223372036854775808), ("count", .uint 7), ("delta", .int (-3)),
          ("note", .string "up\n"), ("ok", .bool true), ("ratio", .float (-0.25))] := by
      decide +kernel
    rw [hlist] at hmem
    obtain ⟨-, rfl⟩ : key = "ratio" ∧ x = -0.25 := by simpa using hmem
    decide +kernel
  have h := encode?_json_readsBack (o := ⟨.json, [], false, .standard⟩) (m := observed) rfl
    .ascending (Message.readsBack_standard .ascending hfloats (by decide +kernel))
  refine ⟨?_, by decide +kernel⟩
  cases hline : (⟨.json, [], false, .standard⟩ : RunOptions).encode? .ascending observed with
  | some line => exact ⟨line, rfl, (h.1 line hline).2 _⟩
  | none =>
    have hfields : observed.withoutNonFinite.fields.isEmpty = false := by decide +kernel
    rw [(h.2 hline).2] at hfields
    nomatch hfields

end RunOptions

end Telemetry
