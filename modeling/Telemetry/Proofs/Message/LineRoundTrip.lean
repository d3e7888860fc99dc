import Telemetry.Proofs.KeyMap
import Telemetry.Proofs.Message.LineReading

/-!
# Lines are read back

Whatever is written into a line is read from it: the name, the tags with the promoted meta entries,
the finite fields with their kinds, and the time. So messages that differ in any of these have
different lines.
-/

namespace Telemetry

open Std (ExtTreeMap)

namespace Message

/-- The tag that a line shows: a listed meta entry stands in the place of the tag of its key. -/
def shownTag? (m : Message) (metaAsTags : List String) (key : String) : Option String :=
  if key ∈ metaAsTags then m.metadata[key]?.or m.tags[key]? else m.tags[key]?

/-- The field that a line shows: a value that is not finite is left out. -/
def shownField? (m : Message) (key : String) : Option FieldValue :=
  m.fields[key]?.filter FieldValue.isFinite

/-- Steps that each add what was found under their key, for one key among them. -/
theorem getElem?_foldl_of_step {found : Option String} {key : String}
    {step : KeyMap String → String → KeyMap String}
    (hstep : ∀ tags first, (step tags first)[key]? =
      if first = key then found.or tags[key]? else tags[key]?) :
    ∀ (keys : List String) (tags : KeyMap String),
      (keys.foldl step tags)[key]? = if key ∈ keys then found.or tags[key]? else tags[key]? := by
  intro keys
  induction keys with
  | nil => intro tags; rfl
  | cons first keys ih =>
    intro tags
    rw [List.foldl_cons, ih, hstep]
    by_cases hfirst : first = key
    · simp [hfirst, ← Option.or_assoc]
    · simp [hfirst, Ne.symm hfirst]

/-- The promoted meta entries stand among the tags. -/
theorem getElem?_promoted (m : Message) (metaAsTags : List String) (key : String) :
    (m.promoted metaAsTags)[key]? = m.shownTag? metaAsTags key := by
  refine getElem?_foldl_of_step (fun tags first => ?_) metaAsTags m.tags
  by_cases hfirst : first = key
  · subst hfirst
    cases m.metadata[first]? <;> simp
  · cases m.metadata[first]? <;> simp [ExtTreeMap.getElem?_insert, hfirst]

end Message

namespace LineContent

open Message

/-- A content is what a message has to tell. -/
structure Tells (content : LineContent) (m : Message) (metaAsTags : List String) : Prop where
  name : content.name = m.name
  tags (key : String) : content.tags[key]? = m.shownTag? metaAsTags key
  fields (key : String) : content.fields[key]? = m.shownField? key
  nanoseconds : m.timestamp.nanoseconds? = some content.nanoseconds

/-- The parts of a line. -/
theorem toList_of_line? {m : Message} {metaAsTags : List String} {text : String}
    (h : m.line? metaAsTags = some text) :
    (m.fields.filter fun _ v => v.isFinite).toList ≠ [] ∧
      text.toList = lineName m.name ++ (lineEntries lineWord (m.promoted metaAsTags).toList ++
        ' ' :: (lineFields (m.fields.filter fun _ v => v.isFinite).toList ++
          ' ' :: (toString m.timestamp.nanosecondsOrZero.toInt).toList)) := by
  rw [ExtTreeMap.toList_filter]
  obtain ⟨chars, hchars, rfl⟩ := Option.map_eq_some_iff.mp h
  unfold lineChars? at hchars
  cases hfields : m.fields.toList.filter fun entry => entry.2.isFinite with
  | nil => simp [hfields] at hchars
  | cons field fields =>
    simp only [hfields, Option.some.injEq] at hchars
    refine ⟨List.cons_ne_nil _ _, ?_⟩
    rw [String.toList_ofList, ← hchars]
    simp only [List.append_assoc, List.cons_append]
    rfl

/-- The parts of a line are read back. -/
theorem read?_parts (name : String) (tags : List (String × String))
    {fields : List (String × FieldValue)} (hne : fields ≠ [])
    (hfinite : ∀ field ∈ fields, field.2.isFinite = true) (ns : Int64) :
    read? (String.ofList (lineName name ++ (lineEntries lineWord tags ++
      ' ' :: (lineFields fields ++ ' ' :: (toString ns.toInt).toList)))) =
      some ⟨name, .ofEntries tags, .ofEntries fields, ns⟩ := by
  generalize htime : (toString ns.toInt).toList = time
  have hname : ∀ rest, readEscaped [',', ' '] (lineName name ++ (lineEntries lineWord tags ++
      ' ' :: rest)) = (name.toList, lineEntries lineWord tags ++ ' ' :: rest) := fun rest =>
    readEscaped_delimited (List.Subset.refl _) (delimited_lineEntries lineWord tags rest) _
  have htags : ∀ rest, readEntries? readWord? (lineEntries lineWord tags ++ ' ' :: rest) =
      some (tags, ' ' :: rest) :=
    readEntries?_lineEntries fun entry _ rest hrest => readWord?_lineWord hrest entry.2
  have hfields : ∀ rest, readEntries? readValue? (',' :: (lineFields fields ++ ' ' :: rest)) =
      some (fields, ' ' :: rest) := fun rest => by
    rw [← List.cons_append, cons_lineFields hne]
    exact readEntries?_lineEntries
      (fun entry hentry rest hrest => readValue?_lineValue (hfinite entry hentry) hrest) rest
  have hword : (Text.readInt? time).bind exactInt64? = some ns := by
    rw [← htime, Text.readInt?_toString, Option.bind_some, exactInt64?_eq_some_iff]
  rw [read?, String.toList_ofList, hname]
  simp [htags, hfields, hword]

/-- A line is read back. -/
theorem read?_line {m : Message} {metaAsTags : List String} {text : String} {ns : Int64}
    (hns : m.timestamp.nanoseconds? = some ns) (h : m.line? metaAsTags = some text) :
    read? text =
      some ⟨m.name, m.promoted metaAsTags, m.fields.filter fun _ v => v.isFinite, ns⟩ := by
  obtain ⟨hne, htext⟩ := toList_of_line? h
  have hfinite : ∀ field ∈ (m.fields.filter fun _ v => v.isFinite).toList,
      field.2.isFinite = true := fun field hfield => by
    rw [ExtTreeMap.toList_filter] at hfield
    exact (List.mem_filter.mp hfield).2
  have htime : m.timestamp.nanosecondsOrZero = ns := by
    rw [Timestamp.nanosecondsOrZero, hns]
    rfl
  rw [htime] at htext
  rw [← String.ofList_toList (s := text), htext, read?_parts _ _ hne hfinite,
    KeyMap.ofEntries_toList, KeyMap.ofEntries_toList]

/-- A line tells what its message has to tell. -/
theorem tells_line {m : Message} {metaAsTags : List String} {text : String}
    (hfits : m.timestamp.nanoseconds?.isSome = true) (h : m.line? metaAsTags = some text) :
    ∃ content, read? text = some content ∧ content.Tells m metaAsTags := by
  obtain ⟨ns, hns⟩ := Option.isSome_iff_exists.mp hfits
  refine ⟨_, read?_line hns h, rfl, getElem?_promoted m metaAsTags, fun key => ?_, hns⟩
  rw [ExtTreeMap.getElem?_filter', Message.shownField?]

end LineContent

namespace Message

/-- Lines are uniquely decodable: a line is read back as the name, the tags with the promoted meta
entries, the finite fields with their kinds, and the time of its message, and messages with one
line agree in all of these. -/
theorem line_uniquely_decodable {m : Message} {metaAsTags : List String} {text : String}
    (hfits : m.timestamp.nanoseconds?.isSome = true) (h : m.line? metaAsTags = some text) :
    (∃ content, LineContent.read? text = some content ∧ content.Tells m metaAsTags) ∧
      ∀ (m' : Message) (metaAsTags' : List String), m'.timestamp.nanoseconds?.isSome = true →
        m'.line? metaAsTags' = some text →
        m'.name = m.name ∧
        (∀ key, m'.shownTag? metaAsTags' key = m.shownTag? metaAsTags key) ∧
        (∀ key, m'.shownField? key = m.shownField? key) ∧
        m'.timestamp.nanoseconds? = m.timestamp.nanoseconds? := by
  obtain ⟨content, hread, htells⟩ := LineContent.tells_line hfits h
  refine ⟨⟨content, hread, htells⟩, fun m' metaAsTags' hfits' h' => ?_⟩
  obtain ⟨content', hread', htells'⟩ := LineContent.tells_line hfits' h'
  obtain rfl : content' = content := Option.some.inj (hread'.symm.trans hread)
  exact ⟨htells'.name.symm.trans htells.name,
    fun key => (htells'.tags key).symm.trans (htells.tags key),
    fun key => (htells'.fields key).symm.trans (htells.fields key),
    htells'.nanoseconds.trans htells.nanoseconds.symm⟩

/-- A message with marks in its words, and with values of several kinds. -/
def marked (tags metadata : KeyMap String) : Message :=
  ⟨"my disk", tags, metadata,
    .ofEntries [("i", .int (-3)), ("nan", .float (0.0 / 0.0)), ("s", .string "say \"hi\""),
      ("u", .uint 7), ("x", .float (-0.25))], ⟨1, 1⟩⟩

/-- One line for a promoted meta entry and for a tag. -/
theorem line_uniquely_decodable_marked :
    (∃ content, LineContent.read?
        "my\\ disk,a\\=b=c\\,d,unit=B i=-3i,s=\"say \\\"hi\\\"\",u=7u,x=-0.25 1000000001" =
          some content ∧
      content.Tells (marked (.ofEntries [("a=b", "c,d")]) (.ofEntries [("unit", "B")])) ["unit"]) ∧
    ∀ key, (marked (.ofEntries [("a=b", "c,d"), ("unit", "B")]) ∅).shownTag? [] key =
      (marked (.ofEntries [("a=b", "c,d")]) (.ofEntries [("unit", "B")])).shownTag? ["unit"] key :=
  have h := line_uniquely_decodable
    (m := marked (.ofEntries [("a=b", "c,d")]) (.ofEntries [("unit", "B")]))
    (by decide +kernel) (by decide +kernel)
  ⟨h.1, (h.2 (marked (.ofEntries [("a=b", "c,d"), ("unit", "B")]) ∅) [] (by decide +kernel)
    (by decide +kernel)).2.1⟩

end Message

end Telemetry
