import Telemetry.Decimal.Reader
import Telemetry.Message.LineProtocol
import Telemetry.Proofs.Decimal.ReadBack

/-!
# Reading line protocol

A line is read as a name, tags, fields and a time: words end at the first mark without a backslash
in front of it, and the kind of a field value shows in its quotes or its last letter. What is read
is what was written, for every word, entry and value.
-/

namespace Telemetry

/-- What a line tells. -/
structure LineContent where
  name : String
  tags : KeyMap String
  fields : KeyMap FieldValue
  /-- Nanoseconds since the epoch. -/
  nanoseconds : Int64

namespace LineContent

/-! ## The reader -/

/-- Reads a word up to one of the given marks; a character behind a backslash is part of it. -/
def readEscaped (marks : List Char) : List Char → List Char × List Char
  | [] => ([], [])
  | '\\' :: c :: cs => (c :: (readEscaped marks cs).1, (readEscaped marks cs).2)
  | c :: cs =>
    if marks.contains c then ([], c :: cs)
    else (c :: (readEscaped marks cs).1, (readEscaped marks cs).2)

/-- Reads a word as the value of a tag. -/
def readWord? (cs : List Char) : Option (String × List Char) :=
  let (word, rest) := readEscaped [',', ' '] cs
  some (String.ofList word, rest)

/-- Whether a character stands in a value without quotes. -/
def isBare (c : Char) : Bool := c != ',' && c != ' '

/-- Reads a value without quotes. -/
def readBare? (cs : List Char) : Option FieldValue :=
  if cs = ['t', 'r', 'u', 'e'] then some (.bool true)
  else if cs = ['f', 'a', 'l', 's', 'e'] then some (.bool false)
  else if cs.getLast? = some 'i' then ((Text.readInt? cs.dropLast).bind exactInt64?).map .int
  else if cs.getLast? = some 'u' then
    (Text.readNat? cs.dropLast).bind fun n =>
      if n < UInt64.size then some (.uint (UInt64.ofNat n)) else none
  else (Decimal.readFloat? cs).map .float

/-- Reads the value of a field. -/
def readValue? : List Char → Option (FieldValue × List Char)
  | '"' :: cs =>
    match readEscaped ['"'] cs with
    | (text, '"' :: rest) => some (.string (String.ofList text), rest)
    | _ => none
  | cs => (readBare? (cs.takeWhile isBare)).map fun v => (v, cs.dropWhile isBare)

section Entries

variable {α : Type} (readOne? : List Char → Option (α × List Char))

/-- Reads a key, the equals sign and a value. -/
def readPair? (cs : List Char) : Option ((String × α) × List Char) :=
  match readEscaped ['='] cs with
  | (key, '=' :: rest) =>
    (readOne? rest).map fun (value, rest) => ((String.ofList key, value), rest)
  | _ => none

/-- Reads entries with a comma in front of each. -/
def readEntries? : List Char → Option (List (String × α) × List Char)
  | ',' :: cs =>
    match readPair? readOne? cs with
    | some (entry, rest) =>
      if rest.length ≤ cs.length then
        (readEntries? rest).map fun (entries, rest) => (entry :: entries, rest)
      else none
    | none => none
  | cs => some ([], cs)
termination_by cs => cs.length

end Entries

/-- Reads a line. -/
def read? (text : String) : Option LineContent := do
  let (name, rest) := readEscaped [',', ' '] text.toList
  let (tags, rest) ← readEntries? readWord? rest
  let ' ' :: rest := rest | none
  let (fields, rest) ← readEntries? readValue? (',' :: rest)
  let ' ' :: rest := rest | none
  let nanoseconds ← (Text.readInt? rest).bind exactInt64?
  return ⟨String.ofList name, .ofEntries tags, .ofEntries fields, nanoseconds⟩

/-! ## Words -/

open Message

/-- A word is read back if the marks at which it ends were escaped in it. -/
theorem readEscaped_escapeChars {marks specials : List Char} (hmarks : marks ⊆ specials) {c : Char}
    (hc : c ∈ marks) (hback : c ≠ '\\') (word rest : List Char) :
    readEscaped marks (escapeChars specials word ++ c :: rest) = (word, c :: rest) := by
  induction word with
  | nil =>
    rw [escapeChars, List.flatMap_nil, List.nil_append, readEscaped]
    · rw [if_pos (List.contains_iff_mem.mpr hc)]
    · exact fun _ _ h => absurd h hback
  | cons d word ih =>
    have hcons : escapeChars specials (d :: word) ++ c :: rest =
        (if d == '\\' || specials.contains d then ['\\', d] else [d]) ++
          (escapeChars specials word ++ c :: rest) := by
      rw [escapeChars, List.flatMap_cons, List.append_assoc]
      rfl
    rw [hcons]
    split
    · rw [List.cons_append, List.cons_append, List.nil_append, readEscaped, ih]
    · rename_i hd
      simp only [Bool.or_eq_true, beq_iff_eq, not_or, List.contains_iff_mem] at hd
      have hmark : ¬ marks.contains d = true := fun h =>
        hd.2 (hmarks (List.contains_iff_mem.mp h))
      rw [List.cons_append, List.nil_append, readEscaped, if_neg hmark, ih]
      exact fun _ _ h => absurd h hd.1

/-- The mark behind a word, an entry or a value. -/
inductive Delimited : List Char → Prop where
  | comma (cs : List Char) : Delimited (',' :: cs)
  | blank (cs : List Char) : Delimited (' ' :: cs)

variable {rest : List Char}

/-- A word is read back up to the mark behind it. -/
theorem readEscaped_delimited {specials : List Char} (hmarks : [',', ' '] ⊆ specials)
    (hrest : Delimited rest) (word : List Char) :
    readEscaped [',', ' '] (escapeChars specials word ++ rest) = (word, rest) := by
  cases hrest with
  | comma cs => exact readEscaped_escapeChars hmarks (by decide) (by decide) word cs
  | blank cs => exact readEscaped_escapeChars hmarks (by decide) (by decide) word cs

/-- The value of a tag is read back. -/
theorem readWord?_lineWord (hrest : Delimited rest) (word : String) :
    readWord? (lineWord word ++ rest) = some (word, rest) := by
  rw [readWord?, lineWord, readEscaped_delimited (by decide) hrest]
  simp

/-! ## Values -/

/-- A text without quotes, without line feeds and without the marks behind a value. -/
def Unquoted (cs : List Char) : Prop := ∀ c ∈ cs, isBare c = true ∧ c ≠ '"' ∧ c ≠ '\n'

instance (cs : List Char) : Decidable (Unquoted cs) := List.decidableBAll _ cs

/-- Two texts without quotes and marks make one. -/
theorem Unquoted.append {cs ds : List Char} (hcs : Unquoted cs) (hds : Unquoted ds) :
    Unquoted (cs ++ ds) := fun c hc => (List.mem_append.mp hc).elim (hcs c) (hds c)

/-- Digits stand in values without quotes. -/
theorem unquoted_of_isDigit {c : Char} (h : Text.isDigit c = true) :
    isBare c = true ∧ c ≠ '"' ∧ c ≠ '\n' := by
  unfold isBare
  rw [Bool.and_eq_true, bne_iff_ne, bne_iff_ne]
  refine ⟨⟨?_, ?_⟩, ?_, ?_⟩ <;> rintro rfl <;> nomatch h

/-- The digits of a number stand in values without quotes. -/
theorem unquoted_digits (n : Nat) : Unquoted (Text.digits n) := fun _ hc =>
  unquoted_of_isDigit (Text.isDigit_of_mem_digits hc)

/-- The text of an integer stands in values without quotes. -/
theorem unquoted_toString (n : Int) : Unquoted (toString n).toList := by
  rw [Text.toList_toString_int]
  split
  · have hminus : Unquoted ['-'] := by decide
    exact hminus.append (unquoted_digits _)
  · exact unquoted_digits _

/-- Every value but a text is written without quotes. -/
theorem unquoted_lineValue {v : FieldValue} (hv : v.isFinite = true) (hs : v.toText? = none) :
    Unquoted (lineValue v) := by
  cases v with
  | int n => exact (unquoted_toString _).append (by decide)
  | uint n =>
    refine .append ?_ (by decide)
    rw [Text.toList_toString]
    exact unquoted_digits _
  | float x =>
    intro c hc
    obtain h | rfl | rfl := Decimal.Layout.mem_render hv hc
    · exact unquoted_of_isDigit h
    · decide
    · decide
  | bool b => cases b <;> decide
  | string s => nomatch hs

/-- A signed word is told by its last letter. -/
theorem readBare?_int (n : Int64) : readBare? (lineValue (.int n)) = some (.int n) := by
  have hn : exactInt64? n.toInt = some n := exactInt64?_eq_some_iff.mpr rfl
  have hne : ∀ cs : List Char, cs.getLast? ≠ some 'i' → (toString n.toInt).toList ++ ['i'] ≠ cs :=
    fun cs h heq => h (by rw [← heq, List.getLast?_concat])
  rw [readBare?, lineValue, if_neg (hne _ (by decide)), if_neg (hne _ (by decide)),
    List.getLast?_concat, if_pos rfl, List.dropLast_concat, Text.readInt?_toString]
  simp [hn]

/-- An unsigned word is told by its last letter. -/
theorem readBare?_uint (n : UInt64) : readBare? (lineValue (.uint n)) = some (.uint n) := by
  have hne : ∀ cs : List Char, cs.getLast? ≠ some 'u' → (toString n.toNat).toList ++ ['u'] ≠ cs :=
    fun cs h heq => h (by rw [← heq, List.getLast?_concat])
  rw [readBare?, lineValue, if_neg (hne _ (by decide)), if_neg (hne _ (by decide)),
    List.getLast?_concat, if_neg (by decide), if_pos rfl, List.dropLast_concat,
    Text.toList_toString, Text.readNat?_digits, Option.bind_some, if_pos n.toNat_lt_size,
    UInt64.ofNat_toNat]

/-- A binary64 number has no letters. -/
theorem readBare?_float {x : Float} (hx : x.isFinite = true) :
    readBare? (lineValue (.float x)) = some (.float x) := by
  have hletter : ∀ c : Char, Text.isDigit c = false → c ≠ '.' → c ≠ '-' →
      c ∉ lineValue (.float x) := by
    intro c hdigit hpoint hminus hc
    obtain h | h | h := Decimal.Layout.mem_render hx hc
    · rw [h] at hdigit
      nomatch hdigit
    · exact hpoint h
    · exact hminus h
  have hlast : ∀ c : Char, Text.isDigit c = false → c ≠ '.' → c ≠ '-' →
      (lineValue (.float x)).getLast? ≠ some c := fun c hdigit hpoint hminus h =>
    hletter c hdigit hpoint hminus (List.mem_of_getLast? h)
  rw [readBare?, if_neg, if_neg, if_neg (hlast 'i' rfl (by decide) (by decide)),
    if_neg (hlast 'u' rfl (by decide) (by decide)), lineValue, Decimal.Layout.readFloat?_render hx]
  · rfl
  · exact fun h => hletter 'e' rfl (by decide) (by decide) (h ▸ by decide)
  · exact fun h => hletter 'e' rfl (by decide) (by decide) (h ▸ by decide)

/-- A truth value is read back from its word. -/
theorem readBare?_bool (b : Bool) : readBare? (lineValue (.bool b)) = some (.bool b) := by
  cases b <;> rfl

/-- The kind of a value without quotes shows in its text. -/
theorem readBare?_lineValue {v : FieldValue} (hv : v.isFinite = true) (hs : v.toText? = none) :
    readBare? (lineValue v) = some v := by
  cases v with
  | int n => exact readBare?_int n
  | uint n => exact readBare?_uint n
  | float x => exact readBare?_float hv
  | bool b => exact readBare?_bool b
  | string s => nomatch hs

/-- A text ends at the first quote without a backslash in front of it. -/
theorem readValue?_string (s : String) (rest : List Char) :
    readValue? (lineValue (.string s) ++ rest) = some (.string s, rest) := by
  have hread : readEscaped ['"'] (escapeChars ['"'] s.toList ++ '"' :: rest) =
      (s.toList, '"' :: rest) :=
    readEscaped_escapeChars (List.Subset.refl _) List.mem_cons_self (by decide) _ _
  rw [lineValue, List.cons_append, List.append_assoc, List.singleton_append, readValue?, hread]
  simp

/-- The value of a field is read back. -/
theorem readValue?_lineValue {v : FieldValue} (hv : v.isFinite = true) (hrest : Delimited rest) :
    readValue? (lineValue v ++ rest) = some (v, rest) := by
  cases hs : v.toText? with
  | some s =>
    cases v with
    | string s => exact readValue?_string s rest
    | _ => nomatch hs
  | none =>
    have hunquoted := unquoted_lineValue hv hs
    have hbare : ∀ c ∈ lineValue v, isBare c = true := fun c hc => (hunquoted c hc).1
    have htake : (lineValue v ++ rest).takeWhile isBare = lineValue v := by
      rw [List.takeWhile_append_of_pos hbare]
      cases hrest <;> simp [isBare]
    have hdrop : (lineValue v ++ rest).dropWhile isBare = rest := by
      rw [List.dropWhile_append_of_pos hbare]
      cases hrest <;> simp [isBare]
    rw [readValue?, htake, hdrop, readBare?_lineValue hv hs, Option.map_some]
    intro cs h
    cases hvalue : lineValue v with
    | nil =>
      rw [hvalue, List.nil_append] at h
      cases hrest <;> nomatch h
    | cons c tail =>
      rw [hvalue, List.cons_append] at h
      exact (hunquoted c (hvalue ▸ List.mem_cons_self)).2.1 (List.cons.inj h).1

/-! ## Entries -/

section Entries

variable {α : Type} {readOne? : List Char → Option (α × List Char)} {write : α → List Char}

/-- The key in front of a value is read back. -/
theorem readPair?_lineWord (key : String) {value : α} {written : List Char}
    (h : readOne? (written ++ rest) = some (value, rest)) :
    readPair? readOne? (lineWord key ++ '=' :: written ++ rest) = some ((key, value), rest) := by
  have hmarks : ['='] ⊆ [',', '=', ' '] := by decide
  have hread : readEscaped ['='] (lineWord key ++ '=' :: (written ++ rest)) =
      (key.toList, '=' :: (written ++ rest)) :=
    readEscaped_escapeChars hmarks (by decide) (by decide) _ _
  simp [readPair?, hread, h]

/-- Entries with a comma in front of each. -/
def lineEntries (write : α → List Char) (entries : List (String × α)) : List Char :=
  entries.flatMap fun entry => ',' :: (lineWord entry.1 ++ '=' :: write entry.2)

/-- Entries and the blank behind them are told apart from the word in front of them. -/
theorem delimited_lineEntries (write : α → List Char) (entries : List (String × α))
    (rest : List Char) : Delimited (lineEntries write entries ++ ' ' :: rest) := by
  cases entries with
  | nil => exact .blank rest
  | cons => exact .comma _

/-- Entries are read back in front of a blank, if their values are. -/
theorem readEntries?_lineEntries {entries : List (String × α)}
    (h : ∀ entry ∈ entries, ∀ rest, Delimited rest →
      readOne? (write entry.2 ++ rest) = some (entry.2, rest)) (rest : List Char) :
    readEntries? readOne? (lineEntries write entries ++ ' ' :: rest) =
      some (entries, ' ' :: rest) := by
  induction entries with
  | nil =>
    rw [lineEntries, List.flatMap_nil, List.nil_append, readEntries?]
    exact fun _ h => nomatch h
  | cons entry entries ih =>
    have hcons : lineEntries write (entry :: entries) ++ ' ' :: rest =
        ',' :: (lineWord entry.1 ++ '=' :: write entry.2 ++
          (lineEntries write entries ++ ' ' :: rest)) := by
      simp [lineEntries]
    have hentry := readPair?_lineWord entry.1
      (h entry List.mem_cons_self _ (delimited_lineEntries write entries rest))
    have hentries := ih fun entry hmem => h entry (List.mem_cons_of_mem _ hmem)
    rw [hcons, readEntries?, hentry]
    dsimp only
    rw [if_pos (List.sublist_append_right _ _).length_le, hentries]
    rfl

/-- The fields have no comma in front of the first. -/
theorem cons_lineFields {fields : List (String × FieldValue)} (h : fields ≠ []) :
    ',' :: lineFields fields = lineEntries lineValue fields := by
  induction fields with
  | nil => exact absurd rfl h
  | cons field fields ih =>
    cases fields with
    | nil => simp [lineFields, lineField, lineEntries]
    | cons next fields =>
      have hrest := ih (List.cons_ne_nil _ _)
      rw [lineFields, hrest]
      · simp [lineField, lineEntries]
      · exact fun h => nomatch h

end Entries

end LineContent

end Telemetry
