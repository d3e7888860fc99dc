import Telemetry.Json.Writer
import Telemetry.Proofs.Json.NumberTexts
import Telemetry.Proofs.Json.StringTexts

/-!
# Compact JSON is read back

The compact form of every value is one line, and reading it gives the value part by part: each
number as its text, `null` for a number that is not finite, each string, and the items and members
in their order.
-/

namespace Telemetry

namespace Json

/-- A text is read as what it stands for, whatever stands behind it that does not go on with it. -/
structure ReadsAs (text : List Char) (s : Syntax) : Prop where
  /-- It starts with neither a blank nor the end of an array. -/
  starts : ∃ c cs, text = c :: cs ∧ isBlank c = false ∧ c ≠ ']'
  read (fuel : Nat) {rest : List Char} (hrest : EndsNumber rest) (hfuel : 2 * text.length ≤ fuel) :
    readValue? fuel (text ++ rest) = some (s, rest)

/-- Where there is no blank in front, nothing is skipped. -/
theorem skipBlanks_of_not_isBlank {c : Char} (hc : isBlank c = false) (cs : List Char) :
    skipBlanks (c :: cs) = c :: cs := by
  simp [skipBlanks, hc]

/-- What is no part of a number ends one. -/
theorem endsNumber_cons {c : Char}
    (hc : Text.isDigit c = false ∧ c ≠ '.' ∧ c ≠ 'e' ∧ c ≠ 'E') (cs : List Char) :
    EndsNumber (c :: cs) := by
  rintro d ⟨⟩
  exact hc

namespace ReadsAs

variable {text : List Char} {s : Syntax}

/-- The reader has a step for the first character. -/
theorem of_cons {c : Char} {cs : List Char} (hc : isBlank c = false ∧ c ≠ ']')
    (h : ∀ fuel rest, EndsNumber rest → 2 * cs.length + 1 ≤ fuel →
      readValue? (fuel + 1) (c :: (cs ++ rest)) = some (s, rest)) : ReadsAs (c :: cs) s := by
  refine ⟨⟨c, cs, rfl, hc⟩, fun fuel rest hrest hfuel => ?_⟩
  rw [List.length_cons] at hfuel
  obtain ⟨fuel, rfl⟩ : ∃ n, fuel = n + 1 := ⟨fuel - 1, by omega⟩
  exact h fuel rest hrest (by omega)

/-! ## Words, numbers and strings -/

/-- The word for null is read back. -/
theorem null : ReadsAs "null".toList .null := by
  change ReadsAs ['n', 'u', 'l', 'l'] .null
  refine of_cons (by decide) fun fuel rest _ _ => ?_
  simp [readValue?, skipBlanks, isBlank, dropWord?]

/-- The words for truth values are read back. -/
theorem bool (b : Bool) : ReadsAs (if b then "true" else "false").toList (.bool b) := by
  cases b with
  | false =>
    change ReadsAs ['f', 'a', 'l', 's', 'e'] (.bool false)
    refine of_cons (by decide) fun fuel rest _ _ => ?_
    simp [readValue?, skipBlanks, isBlank, dropWord?]
  | true =>
    change ReadsAs ['t', 'r', 'u', 'e'] (.bool true)
    refine of_cons (by decide) fun fuel rest _ _ => ?_
    simp [readValue?, skipBlanks, isBlank, dropWord?]

/-- Neither a digit nor a minus sign is a blank or the start of another value. -/
theorem ne_of_digit {c : Char} (hc : Text.isDigit c = true ∨ c = '-') :
    ∀ d ∈ [' ', '\n', '\t', '\r', 'n', 't', 'f', '"', '[', ']', '\x7b'], c ≠ d := by
  rintro d hd rfl
  have hall : [' ', '\n', '\t', '\r', 'n', 't', 'f', '"', '[', ']', '\x7b'].all
      fun d => !Text.isDigit d && d != '-' := rfl
  have hnot := List.all_eq_true.mp hall c hd
  obtain h | rfl := hc
  · simp [h] at hnot
  · nomatch hnot

/-- What a number begins with is no blank. -/
theorem isBlank_of_digit {c : Char} (hc : Text.isDigit c = true ∨ c = '-') :
    isBlank c = false := by
  simp [isBlank, ne_of_digit hc]

/-- A value that starts with a digit or a minus sign is read as a number. -/
theorem readValue?_of_digit {c : Char} (hc : Text.isDigit c = true ∨ c = '-') (fuel : Nat)
    (cs : List Char) : readValue? (fuel + 1) (c :: cs) =
      (readNumber? (c :: cs)).map fun (n, rest) => (.number n, rest) := by
  rw [readValue?, skipBlanks_of_not_isBlank (isBlank_of_digit hc)]
  simp [ne_of_digit hc]

/-- A number is read back from its characters. -/
theorem number {t : NumberText} (ht : t.IsProper) : ReadsAs t.chars (.number t) := by
  obtain ⟨c, cs, hchars, hc⟩ := ht.exists_chars_eq_cons
  rw [hchars]
  refine of_cons ⟨isBlank_of_digit hc, ne_of_digit hc _ (by simp)⟩ fun fuel rest hrest _ => ?_
  rw [readValue?_of_digit hc, ← List.cons_append, ← hchars, NumberText.readNumber?_chars ht hrest]
  rfl

/-- A string is read back from its text. -/
theorem string (s : String) : ReadsAs (stringText s).toList (.string (some s)) := by
  rw [toList_stringText]
  refine of_cons (by decide) fun fuel rest _ _ => ?_
  have hread := readString?_flatMap s.toList rest
  rw [List.append_assoc, List.singleton_append, readValue?,
    skipBlanks_of_not_isBlank (by decide)]
  simp [hread]

end ReadsAs

/-! ## Items and members -/

section Separated

variable {α : Type} {Reads : List Char → α → Prop} {close : Char}
  {readAll? : Nat → List Char → Option (List α × List Char)}

/-- Parts with commas between them are read up to the mark behind them, if each part is read in
front of a comma and in front of the mark. -/
theorem readAll?_intercalate
    (last : ∀ {text part fuel} rest, Reads text part → 2 * text.length ≤ fuel →
      readAll? (fuel + 1) (text ++ close :: rest) = some ([part], rest))
    (more : ∀ {text part fuel} rest, Reads text part → 2 * text.length ≤ fuel →
      readAll? (fuel + 1) (text ++ ',' :: rest) =
        (readAll? fuel rest).bind fun read => some (part :: read.1, read.2))
    {texts : List (List Char)} {parts : List α} (h : List.Forall₂ Reads texts parts)
    (hne : parts ≠ []) (rest : List Char) {fuel : Nat}
    (hfuel : 2 * ([','].intercalate texts).length + 1 ≤ fuel) :
    readAll? fuel ([','].intercalate texts ++ close :: rest) = some (parts, rest) := by
  induction h generalizing fuel with
  | nil => exact absurd rfl hne
  | @cons text part texts parts hpart hparts ih =>
    obtain ⟨fuel, rfl⟩ : ∃ n, fuel = n + 1 := ⟨fuel - 1, by omega⟩
    cases hparts with
    | nil =>
      rw [List.intercalate_singleton] at hfuel ⊢
      exact last rest hpart (by omega)
    | cons hnext hparts =>
      rw [List.intercalate_cons_cons] at hfuel ⊢
      simp only [List.length_append, List.length_singleton] at hfuel
      rw [List.append_assoc, List.append_assoc, List.singleton_append, more _ hpart (by omega),
        ih (List.cons_ne_nil _ _) (by omega)]
      rfl

end Separated

/-- Items with commas between them are read up to the bracket behind them. -/
theorem readItems?_intercalate {texts : List (List Char)} {items : List Syntax}
    (h : List.Forall₂ ReadsAs texts items) (hne : items ≠ []) (rest : List Char) {fuel : Nat}
    (hfuel : 2 * ([','].intercalate texts).length + 1 ≤ fuel) :
    readItems? fuel ([','].intercalate texts ++ ']' :: rest) = some (items, rest) := by
  refine readAll?_intercalate ?_ ?_ h hne rest hfuel
  · intro text item fuel rest hitem hfuel
    rw [readItems?, hitem.read fuel (endsNumber_cons (by decide) _) hfuel]
    simp [skipBlanks_of_not_isBlank (c := ']') rfl]
  · intro text item fuel rest hitem hfuel
    rw [readItems?, hitem.read fuel (endsNumber_cons (by decide) _) hfuel]
    simp [skipBlanks_of_not_isBlank (c := ',') rfl]

/-- A member is a key and a value with a colon between them. -/
inductive MemberReadsAs : List Char → Option String × Syntax → Prop where
  | mk (key : String) {text : List Char} {s : Syntax} (h : ReadsAs text s) :
    MemberReadsAs ((stringText key).toList ++ ':' :: text) (some key, s)

/-- A member begins with the quote of its key. -/
theorem MemberReadsAs.starts {text : List Char} {member : Option String × Syntax}
    (h : MemberReadsAs text member) : ∃ cs, text = '"' :: cs := by
  cases h with
  | mk key h => exact ⟨_, by rw [toList_stringText]; rfl⟩

/-- Members with commas between them are read up to the brace behind them. -/
theorem readMembers?_intercalate {texts : List (List Char)}
    {members : List (Option String × Syntax)} (h : List.Forall₂ MemberReadsAs texts members)
    (hne : members ≠ []) (rest : List Char) {fuel : Nat}
    (hfuel : 2 * ([','].intercalate texts).length + 1 ≤ fuel) :
    readMembers? fuel ([','].intercalate texts ++ '\x7d' :: rest) = some (members, rest) := by
  have hkey : ∀ (key : String) (cs : List Char), (stringText key).toList ++ cs =
      '"' :: (key.toList.flatMap stringChar ++ '"' :: cs) := by
    intro key cs
    rw [toList_stringText]
    simp
  refine readAll?_intercalate ?_ ?_ h hne rest hfuel
  · rintro _ _ fuel rest ⟨key, hvalue⟩ hfuel
    rw [List.length_append, List.length_cons] at hfuel
    have hread := hvalue.read fuel (endsNumber_cons (c := '\x7d') (by decide) rest) (by omega)
    rw [List.append_assoc, hkey, readMembers?, skipBlanks_of_not_isBlank (by decide)]
    simp [readString?_flatMap, skipBlanks_of_not_isBlank (c := ':') rfl, hread,
      skipBlanks_of_not_isBlank (c := '\x7d') rfl]
  · rintro _ _ fuel rest ⟨key, hvalue⟩ hfuel
    rw [List.length_append, List.length_cons] at hfuel
    have hread := hvalue.read fuel (endsNumber_cons (c := ',') (by decide) rest) (by omega)
    rw [List.append_assoc, hkey, readMembers?, skipBlanks_of_not_isBlank (by decide)]
    simp [readString?_flatMap, skipBlanks_of_not_isBlank (c := ':') rfl, hread,
      skipBlanks_of_not_isBlank (c := ',') rfl]

/-- A row starts as its first part does. -/
theorem exists_intercalate_eq_cons (c : Char) (cs : List Char) (texts : List (List Char)) :
    ∃ ds, [','].intercalate ((c :: cs) :: texts) = c :: ds := by
  cases texts with
  | nil => exact ⟨cs, List.intercalate_singleton⟩
  | cons text texts => exact ⟨_, by rw [List.intercalate_cons_cons, List.append_assoc]; rfl⟩

namespace ReadsAs

/-- An array is read back if its items are. -/
theorem array {texts : List (List Char)} {items : List Syntax}
    (h : List.Forall₂ ReadsAs texts items) :
    ReadsAs ('[' :: ([','].intercalate texts ++ [']'])) (.array items) := by
  refine of_cons (by decide) fun fuel rest _ hfuel => ?_
  rw [List.append_assoc, List.singleton_append, readValue?, skipBlanks_of_not_isBlank (by decide)]
  cases h with
  | nil => simp [skipBlanks, isBlank]
  | @cons text item texts items hitem hitems =>
    have hlength : 2 * ([','].intercalate (text :: texts)).length + 1 ≤ fuel := by
      rw [List.length_append] at hfuel
      omega
    have hread := readItems?_intercalate (.cons hitem hitems) (List.cons_ne_nil _ _) rest hlength
    obtain ⟨c, cs, rfl, hblank, hclose⟩ := hitem.starts
    obtain ⟨ds, hds⟩ := exists_intercalate_eq_cons c cs texts
    rw [hds, List.cons_append] at hread ⊢
    generalize ds ++ ']' :: rest = tail at hread ⊢
    simp [skipBlanks_of_not_isBlank hblank, hclose, hread]

/-- An object is read back if its members are. -/
theorem object {texts : List (List Char)} {members : List (Option String × Syntax)}
    (h : List.Forall₂ MemberReadsAs texts members) :
    ReadsAs ('\x7b' :: ([','].intercalate texts ++ ['\x7d'])) (.object members) := by
  refine of_cons (by decide) fun fuel rest _ hfuel => ?_
  rw [List.append_assoc, List.singleton_append, readValue?, skipBlanks_of_not_isBlank (by decide)]
  cases h with
  | nil => simp [skipBlanks, isBlank]
  | @cons text member texts members hmember hmembers =>
    have hlength : 2 * ([','].intercalate (text :: texts)).length + 1 ≤ fuel := by
      rw [List.length_append] at hfuel
      omega
    have hread := readMembers?_intercalate (.cons hmember hmembers) (List.cons_ne_nil _ _) rest
      hlength
    obtain ⟨cs, rfl⟩ := hmember.starts
    obtain ⟨ds, hds⟩ := exists_intercalate_eq_cons '"' cs texts
    rw [hds, List.cons_append] at hread ⊢
    generalize ds ++ '\x7d' :: rest = tail at hread ⊢
    simp [skipBlanks_of_not_isBlank (c := '"') rfl, hread]

end ReadsAs

/-! ## Values -/

/-- Induction over values, with a hypothesis for every item and for the value of every member. -/
@[elab_as_elim]
theorem byParts {motive : Json → Prop} (null : motive .null) (bool : ∀ b, motive (.bool b))
    (number : ∀ n, motive (.number n)) (string : ∀ s, motive (.string s))
    (array : ∀ items, (∀ item ∈ items, motive item) → motive (.array items))
    (object : ∀ members, (∀ member ∈ members, motive member.2) → motive (.object members))
    (j : Json) : motive j := by
  refine Json.rec (motive_1 := motive) (motive_2 := fun items => ∀ item ∈ items, motive item)
    (motive_3 := fun members => ∀ member ∈ members, motive member.2)
    (motive_4 := fun member => motive member.2) null bool number string array object
    nofun ?_ nofun ?_ (fun _ _ h => h) j
  · exact fun first rest hfirst hrest => List.forall_mem_cons.mpr ⟨hfirst, hrest⟩
  · exact fun first rest hfirst hrest => List.forall_mem_cons.mpr ⟨hfirst, hrest⟩

/-- The texts of the items of an array, one by one. -/
theorem compactItems_eq_map (items : List Json) : compactItems items = items.map compact := by
  induction items with
  | nil => rfl
  | cons item items ih => rw [compactItems, ih, List.map_cons]

/-- The texts of the members of an object, one by one. -/
theorem compactMembers_eq_map (members : List (String × Json)) :
    compactMembers members =
      members.map fun member => stringText member.1 ++ ":" ++ member.2.compact := by
  induction members with
  | nil => rfl
  | cons member members ih => rw [compactMembers, ih, List.map_cons]

mutual

/-- What is read where a value is written: a number that is not finite is read as `null`. -/
def toSyntax : Json → Syntax
  | .null => .null
  | .bool b => .bool b
  | .number n => n.written?.elim .null .number
  | .string s => .string (some s)
  | .array items => .array (itemSyntaxes items)
  | .object members => .object (memberSyntaxes members)

/-- What is read where the items of an array are written. -/
def itemSyntaxes : List Json → List Syntax
  | [] => []
  | item :: rest => item.toSyntax :: itemSyntaxes rest

/-- What is read where the members of an object are written. -/
def memberSyntaxes : List (String × Json) → List (Option String × Syntax)
  | [] => []
  | (key, value) :: rest => (some key, value.toSyntax) :: memberSyntaxes rest

end

/-- What the items of an array are read as, one by one. -/
theorem itemSyntaxes_eq_map (items : List Json) : itemSyntaxes items = items.map toSyntax := by
  induction items with
  | nil => rfl
  | cons item items ih => rw [itemSyntaxes, ih, List.map_cons]

/-- What the members of an object are read as, one by one. -/
theorem memberSyntaxes_eq_map (members : List (String × Json)) :
    memberSyntaxes members = members.map fun member => (some member.1, member.2.toSyntax) := by
  induction members with
  | nil => rfl
  | cons member members ih => rw [memberSyntaxes, ih, List.map_cons]

/-- The characters of an array. -/
theorem toList_compact_array (items : List Json) : (array items).compact.toList =
    '[' :: ([','].intercalate (items.map fun item => item.compact.toList) ++ [']']) := by
  rw [compact, compactItems_eq_map, String.toList_append, String.toList_append,
    String.toList_intercalate, List.map_map]
  rfl

/-- The characters of an object. -/
theorem toList_compact_object (members : List (String × Json)) : (object members).compact.toList =
    '\x7b' :: ([','].intercalate (members.map fun member =>
      (stringText member.1).toList ++ ':' :: member.2.compact.toList) ++ ['\x7d']) := by
  have hmember : ∀ member : String × Json,
      (stringText member.1 ++ ":" ++ member.2.compact).toList =
        (stringText member.1).toList ++ ':' :: member.2.compact.toList := by
    intro member
    rw [String.toList_append, String.toList_append, List.append_assoc]
    rfl
  rw [compact, compactMembers_eq_map, String.toList_append, String.toList_append,
    String.toList_intercalate, List.map_map]
  simp only [Function.comp_def, hmember]
  rfl

/-- The compact form of a value is read part by part. -/
theorem readsAs_compact (j : Json) : ReadsAs j.compact.toList j.toSyntax := by
  induction j using byParts with
  | null => exact .null
  | bool b => exact .bool b
  | number n =>
    rw [compact, toSyntax]
    obtain ⟨t, hwritten, ht, htext⟩ | ⟨hwritten, htext⟩ := n.text_cases
    · rw [hwritten, htext]
      exact .number ht
    · rw [hwritten, htext]
      exact .null
  | string s => exact .string s
  | array items ih =>
    rw [toList_compact_array, toSyntax, itemSyntaxes_eq_map]
    refine .array ?_
    rw [List.forall₂_map_left_iff, List.forall₂_map_right_iff, List.forall₂_same]
    exact ih
  | object members ih =>
    rw [toList_compact_object, toSyntax, memberSyntaxes_eq_map]
    refine .object ?_
    rw [List.forall₂_map_left_iff, List.forall₂_map_right_iff, List.forall₂_same]
    exact fun member hmember => .mk member.1 (ih member hmember)

/-- The compact form of a value is a text of the grammar. -/
theorem read?_compact (j : Json) : Syntax.read? j.compact.toList = some j.toSyntax := by
  have hend : EndsNumber [] := nofun
  have hread := (readsAs_compact j).read (2 * j.compact.toList.length + 2) hend (by omega)
  rw [List.append_nil] at hread
  rw [Syntax.read?, hread]
  rfl

/-! ## One line -/

/-- Digits are no controls. -/
theorem isPrintable_digits {ds : List Char} (h : IsDigits ds) : IsPrintable ds := by
  intro c hc
  have hdigit := h.2 c hc
  simp only [Text.isDigit, Bool.and_eq_true, decide_eq_true_eq] at hdigit
  exact Nat.le_trans (by decide : 0x20 ≤ '0'.val.toNat) (UInt32.le_iff_toNat_le.mp hdigit.1)

/-- Numbers are written without controls. -/
theorem isPrintable_chars {t : NumberText} (ht : t.IsProper) : IsPrintable t.chars := by
  refine .append (by cases t.negative <;> decide) (.append (isPrintable_digits ht.whole)
    (.append ?_ ?_))
  · cases hplaces : t.places with
    | none => exact nofun
    | some ds => exact .cons (by decide) (isPrintable_digits (ht.places ds hplaces))
  · cases hexponent : t.exponent with
    | none => exact nofun
    | some e =>
      exact .cons (by decide) (.cons (by split <;> decide)
        (isPrintable_digits (ht.exponent e hexponent)))

/-- Texts without controls make a text without controls, with the commas between them. -/
theorem isPrintable_intercalate {texts : List (List Char)} (h : ∀ text ∈ texts, IsPrintable text) :
    IsPrintable ([','].intercalate texts) := by
  induction texts with
  | nil => exact nofun
  | cons text texts ih =>
    obtain ⟨htext, htexts⟩ := List.forall_mem_cons.mp h
    cases texts with
    | nil => rwa [List.intercalate_singleton]
    | cons next texts =>
      rw [List.intercalate_cons_cons]
      exact (htext.append (by decide)).append (ih htexts)

/-- The compact form of a value has no controls, so it is one line. -/
theorem isPrintable_compact (j : Json) : IsPrintable j.compact.toList := by
  induction j using byParts with
  | null => decide
  | bool b => cases b <;> decide
  | number n =>
    rw [compact]
    obtain ⟨t, -, ht, htext⟩ | ⟨-, htext⟩ := n.text_cases
    · rw [htext]
      exact isPrintable_chars ht
    · rw [htext]
      decide
  | string s => exact isPrintable_stringText s
  | array items ih =>
    rw [toList_compact_array]
    refine .cons (by decide) (.append (isPrintable_intercalate ?_) (by decide))
    exact List.forall_mem_map.mpr ih
  | object members ih =>
    rw [toList_compact_object]
    refine .cons (by decide) (.append (isPrintable_intercalate ?_) (by decide))
    refine List.forall_mem_map.mpr fun member hmember => ?_
    exact (isPrintable_stringText _).append (.cons (by decide) (ih member hmember))

end Json

end Telemetry
