import Telemetry.Proofs.Condition.Lexing
import Telemetry.Proofs.Text.Lines

/-!
# Slices of a text by bytes

A position in a text is a number of bytes. What stands from a position on, or between two of them,
is a text only if no position lies inside a character or behind the end; single bytes can be looked
at anywhere. A scan that looks for ASCII characters one byte at a time stops between two characters.
-/

namespace Telemetry.Condition

/-- The bytes of characters. -/
def utf8 (cs : List Char) : List UInt8 := cs.flatMap String.utf8EncodeChar

/-- The characters from a position on. -/
def from? : List Char → Nat → Option (List Char)
  | cs, 0 => some cs
  | [], _ + 1 => none
  | c :: cs, n + 1 => if c.utf8Size ≤ n + 1 then from? cs (n + 1 - c.utf8Size) else none

/-- The characters in front of a position. -/
def upTo? : List Char → Nat → Option (List Char)
  | _, 0 => some []
  | [], _ + 1 => none
  | c :: cs, n + 1 =>
    if c.utf8Size ≤ n + 1 then (upTo? cs (n + 1 - c.utf8Size)).map (c :: ·) else none

/-- The characters between two positions. -/
def slice? (cs : List Char) (start stop : Nat) : Option (List Char) :=
  if start ≤ stop then (from? cs start).bind fun ds => upTo? ds (stop - start) else none

/-- A byte as the character of this number. -/
def byteChar (b : UInt8) : Char := Char.ofNat b.toNat

/-- The byte at a position. -/
def look (cs : List Char) (pos : Nat) : Option Char := (utf8 cs)[pos]?.map byteChar

/-- The first position from this one on whose byte does not pass the test. -/
def scan (p : Char → Bool) (cs : List Char) (pos : Nat) : Nat :=
  pos + (((utf8 cs).drop pos).takeWhile (p ∘ byteChar)).length

/-! ## Widths -/

section Widths

variable {before cs rest : List Char}

@[simp] theorem width_nil : width [] = 0 := rfl

@[simp] theorem width_append (cs ds : List Char) : width (cs ++ ds) = width cs + width ds := by
  induction cs with
  | nil => rw [List.nil_append, width_nil, Nat.zero_add]
  | cons c cs ih => rw [List.cons_append, width_cons, width_cons, ih, Nat.add_assoc]

/-- There are as many bytes as the characters are wide. -/
theorem length_utf8 (cs : List Char) : (utf8 cs).length = width cs := by
  induction cs with
  | nil => rfl
  | cons c cs ih =>
    rw [utf8, List.flatMap_cons, List.length_append, String.length_utf8EncodeChar, width_cons]
    exact congrArg _ ih

/-- The bytes of characters in two parts are those of the parts. -/
theorem utf8_append (cs ds : List Char) : utf8 (cs ++ ds) = utf8 cs ++ utf8 ds :=
  List.flatMap_append

/-- The bytes from between two characters on are those of the characters behind. -/
theorem drop_utf8 (before rest : List Char) :
    (utf8 (before ++ rest)).drop (width before) = utf8 rest := by
  rw [utf8_append, ← length_utf8, List.drop_left]

/-- A text takes the bytes of its characters. -/
theorem width_toList (s : String) : width s.toList = s.utf8ByteSize := by
  rw [← length_utf8, utf8, ← Text.bytes_eq_flatMap, Text.bytes, Array.length_toList]
  rfl

end Widths

/-! ## Positions between characters -/

section Positions

variable {before text rest cs ds : List Char} {n : Nat}

/-- A position behind the first character is one in the others. -/
theorem from?_cons (c : Char) (cs : List Char) (n : Nat) :
    from? (c :: cs) (c.utf8Size + n) = from? cs n := by
  obtain ⟨k, hk⟩ : ∃ k, c.utf8Size + n = k + 1 := ⟨c.utf8Size + n - 1, by
    have := c.utf8Size_pos
    omega⟩
  rw [hk, from?, if_pos (by omega), ← hk, Nat.add_sub_cancel_left]

/-- What stands in front of a position behind the first character begins with it. -/
theorem upTo?_cons (c : Char) (cs : List Char) (n : Nat) :
    upTo? (c :: cs) (c.utf8Size + n) = (upTo? cs n).map (c :: ·) := by
  obtain ⟨k, hk⟩ : ∃ k, c.utf8Size + n = k + 1 := ⟨c.utf8Size + n - 1, by
    have := c.utf8Size_pos
    omega⟩
  rw [hk, upTo?, if_pos (by omega), ← hk, Nat.add_sub_cancel_left]

/-- Between two characters a text goes on. -/
theorem from?_append (before rest : List Char) :
    from? (before ++ rest) (width before) = some rest := by
  induction before with
  | nil => rw [List.nil_append, width_nil, from?]
  | cons c cs ih => rw [List.cons_append, width_cons, from?_cons, ih]

/-- What stands in front of the width of a text is the text. -/
theorem upTo?_append (text rest : List Char) : upTo? (text ++ rest) (width text) = some text := by
  induction text with
  | nil => rw [List.nil_append, width_nil, upTo?]
  | cons c cs ih => rw [List.cons_append, width_cons, upTo?_cons, ih, Option.map_some]

/-- A text stands between the positions before and behind it. -/
theorem slice?_append (before text rest : List Char) :
    slice? (before ++ (text ++ rest)) (width before) (width before + width text) = some text := by
  rw [slice?, if_pos (Nat.le_add_right _ _), from?_append, Option.bind_some,
    Nat.add_sub_cancel_left, upTo?_append]

/-- A text goes on from a position only between two characters. -/
theorem eq_append_of_from? (h : from? cs n = some ds) :
    ∃ before, cs = before ++ ds ∧ n = width before := by
  fun_induction from? cs n with
  | case1 cs => exact ⟨[], Option.some.inj h, rfl⟩
  | case2 => cases h
  | case3 c cs n hle ih =>
    obtain ⟨before, rfl, hn⟩ := ih h
    refine ⟨c :: before, rfl, ?_⟩
    rw [width_cons]
    omega
  | case4 => cases h

/-- The positions from which a text goes on are those that are valid in it. -/
theorem from?_isSome_iff {s : String} :
    (from? s.toList n).isSome ↔ (⟨n⟩ : String.Pos.Raw).IsValid s := by
  rw [String.Pos.Raw.isValid_iff_exists_append, Option.isSome_iff_exists]
  constructor
  · rintro ⟨ds, h⟩
    obtain ⟨before, hs, rfl⟩ := eq_append_of_from? h
    refine ⟨String.ofList before, String.ofList ds, ?_, ?_⟩
    · rw [← String.ofList_append, ← hs, String.ofList_toList]
    · rw [String.Pos.Raw.ext_iff, String.byteIdx_rawEndPos, ← width_toList, String.toList_ofList]
  · rintro ⟨s₁, s₂, rfl, hn⟩
    refine ⟨s₂.toList, ?_⟩
    have hwidth : n = width s₁.toList := by
      rw [width_toList]
      exact congrArg String.Pos.Raw.byteIdx hn
    rw [hwidth, String.toList_append, from?_append]

/-- What stands in front of a character ends at a valid position. -/
theorem isValid_of_append {s : String} (h : s.toList = before ++ rest) :
    (⟨width before⟩ : String.Pos.Raw).IsValid s := by
  rw [← from?_isSome_iff, h, from?_append]
  rfl

end Positions

/-! ## Bytes of ASCII characters -/

/-- Whether only ASCII characters pass a test. -/
def IsAscii (p : Char → Bool) : Prop := ∀ c, p c = true → c.toNat < 128

/-- The first byte of a character. -/
def lead (c : Char) : Char := byteChar ((String.utf8EncodeChar c).headD 0)

section Ascii

variable {before rest : List Char} {c d : Char} {p : Char → Bool}

/-- The character of a byte has its number. -/
theorem toNat_byteChar (b : UInt8) : (byteChar b).toNat = b.toNat := by
  have hlt : b.toNat < 256 := b.toNat_lt
  have hvalid : b.toNat.isValidChar := .inl (by omega)
  rw [byteChar, Char.ofNat, dif_pos hvalid]
  rfl

/-- An ASCII character is one byte, of its own number. -/
theorem utf8EncodeChar_of_lt (hc : c.toNat < 128) :
    ∃ b : UInt8, String.utf8EncodeChar c = [b] ∧ byteChar b = c := by
  refine ⟨UInt8.ofNat c.toNat, ?_, ?_⟩
  · rw [String.utf8EncodeChar]
    exact if_pos (Nat.le_of_lt_succ hc)
  · rw [byteChar, UInt8.toNat_ofNat', Nat.mod_eq_of_lt (by omega), Char.ofNat_toNat]

/-- An ASCII character is one byte wide. -/
theorem utf8Size_of_lt (hc : c.toNat < 128) : c.utf8Size = 1 := by
  obtain ⟨b, hb, -⟩ := utf8EncodeChar_of_lt hc
  rw [← String.length_utf8EncodeChar, hb, List.length_singleton]

/-- Any other character begins with a byte that is none of an ASCII character. -/
theorem utf8EncodeChar_of_le (hc : 128 ≤ c.toNat) :
    ∃ b bs, String.utf8EncodeChar c = b :: bs ∧ 128 ≤ (byteChar b).toNat := by
  have hne : String.utf8EncodeChar c ≠ [] := by
    rw [← List.length_pos_iff, String.length_utf8EncodeChar]
    exact c.utf8Size_pos
  obtain ⟨b, bs, hb⟩ := List.exists_cons_of_ne_nil hne
  have hnot : ¬c.val.toNat ≤ 0x7f := Nat.not_le.mpr hc
  have hlarge := Text.le_of_mem_utf8EncodeChar hnot (hb ▸ List.mem_cons_self)
  exact ⟨b, bs, hb, by rwa [toNat_byteChar]⟩

/-- An ASCII character is its own byte. -/
theorem lead_of_lt (hc : c.toNat < 128) : lead c = c := by
  obtain ⟨b, hb, hchar⟩ := utf8EncodeChar_of_lt hc
  rw [lead, hb]
  exact hchar

/-- The first byte of another character is no ASCII character. -/
theorem le_lead (hc : 128 ≤ c.toNat) : 128 ≤ (lead c).toNat := by
  obtain ⟨b, bs, hb, hlarge⟩ := utf8EncodeChar_of_le hc
  rw [lead, hb]
  exact hlarge

/-- A test for ASCII characters may look at the first byte instead of the character. -/
theorem IsAscii.lead (hp : IsAscii p) (c : Char) : p (lead c) = p c := by
  by_cases hc : c.toNat < 128
  · rw [lead_of_lt hc]
  · have hlead := le_lead (Nat.not_lt.mp hc)
    have hbyte : p (Condition.lead c) = false := Bool.eq_false_iff.mpr fun h => by
      have hlt := hp _ h
      omega
    have hchar : p c = false := Bool.eq_false_iff.mpr fun h => hc (hp _ h)
    rw [hbyte, hchar]

/-- The test for an ASCII character is passed by it alone. -/
theorem isAscii_eq (hd : d.toNat < 128) : IsAscii (· == d) := by
  intro c hc
  rwa [eq_of_beq hc]

/-- Two tests that only ASCII characters pass make one. -/
theorem IsAscii.or {q : Char → Bool} (hp : IsAscii p) (hq : IsAscii q) :
    IsAscii fun c => p c || q c := by
  intro c hc
  rcases Bool.or_eq_true_iff.mp hc with h | h
  · exact hp c h
  · exact hq c h

/-- Behind a character stands the first byte of the next one. -/
theorem look_append (before rest : List Char) :
    look (before ++ rest) (width before) = rest.head?.map lead := by
  have hdrop := congrArg List.head? (drop_utf8 before rest)
  rw [List.head?_drop] at hdrop
  rw [look, hdrop]
  cases rest with
  | nil => rfl
  | cons c cs =>
    have hne : String.utf8EncodeChar c ≠ [] := by
      rw [← List.length_pos_iff, String.length_utf8EncodeChar]
      exact c.utf8Size_pos
    obtain ⟨b, bs, hb⟩ := List.exists_cons_of_ne_nil hne
    simp [utf8, lead, hb]

/-- A scan for ASCII characters passes the characters that pass the test. -/
theorem scan_append (hp : IsAscii p) (before rest : List Char) :
    scan p (before ++ rest) (width before) = width before + width (rest.takeWhile p) := by
  rw [scan, drop_utf8]
  congr 1
  induction rest with
  | nil => rfl
  | cons c cs ih =>
    by_cases hc : c.toNat < 128
    · -- an ASCII character is the one byte
      obtain ⟨b, hb, hchar⟩ := utf8EncodeChar_of_lt hc
      have hutf8 : utf8 (c :: cs) = b :: utf8 cs := by
        rw [utf8, List.flatMap_cons, hb]
        rfl
      by_cases hpass : p c = true
      · have hbyte : (p ∘ byteChar) b = true := by rwa [Function.comp, hchar]
        rw [hutf8, List.takeWhile_cons_of_pos hbyte, List.takeWhile_cons_of_pos hpass,
          List.length_cons, ih, width_cons, utf8Size_of_lt hc, Nat.add_comm]
      · have hbyte : ¬(p ∘ byteChar) b = true := by rwa [Function.comp, hchar]
        rw [hutf8, List.takeWhile_cons_of_neg hbyte, List.takeWhile_cons_of_neg hpass]
        rfl
    · obtain ⟨b, bs, hb, hlarge⟩ := utf8EncodeChar_of_le (Nat.not_lt.mp hc)
      have hbyte : ¬(p ∘ byteChar) b = true := fun h => by
        have hlt := hp _ h
        omega
      have hstop : ¬p c = true := fun h => hc (hp _ h)
      rw [utf8, List.flatMap_cons, hb, List.cons_append, List.takeWhile_cons_of_neg hbyte,
        List.takeWhile_cons_of_neg hstop]
      rfl

end Ascii

end Telemetry.Condition
