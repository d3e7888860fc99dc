import Telemetry.Text.Utf8
import Mathlib.Data.List.Basic
import Mathlib.Tactic.SplitIfs

/-!
# Lines and line feeds

A text is written as bytes and read line by line. No byte of another character is a line feed, so
bytes that end with a line feed are read as one line for each line feed of their text.
-/

namespace Telemetry.Text

/-- The bytes of a text. -/
def bytes (s : String) : List UInt8 := s.toByteArray.data.toList

/-- The bytes of a text are those of its characters. -/
theorem bytes_eq_flatMap (s : String) : bytes s = s.toList.flatMap String.utf8EncodeChar := by
  rw [bytes, ← String.utf8Encode_toList, List.utf8Encode, List.toList_data_toByteArray]

@[simp] theorem bytes_append (s t : String) : bytes (s ++ t) = bytes s ++ bytes t := by
  simp [bytes_eq_flatMap]

/-- The bytes of a character beyond the first 128 are beyond them too. -/
theorem le_of_mem_utf8EncodeChar {c : Char} (hc : ¬ c.val.toNat ≤ 0x7f) {b : UInt8}
    (hb : b ∈ String.utf8EncodeChar c) : 128 ≤ b.toNat := by
  rw [String.utf8EncodeChar, if_neg hc] at hb
  split_ifs at hb <;>
    · simp only [List.mem_cons, List.not_mem_nil, or_false] at hb
      obtain rfl | rfl | rfl | rfl := hb <;> rw [UInt8.toNat_ofNat'] <;> omega

/-- Only the line feed has the byte of one. -/
theorem count_utf8EncodeChar (c : Char) :
    (String.utf8EncodeChar c).count 10 = [c].count '\n' := by
  by_cases hc : c.val.toNat ≤ 0x7f
  · have hfeed : UInt8.ofNat c.val.toNat = 10 ↔ c = '\n' := by
      rw [← UInt8.toNat_inj, UInt8.toNat_ofNat', ← Char.val_inj, ← UInt32.toNat_inj,
        Nat.mod_eq_of_lt (by omega)]
      rfl
    rw [String.utf8EncodeChar, if_pos hc]
    simp only [List.count_singleton, beq_iff_eq, hfeed]
  · have hbytes : 10 ∉ String.utf8EncodeChar c := fun h =>
      absurd (le_of_mem_utf8EncodeChar hc h) (by decide)
    have hchar : c ≠ '\n' := by
      rintro rfl
      exact hc (by decide)
    rw [List.count_eq_zero_of_not_mem hbytes,
      List.count_eq_zero_of_not_mem (List.mem_singleton.not.mpr hchar.symm)]

/-- How many line feeds a text holds. -/
def lineFeeds (s : String) : Nat := s.toList.count '\n'

/-- The bytes of a text hold its line feeds. -/
theorem count_bytes (s : String) : (bytes s).count 10 = lineFeeds s := by
  rw [bytes_eq_flatMap, lineFeeds]
  induction s.toList with
  | nil => rfl
  | cons c cs ih =>
    rw [List.flatMap_cons, List.count_append, ih, count_utf8EncodeChar, ← List.count_append,
      List.singleton_append]

/-- The first line ends with the first line feed. -/
theorem splitLine_feed {line : List UInt8} (h : 10 ∉ line) (rest : List UInt8) :
    splitLine (line ++ 10 :: rest) = (line ++ [10], rest) := by
  induction line with
  | nil => rfl
  | cons b line ih =>
    obtain ⟨hb, hline⟩ := not_or.mp (List.mem_cons.not.mp h)
    rw [List.cons_append, splitLine, if_neg (Ne.symm hb), ih hline]
    rfl

/-- A line with its line feed comes first, and the other lines follow. -/
theorem lines_feed {line : List UInt8} (h : 10 ∉ line) (rest : List UInt8) :
    lines (line ++ 10 :: rest) = (line ++ [10]) :: lines rest := by
  have hsplit := splitLine_feed h rest
  cases line with
  | nil => rw [List.nil_append, lines, ← List.nil_append (10 :: rest), hsplit]
  | cons b line => rw [List.cons_append, lines, ← List.cons_append, hsplit]

/-- What holds of no bytes, and with a line in front where it holds of the rest, holds of all bytes
that end with a line feed. -/
@[elab_as_elim]
theorem induction_lines {motive : List UInt8 → Prop} {bs : List UInt8}
    (h : bs = [] ∨ bs.getLast? = some 10) (nil : motive [])
    (line : ∀ line rest, 10 ∉ line → motive rest → motive (line ++ 10 :: rest)) : motive bs := by
  induction bs using lines.induct with
  | case1 => exact nil
  | case2 b bs ih =>
    have hlast : (b :: bs).getLast? = some 10 := h.resolve_left (List.cons_ne_nil _ _)
    obtain ⟨first, rest, hbytes, hfirst⟩ := List.eq_append_cons_of_mem (List.mem_of_getLast? hlast)
    have hrest : rest = [] ∨ rest.getLast? = some 10 := by
      cases rest with
      | nil => exact .inl rfl
      | cons c rest =>
        rw [hbytes, List.getLast?_append_cons, List.getLast?_cons_cons] at hlast
        exact .inr hlast
    rw [hbytes, splitLine_feed hfirst] at ih
    rw [hbytes]
    exact line first rest hfirst (ih hrest)

/-- Bytes that end with a line feed are as many lines as line feeds. -/
theorem length_lines {bs : List UInt8} (h : bs = [] ∨ bs.getLast? = some 10) :
    (lines bs).length = bs.count 10 := by
  refine induction_lines h ?_ ?_
  · simp [lines]
  · intro line rest hline ih
    rw [lines_feed hline, List.length_cons, ih, List.count_append,
      List.count_eq_zero_of_not_mem hline, List.count_cons_self, Nat.zero_add]

/-- Behind a line feed the lines are those of the rest. -/
theorem lines_append {bs : List UInt8} (h : bs = [] ∨ bs.getLast? = some 10) (bs' : List UInt8) :
    lines (bs ++ bs') = lines bs ++ lines bs' := by
  refine induction_lines h ?_ ?_
  · simp [lines]
  · intro line rest hline ih
    rw [List.append_assoc, List.cons_append, lines_feed hline, lines_feed hline, ih,
      List.cons_append]

end Telemetry.Text
