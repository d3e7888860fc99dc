import Telemetry.Json.Writer

/-!
# The texts of JSON strings

Quotes, backslashes and controls are escaped, so that a string has no control of its own and ends at
the first quote that is not behind a backslash. Whatever stands behind it, it is read back.
-/

namespace Telemetry.Json

/-- No controls. -/
def IsPrintable (cs : List Char) : Prop := ∀ c ∈ cs, 0x20 ≤ c.toNat

instance (cs : List Char) : Decidable (IsPrintable cs) := List.decidableBAll _ cs

/-- Two texts without controls make one. -/
theorem IsPrintable.append {cs ds : List Char} (hcs : IsPrintable cs) (hds : IsPrintable ds) :
    IsPrintable (cs ++ ds) := fun c hc => (List.mem_append.mp hc).elim (hcs c) (hds c)

/-- A character that is no control may stand in front of a text without controls. -/
theorem IsPrintable.cons {c : Char} {cs : List Char} (hc : 0x20 ≤ c.toNat) (hcs : IsPrintable cs) :
    IsPrintable (c :: cs) := List.forall_mem_cons.mpr ⟨hc, hcs⟩

/-! ## Characters -/

/-- A character is written as itself, behind a backslash or as its code. -/
inductive Escape (c : Char) : List Char → Prop where
  | itself (hquote : c ≠ '"') (hback : c ≠ '\\') (hc : 0x20 ≤ c.toNat) : Escape c [c]
  | short (d : Char) (hd : shortEscape? d = some c) : Escape c ['\\', d]
  | code (hc : c.toNat < 0x20) :
    Escape c ['\\', 'u', '0', '0', Nat.digitChar (c.toNat / 16), Nat.digitChar (c.toNat % 16)]

/-- A character of a string is written in one of the ways in which it is read. -/
theorem escape_stringChar (c : Char) : Escape c (stringChar c) := by
  unfold stringChar
  split
  · exact .short _ rfl
  · exact .short _ rfl
  · exact .short _ rfl
  · exact .short _ rfl
  · exact .short _ rfl
  · exact .short _ rfl
  · exact .short _ rfl
  · rename_i hquote hback _ _ _ _ _
    split
    · rename_i hc
      exact .code hc
    · rename_i hc
      exact .itself hquote hback (by omega)

/-- Hexadecimal digits are read back. -/
theorem hexDigit?_digitChar : ∀ n < 16, Text.hexDigit? (Nat.digitChar n) = some n := by decide

/-- Hexadecimal digits are no controls. -/
theorem printable_digitChar : ∀ n < 16, 0x20 ≤ (Nat.digitChar n).toNat := by decide

namespace Escape

variable {c : Char} {cs : List Char}

/-- No escape has controls. -/
theorem isPrintable (h : Escape c cs) : IsPrintable cs := by
  cases h with
  | itself hquote hback hc => exact .cons hc nofun
  | short d hd =>
    refine .cons (by decide) (.cons ?_ nofun)
    unfold shortEscape? at hd
    split at hd <;> first | decide | nomatch hd
  | code hc =>
    have hfront : IsPrintable ['\\', 'u', '0', '0'] := by decide
    exact hfront.append (.cons (printable_digitChar _ (by omega))
      (.cons (printable_digitChar _ (by omega)) nofun))

/-- Every character is written with one character at least. -/
theorem length_pos (h : Escape c cs) : 0 < cs.length := by
  cases h <;> exact Nat.succ_pos _

/-- An escape is read as one piece, which stands for its character. -/
theorem exists_piece (h : Escape c cs) : ∃ piece : StringPiece,
    (∀ fuel rest, readPieces? (fuel + 1) (cs ++ rest) =
      (readPieces? fuel rest).bind fun read => some (piece :: read.1, read.2)) ∧
    ∀ pieces, joinPieces? (piece :: pieces) = (joinPieces? pieces).map (c :: ·) := by
  cases h with
  | itself hquote hback hc =>
    have hcontrol : ¬ c.toNat < 0x20 := by omega
    refine ⟨.inl c, fun fuel rest => ?_, fun pieces => rfl⟩
    simp [readPieces?, hback, hcontrol]
  | short d hd =>
    have hu : d ≠ 'u' := by
      rintro rfl
      nomatch hd
    refine ⟨.inl c, fun fuel rest => ?_, fun pieces => rfl⟩
    simp [readPieces?, hd]
  | code hc =>
    have hhigh := hexDigit?_digitChar (c.toNat / 16) (by omega)
    have hlow := hexDigit?_digitChar (c.toNat % 16) (by omega)
    have hzero : Text.hexDigit? '0' = some 0 := rfl
    have hvalue : c.toNat / 16 * 16 + c.toNat % 16 = c.toNat := by omega
    refine ⟨.inr c.toNat, fun fuel rest => ?_, fun pieces => ?_⟩
    · simp [readPieces?, hexCode?, hzero, hhigh, hlow, hvalue]
    · -- no control is half of a surrogate pair
      have hhigh : (0xD800 ≤ c.toNat && c.toNat < 0xDC00) = false := by simp; omega
      have hlow : (0xDC00 ≤ c.toNat && c.toNat < 0xE000) = false := by simp; omega
      rw [joinPieces?.eq_def]
      simp [hhigh, hlow]

end Escape

/-! ## Strings -/

/-- What is written for the characters of a string is read back up to the quote behind it. -/
theorem readPieces?_flatMap (cs rest : List Char) {fuel : Nat}
    (hfuel : (cs.flatMap stringChar).length < fuel) :
    ∃ pieces, readPieces? fuel (cs.flatMap stringChar ++ '"' :: rest) = some (pieces, rest) ∧
      joinPieces? pieces = some cs := by
  obtain ⟨fuel, rfl⟩ := Nat.exists_eq_add_one_of_ne_zero (Nat.ne_zero_of_lt hfuel)
  induction cs generalizing fuel with
  | nil => exact ⟨[], by simp [readPieces?], rfl⟩
  | cons c cs ih =>
    obtain ⟨piece, hread, hjoin⟩ := (escape_stringChar c).exists_piece
    have hpos := (escape_stringChar c).length_pos
    rw [List.flatMap_cons, List.length_append] at hfuel
    obtain ⟨fuel, rfl⟩ : ∃ n, fuel = n + 1 := ⟨fuel - 1, by omega⟩
    obtain ⟨pieces, hpieces, hcs⟩ := ih fuel (by omega)
    refine ⟨piece :: pieces, ?_, ?_⟩
    · rw [List.flatMap_cons, List.append_assoc, hread, hpieces]
      rfl
    · rw [hjoin, hcs]
      rfl

/-- A string is read back behind its opening quote. -/
theorem readString?_flatMap (cs rest : List Char) :
    readString? (cs.flatMap stringChar ++ '"' :: rest) = some (some (String.ofList cs), rest) := by
  have hlength : (cs.flatMap stringChar).length <
      (cs.flatMap stringChar ++ '"' :: rest).length + 1 := by
    rw [List.length_append]
    omega
  obtain ⟨pieces, hread, hjoin⟩ := readPieces?_flatMap cs rest hlength
  rw [readString?, hread]
  simp [hjoin]

/-- The text of a string: its characters as they are written, between quotes. -/
theorem toList_stringText (s : String) :
    (stringText s).toList = '"' :: (s.toList.flatMap stringChar ++ ['"']) := String.toList_ofList

/-- A string has no controls. -/
theorem isPrintable_stringText (s : String) : IsPrintable (stringText s).toList := by
  rw [toList_stringText]
  refine .cons (by decide) (.append (fun d hd => ?_) (by decide))
  obtain ⟨c, -, hc⟩ := List.mem_flatMap.mp hd
  exact (escape_stringChar c).isPrintable d hc

end Telemetry.Json
