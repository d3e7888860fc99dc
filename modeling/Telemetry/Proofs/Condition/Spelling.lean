import Telemetry.Proofs.Condition.Lexing
import Telemetry.Proofs.Condition.Printer
import Telemetry.Proofs.Text.Digits

/-!
# Written tokens are read back

A token that is written reads back in front of what no token goes on with, so a row of tokens with
blanks between them reads back token by token.
-/

namespace Telemetry.Condition

/-- The longest run in front of what no token goes on with. -/
theorem Separated.takeWhile_run {rest : List Char} (h : Separated rest) {p : Char → Bool}
    (hp : ∀ c, p c = true → isWordChar c = true) {cs : List Char}
    (hcs : ∀ c ∈ cs, p c = true) : (cs ++ rest).takeWhile p = cs := by
  have hrun : (cs ++ []).takeWhile p = cs ++ [].takeWhile p := List.takeWhile_append_of_pos hcs
  rw [List.append_nil, List.takeWhile_nil, List.append_nil] at hrun
  rw [h.takeWhile_append hp, hrun]

/-- A token whose spelling reads back. -/
def Token.Spellable : Token → Prop
  | int n => 0 ≤ n.toInt
  | word s => isIdentifier s = true
  | float _ | ending => False
  | text _ | leftParen | rightParen | leftBracket | rightBracket | comma | dot | questionDot
  | question | doubleQuestion | colon | equal | notEqual | less | lessEqual | greater
  | greaterEqual | andAnd | orOr | bang | plus | minus | star | slash | percent => True

/-- The tokens of every operator can be spelled. -/
theorem BinaryOp.tokens_spellable (op : BinaryOp) : ∀ t ∈ op.tokens, t.Spellable := by
  cases op <;> simp [tokens, Token.Spellable] <;> decide

/-- A quote that may stand around a text. -/
def IsQuote (c : Char) : Prop := c = '\'' ∨ c = '"'

/-! ## Single tokens -/

/-- Numbers go on with digits. -/
theorem isNumberChar_of_isDigit {c : Char} (h : Text.isDigit c = true) : isNumberChar c = true := by
  simp [isNumberChar, h]

/-- The digits of a number are those of its text. -/
theorem plainDigits_digits (n : Nat) : plainDigits (Text.digits n) = Text.digits n :=
  List.filter_eq_self.mpr fun _ hc => Text.isDigit_of_mem_digits hc

/-- The digits of a number read back. -/
theorem readNumber_digits {n : Int64} {k : Nat} (hn : n.toInt = k) {rest : List Char}
    (hrest : Separated rest) :
    readNumber (Text.digits k ++ rest) = .ok ⟨.int n, Text.digits k, rest⟩ := by
  have hwhole : (Text.digits k ++ rest).takeWhile isNumberChar = Text.digits k :=
    hrest.takeWhile_run (fun _ => isWordChar_of_isNumberChar) fun c hc =>
      isNumberChar_of_isDigit (Text.isDigit_of_mem_digits hc)
  have hfraction := hrest.fractionText_eq_nil
  have hexponent := hrest.exponentText_eq_nil
  have hword : exactInt64? (k : Int) = some n := exactInt64?_eq_some_iff.mpr hn
  simp [readNumber, hwhole, hfraction, hexponent, plainDigits_digits, Text.digitsValue_digits,
    hword]

/-- The characters of a text read back. -/
theorem readQuoted_escapedChars {quote : Char} (hq : IsQuote quote) (cs rest : List Char) :
    readQuoted quote (escapedChars quote cs ++ quote :: rest) =
      .ok (some (cs, escapedChars quote cs ++ [quote], rest)) := by
  have hquote : quote ≠ '\\' := by rcases hq with rfl | rfl <;> decide
  induction cs with
  | nil =>
    rw [escapedChars, List.nil_append, readQuoted]
    · simp
    all_goals simp [hquote]
  | cons c cs ih =>
    rw [escapedChars]
    split
    · rename_i hc
      have hescaped : escaped? c = some c := by
        simp only [Bool.or_eq_true, beq_iff_eq] at hc
        rcases hc with rfl | rfl
        · rfl
        · rcases hq with rfl | rfl <;> rfl
      simp [readQuoted, hescaped, ih]
    · rename_i hc
      simp only [Bool.or_eq_true, beq_iff_eq, not_or] at hc
      rw [List.cons_append, readQuoted]
      · simp [hc.2, ih]
      all_goals simp [hc.1]

/-- A text in quotes reads back. -/
theorem readText_spelling {quote : Char} (hq : IsQuote quote) (s : String) (rest : List Char) :
    readText quote (escapedChars quote s.toList ++ quote :: rest) =
      .ok ⟨.text s, quote :: (escapedChars quote s.toList ++ [quote]), rest⟩ := by
  simp [readText, readQuoted_escapedChars hq]

/-- A word reads back. -/
theorem readWord_spelling {cs : List Char} (hcs : ∀ c ∈ cs, isWordChar c = true)
    {rest : List Char} (hrest : Separated rest) :
    readWord (cs ++ rest) = ⟨.word (String.ofList cs), cs, rest⟩ := by
  simp [readWord, hrest.takeWhile_run (fun _ => id) hcs]

/-- An operator or a punctuation mark reads back. -/
theorem readMark_spelling (quote : Char) {t : Token} {c : Char} {cs : List Char}
    (hmark : t.spelling quote = c :: cs) (ht : t.Spellable) {rest : List Char}
    (hrest : Separated rest) (hint : ∀ n, t ≠ .int n) (htext : ∀ s, t ≠ .text s)
    (hword : ∀ s, t ≠ .word s) :
    readLexeme c (cs ++ rest) = .ok ⟨t, c :: cs, rest⟩ := by
  cases t with
  | int n => exact absurd rfl (hint n)
  | float => exact ht.elim
  | text s => exact absurd rfl (htext s)
  | word s => exact absurd rfl (hword s)
  | ending => exact ht.elim
  | _ =>
    obtain ⟨rfl, rfl⟩ := List.cons.inj hmark
    exact readLexeme_append hrest (l := ⟨_, _, []⟩) rfl

/-- Digits stand before letters. -/
theorem toNat_le_of_isDigit {c : Char} (h : Text.isDigit c = true) :
    48 ≤ c.toNat ∧ c.toNat ≤ 57 := by
  simp only [Text.isDigit, Bool.and_eq_true, decide_eq_true_eq] at h
  exact h

/-- What a word can start with is no digit and no mark. -/
theorem toNat_of_isWordStart {c : Char} (h : isWordStart c = true) :
    c.toNat = 36 ∨ 65 ≤ c.toNat := by
  simp only [isWordStart, Bool.or_eq_true, beq_iff_eq] at h
  rcases h with (rfl | rfl) | h
  · exact .inr (by decide)
  · exact .inl rfl
  have hcase : c.isUpper = true ∨ c.isLower = true := Bool.or_eq_true_iff.mp h
  rcases hcase with hupper | hlower
  · exact .inr (of_decide_eq_true hupper).1
  · have hletter : 97 ≤ c.toNat := of_decide_eq_true (Bool.and_eq_true_iff.mp hlower).1
    exact .inr (by omega)

/-- What a digit or a word starts with is no blank. -/
theorem isAsciiBlank_eq_false {c : Char} (h : 36 ≤ c.toNat) : Text.isAsciiBlank c = false := by
  rw [Bool.eq_false_iff]
  intro hblank
  simp only [Text.isAsciiBlank, Bool.or_eq_true, beq_iff_eq] at hblank
  rcases hblank with (((rfl | rfl) | rfl) | rfl) | rfl <;> exact absurd h (by decide)

/-- A token reads back in front of what no token goes on with. -/
theorem readLexeme_spelling {quote : Char} (hq : IsQuote quote) {t : Token} (ht : t.Spellable)
    {rest : List Char} (hrest : Separated rest) :
    ∃ c cs, t.spelling quote = c :: cs ∧ Text.isAsciiBlank c = false ∧
      readLexeme c (cs ++ rest) = .ok ⟨t, c :: cs, rest⟩ := by
  cases t with
  | int n =>
    obtain ⟨k, hk⟩ := Int.eq_ofNat_of_zero_le ht
    obtain ⟨c, cs, hcs⟩ := List.exists_cons_of_ne_nil (Text.digits_ne_nil k)
    have hc : Text.isDigit c = true := by
      apply Text.isDigit_of_mem_digits (n := k)
      rw [hcs]
      exact List.mem_cons_self
    refine ⟨c, cs, ?_, isAsciiBlank_eq_false ?_, ?_⟩
    · rw [Token.spelling, hk, Int.toNat_natCast, hcs]
    · have := toNat_le_of_isDigit hc
      omega
    · have hread := readNumber_digits hk hrest
      rw [hcs] at hread
      simpa [readLexeme, hc] using hread
  | text s =>
    refine ⟨quote, _, rfl, ?_, ?_⟩
    · rcases hq with rfl | rfl <;> rfl
    · have hread := readText_spelling hq s rest
      rw [List.append_assoc]
      rcases hq with rfl | rfl <;> exact hread
  | word s =>
    have hs : isIdentifier s = true := ht
    obtain ⟨c, cs, hcs⟩ : ∃ c cs, s.toList = c :: cs := by
      cases h : s.toList with
      | nil => simp [isIdentifier, h] at hs
      | cons c cs => exact ⟨c, cs, rfl⟩
    simp only [isIdentifier, hcs, Bool.and_eq_true, List.all_eq_true] at hs
    have hc := toNat_of_isWordStart hs.1
    refine ⟨c, cs, hcs, isAsciiBlank_eq_false (by omega), ?_⟩
    have hdigit : Text.isDigit c = false := by
      rw [Bool.eq_false_iff]
      intro h
      have := toNat_le_of_isDigit h
      omega
    have hmark : c ≠ '.' ∧ c ≠ '\'' ∧ c ≠ '"' := by
      refine ⟨?_, ?_, ?_⟩ <;> rintro rfl <;> exact absurd hc (by decide)
    have hall : ∀ d ∈ c :: cs, isWordChar d = true := by
      intro d hd
      rcases List.mem_cons.mp hd with rfl | hd
      · simp [isWordChar, hs.1]
      · exact hs.2 d hd
    have hword := readWord_spelling hall hrest
    rw [← hcs, String.ofList_toList, hcs, List.cons_append] at hword
    simp [readLexeme, hdigit, hmark.1, hmark.2.1, hmark.2.2, hs.1, hword]
  | float => exact ht.elim
  | ending => exact ht.elim
  | _ => exact ⟨_, _, rfl, rfl, readMark_spelling quote rfl ht hrest (by simp) (by simp) (by simp)⟩

/-! ## Rows of tokens -/

/-- A row is its first token and what stands behind it. -/
theorem spelled_cons (quote : Char) (t : Token) (ts : List Token) :
    ∃ rest, Separated rest ∧ spelled quote (t :: ts) = t.spelling quote ++ rest ∧
      ∀ us, Lexes (spelled quote ts) us → Lexes rest us := by
  cases ts with
  | nil => exact ⟨[], .ending, by simp [spelled], fun _ h => h⟩
  | cons u us =>
    exact ⟨' ' :: spelled quote (u :: us), .blank rfl _, by simp [spelled], fun _ h => .blank rfl h⟩

/-- The tokens of a row read back. -/
theorem spelled_lexes {quote : Char} (hq : IsQuote quote) {ts : List Token}
    (hts : ∀ t ∈ ts, t.Spellable) : Lexes (spelled quote ts) ts := by
  induction ts with
  | nil => exact .ending
  | cons t ts ih =>
    obtain ⟨rest, hrest, hspelled, hlater⟩ := spelled_cons quote t ts
    obtain ⟨c, cs, hc, hblank, hread⟩ := readLexeme_spelling hq (hts t List.mem_cons_self) hrest
    rw [hspelled, hc, List.cons_append]
    exact .token hblank hread (hlater ts (ih fun u hu => hts u (List.mem_cons_of_mem _ hu)))

/-- The tokens of a row read back, and the end behind them. -/
theorem tokenize_spelled {quote : Char} (hq : IsQuote quote) {ts : List Token}
    (hts : ∀ t ∈ ts, t.Spellable) :
    ∃ located offset, tokenize (String.ofList (spelled quote ts)) =
        .ok (located ++ [⟨.ending, offset⟩]) ∧ located.map (·.token) = ts :=
  Lexes.tokenize (String.toList_ofList ▸ spelled_lexes hq hts)

end Telemetry.Condition
