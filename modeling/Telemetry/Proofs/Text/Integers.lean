import Telemetry.Proofs.Decimal.ReadBack
import Telemetry.Proofs.Text.Trimming

/-!
# Texts of integers

An integer is shown by a row of digits of any length, leading zeros included, behind an optional
sign. Blanks around it are trimmed away, and what is left is read as the integer.
-/

namespace Telemetry

namespace Text

variable {c : Char} {cs ds : List Char}

/-- A digit is no blank. -/
theorem isBlank_of_isDigit (h : isDigit c = true) : isBlank c = false := by
  have hlow : '0'.toNat ≤ c.toNat := by
    simp only [isDigit, Bool.and_eq_true, decide_eq_true_eq] at h
    exact h.1
  have hhigh : c.toNat ≤ '9'.toNat := by
    simp only [isDigit, Bool.and_eq_true, decide_eq_true_eq] at h
    exact h.2
  rw [show '0'.toNat = 48 from rfl] at hlow
  rw [show '9'.toNat = 57 from rfl] at hhigh
  simp only [isBlank, Bool.or_eq_false_iff, Bool.and_eq_false_iff, decide_eq_false_iff_not,
    beq_eq_false_iff_ne]
  omega

/-- Digits start with a digit. -/
theorem ne_cons_of_isDigit (hds : ∀ c ∈ ds, isDigit c = true) (hc : isDigit c = false) :
    ds ≠ c :: cs := by
  intro heq
  have hdigit := hds c (heq ▸ List.mem_cons_self)
  exact absurd (hc.symm.trans hdigit) Bool.false_ne_true

/-- Digits are read as the number that they denote. -/
theorem readNat?_of_isDigit (hds : ∀ c ∈ ds, isDigit c = true) (hne : ds ≠ []) :
    readNat? ds = some (digitsValue ds) := by
  have hall : ds.all isDigit = true := List.all_eq_true.mpr hds
  simp [readNat?, hall, hne]

end Text

namespace Decimal

open Text

variable {ds : List Char}

/-- Digits without a point and an exponent are a whole number. -/
theorem ofPlaces_whole : ofPlaces ds [] 0 = ⟨digitsValue ds, 0⟩ := by
  simp [ofPlaces]

/-- A plus sign in front of digits changes nothing. -/
theorem readFloat?_plus (hds : ∀ c ∈ ds, isDigit c = true) :
    readFloat? ('+' :: ds) = readFloat? ds := by
  rw [readFloat?, readFloat?]
  · exact fun rest => ne_cons_of_isDigit hds (by decide)
  · exact fun rest => ne_cons_of_isDigit hds (by decide)

end Decimal

namespace Text

variable {cs : List Char} {n : Int} {s : String}

/-- A text that shows an integer: digits behind an optional sign. -/
inductive ShowsInteger : Int → List Char → Prop
  | digits {ds : List Char} (hds : ∀ c ∈ ds, isDigit c = true) (hne : ds ≠ []) :
    ShowsInteger (digitsValue ds) ds
  | plus {ds : List Char} (hds : ∀ c ∈ ds, isDigit c = true) (hne : ds ≠ []) :
    ShowsInteger (digitsValue ds) ('+' :: ds)
  | minus {ds : List Char} (hds : ∀ c ∈ ds, isDigit c = true) (hne : ds ≠ []) :
    ShowsInteger (-digitsValue ds) ('-' :: ds)

/-- Whether a text is an integer with any blanks around it. -/
def IsInteger (s : String) (n : Int) : Prop :=
  ∃ front cs back : List Char, s.toList = front ++ cs ++ back ∧ (∀ c ∈ front, isBlank c = true) ∧
    (∀ c ∈ back, isBlank c = true) ∧ ShowsInteger n cs

namespace ShowsInteger

/-- An integer is shown by its digits, behind a minus sign if it is negative. -/
theorem of_digits (n : Int) :
    ShowsInteger n (if n < 0 then '-' :: Text.digits n.natAbs else Text.digits n.natAbs) := by
  have hds : ∀ c ∈ Text.digits n.natAbs, isDigit c = true := fun c => isDigit_of_mem_digits
  have hne := digits_ne_nil n.natAbs
  by_cases hn : n < 0
  · have hminus := minus hds hne
    rw [digitsValue_digits, show -(n.natAbs : Int) = n by omega] at hminus
    rwa [if_pos hn]
  · have hdigits := digits hds hne
    rw [digitsValue_digits, show (n.natAbs : Int) = n by omega] at hdigits
    rwa [if_neg hn]

/-- There is no blank in the text of an integer. -/
theorem not_isBlank (h : ShowsInteger n cs) : ∀ c ∈ cs, isBlank c = false := by
  cases h with
  | digits hds hne => exact fun c hc => isBlank_of_isDigit (hds c hc)
  | plus hds hne =>
    exact List.forall_mem_cons.mpr ⟨by decide, fun c hc => isBlank_of_isDigit (hds c hc)⟩
  | minus hds hne =>
    exact List.forall_mem_cons.mpr ⟨by decide, fun c hc => isBlank_of_isDigit (hds c hc)⟩

/-- The text of an integer has digits. -/
theorem ne_nil (h : ShowsInteger n cs) : cs ≠ [] := by
  cases h with
  | digits hds hne => exact hne
  | plus hds hne => exact List.cons_ne_nil _ _
  | minus hds hne => exact List.cons_ne_nil _ _

/-- An integer is read from its text. -/
theorem readInt?_eq (h : ShowsInteger n cs) : readInt? cs = some n := by
  cases h with
  | digits hds hne =>
    rw [readInt?, readNat?_of_isDigit hds hne]
    · rfl
    · exact fun rest => ne_cons_of_isDigit hds (by decide)
    · exact fun rest => ne_cons_of_isDigit hds (by decide)
  | plus hds hne =>
    rw [readInt?, readNat?_of_isDigit hds hne]
    rfl
  | minus hds hne =>
    rw [readInt?, readNat?_of_isDigit hds hne]
    rfl

/-- Read as a number, the text of an integer other than zero is the number nearest to it. -/
theorem readFloat?_eq (h : ShowsInteger n cs) (hn : n ≠ 0) :
    Decimal.readFloat? cs = some (if n < 0 then -Decimal.toFloat ⟨n.natAbs, 0⟩
      else Decimal.toFloat ⟨n.natAbs, 0⟩) := by
  have hunsigned : ∀ {ds : List Char}, (∀ c ∈ ds, isDigit c = true) → ds ≠ [] →
      Decimal.readFloat? ds = some (Decimal.toFloat ⟨digitsValue ds, 0⟩) ∧
        Decimal.readFloat? ('-' :: ds) = some (-Decimal.toFloat ⟨digitsValue ds, 0⟩) := by
    intro ds hds hne
    have hplain := Decimal.readFloat?_of_shows (.whole hds hne) false
    have hminus := Decimal.readFloat?_of_shows (.whole hds hne) true
    rw [Decimal.ofPlaces_whole] at hplain hminus
    exact ⟨by simpa using hplain, by simpa using hminus⟩
  cases h with
  | digits hds hne =>
    rw [if_neg (by omega), Int.natAbs_natCast]
    exact (hunsigned hds hne).1
  | plus hds hne =>
    rw [if_neg (by omega), Int.natAbs_natCast, Decimal.readFloat?_plus hds]
    exact (hunsigned hds hne).1
  | minus hds hne =>
    rw [if_pos (by omega), Int.natAbs_neg, Int.natAbs_natCast]
    exact (hunsigned hds hne).2

end ShowsInteger

/-- Blanks around a text without blanks are trimmed away. -/
theorem trimChars_between {front back : List Char} (hfront : ∀ c ∈ front, isBlank c = true)
    (hcs : ∀ c ∈ cs, isBlank c = false) (hback : ∀ c ∈ back, isBlank c = true) (hne : cs ≠ []) :
    trimChars (front ++ cs ++ back) = cs := by
  have hdrop : ∀ blanks kept rest : List Char, (∀ c ∈ blanks, isBlank c = true) →
      (∀ c ∈ kept, isBlank c = false) → kept ≠ [] →
      (blanks ++ (kept ++ rest)).dropWhile isBlank = kept ++ rest := by
    intro blanks kept rest hblanks hkept hne
    obtain ⟨c, kept, rfl⟩ := List.exists_cons_of_ne_nil hne
    rw [List.dropWhile_append_of_pos hblanks, List.cons_append,
      List.dropWhile_cons_of_neg (by simp [hkept c List.mem_cons_self])]
  have hback' := hdrop back.reverse cs.reverse [] (fun c hc => hback c (List.mem_reverse.mp hc))
    (fun c hc => hcs c (List.mem_reverse.mp hc)) (by simpa using hne)
  rw [List.append_nil] at hback'
  rw [trimChars, List.append_assoc, hdrop front cs back hfront hcs hne, trimEnd,
    List.reverse_append, hback', List.reverse_reverse]

/-- An integer is trimmed to its own text. -/
theorem IsInteger.trimmed (h : IsInteger s n) : ShowsInteger n (trimChars s.toList) := by
  obtain ⟨front, cs, back, hs, hfront, hback, hshows⟩ := h
  rw [hs, trimChars_between hfront hshows.not_isBlank hback hshows.ne_nil]
  exact hshows

end Text

end Telemetry
