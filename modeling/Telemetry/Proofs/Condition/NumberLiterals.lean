import Telemetry.Proofs.Condition.Lexing
import Telemetry.Proofs.Text.Integers

/-!
# Number literals as number texts

A number literal of a condition is, without its underscores, the text of the number that it denotes:
a row of digits is read as an integer, and a row with a fraction or an exponent as the decimal.
-/

namespace Telemetry

namespace Decimal

open Text

/-- A text that starts like an unsigned decimal is read as one. -/
theorem readFloat?_of_unsigned {c : Char} {rest : List Char} (hc : isDigit c = true ∨ c = '.') :
    readFloat? (c :: rest) = (read? (c :: rest)).map toFloat := by
  have hlower : isDigit c.toLower = true ∨ c.toLower = '.' := by
    rcases hc with hc | rfl
    · exact .inl (by rwa [toLower_of_isDigit hc])
    · exact .inr rfl
  -- no word for infinity or for no number starts in this way
  have hword : ∀ w : String, w.toList.head?.any (fun d => isDigit d || d == '.') = false →
      (String.ofList ((c :: rest).map Char.toLower) == w) = false := by
    intro w hw
    refine beq_false_of_ne fun heq => ?_
    rw [← heq, String.toList_ofList, List.map_cons] at hw
    simp only [List.head?_cons, Option.any_some, Bool.or_eq_false_iff, beq_eq_false_iff_ne] at hw
    rcases hlower with h | h
    · exact absurd (h.symm.trans hw.1) (by decide)
    · exact hw.2 h
  have hinf := hword "inf" rfl
  have hinfinity := hword "infinity" rfl
  have hnan := hword "nan" rfl
  have hsign : c ≠ '-' ∧ c ≠ '+' := by
    rcases hc with hc | rfl
    · constructor <;> rintro rfl <;> nomatch hc
    · decide
  rw [readFloat?]
  · simp only [hinf, hinfinity, hnan, Bool.or_self, Bool.false_eq_true, if_false, Option.map_id']
  · rintro cs heq
    exact hsign.1 (List.cons.inj heq).1
  · rintro cs heq
    exact hsign.2 (List.cons.inj heq).1

end Decimal

namespace Condition

open Text

variable {cs ds es tail : List Char}

/-- Digits in front of what is no digit. -/
theorem span_isDigit (hds : ∀ c ∈ ds, isDigit c = true) (htail : tail.head?.any isDigit = false) :
    (ds ++ tail).takeWhile isDigit = ds ∧ (ds ++ tail).dropWhile isDigit = tail := by
  have hstop : tail.takeWhile isDigit = [] ∧ tail.dropWhile isDigit = tail := by
    cases tail with
    | nil => exact ⟨rfl, rfl⟩
    | cons c cs =>
      have hc : ¬isDigit c = true := by simpa using htail
      exact ⟨List.takeWhile_cons_of_neg hc, List.dropWhile_cons_of_neg hc⟩
  rw [List.takeWhile_append_of_pos hds, List.dropWhile_append_of_pos hds, hstop.1, hstop.2,
    List.append_nil]
  exact ⟨rfl, rfl⟩

/-- The texts of exponents: a mark, a sign perhaps, and digits; or none at all. -/
inductive IsExponent : List Char → Prop where
  | none : IsExponent []
  | unsigned {e : Char} {ds : List Char} (he : e = 'e' ∨ e = 'E')
    (hds : ∀ c ∈ ds, isDigit c = true) (hne : ds ≠ []) : IsExponent (e :: ds)
  | signed {e s : Char} {ds : List Char} (he : e = 'e' ∨ e = 'E') (hs : s = '+' ∨ s = '-')
    (hds : ∀ c ∈ ds, isDigit c = true) (hne : ds ≠ []) : IsExponent (e :: s :: ds)

/-- What is found as an exponent is one, or nothing. -/
theorem exponentText_isExponent (cs : List Char) : IsExponent (exponentText cs) := by
  have hrun : ∀ ds : List Char, ∀ c ∈ ds.takeWhile isDigit, isDigit c = true :=
    fun ds => List.all_eq_true.mp List.all_takeWhile
  have hsome : ∀ ds : List Char, startsWithDigit ds = true → ds.takeWhile isDigit ≠ [] := by
    intro ds hds
    cases ds with
    | nil => exact absurd hds Bool.false_ne_true
    | cons c ds =>
      have hc : isDigit c = true := hds
      rw [List.takeWhile_cons_of_pos hc]
      exact List.cons_ne_nil _ _
  unfold exponentText
  split
  · split
    · rename_i he
      simp only [Bool.or_eq_true, beq_iff_eq] at he
      split
      · split
        · rename_i hsign
          simp only [Bool.and_eq_true, Bool.or_eq_true, beq_iff_eq] at hsign
          exact .signed he hsign.1 (hrun _) (hsome _ hsign.2)
        split
        · rename_i hdigit
          exact .unsigned he (hrun _) (hsome _ hdigit)
        · exact .none
      · exact .none
    · exact .none
  · exact .none

/-- The texts of fractions: a point and digits with underscores; or none at all. -/
inductive IsFraction : List Char → Prop where
  | none : IsFraction []
  | point {ds : List Char} (hds : ∀ c ∈ ds, isNumberChar c = true) : IsFraction ('.' :: ds)

/-- What is found as a fraction is one, or nothing. -/
theorem fractionText_isFraction (cs : List Char) : IsFraction (fractionText cs) := by
  unfold fractionText
  split
  · split
    · exact .point (List.all_eq_true.mp List.all_takeWhile)
    · exact .none
  · exact .none

/-- Digits with underscores have their digits left without the underscores. -/
theorem filter_isNumberChar (hcs : ∀ c ∈ cs, isNumberChar c = true) :
    cs.filter (· != '_') = plainDigits cs := by
  refine List.filter_congr fun c hc => ?_
  have hnumber := hcs c hc
  by_cases hunderscore : c = '_'
  · rw [hunderscore]
    rfl
  · have hdigit : isDigit c = true := by simpa [isNumberChar, hunderscore] using hnumber
    simp [hdigit, hunderscore]

/-- Without its underscores, a number text has digits alone. -/
theorem isDigit_of_mem_plainDigits {c : Char} (hc : c ∈ plainDigits cs) : isDigit c = true :=
  (List.mem_filter.mp hc).2

namespace IsExponent

/-- There is no underscore in an exponent. -/
theorem filter_eq (h : IsExponent es) : es.filter (· != '_') = es := by
  have hdigits : ∀ ds : List Char, (∀ c ∈ ds, isDigit c = true) → ∀ c ∈ ds, (c != '_') = true := by
    intro ds hds c hc
    rw [bne_iff_ne]
    rintro rfl
    exact absurd (hds _ hc) (by decide)
  rw [List.filter_eq_self]
  cases h with
  | none => exact List.forall_mem_nil _
  | unsigned he hds hne =>
    refine List.forall_mem_cons.mpr ⟨?_, hdigits _ hds⟩
    rcases he with rfl | rfl <;> decide
  | signed he hs hds hne =>
    refine List.forall_mem_cons.mpr ⟨?_, List.forall_mem_cons.mpr ⟨?_, hdigits _ hds⟩⟩
    · rcases he with rfl | rfl <;> decide
    · rcases hs with rfl | rfl <;> decide

/-- Behind digits stands no further digit. -/
theorem head?_any (h : IsExponent es) : es.head?.any isDigit = false := by
  cases h with
  | none => rfl
  | unsigned he hds hne => rcases he with rfl | rfl <;> rfl
  | signed he hs hds hne => rcases he with rfl | rfl <;> rfl

end IsExponent

/-- Digits behind a mark are read as the exponent that they name. -/
theorem readExponent?_unsigned (hds : ∀ c ∈ ds, isDigit c = true) (hne : ds ≠ []) :
    Decimal.readExponent? ds = some (digitsValue ds : Int) := by
  rw [Decimal.readExponent?, readNat?_of_isDigit hds hne]
  · rfl
  · exact fun rest => ne_cons_of_isDigit hds (by decide)
  · exact fun rest => ne_cons_of_isDigit hds (by decide)

/-- An exponent is empty, or a mark with the digits of the power that it names. -/
theorem IsExponent.read (h : IsExponent es) :
    (es = [] ∧ exponentValue es = 0) ∨ ∃ e rest, (e = 'e' ∨ e = 'E') ∧ es = e :: rest ∧
      Decimal.readExponent? rest = some (exponentValue es) := by
  cases h with
  | none => exact .inl ⟨rfl, rfl⟩
  | @unsigned e ds he hds hne =>
    have hvalue : exponentValue (e :: ds) = digitsValue ds := by
      rw [exponentValue]
      · exact fun rest => ne_cons_of_isDigit hds (by decide)
      · exact fun rest => ne_cons_of_isDigit hds (by decide)
    exact .inr ⟨e, ds, he, rfl, by rw [hvalue, readExponent?_unsigned hds hne]⟩
  | @signed e s ds he hs hds hne =>
    refine .inr ⟨e, s :: ds, he, rfl, ?_⟩
    rcases hs with rfl | rfl
    · rw [Decimal.readExponent?, readNat?_of_isDigit hds hne]
      rfl
    · rw [Decimal.readExponent?, readNat?_of_isDigit hds hne]
      rfl

/-- A decimal text in its parts is read as the decimal of these parts. -/
theorem read?_parts {whole fraction : List Char} (hwhole : ∀ c ∈ whole, isDigit c = true)
    (hfraction : fraction = [] ∨ ∃ ds, fraction = '.' :: ds ∧ ∀ c ∈ ds, isDigit c = true)
    (hexponent : IsExponent es) (hdigits : whole ++ plainDigits fraction ≠ []) :
    Decimal.read? (whole ++ (fraction ++ es)) =
      some (Decimal.ofPlaces whole (plainDigits fraction) (exponentValue es)) := by
  rcases hfraction with rfl | ⟨ds, rfl, hds⟩
  · have hspan := span_isDigit hwhole hexponent.head?_any
    have hne : whole ≠ [] := by simpa [plainDigits] using hdigits
    rw [List.nil_append, Decimal.read?, hspan.1, hspan.2]
    rcases hexponent.read with ⟨rfl, -⟩ | ⟨e, rest, he, rfl, hread⟩
    · simp [hne, plainDigits, exponentValue]
    · rcases he with rfl | rfl <;> simp [hne, plainDigits, hread]
  · have hspan := span_isDigit hwhole (rfl : ('.' :: (ds ++ es)).head?.any isDigit = false)
    have hspan' := span_isDigit hds hexponent.head?_any
    have hplain : plainDigits ('.' :: ds) = ds := by
      rw [plainDigits, List.filter_cons_of_neg (by decide), List.filter_eq_self]
      exact hds
    rw [hplain] at hdigits ⊢
    have hne : whole = [] → ds ≠ [] := by
      rintro rfl
      exact hdigits
    rw [List.cons_append, Decimal.read?, hspan.1, hspan.2]
    rcases hexponent.read with ⟨rfl, -⟩ | ⟨e, rest, he, rfl, hread⟩
    · rw [List.append_nil] at hspan' ⊢
      simpa [hspan', exponentValue] using hne
    · rcases he with rfl | rfl <;> simpa [hspan', hread] using hne

/-- A literal with its parts, without its underscores, is the text of its number. -/
theorem readFloat?_literal {whole fraction : List Char}
    (hwhole : ∀ c ∈ whole, isNumberChar c = true) (hfraction : IsFraction fraction)
    (hexponent : IsExponent es) (hdigits : plainDigits whole ++ plainDigits fraction ≠ []) :
    Decimal.readFloat? ((whole ++ fraction ++ es).filter (· != '_')) =
      some (Decimal.ofPlaces (plainDigits whole) (plainDigits fraction)
        (exponentValue es)).toFloat := by
  have hplain : ∀ cs : List Char, ∀ c ∈ plainDigits cs, isDigit c = true :=
    fun cs c => isDigit_of_mem_plainDigits
  have hunsigned : ∀ text : List Char, (text = [] ∨ ∃ ds, text = '.' :: ds ∧
      ∀ c ∈ ds, isDigit c = true) → plainDigits whole ++ text ≠ [] →
      Decimal.readFloat? (plainDigits whole ++ (text ++ es)) =
        (Decimal.read? (plainDigits whole ++ (text ++ es))).map Decimal.toFloat := by
    intro text htext hne
    cases hdigits : plainDigits whole with
    | nil =>
      rcases htext with rfl | ⟨ds, rfl, -⟩
      · exact absurd hdigits (by simpa using hne)
      · exact Decimal.readFloat?_of_unsigned (.inr rfl)
    | cons d ds =>
      have hd : isDigit d = true := hplain whole d (hdigits ▸ List.mem_cons_self)
      exact Decimal.readFloat?_of_unsigned (.inl hd)
  rw [List.filter_append, List.filter_append, filter_isNumberChar hwhole, hexponent.filter_eq,
    List.append_assoc]
  cases hfraction with
  | none =>
    rw [List.filter_nil, hunsigned [] (.inl rfl) hdigits,
      read?_parts (hplain whole) (.inl rfl) hexponent hdigits]
    rfl
  | @point ds hds =>
    have hfilter : ('.' :: ds).filter (· != '_') = '.' :: plainDigits ds := by
      rw [List.filter_cons_of_pos (by decide), filter_isNumberChar hds]
    have htext : '.' :: plainDigits ds = [] ∨
        ∃ ds', '.' :: plainDigits ds = '.' :: ds' ∧ ∀ c ∈ ds', isDigit c = true :=
      .inr ⟨_, rfl, hplain ds⟩
    have hpoint : plainDigits ('.' :: ds) = plainDigits ('.' :: plainDigits ds) := by
      rw [plainDigits, plainDigits, plainDigits, List.filter_cons_of_neg (by decide),
        List.filter_cons_of_neg (by decide), List.filter_filter]
      simp
    rw [hpoint] at hdigits ⊢
    rw [hfilter, hunsigned _ htext (by simp), read?_parts (hplain whole) htext hexponent hdigits]
    rfl

end Condition

end Telemetry
