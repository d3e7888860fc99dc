import Mathlib.Data.List.TakeWhile
import Telemetry.Decimal.Layout
import Telemetry.Decimal.Reader
import Telemetry.Proofs.Text.Digits

/-!
# Positional texts

The text of a decimal without an exponent has digits and at most one point, and reading it gives a
decimal with the digits and places that were written.
-/

namespace Telemetry

namespace Decimal

open Text

/-- A text with digits in front of an optional point and digits behind it shows a decimal. -/
inductive Shows : Decimal → List Char → Prop
  | whole {ds : List Char} (hds : ∀ c ∈ ds, isDigit c = true) (hne : ds ≠ []) :
    Shows (ofPlaces ds [] 0) ds
  | places {ds es : List Char} (hds : ∀ c ∈ ds, isDigit c = true) (hne : ds ≠ [])
      (hes : ∀ c ∈ es, isDigit c = true) : Shows (ofPlaces ds es 0) (ds ++ '.' :: es)

namespace Shows

variable {d : Decimal} {cs : List Char}

/-- A text is read as the decimal that it shows. -/
theorem read?_eq (h : Shows d cs) : read? cs = some d := by
  cases h with
  | whole hds hne =>
    have htake := List.takeWhile_eq_self_iff.mpr hds
    have hdrop := List.dropWhile_eq_nil_iff.mpr hds
    simp [read?, htake, hdrop, hne]
  | @places ds es hds hne hes =>
    have hpoint : isDigit '.' = false := rfl
    have htake : (ds ++ '.' :: es).takeWhile isDigit = ds := by
      simp [List.takeWhile_append_of_pos hds, hpoint]
    have hdrop : (ds ++ '.' :: es).dropWhile isDigit = '.' :: es := by
      simp [List.dropWhile_append_of_pos hds, hpoint]
    have htake' := List.takeWhile_eq_self_iff.mpr hes
    have hdrop' := List.dropWhile_eq_nil_iff.mpr hes
    simp [read?, htake, hdrop, htake', hdrop', hne]

/-- A text that shows a decimal starts with a digit. -/
theorem exists_eq_cons (h : Shows d cs) : ∃ c rest, cs = c :: rest ∧ isDigit c = true := by
  cases h with
  | @whole ds hds hne =>
    obtain ⟨c, rest, rfl⟩ := List.exists_cons_of_ne_nil hne
    exact ⟨c, rest, rfl, hds c List.mem_cons_self⟩
  | @places ds es hds hne hes =>
    obtain ⟨c, rest, rfl⟩ := List.exists_cons_of_ne_nil hne
    exact ⟨c, rest ++ '.' :: es, rfl, hds c List.mem_cons_self⟩

/-- A text that shows a decimal has digits and points only. -/
theorem isDigit_or_point (h : Shows d cs) : ∀ c ∈ cs, isDigit c = true ∨ c = '.' := by
  cases h with
  | whole hds hne => exact fun c hc => .inl (hds c hc)
  | places hds hne hes =>
    intro c hc
    obtain hc | hc | hc := by simpa using hc
    · exact .inl (hds c hc)
    · exact .inr hc
    · exact .inl (hes c hc)

end Shows

/-- The decimal that the positional text shows: zeros behind the digits are digits, too. -/
def shown (d : Decimal) : Decimal :=
  if 0 ≤ d.exponent then ⟨d.digits * 10 ^ d.exponent.toNat, 0⟩ else d

/-- What a positional text shows. -/
theorem shows_positionalText (d : Decimal) : Shows d.shown (Layout.positionalText false d) := by
  have hdigits : ∀ c ∈ Text.digits d.digits, isDigit c = true := fun c => isDigit_of_mem_digits
  have hzeros : ∀ n, ∀ c ∈ List.replicate n '0', isDigit c = true := by
    intro n c hc
    rw [List.eq_of_mem_replicate hc]
    rfl
  unfold Layout.positionalText shown
  by_cases he : 0 ≤ d.exponent
  · have hvalue : ofPlaces (Text.digits d.digits ++ List.replicate d.exponent.toNat '0') [] 0 =
        ⟨d.digits * 10 ^ d.exponent.toNat, 0⟩ := by
      simp [ofPlaces, digitsValue_append, digitsValue_digits, digitsValue_zeros]
    rw [if_pos he, if_pos he, ← hvalue]
    simp only [Bool.false_eq_true, if_false, List.append_nil]
    refine .whole (fun c hc => ?_) (by simp [digits_ne_nil])
    obtain hc | hc := List.mem_append.mp hc
    · exact hdigits c hc
    · exact hzeros _ c hc
  · rw [if_neg he, if_neg he]
    dsimp only
    generalize hplaces : (-d.exponent).toNat = places
    have hexponent : d.exponent = -(places : Int) := by omega
    split
    · -- the point stands among the digits
      rename_i hlt
      generalize hn : (Text.digits d.digits).length - places = n
      have hvalue :
          ofPlaces ((Text.digits d.digits).take n) ((Text.digits d.digits).drop n) 0 = d := by
        have hlength : (0 : Int) - ((Text.digits d.digits).length - n : Nat) = d.exponent := by
          omega
        rw [ofPlaces, List.take_append_drop, digitsValue_digits, List.length_drop, hlength]
      have hshows := Shows.places (fun c hc => hdigits c (List.mem_of_mem_take hc))
        (List.ne_nil_of_length_pos (l := (Text.digits d.digits).take n)
          (by rw [List.length_take]; omega))
        (fun c hc => hdigits c (List.mem_of_mem_drop (i := n) hc))
      rwa [hvalue] at hshows
    · -- zeros stand between the point and the digits
      rename_i hge
      generalize hn : places - (Text.digits d.digits).length = n
      have hvalue : ofPlaces ['0'] (List.replicate n '0' ++ Text.digits d.digits) 0 = d := by
        have hlength : (0 : Int) - (n + (Text.digits d.digits).length : Nat) = d.exponent := by
          omega
        have hzero : digitsValue ['0'] = 0 := rfl
        rw [ofPlaces, digitsValue_append, digitsValue_append, digitsValue_digits, digitsValue_zeros,
          hzero, List.length_append, List.length_replicate, hlength]
        simp
      have hshows := @Shows.places ['0'] (List.replicate n '0' ++ Text.digits d.digits)
        (List.forall_mem_singleton.mpr rfl) (List.cons_ne_nil _ _) fun c hc =>
          (List.mem_append.mp hc).elim (hzeros n c) (hdigits c)
      rwa [hvalue] at hshows

end Decimal

end Telemetry
