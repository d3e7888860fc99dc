import Mathlib.Algebra.Order.Field.Rat
import Mathlib.Tactic.FieldSimp
import Mathlib.Tactic.Ring
import Telemetry.Proofs.Decimal.Nearest
import Telemetry.Proofs.Units.Compatibility

/-!
# Conversions on exact numbers

On exact numbers each conversion is undone by the one in the other direction. Two conversions in a
row are the direct one, unless two of the three units are on one temperature scale with different
prefixes and the third one is on the other scale, where no prefix is looked at.
-/

namespace Telemetry

/-! ## What prefixes multiply by -/

namespace Multiple

/-- The multiple as a rational number. -/
def exact : Multiple → ℚ
  | ten e => 10 ^ e
  | tenth e => 1 / 10 ^ e
  | kibi e => 1024 ^ e

/-- The exponent of the power. -/
def exponent : Multiple → Nat
  | ten e | tenth e | kibi e => e

/-- No multiple is zero. -/
theorem exact_ne_zero (m : Multiple) : m.exact ≠ 0 := by
  cases m <;> simp only [exact] <;> positivity

/-- A multiple becomes the binary64 number that is nearest to it. -/
theorem toFloat_eq_nearest {m : Multiple} (hm : m ≠ .tenth 0) (hle : m.exponent ≤ 2048) :
    m.toFloat = BinaryValue.nearestFloat m.exact := by
  cases m with
  | ten e =>
    have h := BinaryValue.ofScientific_mul one_pos hle
    rwa [Nat.cast_one, one_mul] at h
  | tenth e =>
    have hpos : 0 < e := Nat.pos_of_ne_zero fun h => hm (congrArg tenth h)
    have h := BinaryValue.ofScientific_div one_pos hpos (Nat.le_add_right_of_le hle)
    rwa [Nat.cast_one] at h
  | kibi e =>
    have h := BinaryValue.ofScientific_mul (n := 1024 ^ e) (e := 0) (by positivity) (Nat.zero_le _)
    rw [pow_zero, mul_one, Nat.cast_pow, Nat.cast_ofNat] at h
    exact h

end Multiple

namespace Prefix

/-- What a prefix multiplies by, exactly. -/
def exact (p : Prefix) : ℚ := p.multiple.exact

/-- No prefix stands for zero. -/
theorem exact_ne_zero (p : Prefix) : p.exact ≠ 0 := p.multiple.exact_ne_zero

/-- The factor of a prefix is the binary64 number nearest to what the prefix multiplies by. -/
theorem factor_eq_nearest (p : Prefix) : p.factor = BinaryValue.nearestFloat p.exact := by
  refine Multiple.toFloat_eq_nearest ?_ ?_
  · cases p <;> decide
  · cases p <;> decide

/-- All prefixes are listed. -/
theorem mem_all (p : Prefix) : p ∈ all := by
  cases p <;> decide

/-- Different prefixes multiply by different numbers. -/
theorem exact_injective : Function.Injective exact := by
  have h : ∀ p ∈ all, ∀ q ∈ all, p.exact = q.exact → p = q := by decide +kernel
  exact fun p q => h p p.mem_all q q.mem_all

end Prefix

namespace UnitOfMeasure

/-- Whether three units are of one measure, or have the same prefix where they are of the same
measure. -/
def PrefixesAgree (u v w : UnitOfMeasure) : Prop :=
  u.measure = v.measure ∧ v.measure = w.measure ∨
    (u.measure = v.measure → u.scale = v.scale) ∧ (v.measure = w.measure → v.scale = w.scale) ∧
      (u.measure = w.measure → u.scale = w.scale)

end UnitOfMeasure

namespace Conversion

/-! ## Single conversions -/

/-- The value in the target unit, exactly. -/
def exact : Conversion → ℚ → ℚ
  | rescale source target, x => x * (source.exact / target.exact)
  | celsiusToFahrenheit, x => x * (9 / 5) + 32
  | fahrenheitToCelsius, x => (x - 32) / (9 / 5)

/-- The conversion in the other direction. -/
def reverse : Conversion → Conversion
  | rescale source target => rescale target source
  | celsiusToFahrenheit => fahrenheitToCelsius
  | fahrenheitToCelsius => celsiusToFahrenheit

variable (c : Conversion)

@[simp] theorem reverse_reverse : c.reverse.reverse = c := by
  cases c <;> rfl

/-- A conversion is undone by the one in the other direction. -/
theorem exact_reverse (x : ℚ) : c.reverse.exact (c.exact x) = x := by
  cases c with
  | rescale p q =>
    have hp := p.exact_ne_zero
    have hq := q.exact_ne_zero
    simp only [exact, reverse]
    field_simp
  | celsiusToFahrenheit =>
    simp only [exact, reverse]
    ring
  | fahrenheitToCelsius =>
    simp only [exact, reverse]
    ring

/-- An exact conversion can be undone. -/
theorem exact_bijective : Function.Bijective c.exact := by
  refine ⟨Function.LeftInverse.injective c.exact_reverse, fun x => ⟨c.reverse.exact x, ?_⟩⟩
  have h := c.reverse.exact_reverse x
  rwa [reverse_reverse] at h

/-! ## Conversions in a row -/

section Rescaling

variable (p q r : Prefix)

/-- Changing the prefix twice is changing it once. -/
theorem exact_rescale_rescale (x : ℚ) :
    (rescale q r).exact ((rescale p q).exact x) = (rescale p r).exact x := by
  have hq := q.exact_ne_zero
  simp only [exact]
  field_simp

/-- Numbers stay as they are where the prefix does. -/
theorem exact_rescale_eq_iff : (∀ x, (rescale p q).exact x = x) ↔ p = q := by
  constructor
  · intro h
    have hone := h 1
    simp only [exact, one_mul] at hone
    exact Prefix.exact_injective ((div_eq_one_iff_eq q.exact_ne_zero).mp hone)
  · rintro rfl x
    simp only [exact]
    rw [div_self p.exact_ne_zero, mul_one]

/-- Changing the prefix in front of a conversion makes no difference exactly if the prefix stays. -/
theorem exact_comp_rescale_iff :
    (∀ x, c.exact ((rescale p q).exact x) = c.exact x) ↔ p = q := by
  rw [← exact_rescale_eq_iff]
  exact forall_congr' fun x => c.exact_bijective.injective.eq_iff

/-- Nor does changing it behind the conversion. -/
theorem exact_rescale_comp_iff :
    (∀ x, (rescale p q).exact (c.exact x) = c.exact x) ↔ p = q := by
  rw [← exact_rescale_eq_iff]
  exact (c.exact_bijective.surjective.forall
    (p := fun y => (rescale p q).exact y = y)).symm

/-- Converting there and back is a change of the prefix exactly if the prefix stays. -/
theorem exact_reverse_comp_iff :
    (∀ x, c.reverse.exact (c.exact x) = (rescale p q).exact x) ↔ p = q := by
  rw [← exact_rescale_eq_iff]
  exact forall_congr' fun x => by rw [exact_reverse, eq_comm]

end Rescaling

open UnitOfMeasure

variable {u v w : UnitOfMeasure} {c f g k : Conversion}

/-- Where there is a conversion there is one in the other direction. -/
theorem Leads.reverse (h : Leads u v c) : Leads v u c.reverse := by
  cases h with
  | rescale hm per p q => exact .rescale hm per q p
  | celsiusToFahrenheit p q per per' => exact .fahrenheitToCelsius q p per' per
  | fahrenheitToCelsius p q per per' => exact .celsiusToFahrenheit q p per' per

/-- Two conversions in a row are the direct one exactly if the prefixes agree. -/
theorem Leads.exact_comp_iff (hf : Leads u v f) (hg : Leads v w g) (hk : Leads u w k) :
    (∀ x, g.exact (f.exact x) = k.exact x) ↔ PrefixesAgree u v w := by
  -- the direct conversion is determined by the measures that the other two lead between
  cases hf with
  | rescale _ _ p q =>
    cases hg with
    | rescale _ _ _ r =>
      cases hk with
      | rescale => exact iff_of_true (exact_rescale_rescale p q r) (.inl ⟨rfl, rfl⟩)
    | celsiusToFahrenheit =>
      cases hk with
      | celsiusToFahrenheit =>
        exact (exact_comp_rescale_iff _ p q).trans (by simp [PrefixesAgree])
    | fahrenheitToCelsius =>
      cases hk with
      | fahrenheitToCelsius =>
        exact (exact_comp_rescale_iff _ p q).trans (by simp [PrefixesAgree])
  | celsiusToFahrenheit p q =>
    cases hg with
    | rescale _ _ _ r =>
      cases hk with
      | celsiusToFahrenheit =>
        exact (exact_rescale_comp_iff _ q r).trans (by simp [PrefixesAgree])
    | fahrenheitToCelsius _ r =>
      cases hk with
      | rescale =>
        exact (exact_reverse_comp_iff .celsiusToFahrenheit p r).trans (by simp [PrefixesAgree])
  | fahrenheitToCelsius p q =>
    cases hg with
    | rescale _ _ _ r =>
      cases hk with
      | fahrenheitToCelsius =>
        exact (exact_rescale_comp_iff _ q r).trans (by simp [PrefixesAgree])
    | celsiusToFahrenheit _ r =>
      cases hk with
      | rescale =>
        exact (exact_reverse_comp_iff .fahrenheitToCelsius p r).trans (by simp [PrefixesAgree])

/-- For three texts that are converted pairwise, converting exact numbers by way of the second one
is converting them directly exactly if the units are of one measure, or have the same prefix where
they are of the same measure. Converting there and back changes no number in any case. -/
theorem path_independent_iff (a b c : String) (f g k : Conversion)
    (hf : between (parse a) (parse b) = .ok f) (hg : between (parse b) (parse c) = .ok g)
    (hk : between (parse a) (parse c) = .ok k) :
    ((∀ x, g.exact (f.exact x) = k.exact x) ↔ PrefixesAgree (parse a) (parse b) (parse c)) ∧
      ∃ back, between (parse b) (parse a) = .ok back ∧ ∀ x, back.exact (f.exact x) = x := by
  have hleads := between_eq_ok_iff.mp hf
  refine ⟨hleads.exact_comp_iff (between_eq_ok_iff.mp hg) (between_eq_ok_iff.mp hk), ?_⟩
  exact ⟨f.reverse, between_eq_ok_iff.mpr hleads.reverse, f.exact_reverse⟩

/-- Binary kilobytes are converted to gigabytes by way of megabytes as they are directly. -/
theorem path_independent_iff_bytes :
    ∃ f g k back : Conversion,
      between (parse "KiB/s") (parse "MB/s") = .ok f ∧
      between (parse "MB/s") (parse "GB/s") = .ok g ∧
      between (parse "KiB/s") (parse "GB/s") = .ok k ∧
      (∀ x, g.exact (f.exact x) = k.exact x) ∧ k.exact 1000000000 = 1024 ∧
      between (parse "MB/s") (parse "KiB/s") = .ok back ∧ ∀ x, back.exact (f.exact x) = x := by
  have hf : between (parse "KiB/s") (parse "MB/s") = .ok (.rescale .kibi .mega) := by decide
  have hg : between (parse "MB/s") (parse "GB/s") = .ok (.rescale .mega .giga) := by decide
  have hk : between (parse "KiB/s") (parse "GB/s") = .ok (.rescale .kibi .giga) := by decide
  obtain ⟨hiff, back, hback, hthere⟩ := path_independent_iff _ _ _ _ _ _ hf hg hk
  have hpath := hiff.mpr (.inl ⟨by decide, by decide⟩)
  exact ⟨_, _, _, back, hf, hg, hk, hpath, by decide +kernel, hback, hthere⟩

/-- One thousand degrees Celsius are converted to degrees Fahrenheit as if they were one degree. -/
theorem kilodegrees_converted_as_degrees :
    ∃ f g k : Conversion,
      between (parse "kdegC") (parse "degC") = .ok f ∧
      between (parse "degC") (parse "degF") = .ok g ∧
      between (parse "kdegC") (parse "degF") = .ok k ∧
      g.exact (f.exact 1) = 1832 ∧ k.exact 1 = 169 / 5 := by
  refine ⟨.rescale .kilo .base, .celsiusToFahrenheit, .celsiusToFahrenheit, by decide, by decide,
    by decide, ?_, ?_⟩
  · have hkilo : (Conversion.rescale .kilo .base).exact 1 = 1000 := by decide +kernel
    rw [hkilo, exact]
    norm_num
  · rw [exact]
    norm_num

end Conversion

end Telemetry
