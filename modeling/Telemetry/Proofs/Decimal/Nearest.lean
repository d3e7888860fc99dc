import Telemetry.Decimal.Basic
import Telemetry.Proofs.Decimal.Rounding

/-!
# Decimals as binary numbers

A decimal becomes the nearest binary64 number, on the fast path of core as on the slow one. So the
number depends on the value of the decimal alone, and a decimal with the value of a binary64 number
becomes that number.
-/

namespace Telemetry

open Float.Model Float.Model.UnpackedFloat

namespace BinaryValue

/-- A positive number as a binary64 number. -/
def nearestFloat (q : ℚ) : Float := .ofModel (.pack (nearest q))

/-- A canonical number is unpacked from the word into which it is packed. -/
theorem unpack_pack_model {m : ℕ} {e : ℤ} {s : Sign} (c : Canonical m e) :
    (Float.Model.pack (.finite s m e c.pos)).unpack = .finite s m e c.pos :=
  unpack_pack c

/-- A number that is read as a magnitude other than zero is unpacked into it. -/
theorem unpack_of_eq_finite {x : Float} {m : ℕ} {e : ℤ} (hm : 0 < m)
    (h : of x = finite false m e) : x.toModel.unpack = .finite .positive m e hm := by
  rw [← ofUnpacked_unpack] at h
  cases hu : x.toModel.unpack with
  | notANumber => rw [hu] at h; nomatch h
  | infinity s => rw [hu] at h; nomatch h
  | zero s =>
    rw [hu] at h
    injection h with _ hz
    omega
  | finite s m' e' hm' =>
    rw [hu] at h
    injection h with hs hm he
    subst hm he
    cases s with
    | negative => nomatch hs
    | positive => rfl

section Scientific

/-- The mantissa and exponent of the powers of ten that are exact. -/
theorem of_powersOfTen : ∀ e : Fin Float.exactlyRepresentablePowersOfTen.size,
    of Float.exactlyRepresentablePowersOfTen[e] =
      finite false (10 ^ e.val * 2 ^ 52 / 2 ^ (10 ^ e.val).log2) ((10 ^ e.val).log2 - 52) := by
  decide +kernel

/-- The power of ten on the fast path is unpacked into a full mantissa with the exact value. -/
theorem unpack_powerOfTen {e : ℕ} (he : e < Float.exactlyRepresentablePowersOfTen.size) :
    ∃ (m : ℕ) (k : ℤ) (hm : 0 < m), 2 ^ 52 ≤ m ∧ (m : ℚ) * 2 ^ k = 10 ^ e ∧
      (Float.exactlyRepresentablePowersOfTen[e]).toModel.unpack = .finite .positive m k hm := by
  have he' : e < 23 := he
  have hof := of_powersOfTen ⟨e, he⟩
  have hexact : ∀ e : Fin 23, 2 ^ 52 ≤ 10 ^ e.val * 2 ^ 52 / 2 ^ (10 ^ e.val).log2 ∧
      10 ^ e.val * 2 ^ 52 / 2 ^ (10 ^ e.val).log2 * 2 ^ (10 ^ e.val).log2 =
        10 ^ e.val * 2 ^ 52 := by
    decide +kernel
  obtain ⟨hfull, hvalue⟩ := hexact ⟨e, he'⟩
  dsimp only at hof hfull hvalue
  generalize 10 ^ e * 2 ^ 52 / 2 ^ (10 ^ e).log2 = m at hof hfull hvalue
  have hm : 0 < m := lt_of_lt_of_le (by norm_num) hfull
  refine ⟨m, (10 ^ e).log2 - 52, hm, hfull, ?_, unpack_of_eq_finite hm hof⟩
  rw [zpow_sub₀ two_ne_zero, zpow_natCast, ← mul_div_assoc, div_eq_iff (by norm_num)]
  exact_mod_cast hvalue

/-- A mantissa on the fast path is unpacked exactly. -/
theorem unpack_toFloat {n : ℕ} (hn : 0 < n) (hn' : n < 2 ^ 53) :
    ∃ (m : ℕ) (k : ℤ) (hm : 0 < m), (m : ℚ) * 2 ^ k = n ∧
      n.toUInt64.toFloat.toModel.unpack = .finite .positive m k hm := by
  obtain ⟨m, k, c, hnearest, hvalue⟩ :=
    nearest_of_bits hn hn' (e := 0) (by norm_num) (by norm_num)
  rw [zpow_zero, mul_one] at hnearest hvalue
  have hword : n.toUInt64.toNat = n := UInt64.toNat_ofNat_of_lt' (by
    rw [UInt64.size]
    omega)
  refine ⟨m, k, c.pos, hvalue, ?_⟩
  change (Float.Model.pack (UnpackedFloat.ofNat Format.binary64 n.toUInt64.toNat)).unpack = _
  rw [hword, ofNat_eq_nearest hn, hnearest, unpack_pack_model c]

/-- The bits of an exponent tell so many exponents apart. -/
theorem two_pow_exponentBits : (2 : ℤ) ^ Format.binary64.exponentBits = 2048 := rfl

/-- A whole number times a power of ten becomes the nearest number. -/
theorem ofScientific_mul {n e : ℕ} (hn : 0 < n) (he : e ≤ 2048) :
    Float.ofScientific n false e = nearestFloat (n * 10 ^ e) := by
  unfold Float.ofScientific
  split
  · rename_i h
    obtain ⟨m, k, hm, hvalue, hunpack⟩ := unpack_toFloat hn h.1
    obtain ⟨m', k', hm', hfull, hvalue', hunpack'⟩ := unpack_powerOfTen
      (show e < Float.exactlyRepresentablePowersOfTen.size from Nat.lt_succ_of_le h.2)
    have hbits : 2 ^ 52 ≤ m * m' := hfull.trans (Nat.le_mul_of_pos_left m' hm)
    rw [← hvalue, ← hvalue', nearestFloat, ← mul_eq_nearest hm hm' hbits, ← hunpack, ← hunpack']
    rfl
  · have hscaled : 0 < n <<< 53 := by rw [Nat.shiftLeft_eq]; positivity
    have hten : 0 < 10 ^ e := by positivity
    have hvalue : (n : ℚ) * (10 : ℚ) ^ e = ((n <<< 53 : ℕ) : ℚ) * 2 ^ (-53 : ℤ) *
        (((10 ^ e : ℕ) : ℚ) * 2 ^ (0 : ℤ)) := by
      rw [Nat.shiftLeft_eq, zpow_neg, zpow_zero, mul_one]
      push_cast
      rw [mul_inv_cancel_right₀ (by norm_num)]
    have hbits : 2 ^ 52 ≤ n <<< 53 * 10 ^ e := by
      rw [Nat.shiftLeft_eq]
      calc 2 ^ 52 ≤ 1 * 2 ^ 53 * 1 := by norm_num
        _ ≤ n * 2 ^ 53 * 10 ^ e := Nat.mul_le_mul (Nat.mul_le_mul_right _ hn) hten
    rw [hvalue, nearestFloat, ← mul_eq_nearest hscaled hten hbits]
    change Float.ofModel (.pack (UnpackedFloat.ofScientific Format.binary64 n (e : ℤ))) = _
    unfold UnpackedFloat.ofScientific
    rw [dif_neg hn.ne', two_pow_exponentBits, if_neg (by omega), if_neg (by omega),
      if_pos (Int.natCast_nonneg e)]
    rfl

/-- A whole number divided by a power of ten becomes the nearest number. -/
theorem ofScientific_div {n e : ℕ} (hn : 0 < n) (hpos : 0 < e) (he : e ≤ 2048 + n.log2) :
    Float.ofScientific n true e = nearestFloat (n / 10 ^ e) := by
  unfold Float.ofScientific
  split
  · rename_i h
    obtain ⟨m, k, hm, hvalue, hunpack⟩ := unpack_toFloat hn h.1
    obtain ⟨m', k', hm', -, hvalue', hunpack'⟩ := unpack_powerOfTen
      (show e < Float.exactlyRepresentablePowersOfTen.size from Nat.lt_succ_of_le h.2)
    rw [← hvalue, ← hvalue', nearestFloat, ← div_eq_nearest hm hm', ← hunpack, ← hunpack']
    rfl
  · have hten : 0 < 10 ^ e := by positivity
    have hvalue : (n : ℚ) / (10 : ℚ) ^ e =
        n * 2 ^ (0 : ℤ) / (((10 ^ e : ℕ) : ℚ) * 2 ^ (0 : ℤ)) := by
      rw [zpow_zero, mul_one, mul_one]
      push_cast
      rfl
    rw [hvalue, nearestFloat, ← div_eq_nearest hn hten]
    change Float.ofModel (.pack (UnpackedFloat.ofScientific Format.binary64 n (Int.negOfNat e))) = _
    rw [Int.negOfNat_eq, Int.ofNat_eq_natCast]
    unfold UnpackedFloat.ofScientific
    simp only [neg_neg, Int.toNat_natCast]
    rw [dif_neg hn.ne', two_pow_exponentBits, if_neg (by omega), if_neg (by omega),
      if_neg (by omega)]

end Scientific

end BinaryValue

namespace Decimal

open BinaryValue Text

/-- The number that a decimal stands for. -/
def value (d : Decimal) : ℚ := d.digits * 10 ^ d.exponent

variable {d d' : Decimal}

/-- A decimal with digits other than zero stands for a positive number. -/
theorem value_pos (hd : 0 < d.digits) : 0 < d.value := by
  unfold value
  positivity

/-- A decimal stands for zero exactly if its digits do. -/
theorem value_eq_zero_iff : d.value = 0 ↔ d.digits = 0 := by
  simp [value, zpow_ne_zero]

/-- Every number has a digit. -/
theorem digitCount_pos (n : ℕ) : 0 < digitCount n := Nat.length_toDigits_pos

/-- A number is less than the power of ten with as many zeros as it has digits. -/
theorem lt_pow_digitCount (n : ℕ) : n < 10 ^ digitCount n :=
  (Nat.length_toDigits_le_iff (by norm_num) (digitCount_pos n)).mp le_rfl

/-- A positive number is no less than the power of ten with one zero less. -/
theorem pow_digitCount_le {n : ℕ} (hn : 0 < n) : 10 ^ (digitCount n - 1) ≤ n := by
  obtain hone | hmore := (Nat.one_le_iff_ne_zero.mpr (digitCount_pos n).ne').eq_or_lt
  · rw [← hone]
    exact hn
  · by_contra hlt
    have := (Nat.length_toDigits_le_iff (n := n) (b := 10) (by norm_num)
      (show 0 < digitCount n - 1 by omega)).mpr (not_le.mp hlt)
    change digitCount n ≤ _ at this
    omega

/-- The power of ten of the first digit is the logarithm of the value. -/
theorem leading_eq_log (hd : 0 < d.digits) : d.leading = Int.log 10 d.value := by
  have hlow : (10 : ℚ) ^ (digitCount d.digits - 1) ≤ d.digits := by
    exact_mod_cast pow_digitCount_le hd
  have hhigh : (d.digits : ℚ) < 10 ^ digitCount d.digits := by
    exact_mod_cast lt_pow_digitCount d.digits
  have hcount := digitCount_pos d.digits
  have hexp : (0 : ℚ) < 10 ^ d.exponent := by positivity
  have hlow' : ((10 : ℕ) : ℚ) ^ d.leading ≤ d.value := by
    have hleading : d.leading = (digitCount d.digits - 1 : ℕ) + d.exponent := by
      unfold leading
      omega
    rw [hleading, Nat.cast_ofNat, zpow_add₀ (by norm_num), zpow_natCast]
    exact mul_le_mul_of_nonneg_right hlow hexp.le
  have hhigh' : d.value < ((10 : ℕ) : ℚ) ^ (d.leading + 1) := by
    rw [leading, sub_add_cancel, Nat.cast_ofNat, zpow_add₀ (by norm_num), zpow_natCast]
    exact mul_lt_mul_of_pos_right hhigh hexp
  have := (Int.zpow_le_iff_le_log (by norm_num) (value_pos hd)).mp hlow'
  have := (Int.lt_zpow_iff_log_lt (by norm_num) (value_pos hd)).mp hhigh'
  omega

/-- A decimal becomes the nearest number, unless it is far out of range. -/
theorem toFloat_eq_nearest (hd : 0 < d.digits) (hlow : -400 ≤ d.leading) (hhigh : d.leading ≤ 400) :
    d.toFloat = nearestFloat d.value := by
  have hcount := digitCount_pos d.digits
  have hbits : digitCount d.digits ≤ d.digits.log2 + 1 :=
    (Nat.length_toDigits_le_iff (by norm_num) (Nat.succ_pos _)).mpr
      (Nat.lt_log2_self.trans_le (Nat.pow_le_pow_left (by norm_num) _))
  unfold toFloat
  rw [if_neg hd.ne', if_neg (by omega), if_neg (by omega)]
  unfold leading at hlow hhigh
  unfold value
  by_cases he : 0 ≤ d.exponent
  · rw [if_pos he, ofScientific_mul hd (by omega), ← zpow_natCast, Int.toNat_of_nonneg he]
  · rw [if_neg he, ofScientific_div hd (by omega) (by omega), ← zpow_natCast,
      Int.toNat_of_nonneg (by omega), zpow_neg, div_inv_eq_mul]

/-- Decimals of one value become one number. -/
theorem toFloat_congr (h : d.value = d'.value) : d.toFloat = d'.toFloat := by
  by_cases hd : d.digits = 0
  · have hd' : d'.digits = 0 := by rw [← value_eq_zero_iff, ← h, value_eq_zero_iff, hd]
    rw [toFloat, toFloat, if_pos hd, if_pos hd']
  · have hd' : d'.digits ≠ 0 := by rwa [Ne, ← value_eq_zero_iff, ← h, value_eq_zero_iff]
    have hleading : d.leading = d'.leading := by
      rw [leading_eq_log (Nat.pos_of_ne_zero hd), leading_eq_log (Nat.pos_of_ne_zero hd'), h]
    by_cases hrange : -400 ≤ d.leading ∧ d.leading ≤ 400
    · rw [toFloat_eq_nearest (Nat.pos_of_ne_zero hd) hrange.1 hrange.2,
        toFloat_eq_nearest (Nat.pos_of_ne_zero hd') (hleading ▸ hrange.1) (hleading ▸ hrange.2), h]
    · rw [toFloat, toFloat, if_neg hd, if_neg hd', ← hleading]
      by_cases hlarge : d.leading > 400
      · rw [if_pos hlarge, if_pos hlarge]
      · rw [if_neg hlarge, if_neg hlarge, if_pos (by omega), if_pos (by omega)]

/-- Three bits take less than a decimal digit. -/
theorem two_pow_le_ten_pow {k n : ℕ} (h : k ≤ 3 * n) : (2 : ℚ) ^ k ≤ 10 ^ n :=
  calc (2 : ℚ) ^ k ≤ 2 ^ (3 * n) := pow_le_pow_right₀ one_le_two h
    _ = (2 ^ 3) ^ n := pow_mul 2 3 n
    _ ≤ 10 ^ n := pow_le_pow_left₀ (by norm_num) (by norm_num) n

/-- A decimal with the value of a binary64 number becomes that number. -/
theorem toFloat_of_canonical {m : ℕ} {e : ℤ} (c : Canonical m e) (h : d.value = m * 2 ^ e) :
    d.toFloat = .ofModel (.pack (.finite .positive m e c.pos)) := by
  have hpos : 0 < d.value := by
    have := c.pos
    rw [h]
    positivity
  have hd : 0 < d.digits := by
    rw [Nat.pos_iff_ne_zero, Ne, ← value_eq_zero_iff]
    exact hpos.ne'
  have hlow : ((10 : ℕ) : ℚ) ^ (-400 : ℤ) ≤ d.value := by
    calc ((10 : ℕ) : ℚ) ^ (-400 : ℤ) ≤ 2 ^ (-1074 : ℤ) := by
          rw [zpow_neg, zpow_neg]
          exact inv_anti₀ (by positivity)
            (by exact_mod_cast two_pow_le_ten_pow (n := 400) (by norm_num))
      _ ≤ 1 * 2 ^ e := by
          rw [one_mul]
          exact zpow_le_zpow_right₀ one_le_two c.least
      _ ≤ d.value := by
          rw [h]
          exact mul_le_mul_of_nonneg_right (by exact_mod_cast c.pos) (by positivity)
  have hhigh : d.value < ((10 : ℕ) : ℚ) ^ (401 : ℤ) := by
    calc d.value < (2 ^ 53 : ℕ) * 2 ^ e := by
          rw [h]
          exact mul_lt_mul_of_pos_right (by exact_mod_cast c.lt) (by positivity)
      _ ≤ (2 ^ 53 : ℕ) * 2 ^ (971 : ℤ) :=
          mul_le_mul_of_nonneg_left (zpow_le_zpow_right₀ one_le_two c.most) (by positivity)
      _ = 2 ^ (1024 : ℕ) := by
          rw [Nat.cast_pow, Nat.cast_ofNat, ← zpow_natCast, ← zpow_natCast, ← zpow_add₀ two_ne_zero]
          rfl
      _ ≤ 10 ^ (400 : ℕ) := two_pow_le_ten_pow (by norm_num)
      _ < ((10 : ℕ) : ℚ) ^ (401 : ℤ) := by
          exact_mod_cast pow_lt_pow_right₀ (by norm_num : (1 : ℚ) < 10) (by norm_num : 400 < 401)
  rw [Int.zpow_le_iff_le_log (by norm_num) hpos, ← leading_eq_log hd] at hlow
  rw [Int.lt_zpow_iff_log_lt (by norm_num) hpos, ← leading_eq_log hd] at hhigh
  rw [toFloat_eq_nearest hd hlow (by omega), nearestFloat, h, nearest_of_canonical c]

end Decimal

end Telemetry
