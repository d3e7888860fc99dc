import Telemetry.Proofs.Decimal.Packing

/-!
# Rounding to binary64

`nearest` rounds a positive rational to 53 bits, with ties to the even mantissa and no bit below
`2 ^ -1074`. The arithmetic of core shifts a mantissa with two bits of what was cut off; these tell
all that rounding needs, so that a product or a quotient of two finite numbers is `nearest` of the
exact one, and depends on nothing else.
-/

namespace Telemetry

open Float.Model Float.Model.UnpackedFloat

namespace BinaryValue

/-- The whole number nearest to a number that is not negative, of two the even one. -/
def roundEven (x : ℚ) : ℕ :=
  match compare (x - ⌊x⌋₊) (1 / 2) with
  | .lt => ⌊x⌋₊
  | .eq => ⌊x⌋₊ + ⌊x⌋₊ % 2
  | .gt => ⌊x⌋₊ + 1

/-- The power of two of the last bit that rounding keeps. -/
def lastPlace (q : ℚ) : ℤ := max (Int.log 2 q - 52) (-1074)

/-- A positive number rounded to 53 bits. -/
def nearest (q : ℚ) : UnpackedFloat :=
  let m := roundEven (q / 2 ^ lastPlace q)
  if h : m = 0 then .zero .positive
  else if m = 2 ^ 53 then .finite .positive (2 ^ 52) (lastPlace q + 1) (by decide)
  else .finite .positive m (lastPlace q) (Nat.pos_of_ne_zero h)

section Cutting

/-- Whether a fraction is nothing, less than a half, a half, or more. -/
def fractionAccuracy (f : ℚ) : Accuracy :=
  if f = 0 then .exact else .inexact (compare f (1 / 2))

/-- The whole part of a number, with as much of the fraction as rounding needs. -/
def cut (x : ℚ) : ExtendedMantissa :=
  .ofMantissaAndAccuracy ⌊x⌋₊ (fractionAccuracy (x - ⌊x⌋₊))

variable {m : ℕ} {f x : ℚ}

/-- A fraction that is added to a whole number is cut off by the floor. -/
theorem floor_add_fraction (hf : 0 ≤ f) (hf' : f < 1) : ⌊(m : ℚ) + f⌋₊ = m := by
  rw [Nat.floor_eq_iff (by positivity)]
  exact ⟨by linarith, by linarith⟩

/-- A number that is cut has its whole part for a mantissa and keeps what its fraction is like. -/
theorem cut_add_fraction (hf : 0 ≤ f) (hf' : f < 1) :
    cut (m + f) = .ofMantissaAndAccuracy m (fractionAccuracy f) := by
  rw [cut, floor_add_fraction hf hf', add_sub_cancel_left]

/-- A number that is not negative is its whole part and a fraction. -/
theorem exists_eq_add_fraction (hx : 0 ≤ x) : ∃ (m : ℕ) (f : ℚ), 0 ≤ f ∧ f < 1 ∧ x = m + f :=
  ⟨⌊x⌋₊, x - ⌊x⌋₊, by linarith [Nat.floor_le hx], by linarith [Nat.lt_floor_add_one x], by ring⟩

/-- Nothing is cut off a whole number. -/
theorem cut_natCast (m : ℕ) : cut m = .ofMantissaAndAccuracy m .exact := by
  rw [cut, Nat.floor_natCast, sub_self, fractionAccuracy, if_pos rfl]

/-- Division with remainder cuts off the exact quotient. -/
theorem cut_div {a b : ℕ} (hb : 0 < b) :
    cut ((a : ℚ) / b) = .ofMantissaAndAccuracy (a / b) (accuracyOfFraction (a % b) b) := by
  have hb' : (0 : ℚ) < b := Nat.cast_pos.mpr hb
  have hlt : ((a % b : ℕ) : ℚ) < b := Nat.cast_lt.mpr (Nat.mod_lt a hb)
  have hsum : (a : ℚ) / b = ((a / b : ℕ) : ℚ) + ((a % b : ℕ) : ℚ) / b := by
    rw [add_div' _ _ _ hb'.ne', div_left_inj' hb'.ne', mul_comm]
    exact_mod_cast (Nat.div_add_mod a b).symm
  have haccuracy : fractionAccuracy (((a % b : ℕ) : ℚ) / b) = accuracyOfFraction (a % b) b := by
    have hcompare : compare (((a % b : ℕ) : ℚ) / b) (1 / 2) = compare (2 * (a % b)) b := by
      obtain h | h | h := lt_trichotomy (2 * (a % b)) b
      · rw [compare_lt_iff_lt.mpr h, compare_lt_iff_lt, div_lt_div_iff₀ hb' two_pos]
        exact_mod_cast (by omega : a % b * 2 < 1 * b)
      · rw [compare_eq_iff_eq.mpr h, compare_eq_iff_eq, div_eq_div_iff hb'.ne' two_ne_zero]
        exact_mod_cast (by omega : a % b * 2 = 1 * b)
      · rw [compare_gt_iff_gt.mpr h, compare_gt_iff_gt, div_lt_div_iff₀ two_pos hb']
        exact_mod_cast (by omega : 1 * b < a % b * 2)
    simp only [fractionAccuracy, accuracyOfFraction, hcompare, div_eq_zero_iff, hb'.ne', or_false,
      Nat.cast_eq_zero]
  rw [hsum, cut_add_fraction (by positivity) ((div_lt_one hb').mpr hlt), haccuracy]

/-- A half is not less than a smaller fraction, and of the others only nothing is exact. -/
theorem fractionAccuracy_of_lt (hf : f ≠ 0) (h : f < 1 / 2) :
    fractionAccuracy f = .inexact .lt := by
  rw [fractionAccuracy, if_neg hf, compare_lt_iff_lt.mpr h]

/-- A half is kept as what it is. -/
theorem fractionAccuracy_half : fractionAccuracy (1 / 2) = .inexact .eq := by
  rw [fractionAccuracy, if_neg (by norm_num), compare_eq_iff_eq.mpr rfl]

/-- More than a half is kept as that. -/
theorem fractionAccuracy_of_gt (h : 1 / 2 < f) : fractionAccuracy f = .inexact .gt := by
  rw [fractionAccuracy, if_neg (by linarith), compare_gt_iff_gt.mpr h]

/-- Shifting by one place moves the last bit of the mantissa in front of what was cut off. -/
theorem shiftRightOne_fractionAccuracy (hf : 0 ≤ f) (hf' : f < 1) :
    (ExtendedMantissa.ofMantissaAndAccuracy m (fractionAccuracy f)).shiftRightOne =
      .ofMantissaAndAccuracy (m / 2) (fractionAccuracy ((((m % 2 : ℕ) : ℚ) + f) / 2)) := by
  have hshift : (ExtendedMantissa.ofMantissaAndAccuracy m (fractionAccuracy f)).shiftRightOne =
      ⟨m / 2, m % 2 != 0, decide (f ≠ 0)⟩ := by
    obtain rfl | hz := eq_or_ne f 0
    · rfl
    · rw [fractionAccuracy, if_neg hz, decide_eq_true hz]
      cases compare f (1 / 2) <;> rfl
  rw [hshift]
  obtain hm | hm := Nat.mod_two_eq_zero_or_one m <;> rw [hm]
  · obtain rfl | hz := eq_or_ne f 0
    · simp [fractionAccuracy, ExtendedMantissa.ofMantissaAndAccuracy]
    · rw [fractionAccuracy_of_lt (by simpa using hz) (by push_cast; linarith), decide_eq_true hz]
      rfl
  · obtain rfl | hz := eq_or_ne f 0
    · rw [Nat.cast_one, add_zero, fractionAccuracy_half]
      rfl
    · have hpos : 0 < f := lt_of_le_of_ne hf hz.symm
      rw [fractionAccuracy_of_gt (by push_cast; linarith), decide_eq_true hz]
      rfl

/-- Shifting by one place cuts off half the number. -/
theorem shiftRightOne_cut (hx : 0 ≤ x) : (cut x).shiftRightOne = cut (x / 2) := by
  obtain ⟨m, f, hf, hf', rfl⟩ := exists_eq_add_fraction hx
  have hhalf : ((m : ℚ) + f) / 2 = ((m / 2 : ℕ) : ℚ) + (((m % 2 : ℕ) : ℚ) + f) / 2 := by
    have hm : (m : ℚ) = ((2 * (m / 2) + m % 2 : ℕ) : ℚ) := by rw [Nat.div_add_mod]
    push_cast at hm
    linarith
  have hlast : ((m % 2 : ℕ) : ℚ) ≤ 1 := by exact_mod_cast Nat.le_of_lt_succ (Nat.mod_lt m two_pos)
  rw [hhalf, cut_add_fraction hf hf', cut_add_fraction (by positivity) (by linarith),
    shiftRightOne_fractionAccuracy hf hf']

/-- To shift a cut number is to cut the number divided by a power of two. -/
theorem shiftRight_cut (hx : 0 ≤ x) (n : ℕ) : cut x >>> n = cut (x / 2 ^ n) := by
  change n.repeat ExtendedMantissa.shiftRightOne (cut x) = _
  induction n with
  | zero => simp [Nat.repeat]
  | succ n ih =>
    rw [Nat.repeat, ih, shiftRightOne_cut (by positivity), div_div, pow_succ]

/-- A mantissa and an accuracy make a number with this mantissa. -/
theorem mantissa_ofMantissaAndAccuracy (m : ℕ) (a : Accuracy) :
    (ExtendedMantissa.ofMantissaAndAccuracy m a).mantissa = m := by
  cases a with
  | exact => rfl
  | inexact o => cases o <;> rfl

/-- A mantissa is rounded by its accuracy, to the even one in the middle. -/
theorem roundedMantissa_ofMantissaAndAccuracy (m : ℕ) (a : Accuracy) :
    (ExtendedMantissa.ofMantissaAndAccuracy m a).roundedMantissa = a.roundToNearestEven m := by
  cases a with
  | exact => rfl
  | inexact o => cases o <;> rfl

/-- What is cut off decides how the number is rounded. -/
theorem roundedMantissa_cut (x : ℚ) : (cut x).roundedMantissa = roundEven x := by
  rw [cut, roundedMantissa_ofMantissaAndAccuracy, roundEven, fractionAccuracy]
  by_cases hf : x - ⌊x⌋₊ = 0
  · rw [if_pos hf, hf, compare_lt_iff_lt.mpr (by norm_num)]
    rfl
  · rw [if_neg hf]
    cases compare (x - ⌊x⌋₊) (1 / 2) <;> rfl

end Cutting

section Exponents

variable {q : ℚ} {m : ℕ} {e : ℤ}

/-- A number with so many bits keeps 53 of them, and none below the least place. -/
theorem targetExponent_binary64 (t : ℤ) : Format.binary64.targetExponent t = max (t - 53) (-1074) :=
  rfl

/-- The powers of two around a number determine its logarithm. -/
theorem log_eq (hq : 0 < q) (hlow : 2 ^ e ≤ q) (hhigh : q < 2 ^ (e + 1)) : Int.log 2 q = e := by
  have := (Int.zpow_le_iff_le_log one_lt_two hq).mp hlow
  have := (Int.lt_zpow_iff_log_lt one_lt_two hq).mp hhigh
  omega

/-- The power of two that the logarithm names is no more than the number. -/
theorem zpow_log_le (hq : 0 < q) : (2 : ℚ) ^ Int.log 2 q ≤ q := Int.zpow_log_le_self one_lt_two hq

/-- The next power of two is more than the number. -/
theorem lt_zpow_log (q : ℚ) : q < 2 ^ (Int.log 2 q + 1) := Int.lt_zpow_succ_log_self one_lt_two q

/-- The logarithm of a mantissa times a power of two. -/
theorem log_mantissa (hm : 0 < m) (e : ℤ) : Int.log 2 ((m : ℚ) * 2 ^ e) = m.log2 + e := by
  have hlow : (2 : ℚ) ^ m.log2 ≤ m := by exact_mod_cast Nat.log2_self_le hm.ne'
  have hhigh : (m : ℚ) < 2 ^ (m.log2 + 1) := by exact_mod_cast Nat.lt_log2_self
  have he : (0 : ℚ) < 2 ^ e := by positivity
  apply log_eq (by positivity)
  · rw [zpow_add₀ two_ne_zero]
    exact mul_le_mul_of_nonneg_right (by exact_mod_cast hlow) he.le
  · rw [add_right_comm, zpow_add₀ two_ne_zero]
    exact mul_lt_mul_of_pos_right (by exact_mod_cast hhigh) he

/-- Dividing by a power of two lowers the logarithm. -/
theorem log_div_zpow (hq : 0 < q) (e : ℤ) : Int.log 2 (q / 2 ^ e) = Int.log 2 q - e := by
  have he : (0 : ℚ) < 2 ^ e := by positivity
  apply log_eq (div_pos hq he)
  · rw [zpow_sub₀ two_ne_zero]
    exact div_le_div_of_nonneg_right (zpow_log_le hq) he.le
  · rw [sub_add_eq_add_sub, zpow_sub₀ two_ne_zero]
    exact div_lt_div_of_pos_right (lt_zpow_log q) he

/-- The whole part of a number in units of `2 ^ e` has the exponent at which the number is
rounded, if the units are small enough. -/
theorem targetExponent_floor (hq : 0 < q) (he : e ≤ lastPlace q) :
    Format.binary64.targetExponent (totalExponent ⌊q / 2 ^ e⌋₊ e) = lastPlace q := by
  have hlog := log_div_zpow hq e
  rw [targetExponent_binary64, totalExponent, lastPlace]
  by_cases hone : 1 ≤ q / 2 ^ e
  · rw [Int.log_of_one_le_right 2 hone, ← Nat.log2_eq_log_two] at hlog
    omega
  · have hzero : ⌊q / 2 ^ e⌋₊ = 0 := Nat.floor_eq_zero.mpr (not_le.mp hone)
    have hneg : Int.log 2 (q / 2 ^ e) < 0 := by
      rw [← Int.lt_zpow_iff_log_lt one_lt_two (by positivity), zpow_zero]
      exact not_le.mp hone
    rw [hzero, Nat.log2_zero]
    unfold lastPlace at he
    omega

/-- The first shift cuts the number off behind its last place. -/
theorem shiftToTargetExponent_cut {a : Accuracy} (hq : 0 < q) (he : e ≤ lastPlace q)
    (hm : cut (q / 2 ^ e) = .ofMantissaAndAccuracy m a) :
    shiftToTargetExponent Format.binary64 m e a = (cut (q / 2 ^ lastPlace q), lastPlace q) := by
  have hfloor : m = ⌊q / 2 ^ e⌋₊ := by
    have := congrArg ExtendedMantissa.mantissa hm
    rwa [cut, mantissa_ofMantissaAndAccuracy, mantissa_ofMantissaAndAccuracy, eq_comm] at this
  have hvalue : q / 2 ^ e / 2 ^ (lastPlace q - e).toNat = q / 2 ^ lastPlace q := by
    rw [div_div, ← zpow_natCast, ← zpow_add₀ two_ne_zero, Int.toNat_of_nonneg (by omega),
      add_sub_cancel]
  have htarget := targetExponent_floor hq he
  rw [← hfloor] at htarget
  unfold shiftToTargetExponent shiftToExponent
  dsimp only
  rw [htarget]
  have hshift := shiftRight_cut (x := q / 2 ^ e) (by positivity) (lastPlace q - e).toNat
  rw [hvalue] at hshift
  rw [← hm, hshift, Int.toNat_of_nonneg (by omega), add_sub_cancel]

/-- A whole number is rounded to itself. -/
theorem roundEven_natCast (m : ℕ) : roundEven m = m := by
  rw [← roundedMantissa_cut, cut_natCast]
  rfl

/-- Rounding goes up by one at most. -/
theorem roundEven_le (x : ℚ) : roundEven x ≤ ⌊x⌋₊ + 1 := by
  unfold roundEven
  split <;> omega

/-- A rounded mantissa has 53 bits, or is the least number with more. -/
theorem roundEven_mantissa_le (hq : 0 < q) : roundEven (q / 2 ^ lastPlace q) ≤ 2 ^ 53 := by
  have hlast : (0 : ℚ) < 2 ^ lastPlace q := by positivity
  have hlt : q / 2 ^ lastPlace q < (2 ^ 53 : ℕ) := by
    rw [div_lt_iff₀ hlast]
    calc q < 2 ^ (Int.log 2 q + 1) := lt_zpow_log q
      _ ≤ 2 ^ (53 + lastPlace q) := zpow_le_zpow_right₀ one_le_two (by unfold lastPlace; omega)
      _ = (2 ^ 53 : ℕ) * 2 ^ lastPlace q := by rw [zpow_add₀ two_ne_zero]; norm_num
  have hfloor : ⌊q / 2 ^ lastPlace q⌋₊ < 2 ^ 53 := (Nat.floor_lt (by positivity)).mpr hlt
  have := roundEven_le (q / 2 ^ lastPlace q)
  omega

/-- The second shift takes a carry out of the mantissa. -/
theorem shiftToTargetExponent_carry (he : -1074 ≤ e) :
    shiftToTargetExponent Format.binary64 (2 ^ 53) e .exact = (⟨2 ^ 52, false, false⟩, e + 1) := by
  have htarget : Format.binary64.targetExponent (totalExponent (2 ^ 53) e) = e + 1 := by
    rw [targetExponent_binary64, totalExponent, Nat.log2_two_pow]
    omega
  unfold shiftToTargetExponent shiftToExponent
  dsimp only
  rw [htarget, add_sub_cancel_left]
  rfl

/-- The second shift leaves a mantissa without a carry. -/
theorem shiftToTargetExponent_small (hm : m < 2 ^ 53) (he : -1074 ≤ e) :
    shiftToTargetExponent Format.binary64 m e .exact = (⟨m, false, false⟩, e) := by
  have htarget : (Format.binary64.targetExponent (totalExponent m e) - e).toNat = 0 := by
    have hlog : m.log2 < 53 := by
      obtain rfl | hz := eq_or_ne m 0
      · decide
      · exact (Nat.log2_lt hz).mpr hm
    rw [targetExponent_binary64, totalExponent]
    omega
  unfold shiftToTargetExponent shiftToExponent
  dsimp only
  rw [htarget, Nat.cast_zero, add_zero]
  rfl

/-- Rounding a number from what is cut off. -/
theorem roundWithAccuracy_eq_nearest {a : Accuracy} (hq : 0 < q) (he : e ≤ lastPlace q)
    (hm : cut (q / 2 ^ e) = .ofMantissaAndAccuracy m a) :
    roundWithAccuracy Format.binary64 .positive m e a = nearest q := by
  have hleast : -1074 ≤ lastPlace q := le_max_right _ _
  unfold roundWithAccuracy nearest
  rw [shiftToTargetExponent_cut hq he hm]
  dsimp only
  rw [roundedMantissa_cut]
  obtain hcarry | hsmall := (roundEven_mantissa_le hq).eq_or_lt
  · rw [hcarry, shiftToTargetExponent_carry hleast]
    rfl
  · rw [shiftToTargetExponent_small hsmall hleast]
    simp only [hsmall.ne, if_false]

end Exponents

section Operations

variable {m m₁ m₂ : ℕ} {e e₁ e₂ : ℤ}

/-- A mantissa with enough bits is rounded to the nearest number. -/
theorem roundWithAccuracy_exact (hm : 0 < m) (he : e ≤ lastPlace (m * 2 ^ e)) :
    roundWithAccuracy Format.binary64 .positive m e .exact = nearest (m * 2 ^ e) := by
  apply roundWithAccuracy_eq_nearest (by positivity) he
  rw [mul_div_cancel_right₀ _ (by positivity), cut_natCast]

/-- A product with enough bits is the nearest number to the exact product. -/
theorem mul_eq_nearest (h₁ : 0 < m₁) (h₂ : 0 < m₂) (hbits : 2 ^ 52 ≤ m₁ * m₂) :
    UnpackedFloat.mul Format.binary64 (.finite .positive m₁ e₁ h₁) (.finite .positive m₂ e₂ h₂) =
      nearest (m₁ * 2 ^ e₁ * (m₂ * 2 ^ e₂)) := by
  have hpos : 0 < m₁ * m₂ := Nat.mul_pos h₁ h₂
  have hvalue : (m₁ : ℚ) * 2 ^ e₁ * (m₂ * 2 ^ e₂) = (m₁ * m₂ : ℕ) * 2 ^ (e₁ + e₂) := by
    rw [zpow_add₀ two_ne_zero]
    push_cast
    ring
  have hlog : 52 ≤ (m₁ * m₂).log2 :=
    (Nat.le_log2 hpos.ne').mpr hbits
  rw [hvalue, ← roundWithAccuracy_exact hpos]
  · rfl
  · rw [lastPlace, log_mantissa hpos]
    omega

/-- The logarithm of a quotient is the difference of the logarithms, or one less. -/
theorem log_quotient (h₁ : 0 < m₁) (h₂ : 0 < m₂) (e₁ e₂ : ℤ) :
    (m₁.log2 + e₁) - (m₂.log2 + e₂) - 1 ≤ Int.log 2 ((m₁ : ℚ) * 2 ^ e₁ / (m₂ * 2 ^ e₂)) := by
  have hnum : (0 : ℚ) < m₁ * 2 ^ e₁ := by positivity
  have hden : (0 : ℚ) < m₂ * 2 ^ e₂ := by positivity
  have hlow := zpow_log_le hnum
  have hhigh := lt_zpow_log ((m₂ : ℚ) * 2 ^ e₂)
  rw [log_mantissa h₁] at hlow
  rw [log_mantissa h₂] at hhigh
  have hexponent : (m₁.log2 + e₁) - (m₂.log2 + e₂) - 1 =
      (m₁.log2 + e₁) - (m₂.log2 + e₂ + 1) := by ring
  rw [hexponent, ← Int.zpow_le_iff_le_log one_lt_two (by positivity), Nat.cast_ofNat,
    zpow_sub₀ two_ne_zero]
  exact div_le_div₀ hnum.le hlow hden hhigh.le

/-- A quotient is the nearest number to the exact quotient. -/
theorem div_eq_nearest (h₁ : 0 < m₁) (h₂ : 0 < m₂) :
    UnpackedFloat.div Format.binary64 (.finite .positive m₁ e₁ h₁) (.finite .positive m₂ e₂ h₂) =
      nearest (m₁ * 2 ^ e₁ / (m₂ * 2 ^ e₂)) := by
  -- the exponent that division chooses leaves at least 53 bits in the quotient
  generalize hx : min (e₁ - e₂)
    (Format.binary64.targetExponent (totalExponent m₁ e₁ - totalExponent m₂ e₂)) = x
  have hshift : ((m₁ <<< (e₁ - e₂ - x).toNat : ℕ) : ℚ) = m₁ * 2 ^ (e₁ - e₂ - x) := by
    rw [Nat.shiftLeft_eq, Nat.cast_mul, Nat.cast_pow, Nat.cast_ofNat, ← zpow_natCast,
      Int.toNat_of_nonneg (by omega)]
  have hquotient : (m₁ : ℚ) * 2 ^ e₁ / (m₂ * 2 ^ e₂) / 2 ^ x =
      ((m₁ <<< (e₁ - e₂ - x).toNat : ℕ) : ℚ) / m₂ := by
    rw [hshift, zpow_sub₀ two_ne_zero, zpow_sub₀ two_ne_zero]
    field_simp
  have hle : x ≤ lastPlace ((m₁ : ℚ) * 2 ^ e₁ / (m₂ * 2 ^ e₂)) := by
    have := log_quotient h₁ h₂ e₁ e₂
    rw [targetExponent_binary64, totalExponent, totalExponent] at hx
    unfold lastPlace
    omega
  have hcut := cut_div (a := m₁ <<< (e₁ - e₂ - x).toNat) h₂
  rw [← hquotient] at hcut
  rw [← roundWithAccuracy_eq_nearest (by positivity) hle hcut, ← hx]
  rfl

/-- A whole number becomes the nearest number. -/
theorem ofNat_eq_nearest {n : ℕ} (hn : 0 < n) :
    UnpackedFloat.ofNat Format.binary64 n = nearest n := by
  generalize hk : (0 - Format.binary64.targetExponent (totalExponent n 0)).toNat = k
  have hpos : 0 < n <<< k := by rw [Nat.shiftLeft_eq]; positivity
  have hvalue : ((n <<< k : ℕ) : ℚ) * 2 ^ (0 - (k : ℤ)) = n := by
    rw [Nat.shiftLeft_eq, zero_sub, zpow_neg, zpow_natCast]
    push_cast
    exact mul_inv_cancel_right₀ (by positivity) _
  have hlog : Int.log 2 (n : ℚ) = n.log2 := by
    simpa using log_mantissa hn 0
  have hround : UnpackedFloat.ofNat Format.binary64 n =
      roundWithAccuracy Format.binary64 .positive (n <<< k) (0 - k) .exact := by
    rw [← hk, UnpackedFloat.ofNat, UnpackedFloat.ofInt, UnpackedFloat.normalize,
      Int.compare_eq_gt.mpr (Int.natCast_pos.mpr hn)]
    rfl
  rw [hround, roundWithAccuracy_exact hpos, hvalue]
  rw [hvalue, lastPlace, hlog]
  rw [targetExponent_binary64, totalExponent] at hk
  omega

/-- A canonical number is its own nearest number. -/
theorem nearest_of_canonical (c : Canonical m e) :
    nearest (m * 2 ^ e) = .finite .positive m e c.pos := by
  have hlt := c.lt
  have hlast : lastPlace (m * 2 ^ e) = e := by
    have hlog : m.log2 < 53 := (Nat.log2_lt c.pos.ne').mpr hlt
    have hleast := c.least
    rw [lastPlace, log_mantissa c.pos]
    obtain hm | he := c.normal
    · have : 52 ≤ m.log2 := (Nat.le_log2 c.pos.ne').mpr hm
      omega
    · omega
  have hround : roundEven ((m : ℚ) * 2 ^ e / 2 ^ e) = m := by
    rw [mul_div_cancel_right₀ _ (by positivity), roundEven_natCast]
  simp only [nearest, hlast, hround, c.pos.ne', hlt.ne, if_false, dite_false]

/-- A number with at most 53 bits is kept exactly. -/
theorem nearest_of_bits {n : ℕ} (hn : 0 < n) (hn' : n < 2 ^ 53) (he : -1074 ≤ e) (he' : e ≤ 971) :
    ∃ m k, ∃ c : Canonical m k, nearest (n * 2 ^ e) = .finite .positive m k c.pos ∧
      (m : ℚ) * 2 ^ k = n * 2 ^ e := by
  have hlog : n.log2 < 53 := (Nat.log2_lt hn.ne').mpr hn'
  have hlast := lastPlace.eq_def (n * 2 ^ e)
  rw [log_mantissa hn] at hlast
  generalize lastPlace (n * 2 ^ e) = k at hlast
  have hpos : 0 < n * 2 ^ (e - k).toNat := by positivity
  have hvalue : ((n * 2 ^ (e - k).toNat : ℕ) : ℚ) * 2 ^ k = n * 2 ^ e := by
    push_cast
    rw [mul_assoc, ← zpow_natCast, ← zpow_add₀ two_ne_zero, Int.toNat_of_nonneg (by omega),
      sub_add_cancel]
  have hlog' : (n * 2 ^ (e - k).toNat).log2 + k = n.log2 + e := by
    rw [← log_mantissa hpos, hvalue, log_mantissa hn]
  have c : Canonical (n * 2 ^ (e - k).toNat) k := {
    pos := hpos
    lt := (Nat.log2_lt hpos.ne').mp (by omega)
    normal := by
      by_cases hk : k = -1074
      · exact .inr hk
      · exact .inl ((Nat.le_log2 hpos.ne').mp (by omega))
    least := by omega
    most := by omega }
  exact ⟨_, k, c, by rw [← hvalue, nearest_of_canonical c], hvalue⟩

end Operations

end BinaryValue

end Telemetry
