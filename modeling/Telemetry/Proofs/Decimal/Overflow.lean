import Telemetry.Proofs.Decimal.ReadBack

/-!
# Whole numbers beyond 64 bits

A whole number of more than 64 bits becomes a binary64 number that is just as much too large for 64
bits, and from half-way between the largest finite number and `2 ^ 1024` on it becomes infinite.
-/

namespace Telemetry

open Float.Model Float.Model.UnpackedFloat

namespace BinaryValue

/-- The least number that is rounded to infinity: the largest finite one, `(2 ^ 53 - 1) * 2 ^ 971`,
and half a unit more. -/
def overflow : ℕ := (2 ^ 54 - 1) * 2 ^ 970

/-- The words of 64 bits lie far below the numbers that are rounded to infinity. -/
theorem word_lt_overflow : 2 ^ 63 < overflow := by decide +kernel

section Rounding

variable {x q : ℚ}

/-- Rounding does not fall below a whole number. -/
theorem le_roundEven {k : ℕ} (h : (k : ℚ) ≤ x) : k ≤ roundEven x := by
  have hfloor : k ≤ ⌊x⌋₊ := Nat.le_floor h
  unfold roundEven
  split <;> omega

/-- A mantissa is rounded up to the next power of two from half a unit below it on. -/
theorem roundEven_eq_iff (hlow : 0 ≤ x) (hx : x < 2 ^ 53) :
    roundEven x = 2 ^ 53 ↔ 2 ^ 53 - 1 / 2 ≤ x := by
  have hfloor : (⌊x⌋₊ : ℚ) ≤ x := Nat.floor_le hlow
  have hlt : ⌊x⌋₊ < 2 ^ 53 := (Nat.floor_lt hlow).mpr (by exact_mod_cast hx)
  by_cases hlast : ⌊x⌋₊ = 2 ^ 53 - 1
  · have hcast : (⌊x⌋₊ : ℚ) = 2 ^ 53 - 1 := by rw [hlast]; norm_num
    obtain h | h | h := lt_trichotomy (x - ⌊x⌋₊) (1 / 2)
    · rw [roundEven, compare_lt_iff_lt.mpr h]
      constructor
      · intro heq
        dsimp only at heq
        omega
      · intro hle
        linarith
    · rw [roundEven, compare_eq_iff_eq.mpr h]
      dsimp only
      constructor
      · intro _
        linarith
      · intro _
        omega
    · rw [roundEven, compare_gt_iff_gt.mpr h]
      dsimp only
      constructor
      · intro _
        linarith
      · intro _
        omega
  · have hsmall : x < 2 ^ 53 - 1 := by
      have hnext : x < ⌊x⌋₊ + 1 := Nat.lt_floor_add_one x
      have hle : (⌊x⌋₊ : ℚ) + 1 ≤ 2 ^ 53 - 1 := by
        have hnat : ⌊x⌋₊ + 1 ≤ 2 ^ 53 - 1 := by omega
        have hcast : ((⌊x⌋₊ + 1 : ℕ) : ℚ) ≤ ((2 ^ 53 - 1 : ℕ) : ℚ) := by exact_mod_cast hnat
        push_cast at hcast
        linarith
      linarith
    have hle := roundEven_le x
    constructor
    · intro heq
      omega
    · intro hge
      linarith

/-- The overflow lies half a unit below the last mantissa in units of `2 ^ 971`. -/
theorem lt_overflow_iff {l : ℤ} (hlow : 2 ^ 52 ≤ q / 2 ^ l) (hhigh : q / 2 ^ l < 2 ^ 53) :
    q < overflow ↔ l < 971 ∨ l = 971 ∧ q / 2 ^ l < 2 ^ 53 - 1 / 2 := by
  have hl : (0 : ℚ) < 2 ^ l := by positivity
  obtain ⟨u, hu⟩ : ∃ u : ℚ, u = 2 ^ (970 : ℤ) := ⟨_, rfl⟩
  have hupos : 0 < u := by rw [hu]; positivity
  have hcast : (overflow : ℚ) = (2 ^ 54 - 1) * u := by
    rw [overflow, hu, Nat.cast_mul, Nat.cast_pow, ← zpow_natCast]
    norm_num
  obtain hsmall | rfl | hlarge := lt_trichotomy l 971
  · have hle : (2 : ℚ) ^ l ≤ u := hu ▸ zpow_le_zpow_right₀ one_le_two (by omega)
    rw [div_lt_iff₀ hl] at hhigh
    refine iff_of_true ?_ (.inl hsmall)
    rw [hcast]
    linarith only [hle, hhigh, hupos]
  · have hdouble : (2 : ℚ) ^ (971 : ℤ) = 2 * u := by
      rw [hu, show (971 : ℤ) = 1 + 970 by norm_num, zpow_add₀ two_ne_zero, zpow_one]
    have hsplit : (overflow : ℚ) = (2 ^ 53 - 1 / 2) * 2 ^ (971 : ℤ) := by
      rw [hcast, hdouble]
      ring
    rw [hsplit, ← div_lt_iff₀ hl]
    exact ⟨fun h => .inr ⟨rfl, h⟩, fun h => (h.resolve_left (lt_irrefl _)).2⟩
  · have hle : 4 * u ≤ 2 ^ l := by
      calc 4 * u = 2 ^ (2 + 970 : ℤ) := by
            rw [hu, zpow_add₀ two_ne_zero]
            norm_num
        _ ≤ 2 ^ l := zpow_le_zpow_right₀ one_le_two (by omega)
    rw [le_div_iff₀ hl] at hlow
    refine iff_of_false ?_ (by omega)
    rw [hcast, not_lt]
    linarith only [hle, hlow, hupos]

/-- A number from `2 ^ 63` on is rounded to 53 bits in units of at least `2 ^ 11`, and the units are
those of finite numbers up to the overflow. -/
theorem nearest_large (hq : 2 ^ 63 ≤ q) :
    ∃ (m : ℕ) (e : ℤ) (hm : 0 < m), nearest q = .finite .positive m e hm ∧ 2 ^ 52 ≤ m ∧
      m < 2 ^ 53 ∧ 11 ≤ e ∧ (e ≤ 971 ↔ q < overflow) := by
  have hpos : 0 < q := by linarith
  have hlog : 63 ≤ Int.log 2 q := by
    rw [← Int.zpow_le_iff_le_log one_lt_two hpos]
    exact_mod_cast hq
  have hlast : lastPlace q = Int.log 2 q - 52 := by
    rw [lastPlace]
    omega
  have hcarry := roundEven_mantissa_le hpos
  rw [nearest]
  generalize lastPlace q = l at hlast hcarry
  have hl : (0 : ℚ) < 2 ^ l := by positivity
  have hlow : 2 ^ 52 ≤ q / 2 ^ l := by
    have hpower := zpow_log_le hpos
    rw [show Int.log 2 q = (52 : ℕ) + l by omega, zpow_add₀ two_ne_zero, zpow_natCast] at hpower
    exact (le_div_iff₀ hl).mpr hpower
  have hhigh : q / 2 ^ l < 2 ^ 53 := by
    have hpower := lt_zpow_log q
    rw [show Int.log 2 q + 1 = (53 : ℕ) + l by omega, zpow_add₀ two_ne_zero,
      zpow_natCast] at hpower
    exact (div_lt_iff₀ hl).mpr hpower
  have hmantissa : 2 ^ 52 ≤ roundEven (q / 2 ^ l) := le_roundEven (by exact_mod_cast hlow)
  have hround := roundEven_eq_iff (by linarith) hhigh
  have hoverflow := lt_overflow_iff hlow hhigh
  rw [dif_neg (by omega)]
  by_cases hup : roundEven (q / 2 ^ l) = 2 ^ 53
  · rw [if_pos hup]
    refine ⟨2 ^ 52, l + 1, by decide, rfl, le_rfl, by norm_num, by omega, ?_⟩
    have hnot := not_lt.mpr (hround.mp hup)
    simp only [hoverflow, hnot, and_false, or_false]
    omega
  · rw [if_neg hup]
    refine ⟨_, l, by omega, rfl, hmantissa, by omega, by omega, ?_⟩
    have hlt := not_le.mp fun h => hup (hround.mpr h)
    simp only [hoverflow, hlt, and_true]
    omega

end Rounding

/-! ## The words of large whole numbers -/

section Words

variable {n : ℕ}

/-- A number in larger units than those of finite numbers is packed into an infinity. -/
theorem pack_of_le {s : Sign} {m : ℕ} {e : ℤ} {hm : 0 < m} (he : 972 ≤ e) :
    Float.Model.pack (.finite s m e hm) = .pack (.infinity s) := by
  have hbits : UnpackedFloat.pack Format.binary64 (.finite s m e hm) =
      UnpackedFloat.pack Format.binary64 (.infinity s) := by
    change (if 2048 ≤ (e + (1023 : Nat) + (52 : Nat)).toNat + 1 then _ else _) = _
    rw [if_pos (by omega)]
    rfl
  simp only [Float.Model.pack, hbits]

/-- The quotient of one and zero is positive infinity. -/
theorem infinity_eq : (1.0 / 0.0 : Float) = .ofModel (.pack (.infinity .positive)) := by
  decide +kernel

/-- The quotient of one and zero, and its negation, denote the two infinities. -/
theorem of_infinity : of (1.0 / 0.0) = .infinite false ∧ of (-(1.0 / 0.0)) = .infinite true := by
  decide +kernel

/-- A decimal without places stands for its digits. -/
theorem value_of_places (n : ℕ) : Decimal.value ⟨n, 0⟩ = n := by
  rw [Decimal.value, zpow_zero, mul_one]

/-- A whole number with at most 401 places is rounded. -/
theorem toFloat_eq_nearestFloat (hn : 0 < n) (hleading : Decimal.leading ⟨n, 0⟩ ≤ 400) :
    Decimal.toFloat ⟨n, 0⟩ = nearestFloat n := by
  have hcount := Decimal.digitCount_pos n
  have hnonneg : 0 ≤ Decimal.leading ⟨n, 0⟩ := by
    simp only [Decimal.leading]
    omega
  rw [Decimal.toFloat_eq_nearest hn (by omega) hleading, value_of_places]

/-- A large whole number below the overflow becomes a finite number that is large as well. -/
theorem of_toFloat_of_lt (hn : 2 ^ 63 ≤ n) (hlt : n < overflow) :
    ∃ (m : ℕ) (e : ℤ), 0 ≤ e ∧ 2 ^ 63 ≤ m * 2 ^ e.toNat ∧
      of (Decimal.toFloat ⟨n, 0⟩) = .finite false m e ∧
      of (-Decimal.toFloat ⟨n, 0⟩) = .finite true m e := by
  have hpos : 0 < n := by omega
  have hhigh : Decimal.value ⟨n, 0⟩ < ((10 : ℕ) : ℚ) ^ (401 : ℤ) := by
    have hbound : overflow ≤ 10 ^ 401 := by decide +kernel
    rw [value_of_places]
    exact_mod_cast hlt.trans_le hbound
  rw [Int.lt_zpow_iff_log_lt (by norm_num) (Decimal.value_pos hpos),
    ← Decimal.leading_eq_log hpos] at hhigh
  obtain ⟨m, e, hm, hnearest, hfull, hbits, he, hfinite⟩ :=
    nearest_large (q := n) (by exact_mod_cast hn)
  have c : Canonical m e := {
    pos := hm
    lt := hbits
    normal := .inl hfull
    least := by omega
    most := hfinite.mpr (by exact_mod_cast hlt) }
  have hsize : 2 ^ 63 ≤ m * 2 ^ e.toNat := by
    calc 2 ^ 63 = 2 ^ 52 * 2 ^ 11 := by norm_num
      _ ≤ m * 2 ^ e.toNat :=
          Nat.mul_le_mul hfull (Nat.pow_le_pow_right two_pos (by omega))
  refine ⟨m, e, by omega, hsize, ?_⟩
  rw [toFloat_eq_nearestFloat hpos (by omega), nearestFloat, hnearest, neg_ofModel_pack c,
    ← ofUnpacked_unpack, ← ofUnpacked_unpack]
  exact ⟨congrArg ofUnpacked (unpack_pack_model c), congrArg ofUnpacked (unpack_pack_model c)⟩

/-- From the overflow on a whole number becomes infinite. -/
theorem of_toFloat_of_le (hle : overflow ≤ n) :
    of (Decimal.toFloat ⟨n, 0⟩) = .infinite false ∧
      of (-Decimal.toFloat ⟨n, 0⟩) = .infinite true := by
  have hlarge : 2 ^ 63 ≤ n := word_lt_overflow.le.trans hle
  have hpos : 0 < n := by omega
  have hfloat : Decimal.toFloat ⟨n, 0⟩ = 1.0 / 0.0 := by
    by_cases hfar : Decimal.leading ⟨n, 0⟩ > 400
    · rw [Decimal.toFloat, if_neg hpos.ne', if_pos hfar]
    · obtain ⟨m, e, hm, hnearest, -, -, -, hfinite⟩ :=
        nearest_large (q := n) (by exact_mod_cast hlarge)
      have he : 972 ≤ e := by
        by_contra hlt
        have hcast : (n : ℚ) < overflow := hfinite.mp (by omega)
        exact absurd (by exact_mod_cast hcast : n < overflow) (by omega)
      rw [toFloat_eq_nearestFloat hpos (by omega), nearestFloat, hnearest, pack_of_le he,
        infinity_eq]
  rw [hfloat]
  exact of_infinity

end Words

end BinaryValue

end Telemetry
