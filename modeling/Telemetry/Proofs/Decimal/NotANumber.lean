import Telemetry.Proofs.Decimal.Nearest

/-!
# Numbers that are none

Two binary64 numbers are in order, in either direction or equal, unless one of them is no number.
Packing, rounding and the sign never make a number into none, so that every whole number becomes a
number, if only an infinite one.
-/

namespace Telemetry

open Float.Model Float.Model.UnpackedFloat

namespace BinaryValue

variable {x y : Float}

/-! ## The order -/

/-- Comparing the other way round finds the opposite order. -/
theorem compare_swap (u v : UnpackedFloat) : v.compare u = (u.compare v).map Ordering.swap := by
  have hmagnitude : ∀ (m n : ℕ) (d e : ℤ),
      (compare e d).then (compare n m) = ((compare d e).then (compare m n)).swap := by
    intro m n d e
    rw [Ordering.swap_then, Int.compare_swap, Nat.compare_swap]
  cases u with
  | notANumber => cases v <;> rfl
  | infinity s =>
    cases v with
    | infinity t => cases s <;> cases t <;> rfl
    | _ => cases s <;> rfl
  | zero s =>
    cases v with
    | infinity t | finite t => cases t <;> rfl
    | _ => rfl
  | finite s m d hm =>
    cases v with
    | notANumber => cases s <;> rfl
    | infinity t => cases s <;> cases t <;> rfl
    | zero t => cases s <;> rfl
    | finite t n e hn =>
      cases s with
      | negative =>
        cases t with
        | negative => exact congrArg (some ∘ Ordering.swap) (hmagnitude m n d e)
        | positive => rfl
      | positive =>
        cases t with
        | negative => rfl
        | positive => exact congrArg some (hmagnitude m n d e)

/-- Only what is no number has no order. -/
theorem compare_eq_none_iff {u v : UnpackedFloat} :
    u.compare v = none ↔ u.isNaN = true ∨ v.isNaN = true := by
  cases u with
  | notANumber => simp [UnpackedFloat.compare, UnpackedFloat.isNaN]
  | infinity s => cases v <;> cases s <;> simp [UnpackedFloat.compare, UnpackedFloat.isNaN]
  | zero s =>
    cases v with
    | infinity t | finite t => cases t <;> simp [UnpackedFloat.compare, UnpackedFloat.isNaN]
    | _ => simp [UnpackedFloat.compare, UnpackedFloat.isNaN]
  | finite s =>
    cases v with
    | infinity t | finite t =>
      cases s <;> cases t <;> simp [UnpackedFloat.compare, UnpackedFloat.isNaN]
    | _ => cases s <;> simp [UnpackedFloat.compare, UnpackedFloat.isNaN]

/-- Of two words the first is less exactly if the unpacked numbers compare so. -/
theorem lt_iff_compare : x < y ↔ x.toModel.unpack.compare y.toModel.unpack = some .lt := by
  change decide (x.toModel < y.toModel) = true ↔ _
  rw [decide_eq_true_iff]
  change (x.toModel.unpack.compare y.toModel.unpack == some .lt) = true ↔ _
  rw [beq_iff_eq]

/-- Two words are equal exactly if the unpacked numbers compare so. -/
theorem beq_iff_compare :
    (x == y) = true ↔ x.toModel.unpack.compare y.toModel.unpack = some .eq := by
  change (x.toModel.unpack.compare y.toModel.unpack == some .eq) = true ↔ _
  rw [beq_iff_eq]

/-! ## Operations -/

/-- Only the words with the last exponent are read as no number. -/
theorem isNaN_packComponents (s : Sign) {e : BitVec 11} (m : BitVec 52) (he : e ≠ -1#11) :
    (UnpackedFloat.unpack Format.binary64 (packComponents Format.binary64 s e m)).isNaN =
      false := by
  have hexp : unpackExponent (packComponents Format.binary64 s e m) ≠ -1#11 := by
    rwa [unpackExponent_packComponents]
  generalize packComponents Format.binary64 s e m = b at hexp
  have hb := unpacks b
  generalize UnpackedFloat.unpack Format.binary64 b = u at hb
  cases hb with
  | notANumber he => exact absurd he hexp
  | _ => rfl

/-- Packing keeps apart what is a number and what is none. -/
theorem isNaN_ofModel_pack (u : UnpackedFloat) : (Float.ofModel (.pack u)).isNaN = u.isNaN := by
  change (UnpackedFloat.unpack Format.binary64 (UnpackedFloat.pack Format.binary64 u)).isNaN = _
  cases u with
  | notANumber => rfl
  | infinity s | zero s => cases s <;> rfl
  | finite s m e hm =>
    change (UnpackedFloat.unpack Format.binary64
      (if 2048 ≤ (e + (1023 : Nat) + (52 : Nat)).toNat + 1 then packedInfinity Format.binary64 s
        else if m.log2 + 1 = 53 then
          packComponents Format.binary64 s (BitVec.ofNat 11 (e + (1023 : Nat) + (52 : Nat)).toNat)
            (BitVec.ofNat 52 m)
        else packComponents Format.binary64 s 0#11 (BitVec.ofNat 52 m))).isNaN = false
    generalize (e + (1023 : Nat) + (52 : Nat)).toNat = k
    split
    · cases s <;> rfl
    split
    · refine isNaN_packComponents s _ fun h => ?_
      have hk := congrArg BitVec.toNat h
      rw [BitVec.toNat_ofNat, show (-1#11).toNat = 2047 from rfl] at hk
      omega
    · exact isNaN_packComponents s _ (by decide)

/-- What is rounded is a number. -/
theorem isNaN_nearestFloat (q : ℚ) : (nearestFloat q).isNaN = false := by
  rw [nearestFloat, isNaN_ofModel_pack]
  unfold nearest
  dsimp only
  split
  · rfl
  split <;> rfl

@[simp] theorem isNaN_neg (x : Float) : (-x).isNaN = x.isNaN := by
  change (Float.ofModel (.pack x.toModel.unpack.neg)).isNaN = x.toModel.unpack.isNaN
  rw [isNaN_ofModel_pack]
  cases x.toModel.unpack <;> rfl

@[simp] theorem isNaN_ofNat (n : ℕ) : (Float.ofNat n).isNaN = false := by
  obtain rfl | hn := n.eq_zero_or_pos
  · rfl
  · change (Float.ofScientific n false 0).isNaN = false
    rw [ofScientific_mul hn (by decide), isNaN_nearestFloat]

/-- A whole number becomes a number. -/
@[simp] theorem isNaN_ofInt (n : ℤ) : (Float.ofInt n).isNaN = false := by
  cases n with
  | ofNat n => exact isNaN_ofNat n
  | negSucc n =>
    change (-Float.ofNat (n + 1)).isNaN = false
    rw [isNaN_neg, isNaN_ofNat]

end BinaryValue

end Telemetry
