import Mathlib
import Telemetry.Decimal.Binary

/-!
# Words of binary64 numbers

The arithmetic of core takes a word apart into sign, mantissa and power of two, works on those and
packs the result into a word. What is taken apart is what `BinaryValue.of` reads, and unpacking
undoes packing on the finite numbers.
-/

namespace Telemetry

open Float.Model Float.Model.UnpackedFloat

namespace BinaryValue

/-- Whether the sign is the minus sign. -/
def isMinus : Sign → Bool
  | .negative => true
  | .positive => false

/-- What an unpacked number denotes. -/
def ofUnpacked : UnpackedFloat → BinaryValue
  | .notANumber => nan
  | .infinity s => infinite (isMinus s)
  | .zero s => finite (isMinus s) 0 (-1074)
  | .finite s m e _ => finite (isMinus s) m e

section Fields

variable {b : BitVec Format.binary64.numBits}

/-- The mantissa of a word is made of its 52 low bits. -/
theorem toNat_unpackMantissa : (unpackMantissa b).toNat = b.toNat % 2 ^ 52 := by
  simp only [unpackMantissa, BitVec.toNat_cast, BitVec.extractLsb_toNat, Nat.shiftRight_zero]

/-- The exponent of a word is made of the 11 bits above. -/
theorem toNat_unpackExponent : (unpackExponent b).toNat = b.toNat / 2 ^ 52 % 2 ^ 11 := by
  simp only [unpackExponent, BitVec.toNat_cast, BitVec.extractLsb_toNat, Nat.shiftRight_eq_div_pow]

/-- The sign of a word is its highest bit. -/
theorem toNat_unpackSign : (unpackSign b).toNat = b.toNat / 2 ^ 63 % 2 := by
  simp only [unpackSign, BitVec.toNat_cast, BitVec.extractLsb_toNat, Nat.shiftRight_eq_div_pow]

/-- A sign is the minus sign exactly if its bit is set. -/
theorem isMinus_ofBitVec (v : BitVec 1) : isMinus (Sign.ofBitVec v) = (v.toNat == 1) := by
  revert v
  decide

/-- The bit in front of a mantissa counts for two to the power of 52. -/
theorem toNat_implicit_append (m : BitVec 52) : (1#1 ++ m).toNat = 2 ^ 52 + m.toNat := by
  rw [BitVec.toNat_append, ← Nat.shiftLeft_add_eq_or_of_lt m.isLt]
  rfl

/-- The readings of a word by its exponent and mantissa fields. -/
inductive Unpacks (b : BitVec Format.binary64.numBits) : UnpackedFloat → Prop
  | infinity (he : unpackExponent b = -1#11) (hm : unpackMantissa b = 0#52) :
    Unpacks b (.infinity (Sign.ofBitVec (unpackSign b)))
  | notANumber (he : unpackExponent b = -1#11) (hm : 0 < (unpackMantissa b).toNat) :
    Unpacks b .notANumber
  | zero (he : unpackExponent b = 0#11) (hm : unpackMantissa b = 0#52) :
    Unpacks b (.zero (Sign.ofBitVec (unpackSign b)))
  | subnormal (he : unpackExponent b = 0#11) (hm : 0 < (unpackMantissa b).toNat) :
    Unpacks b (.finite (Sign.ofBitVec (unpackSign b)) (unpackMantissa b).toNat (-1074) hm)
  | normal (hfirst : 0 < (unpackExponent b).toNat) (hlast : (unpackExponent b).toNat < 2047)
      (hm : 0 < 2 ^ 52 + (unpackMantissa b).toNat) :
    Unpacks b (.finite (Sign.ofBitVec (unpackSign b)) (2 ^ 52 + (unpackMantissa b).toNat)
      ((unpackExponent b).toNat - 1075) hm)

/-- Every word is read in one of these ways. -/
theorem unpacks (b : BitVec Format.binary64.numBits) :
    Unpacks b (UnpackedFloat.unpack Format.binary64 b) := by
  have hexp : (unpackExponent b).toNat < 2 ^ 11 := (unpackExponent b).isLt
  have hpos : ∀ {n : Nat} {v : BitVec n}, v ≠ 0#n → 0 < v.toNat := fun h =>
    Nat.pos_of_ne_zero fun hz => h (BitVec.eq_of_toNat_eq hz)
  unfold UnpackedFloat.unpack
  dsimp only
  by_cases hlast : unpackExponent b = -1#11
  · rw [if_pos hlast]
    by_cases hm : unpackMantissa b = 0#52
    · rw [if_pos hm]
      exact .infinity hlast hm
    · rw [if_neg hm]
      exact .notANumber hlast (hpos hm)
  · rw [if_neg hlast]
    by_cases hfirst : unpackExponent b = 0#11
    · rw [if_pos hfirst]
      by_cases hm : unpackMantissa b = 0#52
      · rw [dif_pos hm]
        exact .zero hfirst hm
      · rw [dif_neg hm]
        simp only [hfirst]
        exact .subnormal hfirst (hpos hm)
    · rw [if_neg hfirst]
      have hlast' : (unpackExponent b).toNat ≠ 2047 := fun h => hlast (BitVec.eq_of_toNat_eq h)
      simp only [toNat_implicit_append]
      exact .normal (hpos hfirst) (by omega) (by omega)

end Fields

/-- Unpacking a word reads what its bits denote. -/
theorem ofUnpacked_unpack_word (b : BitVec Format.binary64.numBits) :
    ofUnpacked (UnpackedFloat.unpack Format.binary64 b) = ofBits b.toNat := by
  have hsign : isMinus (Sign.ofBitVec (unpackSign b)) = (b.toNat / 2 ^ 63 % 2 == 1) := by
    rw [isMinus_ofBitVec, toNat_unpackSign]
  rw [ofBits]
  simp only [Nat.pow_eq, ← toNat_unpackExponent, ← toNat_unpackMantissa, ← hsign]
  have hb := unpacks b
  generalize UnpackedFloat.unpack Format.binary64 b = u at hb
  cases hb with
  | infinity he hm => rw [he, hm]; rfl
  | notANumber he hm =>
    rw [he, if_pos (show (-1#11).toNat = 2047 from rfl), if_neg (Nat.ne_of_gt hm)]
    rfl
  | zero he hm => rw [he, hm]; rfl
  | subnormal he hm => rw [he]; rfl
  | normal hfirst hlast hm =>
    rw [if_neg (Nat.ne_of_lt hlast), if_neg (Nat.ne_of_gt hfirst)]
    rfl

/-- Unpacking reads what a number denotes. -/
theorem ofUnpacked_unpack (x : Float) : ofUnpacked x.toModel.unpack = of x :=
  ofUnpacked_unpack_word x.toModel.toBits.toBitVec

/-- A mantissa and exponent of a finite number other than zero, as they stand in its word. -/
structure Canonical (m : Nat) (e : Int) : Prop where
  pos : 0 < m
  lt : m < 2 ^ 53
  normal : 2 ^ 52 ≤ m ∨ e = -1074
  least : -1074 ≤ e
  most : e ≤ 971

/-- Words hold canonical numbers. -/
theorem canonical_of_unpack {b : BitVec Format.binary64.numBits} {s : Sign} {m : Nat} {e : Int}
    {hm : 0 < m} (h : UnpackedFloat.unpack Format.binary64 b = .finite s m e hm) :
    Canonical m e := by
  have hman : (unpackMantissa b).toNat < 2 ^ 52 := (unpackMantissa b).isLt
  have hb := unpacks b
  rw [h] at hb
  cases hb with
  | subnormal he => exact ⟨hm, by omega, .inr rfl, by omega, by omega⟩
  | normal hfirst hlast => exact ⟨hm, by omega, .inl (by omega), by omega, by omega⟩

/-- A number with a full mantissa is packed without the leading bit. -/
theorem pack_normal {s : Sign} {m : Nat} {e : Int} (c : Canonical m e) (hm : 2 ^ 52 ≤ m) :
    UnpackedFloat.pack Format.binary64 (.finite s m e c.pos) =
      packComponents Format.binary64 s (BitVec.ofNat 11 (e + 1075).toNat) (BitVec.ofNat 52 m) := by
  have hexp : (e + (1023 : Nat) + (52 : Nat)).toNat = (e + 1075).toNat := by omega
  have hlog : m.log2 + 1 = 53 := by
    rw [(Nat.log2_eq_iff (Nat.ne_of_gt c.pos)).mpr ⟨hm, c.lt⟩]
  change (if 2048 ≤ (e + (1023 : Nat) + (52 : Nat)).toNat + 1 then _
    else if m.log2 + 1 = 53 then _ else _) = _
  rw [if_neg (by have := c.most; omega), if_pos hlog]
  exact congrArg
    (fun n => packComponents Format.binary64 s (BitVec.ofNat 11 n) (BitVec.ofNat 52 m)) hexp

/-- A number below all full mantissas is packed with exponent zero. -/
theorem pack_subnormal {s : Sign} {m : Nat} (hpos : 0 < m) (hm : m < 2 ^ 52) :
    UnpackedFloat.pack Format.binary64 (.finite s m (-1074) hpos) =
      packComponents Format.binary64 s 0#11 (BitVec.ofNat 52 m) := by
  have hlog : m.log2 < 52 := (Nat.log2_lt (Nat.ne_of_gt hpos)).mpr hm
  rw [UnpackedFloat.pack]
  dsimp only
  rw [if_neg (by decide), if_neg (by rw [show Format.binary64.mantissaBits = 53 from rfl]; omega)]

/-- Unpacking undoes packing on canonical numbers. -/
theorem unpack_pack {s : Sign} {m : Nat} {e : Int} (c : Canonical m e) :
    UnpackedFloat.unpack Format.binary64
        (UnpackedFloat.pack Format.binary64 (.finite s m e c.pos)) =
      .finite s m e c.pos := by
  have hlt := c.lt
  by_cases hm : 2 ^ 52 ≤ m
  · have hexp : (BitVec.ofNat 11 (e + 1075).toNat).toNat = (e + 1075).toNat := by
      rw [BitVec.toNat_ofNat, Nat.mod_eq_of_lt (by have := c.most; omega)]
    have hlast : BitVec.ofNat 11 (e + 1075).toNat ≠ -1#11 := by
      rw [Ne, BitVec.toNat_eq, hexp, show (-1#11).toNat = 2047 from rfl]
      have := c.most
      omega
    have hfirst : BitVec.ofNat 11 (e + 1075).toNat ≠ 0#11 := by
      rw [Ne, BitVec.toNat_eq, hexp, show (0#11).toNat = 0 from rfl]
      have := c.least
      omega
    have hman : (1#1 ++ BitVec.ofNat 52 m).toNat = m := by
      rw [toNat_implicit_append, BitVec.toNat_ofNat]
      omega
    rw [pack_normal c hm, UnpackedFloat.unpack]
    simp only [unpackMantissa_packComponents, unpackExponent_packComponents,
      unpackSign_packComponents, Sign.ofBitVec_toBitVec, if_neg hlast, if_neg hfirst, hman, hexp]
    congr 1
    change ((e + 1075).toNat : Int) - (1023 + 52) = e
    have := c.least
    omega
  · have he : e = -1074 := c.normal.resolve_left hm
    subst he
    have hm' : m < 2 ^ 52 := by omega
    have hman : (BitVec.ofNat 52 m).toNat = m := by
      rw [BitVec.toNat_ofNat, Nat.mod_eq_of_lt hm']
    have hzero : BitVec.ofNat 52 m ≠ 0#52 := by
      rw [Ne, BitVec.toNat_eq, hman, show (0#52).toNat = 0 from rfl]
      exact Nat.ne_of_gt c.pos
    rw [pack_subnormal c.pos hm', UnpackedFloat.unpack]
    simp only [unpackMantissa_packComponents, unpackExponent_packComponents,
      unpackSign_packComponents, Sign.ofBitVec_toBitVec, hman]
    rw [if_neg (by decide), if_pos trivial, dif_neg hzero]
    rfl

end BinaryValue

end Telemetry
