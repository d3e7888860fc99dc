import Telemetry.Proofs.Decimal.Nearest
import Telemetry.Proofs.Decimal.Positional

/-!
# Shortest decimals read back

The shortest decimal of a binary64 number becomes that number again, and so does its positional
text: every finite number is read back from its plain text, so that different numbers have
different texts.
-/

namespace Telemetry

open Float.Model Float.Model.UnpackedFloat

namespace BinaryValue

variable {x y : Float} {s : Sign} {m : ℕ} {e : ℤ} {hm : 0 < m}

/-- A finite number has a sign, a mantissa and a power of two; it is zero or canonical. -/
theorem exists_canonical_of_isFinite (h : x.isFinite = true) :
    ∃ negative m e, of x = .finite negative m e ∧ (m = 0 ∨ Canonical m e) := by
  change x.toModel.unpack.isFinite = true at h
  rw [← ofUnpacked_unpack]
  cases hu : x.toModel.unpack with
  | notANumber => rw [hu] at h; nomatch h
  | infinity s => rw [hu] at h; nomatch h
  | zero s => exact ⟨_, _, _, rfl, .inl rfl⟩
  | finite s m e hm => exact ⟨_, _, _, rfl, .inr (canonical_of_unpack hu)⟩

/-- A number is what its unpacked form is packed into. -/
theorem pack_unpack_model (x : Float) : Float.ofModel (.pack x.toModel.unpack) = x := by
  obtain ⟨⟨bits, valid⟩⟩ := x
  have hbits : UInt64.ofBitVec (UnpackedFloat.pack Format.binary64
      (UnpackedFloat.unpack Format.binary64 bits.toBitVec)) = bits := by
    rw [pack_unpack_of_valid valid]
  simp only [Float.Model.pack, Float.Model.unpack, hbits]

/-- Equal magnitudes are one number. -/
theorem eq_of_beq (hx : x.toModel.unpack = .finite .positive m e hm) (h : (y == x) = true) :
    y = x := by
  -- Only the zeros are equal and differ, and no zero has a magnitude.
  obtain ⟨-, -, rfl | ⟨-, rfl⟩ | ⟨-, rfl⟩⟩ := Float.beq_iff_ne_nan_and_eq.mp h
  · rfl
  · cases hx
  · cases hx

/-- The sign of a number. -/
theorem neg_ofModel_pack (c : Canonical m e) :
    -Float.ofModel (.pack (.finite .positive m e c.pos)) =
      .ofModel (.pack (.finite .negative m e c.pos)) := by
  change Float.ofModel (.pack (Float.Model.pack (.finite .positive m e c.pos)).unpack.neg) = _
  rw [unpack_pack_model c]
  rfl

end BinaryValue

namespace Decimal

open BinaryValue Text

variable {m : ℕ} {e : ℤ}

/-- Moving zeros between the digits and the power of ten keeps the value. -/
theorem value_shift (n k : ℕ) (e : ℤ) : value ⟨n * 10 ^ k, e⟩ = value ⟨n, e + k⟩ := by
  simp only [value]
  rw [zpow_add₀ (by norm_num), zpow_natCast]
  push_cast
  ring

/-- The shown form of a decimal stands for the same number. -/
theorem value_shown (d : Decimal) : d.shown.value = d.value := by
  unfold shown
  split
  · rename_i he
    rw [value_shift, zero_add, Int.toNat_of_nonneg he]
  · rfl

/-- Zeros at the end may be dropped from the digits if the exponent goes up for them. -/
theorem value_dropZeros (n : ℕ) (d : Decimal) : (dropZeros n d).value = d.value := by
  induction n generalizing d with
  | zero => rfl
  | succ n ih =>
    unfold dropZeros
    split
    · rename_i hzero
      have hdigits : d.digits / 10 * 10 ^ 1 = d.digits := by omega
      have := value_shift (d.digits / 10) 1 d.exponent
      rw [hdigits] at this
      rw [ih]
      exact this.symm
    · rfl

/-- Every binary number has a decimal that stands for exactly this number. -/
theorem value_exact (m : ℕ) (e : ℤ) : (exact m e).value = m * 2 ^ e := by
  unfold exact
  split
  · rename_i he
    simp only [value, Nat.pow_eq]
    rw [zpow_zero, mul_one]
    push_cast
    rw [← zpow_natCast, Int.toNat_of_nonneg he]
  · rename_i he
    have hten : (10 : ℚ) ^ e = 2 ^ e * 5 ^ e := by rw [← mul_zpow]; norm_num
    have hfive : (5 : ℚ) ^ (-e).toNat * 5 ^ e = 1 := by
      rw [← zpow_natCast, Int.toNat_of_nonneg (by omega), ← zpow_add₀ (by norm_num), neg_add_cancel,
        zpow_zero]
    simp only [value, Nat.pow_eq]
    push_cast
    calc (m : ℚ) * 5 ^ (-e).toNat * 10 ^ e = m * 2 ^ e * (5 ^ (-e).toNat * 5 ^ e) := by
          rw [hten]
          ring
      _ = m * 2 ^ e := by rw [hfive, mul_one]

/-- A decimal that is found for a number becomes equal to it. -/
theorem toFloat_of_nearestWith {tie : Tie} {x : Float} {num den count : ℕ} {d : Decimal}
    (h : nearestWith tie x num den count = some d) : (d.toFloat == x) = true := by
  unfold nearestWith at h
  dsimp only at h
  split at h
  · nomatch h
  · rename_i hbelow _
    rwa [Option.some.inj h] at hbelow
  · rename_i _ habove
    rwa [Option.some.inj h] at habove
  · rename_i hbelow habove
    split at h
    · rwa [Option.some.inj h] at hbelow
    · rwa [Option.some.inj h] at habove
    · cases tie with
      | up => rwa [Option.some.inj h] at habove
      | even =>
        have hd := Option.some.inj h
        split at hd
        · rwa [hd] at hbelow
        · rwa [hd] at habove

/-- The shortest decimal becomes the number that it was found for. -/
theorem toFloat_shortest (tie : Tie) (c : Canonical m e) :
    (shortest tie m e).toFloat = .ofModel (.pack (.finite .positive m e c.pos)) := by
  have hexact := toFloat_of_canonical c (value_exact m e)
  unfold shortest
  rw [if_neg c.pos.ne']
  dsimp only
  rw [toFloat_congr (value_dropZeros _ _)]
  cases hfound : (List.range 17).findSome? fun n => nearestWith tie (exact m e).toFloat
      (fraction m e).1 (fraction m e).2 (n + 1) with
  | none => exact hexact
  | some d =>
    obtain ⟨n, -, hn⟩ := List.exists_of_findSome?_eq_some hfound
    have hbeq := toFloat_of_nearestWith hn
    rw [hexact] at hbeq
    exact eq_of_beq (unpack_pack_model c) hbeq

/-- Only the magnitude zero has a shortest decimal without digits other than zero. -/
theorem exponent_shortest {tie : Tie} (h : m = 0 ∨ Canonical m e)
    (hd : (shortest tie m e).digits = 0) : (shortest tie m e).exponent = 0 := by
  obtain rfl | c := h
  · rfl
  · -- the decimal would be read as zero, and not as the magnitude that it was found for
    have hfloat := toFloat_shortest tie c
    rw [toFloat, if_pos hd] at hfloat
    have hunpack := congrArg (fun x : Float => x.toModel.unpack) hfloat
    have hzero : (0.0 : Float).toModel.unpack = .zero .positive := rfl
    have hread := hzero.symm.trans (hunpack.trans (unpack_pack_model c))
    cases hread

/-- A digit is the same in lower case. -/
theorem toLower_of_isDigit {c : Char} (h : isDigit c = true) : c.toLower = c := by
  simp only [isDigit, Bool.and_eq_true, decide_eq_true_eq] at h
  unfold Char.toLower
  rw [dif_neg]
  rintro ⟨hlow, -⟩
  have h9 : c.val ≤ '9'.val := h.2
  have : 'A'.val ≤ '9'.val := UInt32.le_trans hlow h9
  exact absurd this (by decide)

/-- A text that starts with a digit names no number by a word. -/
theorem readFloat?_of_isDigit {c : Char} {rest : List Char} (hc : isDigit c = true)
    (negative : Bool) :
    readFloat? ((if negative then ['-'] else []) ++ c :: rest) =
      ((read? (c :: rest)).map toFloat).map fun x => if negative then -x else x := by
  have hword : ∀ w : String, w.toList.head?.any isDigit = false →
      (String.ofList ((c :: rest).map Char.toLower) == w) = false := by
    intro w hw
    refine beq_false_of_ne fun heq => ?_
    rw [← heq, String.toList_ofList, List.map_cons, toLower_of_isDigit hc] at hw
    simp [hc] at hw
  have hinf := hword "inf" rfl
  have hinfinity := hword "infinity" rfl
  have hnan := hword "nan" rfl
  have hsign : c ≠ '-' ∧ c ≠ '+' := by
    constructor <;> rintro rfl <;> nomatch hc
  cases negative with
  | true =>
    simp only [if_true, List.singleton_append, readFloat?, hinf, hinfinity, hnan, Bool.or_self,
      Bool.false_eq_true, if_false]
  | false =>
    simp only [Bool.false_eq_true, if_false, List.nil_append, readFloat?]
    split
    · rename_i heq
      exact absurd (List.cons.inj heq).1 hsign.1
    · rename_i heq
      exact absurd (List.cons.inj heq).1 hsign.2
    · simp only [hinf, hinfinity, hnan, Bool.or_self, Bool.false_eq_true, if_false]

/-- A text that shows a decimal is read as its number, with the sign in front of it. -/
theorem readFloat?_of_shows {d : Decimal} {cs : List Char} (h : Shows d cs) (negative : Bool) :
    readFloat? ((if negative then ['-'] else []) ++ cs) =
      some (if negative then -d.toFloat else d.toFloat) := by
  obtain ⟨c, rest, rfl, hc⟩ := h.exists_eq_cons
  rw [readFloat?_of_isDigit hc, h.read?_eq]
  rfl

namespace Layout

/-- The plain text of a finite number is its sign and the text of its shortest decimal. -/
theorem toList_render {x : Float} {negative : Bool} {m : ℕ} {e : ℤ}
    (hx : of x = .finite negative m e) :
    (plain.render x).toList =
      (if negative then ['-'] else []) ++ positionalText false (shortest .up m e) := by
  have hplain : ∀ d, plain.decimalText d = positionalText false d := fun d =>
    if_pos (by simp [isPositional, plain])
  unfold render
  rw [hx]
  dsimp only
  rw [String.toList_ofList, hplain]
  rfl

/-- The plain text of a finite number has digits, points and minus signs only. -/
theorem mem_render {x : Float} (hx : x.isFinite = true) {c : Char}
    (hc : c ∈ (plain.render x).toList) : isDigit c = true ∨ c = '.' ∨ c = '-' := by
  obtain ⟨negative, m, e, hof, -⟩ := exists_canonical_of_isFinite hx
  rw [toList_render hof] at hc
  obtain hc | hc := List.mem_append.mp hc
  · cases negative with
    | true => exact .inr (.inr (List.mem_singleton.mp hc))
    | false => nomatch hc
  · exact ((shows_positionalText _).isDigit_or_point c hc).imp_right .inl

/-- A finite number is read back from its plain text. -/
theorem readFloat?_render {x : Float} (hx : x.isFinite = true) :
    readFloat? (plain.render x).toList = some x := by
  have hpack := pack_unpack_model x
  have hof := (ofUnpacked_unpack x).symm
  change x.toModel.unpack.isFinite = true at hx
  cases hu : x.toModel.unpack with
  | notANumber => rw [hu] at hx; nomatch hx
  | infinity s => rw [hu] at hx; nomatch hx
  | zero s =>
    rw [hu] at hof hpack
    rw [toList_render hof, readFloat?_of_shows (shows_positionalText _), ← hpack]
    cases s with
    | positive => decide +kernel
    | negative => decide +kernel
  | finite s m e hm =>
    rw [hu] at hof hpack
    have c := canonical_of_unpack hu
    rw [toList_render hof, readFloat?_of_shows (shows_positionalText _),
      toFloat_congr (value_shown _), toFloat_shortest .up c, ← hpack]
    cases s with
    | positive => rfl
    | negative => exact congrArg some (neg_ofModel_pack c)

end Layout

end Decimal

end Telemetry
