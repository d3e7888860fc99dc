import Telemetry.Proofs.Condition.Faults
import Telemetry.Proofs.Decimal.Overflow
import Telemetry.Proofs.Text.Integers

/-!
# Whole numbers of conditions

An operation on integers ends with the integer that is its mathematical result, or with a fault that
says why there is none. The text of an integer is different: beyond 64 bits it is read as a binary64
number first, so that the integer at the end of the words stands for it until that number is
infinite.
-/

namespace Telemetry.Condition

/-- The mathematical result of an operator on two integers. -/
def BinaryOp.exact? (m n : Int) : BinaryOp → Option Int
  | add => some (m + n)
  | subtract => some (m - n)
  | multiply => some (m * n)
  | modulo => if n = 0 then none else some (m.tmod n)
  | _ => none

/-- Whether an operator on two integers has an integer as its result. -/
def BinaryOp.isWhole : BinaryOp → Bool
  | add | subtract | multiply | modulo => true
  | _ => false

namespace Value

variable {n : Int} {s : String} {cs : List Char}

/-- Whether a value is the integer of this size. -/
def Denotes (v : Value) (n : Int) : Prop := ∃ w : Int64, v = int w ∧ w.toInt = n

/-- A result that fits its word is exact, and any other one is refused. -/
theorem ofExact_denotes (n : Int) : (ofExact n).Ends (·.Denotes n)
    fun fault => fault = .integerOverflow ∧ exactInt64? n = none := by
  unfold ofExact
  split
  · rename_i w hw
    exact .ok ⟨w, rfl, exactInt64?_eq_some_iff.mp hw⟩
  · rename_i hn
    exact .error ⟨rfl, hn⟩

/-! ## Operators -/

/-- An operator on two integers has its mathematical result or one of its faults. -/
theorem applyBinary_denotes {patterns : Pattern.Engine} {op : BinaryOp} (hop : op.isWhole = true)
    (m n : Int64) :
    ((int m).applyBinary patterns op (int n)).Ends
      (fun v => ∃ k, op.exact? m.toInt n.toInt = some k ∧ v.Denotes k)
      (op.FailsOn patterns (int m) (int n)) := by
  cases op with
  | add | subtract | multiply =>
    refine ((ofExact_denotes _).imp fun v hv => ⟨_, rfl, hv⟩).imp_fault ?_
    rintro fault ⟨rfl, hfit⟩
    exact .overflow rfl hfit
  | modulo =>
    by_cases hzero : n = 0
    · rw [hzero]
      exact .error .byZero
    by_cases hquotient : m = Int64.minValue ∧ n = -1
    · obtain ⟨rfl, rfl⟩ := hquotient
      exact .error (.overflow rfl (by decide))
    · have hresult : (int m).applyBinary patterns .modulo (int n) =
          ofExact (m.toInt.tmod n.toInt) := by
        simp [applyBinary, arithmetic, integerResult, hzero, hquotient]
      have hnonzero : n.toInt ≠ 0 := fun h => hzero (Int64.toInt_inj.mp h)
      rw [hresult]
      refine ((ofExact_denotes _).imp fun v hv => ⟨_, if_neg hnonzero, hv⟩).imp_fault ?_
      rintro fault ⟨-, hfit⟩
      exact absurd hfit (exactInt64?_tmod _ hzero)
  | _ => exact absurd hop (by simp [BinaryOp.isWhole])

/-- A negation has the exact result, or it fails as the least integer does. -/
theorem applyUnary_denotes (n : Int64) : ((int n).applyUnary .negate).Ends (·.Denotes (-n.toInt))
    (UnaryOp.negate.FailsOn (int n)) := by
  refine (ofExact_denotes _).imp_fault ?_
  rintro fault ⟨rfl, hfit⟩
  exact .overflow hfit

/-- An absolute value is exact, or it fails as that of the least integer does. -/
theorem apply_abs_denotes (n : Int64) : ((int n).apply .abs).Ends (·.Denotes |n.toInt|)
    (Builtin.abs.FailsOn (int n)) := by
  rw [Int.abs_eq_natAbs]
  refine (ofExact_denotes _).imp_fault ?_
  rintro fault ⟨rfl, hfit⟩
  exact .absolute hfit

/-! ## Texts of integers -/

/-- An integer that fits its word is not moved by clamping. -/
theorem ofIntClamp_of_exactInt64? {w : Int64} (h : exactInt64? n = some w) :
    Int64.ofIntClamp n = w := by
  rw [exactInt64?] at h
  by_cases hn : Int64.minValue.toInt ≤ n ∧ n ≤ Int64.maxValue.toInt
  · rw [if_pos hn] at h
    rw [Int64.ofIntClamp, dif_pos hn.1, dif_pos hn.2]
    exact Option.some.inj h
  · rw [if_neg hn] at h
    exact absurd h (by simp)

/-- The integers that do not fit a word of 64 bits are those beyond its ends. -/
theorem exactInt64?_eq_none_iff : exactInt64? n = none ↔ 2 ^ 63 ≤ n ∨ n < -2 ^ 63 := by
  have hmin : Int64.minValue.toInt = -2 ^ 63 := rfl
  have hmax : Int64.maxValue.toInt = 2 ^ 63 - 1 := rfl
  rw [exactInt64?, ite_eq_right_iff]
  constructor
  · intro h
    by_contra hn
    exact absurd (h (by omega)) (by simp)
  · intro h hn
    omega

/-- Clamping moves an integer above the ends to the greatest word. -/
theorem ofIntClamp_of_ge (h : 2 ^ 63 ≤ n) : Int64.ofIntClamp n = Int64.maxValue := by
  have hmin : Int64.minValue.toInt = -2 ^ 63 := rfl
  have hmax : Int64.maxValue.toInt = 2 ^ 63 - 1 := rfl
  rw [Int64.ofIntClamp, dif_pos (by omega), dif_neg (by omega)]

/-- Clamping moves an integer below the ends to the least word. -/
theorem ofIntClamp_of_le (h : n ≤ -2 ^ 63) : Int64.ofIntClamp n = Int64.minValue := by
  have hmin : Int64.minValue.toInt = -2 ^ 63 := rfl
  rcases h.lt_or_eq with hlt | rfl
  · rw [Int64.ofIntClamp, dif_neg (by omega)]
  · rfl

/-- The number nearest to a whole number beyond 64 bits, with the sign of that number. -/
theorem truncated_toFloat (h : exactInt64? n = none) :
    truncated (if n < 0 then -Decimal.toFloat ⟨n.natAbs, 0⟩ else Decimal.toFloat ⟨n.natAbs, 0⟩) =
      if n.natAbs < BinaryValue.overflow then some (int (.ofIntClamp n)) else none := by
  have hsize := exactInt64?_eq_none_iff.mp h
  have hlarge : 2 ^ 63 ≤ n.natAbs := by omega
  by_cases hover : n.natAbs < BinaryValue.overflow
  · obtain ⟨m, e, he, hme, hplus, hminus⟩ := BinaryValue.of_toFloat_of_lt hlarge hover
    have htruncate : ∀ negative, (BinaryValue.finite negative m e).truncate? =
        some (if negative then -((m * 2 ^ e.toNat : Nat) : Int) else (m * 2 ^ e.toNat : Nat)) := by
      intro negative
      simp [BinaryValue.truncate?, BinaryValue.fraction, he]
    generalize m * 2 ^ e.toNat = k at hme htruncate
    rw [if_pos hover, truncated]
    by_cases hn : n < 0
    · have hlow : -(k : Int) ≤ -2 ^ 63 := by omega
      rw [if_pos hn, hminus, htruncate, if_pos rfl, Option.map_some, ofIntClamp_of_le hlow,
        ofIntClamp_of_le (n := n) (by omega)]
    · have hhigh : 2 ^ 63 ≤ (k : Int) := by omega
      rw [if_neg hn, hplus, htruncate, if_neg Bool.false_ne_true, Option.map_some,
        ofIntClamp_of_ge hhigh, ofIntClamp_of_ge (n := n) (by omega)]
  · obtain ⟨hplus, hminus⟩ := BinaryValue.of_toFloat_of_le (not_lt.mp hover)
    rw [if_neg hover, truncated]
    by_cases hn : n < 0
    · rw [if_pos hn, hminus]
      rfl
    · rw [if_neg hn, hplus]
      rfl

/-- The text of an integer is read as the nearest word, up to where the number in between is
infinite. -/
theorem readInteger?_eq (h : Text.ShowsInteger n cs) :
    readInteger? cs =
      if n.natAbs < BinaryValue.overflow then some (int (.ofIntClamp n)) else none := by
  rw [readInteger?, h.readInt?_eq, Option.bind_some]
  cases hn : exactInt64? n with
  | some w =>
    have hfits : ¬(2 ^ 63 ≤ n ∨ n < -2 ^ 63) := by
      rw [← exactInt64?_eq_none_iff, hn]
      exact Option.some_ne_none w
    have hsmall : n.natAbs < BinaryValue.overflow :=
      lt_of_le_of_lt (by omega) BinaryValue.word_lt_overflow
    rw [if_pos hsmall, ofIntClamp_of_exactInt64? hn]
  | none =>
    have hzero : n ≠ 0 := by
      rintro rfl
      exact absurd hn (by decide)
    rw [h.readFloat?_eq hzero, Option.bind_some, truncated_toFloat hn]

/-- What the text of an integer is converted to. -/
theorem apply_int_eq (h : Text.IsInteger s n) :
    (text s).apply .int =
      if n.natAbs < BinaryValue.overflow then .ok (int (.ofIntClamp n))
      else .error (.unreadableInteger (Text.trim s)) := by
  have hread := readInteger?_eq h.trimmed
  by_cases hover : n.natAbs < BinaryValue.overflow
  · rw [if_pos hover] at hread ⊢
    simp only [apply, hread]
  · rw [if_neg hover] at hread ⊢
    simp only [apply, hread]

/-- The text of an integer is converted to this integer, or refused, exactly if the integer fits a
word or is so large that the number in between is infinite. -/
theorem apply_int_denotes_iff (h : Text.IsInteger s n) :
    ((text s).apply .int).Ends (·.Denotes n) (fun _ => True) ↔
      exactInt64? n ≠ none ∨ BinaryValue.overflow ≤ n.natAbs := by
  rw [apply_int_eq h]
  by_cases hover : n.natAbs < BinaryValue.overflow
  · rw [if_pos hover, or_iff_left (not_le.mpr hover)]
    constructor
    · rintro hends hnone
      obtain ⟨w, hw, hdenotes⟩ := hends.result_of_eq rfl
      have hfits := exactInt64?_eq_some_iff.mpr hdenotes
      exact absurd (hnone.symm.trans hfits) (by simp)
    · intro hfits
      obtain ⟨w, hw⟩ := Option.ne_none_iff_exists'.mp hfits
      rw [ofIntClamp_of_exactInt64? hw]
      exact .ok ⟨w, rfl, exactInt64?_eq_some_iff.mp hw⟩
  · rw [if_neg hover]
    exact iff_of_true (.error trivial) (.inr (not_lt.mp hover))

/-- The first integer beyond 64 bits is taken for the last one of 64 bits. -/
theorem apply_int_beyond : ¬ ∀ s n, Text.IsInteger s n →
    ((text s).apply .int).Ends (·.Denotes n) (fun _ => True) := by
  intro h
  have hs : Text.IsInteger "9223372036854775808" (2 ^ 63) := by
    refine ⟨[], _, [], ?_, by simp, by simp, .of_digits _⟩
    simp only [String.reduceToList, List.nil_append, List.append_nil]
    decide +kernel
  rcases (apply_int_denotes_iff hs).mp (h _ _ hs) with hfits | hlarge
  · exact hfits (by decide)
  · exact absurd BinaryValue.word_lt_overflow (not_lt.mpr hlarge)

end Value

namespace Node

/-- Evaluation ends with the exact integer or with a fault of the operation for the operators, the
minus sign and `abs`; for the text of an integer that fits no word, `int` gives the end of the words
until the integer is too large for a finite number. -/
theorem integers_exact_or_clamped (patterns : Pattern.Engine) (scope : Scope) :
    (∀ op left right m n, BinaryOp.isWhole op = true → eval patterns scope left = .ok (.int m) →
      eval patterns scope right = .ok (.int n) →
      (eval patterns scope (.binary op left right)).Ends
        (fun v => ∃ k, op.exact? m.toInt n.toInt = some k ∧ v.Denotes k)
        (op.FailsOn patterns (.int m) (.int n))) ∧
    (∀ operand n, eval patterns scope operand = .ok (.int n) →
      (eval patterns scope (.unary .negate operand)).Ends (·.Denotes (-n.toInt))
        (UnaryOp.negate.FailsOn (.int n)) ∧
      (eval patterns scope (.call .abs operand)).Ends (·.Denotes |n.toInt|)
        (Builtin.abs.FailsOn (.int n))) ∧
    (∀ operand s n, eval patterns scope operand = .ok (.text s) → Text.IsInteger s n →
      eval patterns scope (.call .int operand) =
        (if n.natAbs < BinaryValue.overflow then .ok (.int (.ofIntClamp n))
        else .error (.unreadableInteger (Text.trim s))) ∧
      ((eval patterns scope (.call .int operand)).Ends (·.Denotes n) (fun _ => True) ↔
        exactInt64? n ≠ none ∨ BinaryValue.overflow ≤ n.natAbs)) := by
  refine ⟨?_, ?_, ?_⟩
  · intro op left right m n hop hleft hright
    have heval : eval patterns scope (.binary op left right) =
        (Value.int m).applyBinary patterns op (.int n) := by
      cases op with
      | add | subtract | multiply | modulo =>
        simp only [eval, hleft, hright]
        rfl
      | _ => exact absurd hop (by simp [BinaryOp.isWhole])
    rw [heval]
    exact Value.applyBinary_denotes hop m n
  · intro operand n hoperand
    constructor
    · have heval : eval patterns scope (.unary .negate operand) =
          (Value.int n).applyUnary .negate := by
        simp only [eval, hoperand]
        rfl
      rw [heval]
      exact Value.applyUnary_denotes n
    · have heval : eval patterns scope (.call .abs operand) = (Value.int n).apply .abs := by
        simp only [eval, hoperand]
        rfl
      rw [heval]
      exact Value.apply_abs_denotes n
  · intro operand s n hoperand hs
    have heval : eval patterns scope (.call .int operand) = (Value.text s).apply .int := by
      simp only [eval, hoperand]
      rfl
    rw [heval]
    exact ⟨Value.apply_int_eq hs, Value.apply_int_denotes_iff hs⟩

/-- The remainder of the least integer and an absolute value are exact, and the text of an integer
one below the least is read as the least. -/
theorem integers_exact_or_clamped_below :
    ∃ scope : Scope,
      (eval .standard scope
        (.binary .modulo (.constant (.int Int64.minValue)) (.constant (.int 10)))).Ends
        (fun v => ∃ k, BinaryOp.modulo.exact? Int64.minValue.toInt (10 : Int64).toInt = some k ∧
          v.Denotes k) (BinaryOp.modulo.FailsOn .standard (.int Int64.minValue) (.int 10)) ∧
      (eval .standard scope (.call .abs (.constant (.int (-5))))).Ends
        (·.Denotes |(-5 : Int64).toInt|)
        (Builtin.abs.FailsOn (.int (-5))) ∧
      Text.IsInteger " -9223372036854775809\n" (-2 ^ 63 - 1) ∧
      eval .standard scope (.call .int (.constant (.text " -9223372036854775809\n"))) =
        .ok (.int Int64.minValue) := by
  have hs : Text.IsInteger " -9223372036854775809\n" (-2 ^ 63 - 1) := by
    have hblank : ∀ c ∈ [' '], Text.isBlank c = true := List.forall_mem_singleton.mpr rfl
    have hfeed : ∀ c ∈ ['\n'], Text.isBlank c = true := List.forall_mem_singleton.mpr rfl
    refine ⟨_, _, _, ?_, hblank, hfeed, .of_digits _⟩
    simp only [String.reduceToList]
    decide +kernel
  have hsmall : (-2 ^ 63 - 1 : Int).natAbs < BinaryValue.overflow := by
    decide +kernel
  have h := integers_exact_or_clamped .standard
    ⟨fun _ => .nil, fun _ _ => none, fun _ _ => none⟩
  refine ⟨_, h.1 .modulo _ _ _ _ rfl rfl rfl, (h.2.1 _ _ rfl).2, hs, ?_⟩
  rw [(h.2.2 _ _ _ rfl hs).1, if_pos hsmall, Value.ofIntClamp_of_le (by decide)]

end Node

end Telemetry.Condition
