import Mathlib.Algebra.Group.Nat.Defs
import Telemetry.Text.Digits

/-!
# Digits that are written and read
-/

namespace Telemetry.Text

/-- The digits of core are the ten ASCII digits. -/
theorem isDigit_of_core {c : Char} (h : c.isDigit = true) : isDigit c = true := by
  simp only [Char.isDigit, Bool.and_eq_true, decide_eq_true_eq] at h
  simp only [isDigit, Bool.and_eq_true, decide_eq_true_eq]
  exact h

/-- A number is written in digits alone. -/
theorem isDigit_of_mem_digits {n : Nat} {c : Char} (h : c ∈ digits n) : isDigit c = true :=
  isDigit_of_core (Nat.isDigit_of_mem_toDigits (by decide) (by decide) h)

/-- A number is written with one digit at least. -/
theorem digits_ne_nil (n : Nat) : digits n ≠ [] := Nat.toDigits_ne_nil

/-- Only zero has a leading zero. -/
theorem eq_zero_of_head?_digits {n : Nat} (h : (digits n).head? = some '0') : n = 0 := by
  induction n using Nat.strongRecOn with
  | ind n ih =>
    by_cases hn : n < 10
    · have hdigit : ∀ n < 10, [Nat.digitChar n].head? = some '0' → n = 0 := by decide
      rw [digits, Nat.toDigits_of_lt_base hn] at h
      exact hdigit n hn h
    · have hsplit : digits n = digits (n / 10) ++ [(n % 10).digitChar] :=
        Nat.toDigits_of_base_le (by decide) (by omega)
      obtain ⟨c, cs, hcs⟩ := List.exists_cons_of_ne_nil (digits_ne_nil (n / 10))
      rw [hsplit, hcs] at h
      have := ih (n / 10) (by omega) (hcs ▸ h)
      omega

/-- The digits of a number denote the number. -/
theorem digitsValue_digits (n : Nat) : digitsValue (digits n) = n := by
  have h : digitsValue (digits n) = Nat.ofDigitChars 10 (Nat.toDigits 10 n) 0 := by
    rw [Nat.ofDigitChars_eq_foldl]
    rfl
  rw [h, Nat.ofDigitChars_ten_toDigits]

/-- Digits in front of others count for as many powers of ten as there are others. -/
theorem digitsValue_append (cs ds : List Char) :
    digitsValue (cs ++ ds) = digitsValue cs * 10 ^ ds.length + digitsValue ds := by
  have hfold : ∀ (ds : List Char) (n : Nat), ds.foldl (fun n c => 10 * n + digitValue c) n =
      n * 10 ^ ds.length + digitsValue ds := by
    intro ds
    induction ds with
    | nil => intro n; simp [digitsValue]
    | cons d ds ih =>
      intro n
      rw [digitsValue, List.foldl_cons, List.foldl_cons, ih, ih, List.length_cons, Nat.pow_succ]
      grind
  rw [digitsValue, List.foldl_append, hfold]
  rfl

/-- Zeros denote nothing. -/
theorem digitsValue_zeros (n : Nat) : digitsValue (List.replicate n '0') = 0 := by
  induction n with
  | zero => rfl
  | succ n ih =>
    rw [List.replicate_succ, ← List.singleton_append, digitsValue_append, ih]
    simp [digitsValue, digitValue]

/-- Digits are read as the number that they denote. -/
theorem readNat?_digits (n : Nat) : readNat? (digits n) = some n := by
  have hall : (digits n).all isDigit = true :=
    List.all_eq_true.mpr fun _ hc => isDigit_of_mem_digits hc
  simp [readNat?, hall, digits_ne_nil, digitsValue_digits]

/-- A whole number is written as its digits. -/
theorem toList_toString (n : Nat) : (toString n).toList = digits n := by
  rw [Nat.toString_eq_ofList_toDigits, String.toList_ofList]
  rfl

/-- An integer is written as the digits of its magnitude, behind a minus sign if it is negative. -/
theorem toList_toString_int (n : Int) :
    (toString n).toList = if n < 0 then '-' :: digits n.natAbs else digits n.natAbs := by
  cases n with
  | ofNat m =>
    rw [if_neg (Int.not_lt.mpr (Int.natCast_nonneg m) : ¬ Int.ofNat m < 0)]
    exact toList_toString m
  | negSucc m =>
    rw [if_pos (Int.negSucc_lt_zero m), Int.natAbs_negSucc, ← toList_toString]
    simp [toString, Int.repr, Nat.repr]

/-- An integer is read back from its digits. -/
theorem readInt?_toString (n : Int) : readInt? (toString n).toList = some n := by
  rw [toList_toString_int]
  split
  · rename_i hn
    rw [readInt?, readNat?_digits]
    exact congrArg some (by omega : -(n.natAbs : Int) = n)
  · rename_i hn
    have hfirst : ∀ c rest, digits n.natAbs = c :: rest → isDigit c = true := fun c rest h =>
      isDigit_of_mem_digits (n := n.natAbs) (h ▸ List.mem_cons_self)
    rw [readInt?, readNat?_digits]
    · exact congrArg some (by omega : (n.natAbs : Int) = n)
    · exact fun cs h => nomatch hfirst _ _ h
    · exact fun cs h => nomatch hfirst _ _ h

end Telemetry.Text
