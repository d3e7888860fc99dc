/-!
# Whole numbers that fit 64 bits

Arithmetic on words is done on whole numbers; `exactInt64?` takes the result back where it fits, so
that no result is ever wrapped.
-/

namespace Telemetry

/-- Whether a value fits 128 bits, signed or not. -/
def fits128 (n : Int) : Bool := -(Nat.pow 2 127 : Int) ≤ n && n < Nat.pow 2 128

/-- The signed word of this value, if there is one. -/
def exactInt64? (n : Int) : Option Int64 :=
  if Int64.minValue.toInt ≤ n ∧ n ≤ Int64.maxValue.toInt then some (Int64.ofInt n) else none

/-- A word is found exactly for its own value. -/
theorem exactInt64?_eq_some_iff {n : Int} {w : Int64} : exactInt64? n = some w ↔ w.toInt = n := by
  unfold exactInt64?
  constructor
  · intro h
    split at h
    · rename_i hn
      obtain rfl := Option.some.inj h
      exact Int64.toInt_ofInt_of_le hn.1 (Int.lt_of_le_sub_one hn.2)
    · simp at h
  · rintro rfl
    rw [if_pos ⟨w.minValue_le_toInt, w.toInt_le⟩, Int64.ofInt_toInt]

end Telemetry
