/-!
# Computations that may fail

What a sequence of two computations comes to, by what its parts come to.
-/

namespace Except

/-- A sequence succeeds exactly if both of its parts do. -/
theorem bind_eq_ok_iff {ε α β : Type} {x : Except ε α} {f : α → Except ε β} {b : β} :
    (x >>= f) = .ok b ↔ ∃ a, x = .ok a ∧ f a = .ok b := by
  cases x with
  | error e => simp [bind, Except.bind]
  | ok a => simp [bind, Except.bind]

/-- A sequence fails exactly if its first part does, or its second part on the result of the
first. -/
theorem bind_eq_error_iff {ε α β : Type} {x : Except ε α} {f : α → Except ε β} {e : ε} :
    (x >>= f) = .error e ↔ x = .error e ∨ ∃ a, x = .ok a ∧ f a = .error e := by
  cases x with
  | error e => simp [bind, Except.bind]
  | ok a => simp [bind, Except.bind]

/-- A result that is changed afterwards is there exactly if the computation succeeds. -/
theorem map_eq_ok_iff {ε α β : Type} {x : Except ε α} {f : α → β} {b : β} :
    x.map f = .ok b ↔ ∃ a, x = .ok a ∧ f a = b := by
  cases x with
  | error e => simp [Except.map]
  | ok a => simp [Except.map]

/-- A computation has a result exactly if it succeeds with it. -/
theorem toOption_eq_some_iff {ε α : Type} {x : Except ε α} {a : α} :
    x.toOption = some a ↔ x = .ok a := by
  cases x <;> simp [Except.toOption]

/-- A sequence has the result that its parts have, if they have one. -/
theorem toOption_bind {ε α β : Type} (x : Except ε α) (f : α → Except ε β) :
    (x >>= f).toOption = x.toOption.bind fun a => (f a).toOption := by
  cases x <;> rfl

/-- Why a computation fails, if it does. -/
def fault? {ε α : Type} : Except ε α → Option ε
  | .ok _ => none
  | .error e => some e

/-- A sequence whose second part cannot fail fails as its first part does. -/
theorem fault?_bind_ok {ε α β : Type} (x : Except ε α) (f : α → β) :
    (x >>= fun a => .ok (f a)).fault? = x.fault? := by
  cases x <;> rfl

/-- How a computation ends: with a result of one sort, or with a fault of another. -/
inductive Ends {ε α : Type} (result : α → Prop) (fault : ε → Prop) : Except ε α → Prop where
  | ok {a : α} (h : result a) : Ends result fault (.ok a)
  | error {e : ε} (h : fault e) : Ends result fault (.error e)

namespace Ends

variable {ε α β : Type} {P R : α → Prop} {S : β → Prop} {Q T : ε → Prop} {x : Except ε α}

/-- A result is of the sort of results. -/
theorem result_of_eq {a : α} (h : x.Ends P Q) (hx : x = .ok a) : P a := by
  cases h with
  | ok h => exact Except.ok.inj hx ▸ h
  | error h => exact absurd hx (by simp)

/-- A fault is of the sort of faults. -/
theorem fault_of_eq {e : ε} (h : x.Ends P Q) (hx : x = .error e) : Q e := by
  cases h with
  | ok h => exact absurd hx (by simp)
  | error h => exact Except.error.inj hx ▸ h

/-- A sequence ends as its second part does on the results of the first. -/
theorem bind {f : α → Except ε β} (hx : x.Ends P Q) (hf : ∀ a, P a → (f a).Ends S Q) :
    (x >>= f).Ends S Q := by
  cases hx with
  | ok h => exact hf _ h
  | error h => exact .error h

/-- A result of one sort is also one of a wider sort. -/
theorem imp (hx : x.Ends P Q) (h : ∀ a, P a → R a) : x.Ends R Q := by
  cases hx with
  | ok ha => exact .ok (h _ ha)
  | error he => exact .error he

/-- A fault of one sort is also one of a wider sort. -/
theorem imp_fault (hx : x.Ends P Q) (h : ∀ e, Q e → T e) : x.Ends P T := by
  cases hx with
  | ok ha => exact .ok ha
  | error he => exact .error (h _ he)

end Ends

end Except
