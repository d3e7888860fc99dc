import Mathlib.Data.List.Induction

/-!
# Entering a list of entries twice

Entries are entered into a state one after the other, and a later entry may replace an earlier one.
If a state has taken in all entries of a list, then entering one of them again makes no difference,
or it makes the same difference before and after the others. So the whole list can be entered again
without any difference.
-/

namespace Telemetry

variable {S X : Type}

/-- Entering an entry settles it. A settled entry may be entered again before another one or behind
it, or its second entry replaces the other one. -/
structure Settles (step : S → X → S) (settled : S → X → Prop) : Prop where
  here (s : S) (x : X) : settled (step s x) x
  stays {s : S} {x : X} (y : X) : settled s x → settled (step s y) x
  twice (s : S) (x : X) : step (step s x) x = step s x
  past {s : S} {x : X} (y : X) : settled s x →
    step (step s y) x = step (step s x) y ∨ step (step s y) x = step s x

namespace Settles

variable {step : S → X → S} {settled : S → X → Prop}

/-- An entry that is settled stays settled behind any others. -/
theorem foldl_stays (h : Settles step settled) {s : S} {x : X} (hx : settled s x) (xs : List X) :
    settled (xs.foldl step s) x := by
  induction xs generalizing s with
  | nil => exact hx
  | cons y xs ih => exact ih (h.stays y hx)

/-- All entries of a list are settled behind it. -/
theorem foldl_settled (h : Settles step settled) (s : S) (xs : List X) :
    ∀ x ∈ xs, settled (xs.foldl step s) x := by
  induction xs generalizing s with
  | nil => exact fun x hx => absurd hx List.not_mem_nil
  | cons y xs ih => exact List.forall_mem_cons.mpr ⟨h.foldl_stays (h.here s y) xs, ih (step s y)⟩

/-- In front of settled entries, an entry that comes again behind them makes no difference. -/
theorem step_foldl_step (h : Settles step settled) {s : S} (y : X) {xs : List X}
    (hxs : ∀ x ∈ xs, settled s x) :
    step (xs.foldl step (step s y)) y = step (xs.foldl step s) y := by
  induction xs generalizing s with
  | nil => exact h.twice s y
  | cons x xs ih =>
    obtain ⟨hx, hxs⟩ := List.forall_mem_cons.mp hxs
    rw [List.foldl_cons, List.foldl_cons]
    rcases h.past y hx with hswap | hreplaced
    · rw [hswap, ih fun z hz => h.stays x (hxs z hz)]
    · rw [hreplaced]

/-- To enter a list of entries twice is to enter it once. -/
theorem foldl_foldl (h : Settles step settled) (s : S) (xs : List X) :
    xs.foldl step (xs.foldl step s) = xs.foldl step s := by
  induction xs using List.reverseRecOn with
  | nil => rfl
  | append_singleton xs y ih =>
    simp only [List.foldl_append, List.foldl_cons, List.foldl_nil]
    rw [h.step_foldl_step y (h.foldl_settled s xs), ih]

/-- Entries by keys settle if the entries of one key do; the rest of the state is left alone. An
entry that would not be taken in where there is nothing is never taken in, so that it counts as
settled. -/
theorem of_lookup {α β : Type} (rest : S → β) (lookup : S → String → Option α) (key : X → String)
    (update : X → Option α → Option α)
    (hext : ∀ s s', rest s = rest s' → (∀ k, lookup s k = lookup s' k) → s = s')
    (hrest : ∀ s x, rest (step s x) = rest s)
    (hstep : ∀ s x k, lookup (step s x) k = if k = key x then update x (lookup s k) else lookup s k)
    (hisSome : ∀ x old, old.isSome = true → (update x old).isSome = true)
    (htwice : ∀ x old, update x (update x old) = update x old)
    (hpast : ∀ x y old, update x none = none ∨ old.isSome = true →
      update x (update y old) = update y (update x old) ∨ update x (update y old) = update x old) :
    Settles step fun s x => update x none = none ∨ (lookup s (key x)).isSome = true where
  here s x := by
    rw [hstep, if_pos rfl]
    cases hnone : update x none with
    | none => exact .inl rfl
    | some v =>
      cases hold : lookup s (key x) with
      | none => exact .inr (by rw [hnone]; rfl)
      | some old => exact .inr (hisSome x _ rfl)
  stays {s x} y hx := by
    refine hx.imp_right fun hsome => ?_
    rw [hstep]
    split
    · exact hisSome y _ hsome
    · exact hsome
  twice s x := by
    refine hext _ _ (by simp only [hrest]) fun k => ?_
    simp only [hstep]
    split
    · exact htwice x _
    · rfl
  past {s x} y hx := by
    by_cases hkey : key x = key y
    · -- only what the common key stands for may differ
      have hother (k : String) (hk : k ≠ key x) :
          lookup (step (step s y) x) k = lookup s k ∧ lookup (step (step s x) y) k = lookup s k ∧
            lookup (step s x) k = lookup s k := by
        simp [hstep, hk, hkey ▸ hk]
      rcases hpast x y _ hx with heq | heq
      · refine .inl (hext _ _ (by simp only [hrest]) fun k => ?_)
        by_cases hk : k = key x
        · simpa [hstep, hk, hkey] using heq
        · rw [(hother k hk).1, (hother k hk).2.1]
      · refine .inr (hext _ _ (by simp only [hrest]) fun k => ?_)
        by_cases hk : k = key x
        · simpa [hstep, hk, hkey] using heq
        · rw [(hother k hk).1, (hother k hk).2.2]
    · refine .inl (hext _ _ (by simp only [hrest]) fun k => ?_)
      simp only [hstep]
      split <;> split <;> simp_all

end Settles

end Telemetry
