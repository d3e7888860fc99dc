import Mathlib.Algebra.BigOperators.Group.List.Basic
import Mathlib.Algebra.Ring.Nat
import Mathlib.Data.List.Nodup

/-!
# Lists without repetition

In a list of entries none of whose keys comes twice, a look-up finds all that there is. Over a list
of kinds that has each of them once, the counts of the kinds add up.
-/

namespace Telemetry

section Lookup

variable {α : Type} {entries : List (String × α)}

/-- In a list without a key twice, an entry is the one that its key finds. -/
theorem lookup_eq_some_iff (h : (entries.map (·.1)).Nodup) {key : String} {x : α} :
    entries.lookup key = some x ↔ (key, x) ∈ entries := by
  induction entries with
  | nil => simp
  | cons entry entries ih =>
    obtain ⟨k, y⟩ := entry
    obtain ⟨hfirst, hlater⟩ := List.nodup_cons.mp h
    rw [List.lookup_cons, List.mem_cons]
    by_cases hk : key = k
    · subst hk
      have hnone : (key, x) ∉ entries := by
        intro hmem
        exact hfirst (List.mem_map.mpr ⟨(key, x), hmem, rfl⟩)
      simp [hnone, eq_comm]
    · rw [beq_eq_false_iff_ne.mpr hk]
      simp only [Prod.mk.injEq, hk, false_and, false_or]
      exact ih hlater

/-- Where some entries are left out, a look-up finds what it found before, if that is not left out
itself. -/
theorem lookup_filter (h : (entries.map (·.1)).Nodup) (keep : String × α → Bool) (key : String) :
    (entries.filter keep).lookup key = (entries.lookup key).filter fun x => keep (key, x) := by
  have hkept : ((entries.filter keep).map (·.1)).Nodup :=
    (List.filter_sublist.map _).nodup h
  apply Option.ext
  intro x
  rw [lookup_eq_some_iff hkept, List.mem_filter, Option.filter_eq_some_iff, lookup_eq_some_iff h]

end Lookup

section Count

variable {κ : Type} [DecidableEq κ] {all : List κ}

/-- Where each kind is listed once, everything is counted as one of the kinds. -/
theorem sum_count (h : ∀ k, all.count k = 1) (ks : List κ) :
    (all.map ks.count).sum = ks.length := by
  induction ks with
  | nil => simp
  | cons k ks ih =>
    have hone : (all.map fun other => if k == other then 1 else 0).sum = 1 := by
      have hother : ∀ other, other ≠ k → other ∈ all → (if k == other then 1 else 0) = 0 :=
        fun other hne _ => if_neg (by simpa using Ne.symm hne)
      rw [List.sum_map_eq_nsmul_single k _ hother, h]
      simp
    simp only [List.count_cons, List.sum_map_add, List.length_cons]
    rw [ih, hone]

end Count

end Telemetry
