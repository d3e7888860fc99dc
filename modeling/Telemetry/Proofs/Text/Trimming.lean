import Mathlib.Data.List.TakeWhile
import Telemetry.Text.Blank

/-!
# What trimming leaves

Trimming takes blanks away and nothing else: a text without blanks stays as it is, and nothing is
left of a text exactly if it holds nothing but blanks.
-/

namespace Telemetry.Text

variable {cs : List Char}

/-- Whether a text holds nothing but blanks. -/
def allBlank (s : String) : Bool := s.toList.all isBlank

/-- Trimming keeps all characters that are not blank. -/
theorem mem_trimChars {c : Char} (hc : isBlank c = false) (h : c ∈ cs) : c ∈ trimChars cs := by
  have hdrop : ∀ ds : List Char, c ∈ ds → c ∈ ds.dropWhile isBlank := by
    intro ds hds
    rw [← List.takeWhile_append_dropWhile (p := isBlank) (l := ds)] at hds
    refine (List.mem_append.mp hds).resolve_left fun htake => ?_
    have hblank := List.all_eq_true.mp List.all_takeWhile c htake
    exact absurd (hc.symm.trans hblank) (by decide)
  exact List.mem_reverse.mpr (hdrop _ (List.mem_reverse.mpr (hdrop _ h)))

/-- Trimming leaves a text without blanks as it is. -/
theorem trimChars_of_not_isBlank (h : ∀ c ∈ cs, isBlank c = false) : trimChars cs = cs := by
  have hdrop : ∀ ds : List Char, (∀ c ∈ ds, isBlank c = false) → ds.dropWhile isBlank = ds := by
    intro ds hds
    cases ds with
    | nil => rfl
    | cons d ds => rw [List.dropWhile_cons_of_neg (by simp [hds d List.mem_cons_self])]
  rw [trimChars, hdrop cs h, trimEnd, hdrop _ (fun c hc => h c (List.mem_reverse.mp hc)),
    List.reverse_reverse]

/-- Trimming leaves nothing of blanks, and something of everything else. -/
theorem trimChars_eq_nil_iff : trimChars cs = [] ↔ ∀ c ∈ cs, isBlank c = true := by
  constructor
  · intro h c hc
    by_cases hblank : isBlank c = true
    · exact hblank
    · have hkept := mem_trimChars (eq_false_of_ne_true hblank) hc
      rw [h] at hkept
      exact absurd hkept List.not_mem_nil
  · intro h
    rw [trimChars, List.dropWhile_eq_nil_iff.mpr h]
    rfl

/-- Nothing is left of a text exactly if it is blank. -/
theorem isEmpty_trim (s : String) : (trim s).isEmpty = allBlank s := by
  rw [Bool.eq_iff_iff, String.isEmpty_iff, allBlank, List.all_eq_true, ← trimChars_eq_nil_iff, trim,
    String.ofList_eq_empty_iff]

end Telemetry.Text
