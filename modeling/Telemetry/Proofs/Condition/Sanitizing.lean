import Telemetry.Condition.Environment

/-!
# Sanitised texts

Sanitising a text takes away the hyphen of every `type-id`. No such word arises from what is left,
so that sanitising once more changes nothing.
-/

namespace Telemetry.Condition

/-- The word that conditions cannot name. -/
def hyphenated : List Char := ['t', 'y', 'p', 'e', '-', 'i', 'd']

/-- The empty text stays empty. -/
@[simp] theorem sanitizeChars_nil : sanitizeChars [] = [] :=
  rfl

/-- The word loses its hyphen. -/
theorem sanitizeChars_hyphenated (rest : List Char) :
    sanitizeChars (hyphenated ++ rest) = "typeid".toList ++ sanitizeChars rest :=
  rfl

/-- A text that does not start with the word keeps its first character. -/
theorem sanitizeChars_cons {c : Char} {cs : List Char} (h : ¬ hyphenated <+: c :: cs) :
    sanitizeChars (c :: cs) = c :: sanitizeChars cs := by
  refine sanitizeChars.eq_2 c cs ?_
  rintro rest rfl rfl
  exact h ⟨rest, rfl⟩

/-- The places where sanitising stops in a text: at the word, at any other character and at the
end. -/
@[elab_as_elim]
theorem sanitizing_induction {motive : List Char → Prop} (cs : List Char) (nil : motive [])
    (word : ∀ rest, motive rest → motive (hyphenated ++ rest))
    (other : ∀ c rest, ¬ hyphenated <+: c :: rest → motive rest → motive (c :: rest)) :
    motive cs := by
  induction hn : cs.length using Nat.strongRecOn generalizing cs with
  | ind n ih =>
    cases cs with
    | nil => exact nil
    | cons c rest =>
      by_cases hword : hyphenated <+: c :: rest
      · obtain ⟨behind, hbehind⟩ := hword
        rw [← hbehind] at hn ⊢
        have hshorter : behind.length < n := by
          rw [← hn, List.length_append]
          exact Nat.lt_add_of_pos_left (by decide)
        exact word behind (ih behind.length hshorter behind rfl)
      · exact other c rest hword (ih rest.length (by simp [← hn]) rest rfl)

/-- Sanitising does not make a word that has no `t`. -/
theorem prefix_of_prefix_sanitizeChars {word cs : List Char} (ht : 't' ∉ word)
    (h : word <+: sanitizeChars cs) : word <+: cs := by
  induction word generalizing cs with
  | nil => exact List.nil_prefix
  | cons c word ih =>
    obtain ⟨hc, hword⟩ : 't' ≠ c ∧ 't' ∉ word := by simpa using ht
    by_cases hcs : hyphenated <+: cs
    · -- what is written for the word starts with `t`
      obtain ⟨rest, rfl⟩ := hcs
      exact absurd (List.cons_prefix_cons.mp h).1.symm hc
    · cases cs with
      | nil => exact absurd h (by simp)
      | cons d cs =>
        rw [sanitizeChars_cons hcs, List.cons_prefix_cons] at h
        exact List.cons_prefix_cons.mpr ⟨h.1, ih hword h.2⟩

/-- Sanitising twice is sanitising once. -/
theorem sanitizeChars_sanitizeChars (cs : List Char) :
    sanitizeChars (sanitizeChars cs) = sanitizeChars cs := by
  induction cs using sanitizing_induction with
  | nil => rfl
  | word rest ih =>
    -- there is no hyphen in what stands for the word
    have hkept (ds : List Char) :
        sanitizeChars ("typeid".toList ++ ds) = "typeid".toList ++ sanitizeChars ds := rfl
    rw [sanitizeChars_hyphenated, hkept, ih]
  | other c rest hcons ih =>
    have hkept : ¬ hyphenated <+: c :: sanitizeChars rest := by
      intro hstart
      obtain ⟨hc, hrest⟩ := List.cons_prefix_cons.mp hstart
      exact hcons (List.cons_prefix_cons.mpr
        ⟨hc, prefix_of_prefix_sanitizeChars (by decide) hrest⟩)
    rw [sanitizeChars_cons hcons, sanitizeChars_cons hkept, ih]

/-- A text without the word stays as it is, and no other text does. -/
theorem sanitizeChars_eq_self_iff {cs : List Char} :
    sanitizeChars cs = cs ↔ ¬ hyphenated <:+: cs := by
  induction cs using sanitizing_induction with
  | nil => simp [hyphenated]
  | word rest ih =>
    have hchanged : sanitizeChars (hyphenated ++ rest) ≠ hyphenated ++ rest := by
      rw [sanitizeChars_hyphenated]
      simp [hyphenated]
    have hword : hyphenated <:+: hyphenated ++ rest := (List.prefix_append _ _).isInfix
    exact iff_of_false hchanged (not_not_intro hword)
  | other c rest hcons ih =>
    rw [sanitizeChars_cons hcons, List.cons_inj_right, ih, List.infix_cons_iff, not_or,
      and_iff_right hcons]

/-- No word arises from what is left. -/
theorem not_infix_sanitize (s : String) : ¬ hyphenated <:+: (sanitize s).toList := by
  rw [sanitize, String.toList_ofList, ← sanitizeChars_eq_self_iff]
  exact sanitizeChars_sanitizeChars s.toList

/-- A character that the word does not have keeps what is before it apart from what is behind it. -/
theorem sanitizeChars_append {d : Char} (hd : d ∉ hyphenated) (cs ds : List Char) :
    sanitizeChars (cs ++ d :: ds) = sanitizeChars cs ++ d :: sanitizeChars ds := by
  induction cs using sanitizing_induction with
  | nil =>
    have hstart : ¬ hyphenated <+: d :: ds := by
      rintro ⟨tail, htail⟩
      exact hd ((List.cons.inj htail).1 ▸ List.mem_cons_self)
    exact sanitizeChars_cons hstart
  | word rest ih =>
    simp only [List.append_assoc, sanitizeChars_hyphenated, ih]
  | other c rest hcons ih =>
    have happend : ¬ hyphenated <+: c :: (rest ++ d :: ds) := by
      intro hstart
      rcases List.prefix_or_prefix_of_prefix hstart
        (List.prefix_append (c :: rest) (d :: ds)) with hshort | ⟨more, hmore⟩
      · exact hcons hshort
      · -- the word would go on behind the first part, with the character that it does not have
        rw [← hmore, ← List.cons_append, List.prefix_append_right_inj] at hstart
        cases more with
        | nil =>
          rw [List.append_nil] at hmore
          exact hcons (hmore ▸ List.prefix_rfl)
        | cons first more =>
          obtain rfl := (List.cons_prefix_cons.mp hstart).1
          exact hd (hmore ▸ List.mem_append_right _ List.mem_cons_self)
    rw [List.cons_append, sanitizeChars_cons happend, sanitizeChars_cons hcons, ih,
      List.cons_append]

/-- A character that the word does not have is kept. -/
theorem sanitizeChars_other {d : Char} (hd : d ∉ hyphenated) (ds : List Char) :
    sanitizeChars (d :: ds) = d :: sanitizeChars ds :=
  sanitizeChars_append hd [] ds

/-- What stands for the word has no other characters than the word. -/
private theorem mem_hyphenated {c : Char} (h : c ∈ "typeid".toList) : c ∈ hyphenated :=
  (by decide : "typeid".toList ⊆ hyphenated) h

/-- Sanitising makes no characters. -/
theorem mem_of_mem_sanitizeChars {c : Char} {cs : List Char} (h : c ∈ sanitizeChars cs) :
    c ∈ cs := by
  induction cs using sanitizing_induction with
  | nil => exact h
  | word rest ih =>
    rw [sanitizeChars_hyphenated] at h
    rcases List.mem_append.mp h with h | h
    · exact List.mem_append_left _ (mem_hyphenated h)
    · exact List.mem_append_right _ (ih h)
  | other d rest hcons ih =>
    rw [sanitizeChars_cons hcons] at h
    rcases List.mem_cons.mp h with rfl | h
    · exact List.mem_cons_self
    · exact List.mem_cons_of_mem _ (ih h)

/-- What has no `t` once it is sanitised has not been changed. -/
theorem sanitizeChars_eq_self {cs : List Char} (h : 't' ∉ sanitizeChars cs) :
    sanitizeChars cs = cs := by
  induction cs using sanitizing_induction with
  | nil => rfl
  | word rest ih => exact absurd List.mem_cons_self h
  | other c rest hcons ih =>
    rw [sanitizeChars_cons hcons] at h ⊢
    rw [ih fun ht => h (List.mem_cons_of_mem _ ht)]

/-- A sanitised text stays as it is. -/
@[simp] theorem sanitize_sanitize (s : String) : sanitize (sanitize s) = sanitize s := by
  rw [sanitize, sanitize, String.toList_ofList, sanitizeChars_sanitizeChars]

end Telemetry.Condition
