import Telemetry.Units.UnitOfMeasure

/-!
# How unit texts are taken apart

The symbol of a prefix is split off greedily, and what is left is split at its first slash. No
measure is spelled with an `i` or a slash. So what stands in front of a measure is split off as it
stands, and so is what stands behind it.
-/

namespace Telemetry

/-! ## Symbols of prefixes -/

namespace Prefix

/-- The letters that a symbol starts with. -/
def letters : List Char := "kKmMgGtTpPeEun".toList

/-- A symbol is empty where there is no prefix, else a letter with at most an `i` behind it. -/
theorem symbol_shape {symbol : String} {p : Prefix} (h : ofSymbol? symbol = some p) :
    p = .base ∧ symbol = "" ∨
      p ≠ .base ∧ ∃ c ∈ letters, symbol.toList = [c] ∨ symbol.toList = [c, 'i'] := by
  unfold ofSymbol? at h
  split at h
  case h_1 => exact .inl ⟨(Option.some.inj h).symm, rfl⟩
  case h_22 => nomatch h
  all_goals
    obtain rfl := Option.some.inj h
    refine .inr ⟨by decide, ?_⟩
    first
    | exact ⟨_, by decide, .inl rfl⟩
    | exact ⟨_, by decide, .inr rfl⟩

/-- Only the empty symbol stands for no prefix. -/
theorem ofSymbol?_eq_base {symbol : String} : ofSymbol? symbol = some .base ↔ symbol = "" := by
  constructor
  · intro h
    obtain ⟨-, hempty⟩ | ⟨hne, -⟩ := symbol_shape h
    · exact hempty
    · exact absurd rfl hne
  · rintro rfl
    rfl

end Prefix

/-! ## Names of measures -/

namespace LetterSlot

/-- A covered text is made of the letters of the slots. -/
theorem exists_slot_of_cover {slots : List LetterSlot} {cs : List Char} {c : Char}
    (h : cover slots cs = true) (hc : c ∈ cs) : ∃ slot ∈ slots, c ∈ slot.letters := by
  induction slots generalizing cs with
  | nil =>
    rw [cover, List.isEmpty_iff] at h
    exact absurd hc (by simp [h])
  | cons slot slots ih =>
    cases cs with
    | nil => exact absurd hc List.not_mem_nil
    | cons d rest =>
      simp only [cover, Bool.or_eq_true, Bool.and_eq_true] at h
      rcases h with ⟨-, hskip⟩ | ⟨hd, hrest⟩
      · obtain ⟨other, hother, hletter⟩ := ih hskip hc
        exact ⟨other, List.mem_cons_of_mem _ hother, hletter⟩
      · rcases List.mem_cons.mp hc with rfl | hc
        · exact ⟨slot, List.mem_cons_self, List.contains_iff_mem.mp hd⟩
        · obtain ⟨other, hother, hletter⟩ := ih hrest hc
          exact ⟨other, List.mem_cons_of_mem _ hother, hletter⟩

end LetterSlot

namespace Measure

variable {raw : String}

/-- No spelling of a measure has a slash, or the letter that binary prefixes end with. -/
theorem notMem_letters (m : Measure) :
    ∀ slots ∈ m.spellings, ∀ slot ∈ slots, 'i' ∉ slot.letters ∧ '/' ∉ slot.letters := by
  cases m <;> decide

/-- A text that names a measure spells it. -/
theorem spelled_of_isKnown (h : (parse raw).isKnown = true) : (parse raw).spelled raw = true := by
  unfold parse at h ⊢
  cases hfind : known.find? (·.spelled raw) with
  | none =>
    rw [hfind] at h
    exact absurd h (by decide)
  | some m =>
    have hspelled := List.find?_some hfind
    exact hspelled

/-- Every character of a measure that is known is a letter of one of its spellings. -/
theorem exists_letter_of_isKnown (h : (parse raw).isKnown = true) {c : Char}
    (hc : c ∈ raw.toList) : ∃ slots ∈ (parse raw).spellings, ∃ slot ∈ slots, c ∈ slot.letters := by
  obtain ⟨slots, hslots, hcover⟩ := List.any_eq_true.mp (spelled_of_isKnown h)
  exact ⟨slots, hslots, LetterSlot.exists_slot_of_cover hcover hc⟩

/-- No measure is spelled with an `i` or a slash. -/
theorem notMem_of_isKnown (h : (parse raw).isKnown = true) :
    'i' ∉ raw.toList ∧ '/' ∉ raw.toList := by
  constructor
  · intro hmem
    obtain ⟨slots, hslots, slot, hslot, hletter⟩ := exists_letter_of_isKnown h hmem
    exact (notMem_letters _ slots hslots slot hslot).1 hletter
  · intro hmem
    obtain ⟨slots, hslots, slot, hslot, hletter⟩ := exists_letter_of_isKnown h hmem
    exact (notMem_letters _ slots hslots slot hslot).2 hletter

end Measure

namespace UnitOfMeasure

variable {cs : List Char} {p : Prefix}

/-! ## Splitting off a symbol -/

section Symbol

variable {c : Char}

/-- A letter of a prefix is split off alone where no binary prefix begins. -/
theorem splitPrefix_letter (hc : c ∈ Prefix.letters) (hcs : cs.head? ≠ some 'i') :
    splitPrefix (c :: cs) = ([c], cs) := by
  have hletter : "kKmMgGtTpPeEun".toList.contains c = true := List.contains_iff_mem.mpr hc
  simp only [splitPrefix, hletter, if_true]
  cases cs with
  | nil => rfl
  | cons d cs =>
    have hd : d ≠ 'i' := fun hd => hcs (by rw [hd]; rfl)
    simp [hd]

/-- A letter of a prefix is split off with the mark of binary prefixes behind it. -/
theorem splitPrefix_letter_i (hc : c ∈ Prefix.letters) (cs : List Char) :
    splitPrefix (c :: 'i' :: cs) = ([c, 'i'], cs) := by
  have hletter : "kKmMgGtTpPeEun".toList.contains c = true := List.contains_iff_mem.mpr hc
  simp only [splitPrefix, hletter, if_true]
  rfl

end Symbol

/-- A symbol is split off a text that does not start with an `i`. -/
theorem splitPrefix_of_symbol {symbol : String} (h : Prefix.ofSymbol? symbol = some p)
    (hp : p ≠ .base) (hcs : cs.head? ≠ some 'i') :
    splitPrefix (symbol.toList ++ cs) = (symbol.toList, cs) := by
  obtain ⟨hbase, -⟩ | ⟨-, c, hc, hsymbol | hsymbol⟩ := Prefix.symbol_shape h
  · exact absurd hbase hp
  · rw [hsymbol]
    exact splitPrefix_letter hc hcs
  · rw [hsymbol]
    exact splitPrefix_letter_i hc cs

/-- What is split off stands in front of the rest. -/
theorem append_of_splitPrefix {symbol rest : List Char} (h : splitPrefix cs = (symbol, rest)) :
    symbol ++ rest = cs := by
  unfold splitPrefix at h
  split at h
  rename_i letter behind hletter
  have happend : letter ++ behind = cs := by
    split at hletter
    · split at hletter
      · obtain ⟨rfl, rfl⟩ := Prod.mk.inj hletter
        rfl
      · obtain ⟨rfl, rfl⟩ := Prod.mk.inj hletter
        rfl
    · obtain ⟨rfl, rfl⟩ := Prod.mk.inj hletter
      rfl
  split at h
  · obtain ⟨rfl, rfl⟩ := Prod.mk.inj h
    rw [← happend, List.append_assoc]
    rfl
  · obtain ⟨rfl, rfl⟩ := Prod.mk.inj h
    exact happend

/-! ## Splitting at the slash -/

/-- The characters of a second part, with the slash in front of them. -/
def slashed : Option (List Char) → List Char
  | some cs => '/' :: cs
  | none => []

/-- A text with a slash, and none in front of it, is split at this one. -/
theorem splitSlash_slashed (h : '/' ∉ cs) (behind : Option (List Char)) :
    splitSlash (cs ++ slashed behind) = (cs, behind) := by
  have hne : ∀ c ∈ cs, (c != '/') = true := by
    intro c hc
    rw [bne_iff_ne]
    rintro rfl
    exact h hc
  unfold splitSlash
  rw [List.dropWhile_append_of_pos hne, List.takeWhile_append_of_pos hne]
  cases behind <;> simp [slashed]

/-- What is split at the slash stands around it. -/
theorem splitSlash_append (cs : List Char) :
    (splitSlash cs).1 ++ slashed (splitSlash cs).2 = cs := by
  unfold splitSlash
  split
  · exact List.append_nil cs
  · rename_i c behind hdrop
    have hc : c = '/' := by
      have hhead := List.head?_dropWhile_not (· != '/') cs
      rw [hdrop] at hhead
      simpa using hhead
    subst hc
    rw [slashed, ← hdrop]
    exact List.takeWhile_append_dropWhile

/-! ## Units of texts -/

/-- Behind a prefix, a measure and a divisor are a unit if both are known. -/
theorem resolve_slashed (h : '/' ∉ cs) (behind : Option (List Char)) (p : Prefix) :
    resolve p (cs ++ slashed behind) =
      if (Measure.parse (String.ofList cs)).isKnown &&
          (behind.map fun d => Measure.parse (String.ofList d)).all (·.isKnown) then
        ⟨(PrefixPolicy.of (Measure.parse (String.ofList cs))).correct p,
          Measure.parse (String.ofList cs), behind.map fun d => Measure.parse (String.ofList d)⟩
      else unknown := by
  rw [resolve, splitSlash_slashed h]

/-- Only names of known measures are resolved to a known unit. -/
theorem isKnown_of_resolve (h : (resolve p cs).isKnown = true) :
    (Measure.parse (String.ofList (splitSlash cs).1)).isKnown = true ∧
      ∀ d ∈ (splitSlash cs).2, (Measure.parse (String.ofList d)).isKnown = true := by
  simp only [resolve] at h
  split at h
  · rename_i hknown
    obtain ⟨hcounted, hper⟩ := (Bool.and_eq_true _ _).mp hknown
    refine ⟨hcounted, fun d hd => ?_⟩
    rw [hd] at hper
    exact hper
  · exact absurd h (by decide)

/-- What texts are read as: known measures, and a prefix that the measure has corrected. -/
structure IsNormal (u : UnitOfMeasure) : Prop where
  measure : u.isKnown = true
  per : u.per.all (·.isKnown) = true
  scale : (PrefixPolicy.of u.measure).correct u.scale = u.scale

/-- What is resolved is unknown, or a unit that can be written and read again. -/
theorem resolve_cases (p : Prefix) (cs : List Char) :
    resolve p cs = unknown ∨ (resolve p cs).IsNormal := by
  have hcorrect (policy : PrefixPolicy) : policy.correct (policy.correct p) = policy.correct p := by
    cases policy <;> cases p <;> rfl
  simp only [resolve]
  split
  · rename_i hknown
    obtain ⟨hcounted, hper⟩ := (Bool.and_eq_true _ _).mp hknown
    exact .inr ⟨hcounted, hper, hcorrect _⟩
  · exact .inl rfl

/-- A text is resolved behind some prefix. -/
theorem parse_eq_resolve (raw : String) : ∃ p cs, parse raw = resolve p cs := by
  simp only [parse]
  split
  · split
    · exact ⟨_, _, rfl⟩
    · exact ⟨_, _, rfl⟩
  · exact ⟨_, _, rfl⟩

/-- A text is read as the unknown unit or as a normal one. -/
theorem parse_eq_unknown_or_isNormal (raw : String) :
    parse raw = unknown ∨ (parse raw).IsNormal := by
  obtain ⟨p, cs, h⟩ := parse_eq_resolve raw
  rw [h]
  exact resolve_cases p cs

end UnitOfMeasure

end Telemetry
