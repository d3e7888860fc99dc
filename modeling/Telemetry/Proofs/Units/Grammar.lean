import Telemetry.Proofs.Units.Splitting

/-!
# The grammar of unit texts

A unit text is the symbol of a prefix in front of the name of a measure, and maybe a slash and the
name of another measure behind it. The symbol may be empty. The reader tries one symbol only, the
longest that the text starts with, and no symbol after that: since no measure is spelled with an
`i`, no other symbol can be followed by a measure.
-/

namespace Telemetry

/-- What stands behind the name of the measure. -/
def divisorText : Option String → String
  | some d => "/" ++ d
  | none => ""

@[simp] theorem toList_divisorText (divisor : Option String) :
    (divisorText divisor).toList = UnitOfMeasure.slashed (divisor.map String.toList) := by
  cases divisor <;> simp [divisorText, UnitOfMeasure.slashed]

/-- A way to take a text apart as a unit. -/
@[ext]
structure UnitReading (text : String) where
  /-- The symbol of a prefix, empty for none. -/
  symbol : String
  /-- The name of what is counted. -/
  counted : String
  /-- The name of what it is counted per. -/
  divisor : Option String
  /-- The prefix that the symbol stands for. -/
  scale : Prefix
  text_eq : text = symbol ++ counted ++ divisorText divisor
  scale_eq : Prefix.ofSymbol? symbol = some scale
  counted_known : (Measure.parse counted).isKnown = true
  divisor_known : ∀ d ∈ divisor, (Measure.parse d).isKnown = true

namespace UnitReading

open UnitOfMeasure

variable {text : String} (r : UnitReading text) {r' : UnitReading text}

/-- The unit of the names, with the prefix that the measure makes of the one of the symbol. -/
def unit : UnitOfMeasure :=
  ⟨(PrefixPolicy.of (Measure.parse r.counted)).correct r.scale, Measure.parse r.counted,
    r.divisor.map Measure.parse⟩

/-- The characters behind the symbol. -/
def rest : List Char := r.counted.toList ++ slashed (r.divisor.map String.toList)

/-- The unit of a reading is known. -/
theorem isKnown_unit : r.unit.isKnown = true := r.counted_known

/-- A reading takes the text apart into the symbol and what stands behind it. -/
theorem toList_eq : text.toList = r.symbol.toList ++ r.rest := by
  have h := congrArg String.toList r.text_eq
  rwa [String.toList_append, String.toList_append, List.append_assoc, toList_divisorText] at h

/-- A reading has the prefix one exactly if it has no symbol. -/
theorem scale_eq_base_iff : r.scale = .base ↔ r.symbol = "" := by
  rw [← Prefix.ofSymbol?_eq_base, r.scale_eq, Option.some.injEq]

/-! ## Taking a text apart -/

/-- Nothing behind the symbol can be taken for a part of it. -/
theorem notMem_rest : 'i' ∉ r.rest := by
  intro hmem
  rcases List.mem_append.mp hmem with hcounted | hdivisor
  · exact (Measure.notMem_of_isKnown r.counted_known).1 hcounted
  · cases hd : r.divisor with
    | none => exact absurd hdivisor (by simp [hd, slashed])
    | some d =>
      rw [hd] at hdivisor
      refine (Measure.notMem_of_isKnown (r.divisor_known d hd)).1 ?_
      exact (List.mem_cons.mp hdivisor).resolve_left (by decide)

/-- A symbol is split off as it stands. -/
theorem splitPrefix_text (hr : r.symbol ≠ "") :
    splitPrefix text.toList = (r.symbol.toList, r.rest) := by
  rw [r.toList_eq]
  exact splitPrefix_of_symbol r.scale_eq (mt r.scale_eq_base_iff.mp hr)
    fun hhead => r.notMem_rest (List.mem_of_head? hhead)

/-- The names are split at the slash as they stand. -/
theorem splitSlash_rest : splitSlash r.rest = (r.counted.toList, r.divisor.map String.toList) :=
  splitSlash_slashed (Measure.notMem_of_isKnown r.counted_known).2 _

/-- What stands behind the symbol of a reading is resolved to its unit. -/
theorem resolve_rest : resolve r.scale r.rest = r.unit := by
  have hdivisor : (r.divisor.map String.toList).map (fun d => Measure.parse (String.ofList d)) =
      r.divisor.map Measure.parse := by
    cases r.divisor <;> simp
  have hper : (r.divisor.map Measure.parse).all (·.isKnown) = true := by
    cases hd : r.divisor with
    | none => rfl
    | some d => exact r.divisor_known d hd
  rw [rest, resolve_slashed (Measure.notMem_of_isKnown r.counted_known).2, hdivisor, hper,
    String.ofList_toList, r.counted_known]
  rfl

/-- A text without a symbol is resolved as it stands. -/
theorem resolve_text (hr : r.symbol = "") : resolve .base text.toList = r.unit := by
  rw [r.toList_eq, hr, ← r.scale_eq_base_iff.mpr hr]
  exact r.resolve_rest

/-- Behind a symbol there is one way to take a text apart. -/
theorem eq_of_symbol (h : r.symbol = r'.symbol) : r = r' := by
  have hrest : r.rest = r'.rest := by
    have htext := r.toList_eq.symm.trans r'.toList_eq
    rw [h] at htext
    exact List.append_cancel_left htext
  have hsplit := r.splitSlash_rest.symm.trans (hrest ▸ r'.splitSlash_rest)
  obtain ⟨hcounted, hdivisor⟩ := Prod.mk.inj hsplit
  have hscale := r'.scale_eq
  rw [← h, r.scale_eq] at hscale
  exact UnitReading.ext h (String.toList_injective hcounted)
    (Option.map_injective (fun _ _ => String.toList_injective) hdivisor) (Option.some.inj hscale)

/-- There is one way at most to take a text apart with a symbol. -/
theorem eq_of_symbol_ne (h : r.symbol ≠ "") (h' : r'.symbol ≠ "") : r = r' := by
  have hsplit := (r.splitPrefix_text h).symm.trans (r'.splitPrefix_text h')
  exact r.eq_of_symbol (String.toList_injective (Prod.mk.inj hsplit).1)

/-- What is resolved to a known unit behind a symbol is the rest of a way to take the text apart. -/
theorem exists_of_resolve {symbol : String} {scale : Prefix} {cs : List Char}
    (htext : text.toList = symbol.toList ++ cs) (hscale : Prefix.ofSymbol? symbol = some scale)
    (h : (resolve scale cs).isKnown = true) : ∃ r : UnitReading text, r.symbol = symbol := by
  obtain ⟨hcounted, hdivisor⟩ := isKnown_of_resolve h
  have hparts : text = symbol ++ String.ofList (splitSlash cs).1 ++
      divisorText ((splitSlash cs).2.map String.ofList) := by
    apply String.toList_injective
    have hsplit := splitSlash_append cs
    simp only [htext, String.toList_append, String.toList_ofList, toList_divisorText]
    simpa using hsplit.symm
  refine ⟨⟨symbol, _, _, scale, hparts, hscale, hcounted, fun d hd => ?_⟩, rfl⟩
  obtain ⟨ds, hds, rfl⟩ := Option.map_eq_some_iff.mp hd
  exact hdivisor ds hds

end UnitReading

namespace UnitOfMeasure

/-! ## Reading a text -/

variable {raw : String}

/-- A text is read as it can be taken apart with a symbol. -/
theorem parse_of_symbol (r : UnitReading (Text.trim raw)) (hr : r.symbol ≠ "") :
    parse raw = r.unit := by
  have htrim : (Text.trim raw).toList = Text.trimChars raw.toList := String.toList_ofList
  simp only [parse, ← htrim, r.splitPrefix_text hr, String.ofList_toList, r.scale_eq,
    r.resolve_rest, r.isKnown_unit]
  rfl

/-- A text that cannot be taken apart with a symbol is resolved as it stands. -/
theorem parse_of_forall_symbol (hnone : ∀ r : UnitReading (Text.trim raw), r.symbol = "") :
    parse raw = resolve .base (Text.trim raw).toList := by
  have htrim : (Text.trim raw).toList = Text.trimChars raw.toList := String.toList_ofList
  obtain ⟨symbol, rest, hsplit⟩ :
      ∃ symbol rest, splitPrefix (Text.trim raw).toList = (symbol, rest) := ⟨_, _, rfl⟩
  have htext := append_of_splitPrefix hsplit
  simp only [parse, ← htrim, hsplit]
  cases hp : Prefix.ofSymbol? (String.ofList symbol) with
  | none => rfl
  | some p =>
    by_cases hbase : p = .base
    · have hempty : symbol = [] :=
        String.ofList_eq_empty_iff.mp (Prefix.ofSymbol?_eq_base.mp (hbase ▸ hp))
      simp [← htext, hbase, hempty]
    · -- a known unit behind the symbol would be one more way to take the text apart
      have hunknown : ¬(resolve p rest).isKnown = true := by
        intro hknown
        have htoList : (Text.trim raw).toList = (String.ofList symbol).toList ++ rest := by
          rw [String.toList_ofList, htext]
        obtain ⟨r, hsymbol⟩ := UnitReading.exists_of_resolve htoList hp hknown
        rw [← hsymbol, hnone r, Prefix.ofSymbol?_eq_base.mpr rfl] at hp
        exact hbase (Option.some.inj hp).symm
      simp [hunknown, hbase]

/-- A unit is known exactly if its text can be read in some way. -/
theorem isKnown_parse_iff (raw : String) :
    (parse raw).isKnown = true ↔ Nonempty (UnitReading (Text.trim raw)) := by
  by_cases hr : ∃ r : UnitReading (Text.trim raw), r.symbol ≠ ""
  · obtain ⟨r, hr⟩ := hr
    rw [parse_of_symbol r hr]
    exact iff_of_true r.isKnown_unit ⟨r⟩
  · have hnone : ∀ r : UnitReading (Text.trim raw), r.symbol = "" :=
      fun r => Decidable.byContradiction fun h => hr ⟨r, h⟩
    rw [parse_of_forall_symbol hnone]
    constructor
    · intro hknown
      have htext : (Text.trim raw).toList = "".toList ++ (Text.trim raw).toList := by simp
      obtain ⟨r, -⟩ := UnitReading.exists_of_resolve htext rfl hknown
      exact ⟨r⟩
    · rintro ⟨r⟩
      rw [r.resolve_text (hnone r)]
      exact r.isKnown_unit

/-- A text is read as a known unit exactly if, without the blanks around it, it can be taken apart
as a unit. It is read as it can be taken apart with the symbol of a prefix, for which there is one
way at most, and else as it can be taken apart without a symbol. Any other text is read as the
unknown unit. -/
theorem parse_reading (raw : String) :
    ((parse raw).isKnown = true ↔ Nonempty (UnitReading (Text.trim raw))) ∧
      (∀ r : UnitReading (Text.trim raw), r.symbol ≠ "" →
        parse raw = r.unit ∧ ∀ r' : UnitReading (Text.trim raw), r'.symbol ≠ "" → r' = r) ∧
      (∀ r : UnitReading (Text.trim raw),
        (∀ r' : UnitReading (Text.trim raw), r'.symbol = "") → parse raw = r.unit) ∧
      (¬Nonempty (UnitReading (Text.trim raw)) → parse raw = unknown) := by
  refine ⟨isKnown_parse_iff raw, fun r hr => ?_, fun r hall => ?_, fun hempty => ?_⟩
  · exact ⟨parse_of_symbol r hr, fun r' hr' => r'.eq_of_symbol_ne hr' hr⟩
  · rw [parse_of_forall_symbol hall, r.resolve_text (hall r)]
  · rcases parse_eq_unknown_or_isNormal raw with hunknown | hnormal
    · exact hunknown
    · exact absurd ((isKnown_parse_iff raw).mp hnormal.measure) hempty

/-- The short name of events behind the symbol of exa is one of events as well. It is read with the
symbol. -/
theorem parse_reading_exa :
    ∃ r r' : UnitReading (Text.trim " eet/s "), r.symbol = "" ∧ r.counted = "eet" ∧
      r'.symbol = "e" ∧ r'.counted = "et" ∧ parse " eet/s " = r'.unit ∧
      r'.unit = ⟨.exa, .events, some .seconds⟩ ∧ parse " eet/s " ≠ r.unit := by
  let r : UnitReading (Text.trim " eet/s ") :=
    ⟨"", "eet", some "s", .base, by decide, rfl, by decide, by rintro d ⟨rfl⟩; decide⟩
  let r' : UnitReading (Text.trim " eet/s ") :=
    ⟨"e", "et", some "s", .exa, by decide, rfl, by decide, by rintro d ⟨rfl⟩; decide⟩
  have hread : parse " eet/s " = r'.unit := ((parse_reading " eet/s ").2.1 r' (by decide)).1
  have hunit : r'.unit = ⟨.exa, .events, some .seconds⟩ := by decide
  refine ⟨r, r', rfl, rfl, rfl, rfl, hread, hunit, ?_⟩
  rw [hread]
  decide

end UnitOfMeasure

end Telemetry
