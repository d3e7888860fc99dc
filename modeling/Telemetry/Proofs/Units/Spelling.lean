import Telemetry.Proofs.Text.Trimming
import Telemetry.Proofs.Units.Compatibility
import Telemetry.Proofs.Units.Splitting

/-!
# Units as they are written

The normal text of a unit is read as the unit, but its prefix is the one that the measure makes of
the written one. So a unit is read back unless its measure has a policy for its prefix: thousandths
of counts are read as millions, and prefixes of percentages are dropped.
-/

namespace Telemetry

/-- A prefix that a measure lets through stays as it is, but for thousandths of counts. -/
theorem PrefixPolicy.correct_stays (policy : PrefixPolicy) (p : Prefix) :
    policy.correct (if policy = .none then .base else p) =
      if (policy == .milliMeansMega && p == .milli) = true then .mega
      else if policy = .none then .base else p := by
  cases policy <;> cases p <;> rfl

namespace UnitOfMeasure

/-- The characters of the divisor, with the slash in front of them. -/
def divisorChars : Option Measure → List Char
  | some d => '/' :: d.short.toList
  | none => []

/-- A known unit is written as the symbol of its prefix, its measure and its divisor. -/
theorem short_toList {u : UnitOfMeasure} (h : u.isKnown = true) :
    u.short.toList = u.scale.symbol.toList ++ (u.measure.short.toList ++ divisorChars u.per) := by
  rw [short, if_pos h]
  cases hper : u.per <;> simp [divisorChars]

/-- A divisor is written with the slash in front. -/
theorem divisorChars_eq_slashed (per : Option Measure) :
    divisorChars per = slashed (per.map fun d => d.short.toList) := by
  cases per <;> rfl

/-- A measure in front of a known divisor is resolved as it reads on its own. -/
theorem resolve_divisorChars {cs : List Char} (h : '/' ∉ cs) {per : Option Measure}
    (hper : per.all (·.isKnown) = true) (p : Prefix) :
    resolve p (cs ++ divisorChars per) =
      if (Measure.parse (String.ofList cs)).isKnown then
        ⟨(PrefixPolicy.of (Measure.parse (String.ofList cs))).correct p,
          Measure.parse (String.ofList cs), per⟩
      else unknown := by
  have hdivisor : (per.map fun d => d.short.toList).map
      (fun d => Measure.parse (String.ofList d)) = per := by
    cases per with
    | none => rfl
    | some d => simp
  rw [divisorChars_eq_slashed, resolve_slashed h]
  simp only [hdivisor, hper, Bool.and_true]

/-- A measure without prefix is split off whole, or what remains of it is no measure. -/
theorem splitPrefix_short {m : Measure} (hm : m.isKnown = true) (cs : List Char) :
    splitPrefix (m.short.toList ++ cs) = ([], m.short.toList ++ cs) ∨
      ∃ symbol p rest, splitPrefix (m.short.toList ++ cs) = (symbol, rest ++ cs) ∧
        Prefix.ofSymbol? (String.ofList symbol) = some p ∧ p ≠ .base ∧ '/' ∉ rest ∧
        Measure.parse (String.ofList rest) = .unknown := by
  cases m with
  | unknown => exact absurd hm (by decide)
  | packets => exact .inr ⟨['p'], .peta, "ackets".toList, rfl, rfl, by decide, by decide, by decide⟩
  | events => exact .inr ⟨['e'], .exa, "vents".toList, rfl, rfl, by decide, by decide, by decide⟩
  | _ => exact .inl rfl

/-- No measure has a slash or a blank in its normal text. -/
private theorem short_chars (m : Measure) : '/' ∉ m.short.toList ∧
    ∀ c ∈ m.short.toList, Text.isBlank c = false := by
  have hblank : m.short.toList.all (!Text.isBlank ·) = true := by
    cases m <;> decide
  exact ⟨by cases m <;> decide, by simpa using hblank⟩

/-- There is no blank in the text of a known unit. -/
theorem short_not_isBlank {u : UnitOfMeasure} (h : u.isKnown = true) :
    ∀ c ∈ u.short.toList, Text.isBlank c = false := by
  have hsymbol : ∀ c ∈ u.scale.symbol.toList, Text.isBlank c = false := by
    have hall : u.scale.symbol.toList.all (!Text.isBlank ·) = true := by
      cases u.scale <;> decide
    simpa using hall
  have hdivisor : ∀ c ∈ divisorChars u.per, Text.isBlank c = false := by
    cases u.per with
    | none => exact List.forall_mem_nil _
    | some d => exact List.forall_mem_cons.mpr ⟨by decide, (short_chars d).2⟩
  rw [short_toList h]
  exact List.forall_mem_append.mpr
    ⟨hsymbol, List.forall_mem_append.mpr ⟨(short_chars _).2, hdivisor⟩⟩

/-- The text of a known measure is resolved as this measure. -/
theorem resolve_short {m : Measure} (hm : m.isKnown = true) {per : Option Measure}
    (hper : per.all (·.isKnown) = true) (p : Prefix) :
    resolve p (m.short.toList ++ divisorChars per) = ⟨(PrefixPolicy.of m).correct p, m, per⟩ := by
  rw [resolve_divisorChars (short_chars m).1 hper, String.ofList_toList, Measure.parse_short,
    if_pos hm]

/-- The normal text of a unit is read as the unit, with the prefix that its measure makes of the
written one. -/
theorem parse_short {u : UnitOfMeasure} (hu : u.isKnown = true)
    (hper : u.per.all (·.isKnown) = true) :
    parse u.short = { u with scale := (PrefixPolicy.of u.measure).correct u.scale } := by
  have hm : u.measure.isKnown = true := hu
  have htrim : Text.trimChars u.short.toList =
      u.scale.symbol.toList ++ (u.measure.short.toList ++ divisorChars u.per) := by
    rw [Text.trimChars_of_not_isBlank (short_not_isBlank hu), short_toList hu]
  simp only [parse, htrim]
  by_cases hbase : u.scale = .base
  · have hsymbol : u.scale.symbol.toList = [] := by rw [hbase]; rfl
    rw [hsymbol, List.nil_append, hbase]
    rcases splitPrefix_short hm (divisorChars u.per) with
      hsplit | ⟨symbol, p, rest, hsplit, hp, hne, hrest, hunknown⟩
    · simp only [hsplit]
      rw [show Prefix.ofSymbol? (String.ofList []) = some .base from rfl]
      simp [resolve_short hm hper]
    · simp only [hsplit, hp]
      rw [resolve_divisorChars hrest hper, hunknown]
      simp [resolve_short hm hper, hne, unknown, isKnown, Measure.isKnown]
  · have hi : (u.measure.short.toList ++ divisorChars u.per).head? ≠ some 'i' := by
      cases hmeasure : u.measure with
      | unknown => exact absurd hm (by rw [hmeasure]; decide)
      | _ => simp [Measure.short]
    rw [splitPrefix_of_symbol (Prefix.ofSymbol?_symbol _) hbase hi]
    simp only [String.ofList_toList, Prefix.ofSymbol?_symbol, resolve_short hm hper]
    simp [isKnown, hm]

/-- A normal unit is read from its normal text. -/
theorem IsNormal.parse_short {u : UnitOfMeasure} (hu : u.IsNormal) : parse u.short = u := by
  rw [UnitOfMeasure.parse_short hu.measure hu.per, hu.scale]

/-- What a text is read as is read from the normal text as well. -/
theorem parse_short_parse {raw : String} (h : (parse raw).isKnown = true) :
    parse (parse raw).short = parse raw := by
  rcases parse_eq_unknown_or_isNormal raw with hunknown | hnormal
  · rw [hunknown] at h
    exact absurd h (by decide)
  · exact hnormal.parse_short

/-- The divisor of a unit that is read is known, if it has one. -/
theorem parse_per (raw : String) : (parse raw).per.all (·.isKnown) = true := by
  rcases parse_eq_unknown_or_isNormal raw with hunknown | hnormal
  · rw [hunknown]
    rfl
  · exact hnormal.per

/-- A unit with another prefix is known as well. -/
@[simp] theorem isKnown_withPrefix (u : UnitOfMeasure) (p : Prefix) :
    (u.withPrefix p).isKnown = u.isKnown := rfl

/-- Whether thousandths of the unit are read as millions. -/
def confusesMilli (u : UnitOfMeasure) (p : Prefix) : Bool :=
  PrefixPolicy.of u.measure == .milliMeansMega && p == .milli

/-- A unit with another prefix is read back, but thousandths of counts are read as millions. -/
theorem parse_short_withPrefix {u : UnitOfMeasure} (hu : u.isKnown = true)
    (hper : u.per.all (·.isKnown) = true) (p : Prefix) :
    parse (u.withPrefix p).short =
      if u.confusesMilli p then u.withPrefix .mega else u.withPrefix p := by
  have hread := parse_short (u := u.withPrefix p) hu hper
  simp only [withPrefix, PrefixPolicy.correct_stays] at hread
  rw [withPrefix, hread, confusesMilli]
  split
  · rename_i hconfused
    have hpolicy : PrefixPolicy.of u.measure = .milliMeansMega :=
      beq_iff_eq.mp ((Bool.and_eq_true _ _).mp hconfused).1
    rw [withPrefix, hpolicy]
    rfl
  · rfl

end UnitOfMeasure

/-- A known unit is converted to itself with another prefix by the ratio of the prefixes. -/
theorem Conversion.between_withPrefix {u : UnitOfMeasure} (hu : u.isKnown = true) (p : Prefix) :
    between u (u.withPrefix p) = .ok (.rescale u.scale (u.withPrefix p).scale) := by
  obtain ⟨scale, measure, per⟩ := u
  exact between_eq_ok_iff.mpr (.rescale hu per scale _)

end Telemetry
