import Telemetry.Units.Conversion

/-!
# Units that can be converted

There is a conversion between units of one measure that are per the same measure, and between the
two temperature scales. Between the scales neither the prefixes nor what the units are per are
looked at, so that a rate in degrees Celsius is converted to degrees Fahrenheit.
-/

namespace Telemetry

namespace UnitOfMeasure

/-- Whether one unit is in degrees Celsius and the other one in degrees Fahrenheit. -/
def AcrossScales (u v : UnitOfMeasure) : Prop :=
  u.measure = .celsius ∧ v.measure = .fahrenheit ∨ u.measure = .fahrenheit ∧ v.measure = .celsius

/-- Whether two units count the same, per the same. -/
structure Comparable (u v : UnitOfMeasure) : Prop where
  source : u.isKnown = true
  target : v.isKnown = true
  per : u.per = v.per
  measure : u.measure = v.measure ∨ u.AcrossScales v

end UnitOfMeasure

namespace Conversion

open UnitOfMeasure

/-- The conversions that there are. -/
inductive Leads : UnitOfMeasure → UnitOfMeasure → Conversion → Prop where
  | rescale {m : Measure} (hm : m.isKnown = true) (per : Option Measure) (p q : Prefix) :
      Leads ⟨p, m, per⟩ ⟨q, m, per⟩ (.rescale p q)
  | celsiusToFahrenheit (p q : Prefix) (per per' : Option Measure) :
      Leads ⟨p, .celsius, per⟩ ⟨q, .fahrenheit, per'⟩ .celsiusToFahrenheit
  | fahrenheitToCelsius (p q : Prefix) (per per' : Option Measure) :
      Leads ⟨p, .fahrenheit, per⟩ ⟨q, .celsius, per'⟩ .fahrenheitToCelsius

variable {u v : UnitOfMeasure} {c : Conversion}

/-- A conversion is found exactly if it leads from the one unit to the other. -/
theorem between_eq_ok_iff : between u v = .ok c ↔ Leads u v c := by
  constructor
  · intro h
    obtain ⟨p, m, per⟩ := u
    obtain ⟨q, n, per'⟩ := v
    unfold between at h
    split at h
    · rename_i hm hn
      obtain rfl : m = .celsius := hm
      obtain rfl : n = .fahrenheit := hn
      obtain rfl := Except.ok.inj h
      exact .celsiusToFahrenheit p q per per'
    · rename_i hm hn
      obtain rfl : m = .fahrenheit := hm
      obtain rfl : n = .celsius := hn
      obtain rfl := Except.ok.inj h
      exact .fahrenheitToCelsius p q per per'
    · split at h
      · rename_i hsame
        simp only [Bool.and_eq_true, beq_iff_eq] at hsame
        obtain ⟨⟨hm, rfl⟩, rfl⟩ := hsame
        obtain rfl := Except.ok.inj h
        exact .rescale hm per p q
      · nomatch h
  · rintro (@⟨m, hm, per, p, q⟩ | _ | _)
    · unfold between
      split
      · rename_i hc hf
        exact absurd (hc.symm.trans hf) (by decide)
      · rename_i hf hc
        exact absurd (hf.symm.trans hc) (by decide)
      · simp [hm]
    · rfl
    · rfl

/-- Units that are not converted are refused by their names. -/
theorem between_eq_error (h : ¬∃ c, between u v = .ok c) :
    between u v = .error (.incompatible u.long v.long) := by
  cases hbetween : between u v with
  | ok c => exact absurd ⟨c, hbetween⟩ h
  | error e =>
    unfold between at hbetween
    split at hbetween
    · nomatch hbetween
    · nomatch hbetween
    · split at hbetween
      · nomatch hbetween
      · exact hbetween.symm

/-- Units are converted if they count the same per the same, and between the temperature scales
whatever they are per. -/
theorem exists_between_iff :
    (∃ c, between u v = .ok c) ↔ u.Comparable v ∨ u.AcrossScales v ∧ u.per ≠ v.per := by
  constructor
  · rintro ⟨c, h⟩
    cases between_eq_ok_iff.mp h with
    | rescale hm per p q => exact .inl ⟨hm, hm, rfl, .inl rfl⟩
    | celsiusToFahrenheit p q per per' =>
      by_cases hper : per = per'
      · exact .inl ⟨rfl, rfl, hper, .inr (.inl ⟨rfl, rfl⟩)⟩
      · exact .inr ⟨.inl ⟨rfl, rfl⟩, hper⟩
    | fahrenheitToCelsius p q per per' =>
      by_cases hper : per = per'
      · exact .inl ⟨rfl, rfl, hper, .inr (.inr ⟨rfl, rfl⟩)⟩
      · exact .inr ⟨.inr ⟨rfl, rfl⟩, hper⟩
  · obtain ⟨p, m, per⟩ := u
    obtain ⟨q, n, per'⟩ := v
    have hacross (h : AcrossScales ⟨p, m, per⟩ ⟨q, n, per'⟩) :
        ∃ c, between ⟨p, m, per⟩ ⟨q, n, per'⟩ = .ok c := by
      rcases h with ⟨hm, hn⟩ | ⟨hm, hn⟩
      · obtain rfl : m = .celsius := hm
        obtain rfl : n = .fahrenheit := hn
        exact ⟨_, rfl⟩
      · obtain rfl : m = .fahrenheit := hm
        obtain rfl : n = .celsius := hn
        exact ⟨_, rfl⟩
    rintro (⟨hm, -, hper, hsame | h⟩ | ⟨h, -⟩)
    · obtain rfl : m = n := hsame
      obtain rfl : per = per' := hper
      exact ⟨_, between_eq_ok_iff.mpr (.rescale hm per p q)⟩
    · exact hacross h
    · exact hacross h

/-- Two texts are converted if they are read as units that count the same per the same. Besides,
they are converted if one is in degrees Celsius and the other one in degrees Fahrenheit, per
different measures. In every other case the conversion is refused. -/
theorem converted_iff_comparable (a b : String) :
    ((∃ c, between (parse a) (parse b) = .ok c) ↔
      Comparable (parse a) (parse b) ∨
        AcrossScales (parse a) (parse b) ∧ (parse a).per ≠ (parse b).per) ∧
    (between (parse a) (parse b) = .error (.incompatible (parse a).long (parse b).long) ↔
      ¬(Comparable (parse a) (parse b) ∨
        AcrossScales (parse a) (parse b) ∧ (parse a).per ≠ (parse b).per)) := by
  refine ⟨exists_between_iff, ?_⟩
  rw [← exists_between_iff]
  constructor
  · rintro herror ⟨c, hok⟩
    nomatch herror.symm.trans hok
  · intro h
    exact between_eq_error h

/-- A rate of degrees Celsius is converted to degrees Fahrenheit. -/
theorem between_rate_degrees :
    ∃ u v, u = UnitOfMeasure.parse "degC/s" ∧ v = UnitOfMeasure.parse "degF" ∧
      between u v = .ok .celsiusToFahrenheit ∧ u.per = some .seconds ∧ v.per = none ∧
      ¬u.Comparable v := by
  refine ⟨⟨.base, .celsius, some .seconds⟩, ⟨.base, .fahrenheit, none⟩, by decide, by decide, rfl,
    rfl, rfl, fun h => ?_⟩
  exact absurd h.per (by decide)

end Conversion

end Telemetry
