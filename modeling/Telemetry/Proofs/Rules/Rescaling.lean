import Telemetry.Proofs.Rules.Changes
import Telemetry.Proofs.Rules.Entries

/-!
# Values and the texts of their units

A rule that changes the prefix of a unit rescales the value and writes the text of the new unit.
Next to it stands whoever reads this text: the next rule, the normalisation of units, or a receiver.
They read the unit to which the value was rescaled, with one exception: a count in thousandths is
written with the symbol of thousandths, which is read as the one of millions.
-/

namespace Telemetry

namespace Message

variable {m : Message} {place : Location} {u : UnitOfMeasure}

/-- The unit of a message is read from a text in its place. -/
theorem lookup?_of_unit? (h : m.unit? = some (place, u)) :
    ∃ raw, m.lookup? place unitKey = some (.string raw) ∧ u = .parse raw := by
  unfold unit? at h
  split at h
  · rename_i raw hraw
    obtain ⟨rfl, rfl⟩ := Prod.mk.inj (Option.some.inj h)
    exact ⟨raw, by rw [lookup?, hraw]; rfl, rfl⟩
  · obtain ⟨raw, hraw, hread⟩ := Option.map_eq_some_iff.mp h
    obtain ⟨rfl, rfl⟩ := Prod.mk.inj hread
    exact ⟨raw, by rw [lookup?, hraw]; rfl, rfl⟩

/-- The divisor of the unit of a message is known, if it has one. -/
theorem per_of_unit? (h : m.unit? = some (place, u)) : u.per.all (·.isKnown) = true := by
  obtain ⟨raw, -, rfl⟩ := lookup?_of_unit? h
  exact UnitOfMeasure.parse_per raw

/-- A text that is written in the place of the unit is read as the unit. -/
theorem unit?_insert (h : m.unit? = some (place, u)) (fields : KeyMap FieldValue) (text : String) :
    (place.insert { m with fields := fields } unitKey text).unit? = some (place, .parse text) := by
  unfold unit? at h
  split at h
  · obtain ⟨rfl, -⟩ := Prod.mk.inj (Option.some.inj h)
    simp [unit?, Location.insert]
  · rename_i hnone
    obtain ⟨raw, -, hraw⟩ := Option.map_eq_some_iff.mp h
    obtain ⟨rfl, -⟩ := Prod.mk.inj hraw
    simp [unit?, Location.insert, hnone]

/-- A rescaled message has the unit that its new text is read as. -/
theorem unit?_rescale (h : m.unit? = some (place, u)) (target : Prefix) (x : Float) :
    (m.rescale place u target x).unit? = some (place, .parse (u.withPrefix target).short) :=
  unit?_insert h _ _

/-- A numeric value with a known unit is rescaled. -/
theorem changePrefix_eq_rescale (hunit : m.unit? = some (place, u)) (hknown : u.isKnown = true)
    {x : Float} (hx : m.fields["value"]?.bind FieldValue.toFloat? = some x) (target : Prefix) :
    m.changePrefix target = m.rescale place u target x := by
  simp only [changePrefix, hunit, if_pos hknown, Conversion.between_withPrefix hknown, hx]
  rfl

/-- Writing what an entry holds already changes nothing. -/
theorem insert_of_lookup? {key text : String} (h : m.lookup? place key = some (.string text)) :
    place.insert m key text = m := by
  refine ext_entries (by simp) (by simp) fun l key' => ?_
  rw [Location.lookup?_insert]
  split
  · rename_i heq
    obtain ⟨rfl, rfl⟩ := heq
    exact h.symm
  · rfl

/-- Normalising the unit leaves a message alone whose unit is in its normal text. -/
theorem normalizeUnit_of_short (hunit : m.unit? = some (place, u))
    (htext : m.lookup? place unitKey = some (.string u.short)) : m.normalizeUnit = m := by
  rcases m.normalizeUnit_cases with h | ⟨place', u', hunit', -, hwrite⟩
  · exact h
  · obtain ⟨rfl, rfl⟩ := Prod.mk.inj (Option.some.inj (hunit.symm.trans hunit'))
    exact hwrite.trans (insert_of_lookup? htext)

/-! ## A list of rules -/

/-- Whether the unit of the message is in the place, and is the measure per the divisor with some
prefix. -/
def Measures (m : Message) (place : Location) (measure : Measure) (per : Option Measure) : Prop :=
  ∃ scale, m.unit? = some (place, ⟨scale, measure, per⟩)

/-- A message keeps its measure with another prefix. -/
theorem Measures.changePrefix {measure : Measure} {per : Option Measure}
    (h : m.Measures place measure per) (target : Prefix) :
    (m.changePrefix target).Measures place measure per := by
  rcases m.changePrefix_cases target with hnone | ⟨place', u, x, hunit, hknown, -, hrescale⟩
  · rwa [hnone]
  · obtain ⟨scale, hscale⟩ := h
    obtain ⟨rfl, rfl⟩ := Prod.mk.inj (Option.some.inj (hscale.symm.trans hunit))
    have hread := UnitOfMeasure.parse_short_withPrefix hknown (per_of_unit? hunit) target
    rw [hrescale]
    rw [Measures, unit?_rescale hunit, hread]
    split
    · exact ⟨_, rfl⟩
    · exact ⟨_, rfl⟩

/-- The message after rules for prefixes, one after the other. -/
def afterPrefixes (judge : Judge) (rules : List (Rule Prefix)) (m : Message) : Message :=
  StageRule.applyAll judge (rules.map (.ofRule (fun _ => none) Message.changePrefix)) m

/-- The stage leaves a metric as its rules make it, up to the first condition without truth
value. -/
theorem runStage_afterPrefixes (b : Rulebook) (judge : Judge) (hm : m.type = .metric) :
    (b.runStage judge .changeUnitPrefix m).message? =
      some (m.afterPrefixes judge (b.prefixes.takeWhile fun r => (judge r.condition).isOk)) := by
  have hfaultless : StageRule.faultless judge (b.stageRules .changeUnitPrefix) =
      (b.prefixes.takeWhile fun r => (judge r.condition).isOk).map
        (.ofRule (fun _ => none) changePrefix) := by
    rw [StageRule.faultless, Rulebook.stageRules, List.takeWhile_map]
    congr 2
    funext r
    simp only [Function.comp_apply, StageRule.fault?, StageRule.ofRule]
    cases judge r.condition <;> rfl
  rw [Rulebook.runStage_changeUnitPrefix, if_pos hm, afterPrefixes, ← hfaultless]
  exact StageRule.outcome_message judge none _ m

/-- A rule whose condition holds gives the message the prefix of the rule. -/
theorem applyTo_changePrefix {judge : Judge} {r : Rule Prefix}
    (hholds : judge r.condition = .ok true) (m : Message) :
    (StageRule.ofRule (fun _ => none) Message.changePrefix r).applyTo judge m =
      m.changePrefix r.action := by
  simp [StageRule.applyTo, StageRule.ofRule, hholds]

/-- One more rule that holds changes the prefix once more. -/
theorem afterPrefixes_concat (judge : Judge) (rules : List (Rule Prefix)) {r : Rule Prefix}
    (hholds : judge r.condition = .ok true) (m : Message) :
    m.afterPrefixes judge (rules ++ [r]) = (m.afterPrefixes judge rules).changePrefix r.action := by
  rw [afterPrefixes, List.map_append, StageRule.applyAll_append]
  exact applyTo_changePrefix hholds _

/-- A message keeps its measure through rules for prefixes. -/
theorem Measures.afterPrefixes {measure : Measure} {per : Option Measure} (judge : Judge)
    (rules : List (Rule Prefix)) (h : m.Measures place measure per) :
    (m.afterPrefixes judge rules).Measures place measure per := by
  induction rules generalizing m with
  | nil => exact h
  | cons r rules ih =>
    refine ih (m := (StageRule.ofRule (fun _ => none) Message.changePrefix r).applyTo judge m) ?_
    by_cases hholds : judge r.condition = .ok true
    · rw [applyTo_changePrefix hholds]
      exact h.changePrefix r.action
    · rwa [StageRule.applyTo_of_not_holds hholds]

/-- A message with a known unit comes to a rule that holds with a unit of the same measure. If it
has a number as its value then, the value is rescaled to the unit with the prefix of the rule, and
the text of this unit is written. The text is read as this unit and normalising the unit changes
nothing, unless the unit is a count in thousandths: this is read as one in millions. -/
theorem rescaled_unit_read_back (judge : Judge) (m : Message) (place : Location)
    (u : UnitOfMeasure) (hunit : m.unit? = some (place, u)) (hknown : u.isKnown = true)
    (rules : List (Rule Prefix)) (r : Rule Prefix) (hholds : judge r.condition = .ok true)
    (x : Float) (hx : (m.afterPrefixes judge rules).fields["value"]?.bind FieldValue.toFloat? =
      some x) :
    ∃ v, (m.afterPrefixes judge rules).unit? = some (place, v) ∧
      v.measure = u.measure ∧ v.per = u.per ∧
      m.afterPrefixes judge (rules ++ [r]) =
        (m.afterPrefixes judge rules).rescale place v r.action x ∧
      (m.afterPrefixes judge (rules ++ [r])).lookup? place unitKey =
        some (.string (v.withPrefix r.action).short) ∧
      (m.afterPrefixes judge (rules ++ [r])).unit? =
        some (place, .parse (v.withPrefix r.action).short) ∧
      (u.confusesMilli r.action = false →
        UnitOfMeasure.parse (v.withPrefix r.action).short = v.withPrefix r.action ∧
        (m.afterPrefixes judge (rules ++ [r])).normalizeUnit =
          m.afterPrefixes judge (rules ++ [r])) ∧
      (u.confusesMilli r.action = true →
        UnitOfMeasure.parse (v.withPrefix r.action).short = v.withPrefix .mega) := by
  have hmeasures : m.Measures place u.measure u.per := ⟨u.scale, hunit⟩
  obtain ⟨scale, hv⟩ := hmeasures.afterPrefixes judge rules
  let v : UnitOfMeasure := ⟨scale, u.measure, u.per⟩
  have hread := UnitOfMeasure.parse_short_withPrefix (u := v) hknown (per_of_unit? hv) r.action
  have hstep : m.afterPrefixes judge (rules ++ [r]) =
      (m.afterPrefixes judge rules).rescale place v r.action x := by
    rw [afterPrefixes_concat judge rules hholds]
    exact changePrefix_eq_rescale hv hknown hx r.action
  have htext : (m.afterPrefixes judge (rules ++ [r])).lookup? place unitKey =
      some (.string (v.withPrefix r.action).short) := by
    rw [hstep, rescale, Location.lookup?_insert, if_pos ⟨rfl, rfl⟩]
  have hunit' : (m.afterPrefixes judge (rules ++ [r])).unit? =
      some (place, .parse (v.withPrefix r.action).short) := by
    rw [hstep]
    exact unit?_rescale hv r.action x
  refine ⟨v, hv, rfl, rfl, hstep, htext, hunit', fun hclear => ?_, fun hconfused => ?_⟩
  · have hclear' : v.confusesMilli r.action = false := hclear
    rw [hclear', if_neg Bool.false_ne_true] at hread
    exact ⟨hread, normalizeUnit_of_short (hread ▸ hunit') htext⟩
  · have hconfused' : v.confusesMilli r.action = true := hconfused
    rw [hconfused', if_pos rfl] at hread
    exact hread

/-- Kilobytes are rescaled to megabytes, and then to gigabytes per the text of megabytes. -/
theorem rescaled_unit_read_back_giga :
    ∃ (judge : Judge) (m : Message) (u v : UnitOfMeasure) (r : Rule Prefix)
      (rules : List (Rule Prefix)) (x : Float),
      m.unit? = some (.metadata, u) ∧ u = ⟨.kilo, .bytes, none⟩ ∧
      u.isKnown = true ∧ judge r.condition = .ok true ∧ r.action = .giga ∧
      (m.afterPrefixes judge rules).fields["value"]?.bind FieldValue.toFloat? = some x ∧
      (m.afterPrefixes judge rules).unit? = some (.metadata, v) ∧ v = ⟨.mega, .bytes, none⟩ ∧
      (m.afterPrefixes judge (rules ++ [r])).unit? =
        some (.metadata, .parse (v.withPrefix r.action).short) ∧
      UnitOfMeasure.parse (v.withPrefix r.action).short = v.withPrefix r.action := by
  let judge : Judge := fun _ => .ok true
  let always : Condition.Program := ⟨"*", .constant (.bool true), .standard⟩
  let m : Message :=
    .single "disk" ∅ ((∅ : KeyMap String).insert unitKey "KB") "value" (.int 5) .epoch
  let u : UnitOfMeasure := ⟨.kilo, .bytes, none⟩
  have hunit : m.unit? = some (.metadata, u) := by
    have hparse : UnitOfMeasure.parse "KB" = u := by decide
    simp [m, unit?, single, hparse]
  have hvalue : m.fields["value"]?.bind FieldValue.toFloat? = some (Float.ofInt 5) := by
    simp [m, single, FieldValue.toFloat?]
  have hfirst : m.afterPrefixes judge [⟨always, .mega⟩] =
      m.rescale .metadata u .mega (Float.ofInt 5) := by
    have hconcat := afterPrefixes_concat judge [] (r := ⟨always, .mega⟩) rfl m
    exact hconcat.trans (changePrefix_eq_rescale hunit rfl hvalue .mega)
  have hx : (m.afterPrefixes judge [⟨always, .mega⟩]).fields["value"]?.bind FieldValue.toFloat? =
      some (Float.ofInt 5 * u.scale.ratio .mega) := by
    rw [hfirst]
    simp [rescale, Location.insert, FieldValue.toFloat?, UnitOfMeasure.withPrefix, u,
      PrefixPolicy.of]
  have hread := rescaled_unit_read_back judge m .metadata u hunit rfl [⟨always, .mega⟩]
    ⟨always, .giga⟩ rfl _ hx
  obtain ⟨v, hv, -, -, -, -, hunit', hclear, -⟩ := hread
  have hmega : (m.afterPrefixes judge [⟨always, .mega⟩]).unit? =
      some (.metadata, ⟨.mega, .bytes, none⟩) := by
    rw [hfirst, unit?_rescale hunit]
    exact congrArg (fun v => some (Location.metadata, v)) (by decide)
  have hveq : v = ⟨.mega, .bytes, none⟩ :=
    (Prod.mk.inj (Option.some.inj (hv.symm.trans hmega))).2
  exact ⟨judge, m, u, v, ⟨always, .giga⟩, [⟨always, .mega⟩], _, hunit, rfl, rfl, rfl, rfl, hx, hv,
    hveq, hunit', (hclear rfl).1⟩

/-- Five bytes are rescaled to thousandths of bytes, which are then read as megabytes. -/
theorem rescaled_unit_misread :
    ∃ (m : Message) (u : UnitOfMeasure) (x : Float), m.type = .metric ∧
      m.unit? = some (.metadata, u) ∧ u = ⟨.base, .bytes, none⟩ ∧
      m.changePrefix .milli = m.rescale .metadata u .milli x ∧
      (m.changePrefix .milli).lookup? .metadata unitKey = some (.string "mB") ∧
      (m.changePrefix .milli).unit? = some (.metadata, u.withPrefix .mega) ∧
      UnitOfMeasure.parse (u.withPrefix .milli).short ≠ u.withPrefix .milli := by
  let m : Message :=
    .single "disk" ∅ ((∅ : KeyMap String).insert unitKey "B") "value" (.int 5) .epoch
  let u : UnitOfMeasure := ⟨.base, .bytes, none⟩
  have hunit : m.unit? = some (.metadata, u) := by
    have hparse : UnitOfMeasure.parse "B" = u := by decide
    simp [m, unit?, single, hparse]
  have hvalue : m.fields["value"]?.bind FieldValue.toFloat? = some (Float.ofInt 5) := by
    simp [m, single, FieldValue.toFloat?]
  have hstep := changePrefix_eq_rescale hunit rfl hvalue .milli
  refine ⟨m, u, _, ?_, hunit, rfl, hstep, ?_, ?_, by decide⟩
  · simp [m, type, single]
  · rw [hstep, rescale, Location.lookup?_insert, if_pos ⟨rfl, rfl⟩]
    exact congrArg (fun text => some (FieldValue.string text)) (by decide)
  · rw [hstep, unit?_rescale hunit]
    exact congrArg (fun v => some (Location.metadata, v)) (by decide)

end Message

end Telemetry
