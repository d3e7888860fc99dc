import Telemetry.Proofs.Rules.Rescaling

/-!
# Normalising units

A known unit is read from its normal text as it was read from the text before. So normalising the
unit of a message keeps the unit and changes at most its text, and a message that was normalised is
left alone from then on: by the stage when it is listed again, and by the next processor.
-/

namespace Telemetry

namespace Message

variable {m : Message} {place : Location} {u : UnitOfMeasure}

/-- A known unit of a message is read from its normal text as well. -/
theorem parse_short_of_unit? (hunit : m.unit? = some (place, u)) (hknown : u.isKnown = true) :
    UnitOfMeasure.parse u.short = u := by
  obtain ⟨raw, -, rfl⟩ := lookup?_of_unit? hunit
  exact UnitOfMeasure.parse_short_parse hknown

/-- A message has the same unit when it is normalised. -/
theorem unit?_normalizeUnit (m : Message) : m.normalizeUnit.unit? = m.unit? := by
  rcases m.normalizeUnit_cases with hsame | ⟨place, u, hunit, hknown, hwrite⟩
  · rw [hsame]
  · have hread := unit?_insert hunit m.fields u.short
    rw [parse_short_of_unit? hunit hknown] at hread
    rw [hwrite, hunit]
    exact hread

/-- A message that was normalised is left alone. -/
theorem normalizeUnit_normalizeUnit (m : Message) :
    m.normalizeUnit.normalizeUnit = m.normalizeUnit := by
  rcases m.normalizeUnit_cases with hsame | ⟨place, u, hunit, -, hwrite⟩
  · rw [hsame, hsame]
  · have hread : m.normalizeUnit.unit? = some (place, u) := by
      rw [unit?_normalizeUnit, hunit]
    apply normalizeUnit_of_short hread
    rw [hwrite, Location.lookup?_insert, if_pos ⟨rfl, rfl⟩]

/-- Whether an entry is the text of a unit in the first message, and in the second one the normal
text of the unit, which is read as the same unit. -/
def RewritesUnit (m m' : Message) (l : Location) (key : String) : Prop :=
  key = unitKey ∧ ∃ raw, m.lookup? l key = some (.string raw) ∧
    m'.lookup? l key = some (.string (UnitOfMeasure.parse raw).short) ∧
    UnitOfMeasure.parse (UnitOfMeasure.parse raw).short = UnitOfMeasure.parse raw

/-- Normalising changes no entry but the text of a unit. -/
theorem rewritesUnit_of_ne {l : Location} {key : String}
    (h : m.normalizeUnit.lookup? l key ≠ m.lookup? l key) :
    m.RewritesUnit m.normalizeUnit l key := by
  rcases m.normalizeUnit_cases with hsame | ⟨place, u, hunit, hknown, hwrite⟩
  · rw [hsame] at h
    exact absurd rfl h
  · rw [hwrite, Location.lookup?_insert] at h
    by_cases hentry : place = l ∧ unitKey = key
    · obtain ⟨rfl, rfl⟩ := hentry
      obtain ⟨raw, hraw, rfl⟩ := lookup?_of_unit? hunit
      refine ⟨rfl, raw, hraw, ?_, UnitOfMeasure.parse_short_parse hknown⟩
      rw [hwrite, Location.lookup?_insert, if_pos ⟨rfl, rfl⟩]
    · rw [if_neg hentry] at h
      exact absurd rfl h

end Message

/-! ## Processors that only normalise -/

namespace Rulebook

/-- Whether the only rule is to normalise units. -/
structure OnlyNormalizes (b : Rulebook) : Prop where
  on : b.normalizesUnits = true
  others : ∀ s, s ≠ .normalizeUnit → b.ruleCount s = 0

/-- Any list of stages that has the one that normalises at least once normalises, and any other list
leaves messages alone. -/
theorem OnlyNormalizes.runStages {b : Rulebook} (h : b.OnlyNormalizes) (judge : Judge)
    (stages : List Stage) (m : Message) :
    b.runStages judge stages m =
      .forward (if .normalizeUnit ∈ stages then m.normalizeUnit else m) := by
  induction stages generalizing m with
  | nil => rfl
  | cons s stages ih =>
    rw [Rulebook.runStages]
    by_cases hs : s = .normalizeUnit
    · have hstage : b.runStage judge s m = .next m.normalizeUnit := by
        rw [hs, runStage, if_pos h.on]
      rw [hstage, if_pos (hs ▸ List.mem_cons_self)]
      exact (ih m.normalizeUnit).trans (by rw [m.normalizeUnit_normalizeUnit, ite_self])
    · have hmem : .normalizeUnit ∈ s :: stages ↔ .normalizeUnit ∈ stages := by
        simp [Ne.symm hs]
      rw [runStage_of_ruleCount_eq_zero (h.others s hs)]
      simp only [hmem]
      exact ih m

end Rulebook

namespace Processor

/-- A known unit that is read from any text is read from its normal text. So a processor whose only
rule is to normalise units forwards every message, and a processor with this rule forwards it as it
is when it comes in again. Only the text of the unit is changed, and it is read as the same unit
before and after. -/
theorem process_normalized :
    (∀ raw, (UnitOfMeasure.parse raw).isKnown = true →
      UnitOfMeasure.parse (UnitOfMeasure.parse raw).short = UnitOfMeasure.parse raw) ∧
    ∀ p : Processor, p.rulebook.OnlyNormalizes → ∀ m, ∃ m',
      (∀ order, (p.process order m).2 = .forward m') ∧
      m' = (if .normalizeUnit ∈ p.rulebook.stages then m.normalizeUnit else m) ∧
      (∀ q : Processor, q.rulebook = p.rulebook → ∀ order, (q.process order m').2 = .forward m') ∧
      m'.unit? = m.unit? ∧
      ∀ l key, m'.lookup? l key ≠ m.lookup? l key → m.RewritesUnit m' l key := by
  refine ⟨fun raw h => UnitOfMeasure.parse_short_parse h, fun p hp m => ?_⟩
  have hforward (q : Processor) (hq : q.rulebook = p.rulebook) (m : Message)
      (order : Message.Order) :
      (q.process order m).2 =
        .forward (if .normalizeUnit ∈ p.rulebook.stages then m.normalizeUnit else m) := by
    rw [process_verdict, hq]
    exact hp.runStages _ _ m
  refine ⟨_, hforward p rfl m, rfl, fun q hq order => ?_, ?_⟩
  · rw [hforward q hq]
    split
    · rw [m.normalizeUnit_normalizeUnit]
    · rfl
  · split
    · exact ⟨m.unit?_normalizeUnit, fun l key => Message.rewritesUnit_of_ne⟩
    · exact ⟨rfl, fun l key h => absurd rfl h⟩

/-- A rate is normalised twice, with the stage listed twice, and forwarded as it is from then on. -/
theorem process_normalized_rate :
    ∃ (p : Processor) (m m' : Message), p.rulebook.OnlyNormalizes ∧
      p.rulebook.stages = [.normalizeUnit, .rename, .normalizeUnit] ∧
      m.lookup? .tags Message.unitKey = some (.string " mBytes/seconds ") ∧
      (p.process .ascending m).2 = .forward m' ∧
      m'.lookup? .tags Message.unitKey = some (.string "MB/s") ∧
      ((p.process .ascending m).1.process .ascending m').2 = .forward m' ∧
      m'.unit? = some (.tags, ⟨.mega, .bytes, some .seconds⟩) := by
  let p : Processor := { Processor.empty .standard with
    rulebook := { Rulebook.empty .standard with
      stages? := some [.normalizeUnit, .rename, .normalizeUnit], normalizesUnits := true } }
  let m : Message := .single "disk" ((∅ : KeyMap String).insert Message.unitKey " mBytes/seconds ")
    ∅ "value" (.int 5) .epoch
  have hp : p.rulebook.OnlyNormalizes := by
    refine ⟨rfl, fun s hs => ?_⟩
    cases s with
    | normalizeUnit => exact absurd rfl hs
    | _ => rfl
  have hraw : m.lookup? .tags Message.unitKey = some (.string " mBytes/seconds ") := by
    simp [m, Message.single, Message.lookup?]
  have hunit : m.unit? = some (.tags, ⟨.mega, .bytes, some .seconds⟩) := by
    have hparse : UnitOfMeasure.parse " mBytes/seconds " = ⟨.mega, .bytes, some .seconds⟩ := by
      decide
    simp [m, Message.single, Message.unit?, hparse]
  obtain ⟨m', hforward, hnormal, hagain, hunit', -⟩ := process_normalized.2 p hp m
  refine ⟨p, m, m', hp, rfl, hraw, hforward _, ?_, hagain _ rfl _, hunit'.trans hunit⟩
  have hwrite : m' = Location.tags.insert m Message.unitKey "MB/s" := by
    have hmetric : m.type = .metric := by simp [m, Message.type, Message.single]
    have hshort : (⟨.mega, .bytes, some .seconds⟩ : UnitOfMeasure).short = "MB/s" := by decide
    rw [hnormal, if_pos (by decide), Message.normalizeUnit, if_pos hmetric, hunit]
    simp [UnitOfMeasure.isKnown, Measure.isKnown, hshort]
  rw [hwrite, Location.lookup?_insert, if_pos ⟨rfl, rfl⟩]

end Processor

end Telemetry
