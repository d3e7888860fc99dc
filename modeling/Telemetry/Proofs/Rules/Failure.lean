import Telemetry.Processor.Basic
import Telemetry.Proofs.Rules.StageRules

/-!
# Messages that fail

A message fails in one stage of the list. The stages before it have made of the message what they
make of it on their own, and the stage itself has applied some of its rules: those in front of the
first condition without truth value, or all but the ones that were refused. No later stage has
touched the message.
-/

namespace Telemetry

/-- How the rules of a stage fail on a message, with what cause, and what is left of the message. -/
inductive FailsBy (judge : Judge) (rules : List StageRule) (m : Message) :
    FailureCause → Message → Prop where
  /-- A condition has no truth value, and those before it have. The true rules before it are
  applied. -/
  | evaluation (before : List StageRule) (r : StageRule) (after : List StageRule)
      (fault : Condition.RuntimeFault) (hrules : rules = before ++ r :: after)
      (hbefore : ∀ q ∈ before, ∃ b, judge q.condition = .ok b)
      (hfault : judge r.condition = .error fault) :
      FailsBy judge rules m (.evaluation fault) (StageRule.applyAll judge before m)
  /-- All conditions have truth values, and a true rule asks for a protected field, but no true rule
  before it. All other true rules are applied, as far as they are not refused as well. -/
  | protectedField (before : List StageRule) (r : StageRule) (after : List StageRule) (key : String)
      (hrules : rules = before ++ r :: after)
      (hall : ∀ q ∈ rules, ∃ b, judge q.condition = .ok b)
      (hholds : judge r.condition = .ok true) (hkey : r.protectedKey? = some key)
      (hfirst : ∀ q ∈ before, judge q.condition = .ok true → q.protectedKey? = none) :
      FailsBy judge rules m (.protectedField key) (StageRule.applyAll judge (before ++ after) m)

/-- A rule in front whose condition does not hold plays no part. -/
theorem FailsBy.cons {judge : Judge} {rules : List StageRule} {r : StageRule} {m m' : Message}
    {cause : FailureCause} (h : FailsBy judge rules m cause m')
    (hr : judge r.condition = .ok false) : FailsBy judge (r :: rules) m cause m' := by
  have hskip : r.applyTo judge m = m := StageRule.applyTo_of_not_holds (by simp [hr]) m
  cases h with
  | evaluation before q after fault hrules hbefore hfault =>
    have h := FailsBy.evaluation (m := m) (r :: before) q after fault
      (congrArg (r :: ·) hrules) (List.forall_mem_cons.mpr ⟨⟨false, hr⟩, hbefore⟩) hfault
    rwa [StageRule.applyAll_cons, hskip] at h
  | protectedField before q after key hrules hall hholds hkey hfirst =>
    have h := FailsBy.protectedField (m := m) (r :: before) q after key
      (congrArg (r :: ·) hrules) (List.forall_mem_cons.mpr ⟨⟨false, hr⟩, hall⟩) hholds hkey
      (List.forall_mem_cons.mpr ⟨fun htrue => absurd (hr.symm.trans htrue) (by simp), hfirst⟩)
    rwa [List.cons_append, StageRule.applyAll_cons, hskip] at h

namespace StageRule

variable {judge : Judge}

/-- The rules in front of the first condition without truth value. -/
theorem faultless_append {before after : List StageRule} {r : StageRule}
    (hbefore : ∀ q ∈ before, q.fault? judge = none) (hr : (r.fault? judge).isSome = true) :
    faultless judge (before ++ r :: after) = before := by
  have hpos : ∀ q ∈ before, (q.fault? judge).isNone = true := by
    intro q hq
    rw [hbefore q hq]
    rfl
  have hneg : ¬(r.fault? judge).isNone = true := by
    obtain ⟨fault, hfault⟩ := Option.isSome_iff_exists.mp hr
    simp [hfault]
  have hrest : (r :: after).takeWhile (fun q => (q.fault? judge).isNone) = [] :=
    List.takeWhile_cons_of_neg hneg
  rw [faultless, List.takeWhile_append_of_pos hpos, hrest, List.append_nil]

/-- Rules whose outcome is a failure fail in one of the two ways. -/
theorem failsBy_of_outcome {rules : List StageRule} {m m' : Message} {cause : FailureCause}
    (h : outcome judge none rules m = .failed cause m') : FailsBy judge rules m cause m' := by
  unfold outcome at h
  split at h
  · rename_i fault hfault
    obtain ⟨rfl, rfl⟩ := StageResult.failed.inj h
    obtain ⟨before, r, after, rfl, hr, hbefore⟩ := List.findSome?_eq_some_iff.mp hfault
    rw [faultless_append hbefore (by simp [hr])]
    refine .evaluation before r after fault rfl (fun q hq => ?_) (fault?_eq_some.mp hr)
    exact fault?_eq_none.mp (hbefore q hq)
  · rename_i hnone
    split at h
    · rename_i key hkey
      obtain ⟨rfl, rfl⟩ := StageResult.failed.inj h
      rw [Option.none_or] at hkey
      obtain ⟨before, r, after, rfl, hr, hbefore⟩ := List.findSome?_eq_some_iff.mp hkey
      obtain ⟨hholds, hprotected⟩ := refused?_eq_some.mp hr
      have hall : ∀ q ∈ before ++ r :: after, ∃ b, judge q.condition = .ok b := fun q hq =>
        fault?_eq_none.mp (List.findSome?_eq_none_iff.mp hnone q hq)
      have hfirst : ∀ q ∈ before, judge q.condition = .ok true → q.protectedKey? = none := by
        intro q hq hjudge
        have hnot := hbefore q hq
        rwa [refused?, hjudge] at hnot
      -- the refused rule itself changes nothing
      have hskip : applyAll judge (before ++ r :: after) m =
          applyAll judge (before ++ after) m := by
        rw [applyAll_append, applyAll_append, applyAll_cons, applyTo_of_refused hprotected]
      rw [hskip]
      exact .protectedField before r after key rfl hall hholds hprotected hfirst
    · exact absurd h (by simp)

end StageRule

namespace Rulebook

variable {b : Rulebook} {judge : Judge}

/-- Rules that drop messages fail by the first condition without truth value. -/
theorem judgeDrops_failed {rules : List (Rule PUnit)} {m m' : Message} {cause : FailureCause}
    (h : judgeDrops judge rules m = .failed cause m') :
    FailsBy judge (rules.map (.ofRule (fun _ => none) fun _ m => m)) m cause m' := by
  induction rules with
  | nil => exact absurd h (by simp [judgeDrops])
  | cons r rules ih =>
    rw [judgeDrops] at h
    cases hjudge : judge r.condition with
    | error fault =>
      rw [hjudge] at h
      obtain ⟨rfl, rfl⟩ := StageResult.failed.inj h
      exact .evaluation [] _ _ fault rfl (by simp) hjudge
    | ok holds =>
      rw [hjudge] at h
      cases holds with
      | true => exact absurd h (by simp)
      | false => exact (ih h).cons hjudge

/-- A stage that fails fails by its rules. -/
theorem runStage_failed {s : Stage} {m m' : Message} {cause : FailureCause}
    (h : b.runStage judge s m = .failed cause m') :
    FailsBy judge (b.stageRules s) m cause m' := by
  cases s with
  | dropByName | dropByType | rename =>
    simp only [runStage] at h
    split at h <;> exact absurd h (by simp)
  | normalizeUnit => exact absurd h (by simp [runStage])
  | dropIf => exact judgeDrops_failed h
  | renameIf => exact StageRule.failsBy_of_outcome (b.runStage_renameIf judge m ▸ h)
  | changeUnitPrefix =>
    rw [runStage_changeUnitPrefix] at h
    split at h
    · exact StageRule.failsBy_of_outcome h
    · exact absurd h (by simp)
  | _ =>
    rw [runStage_edit] at h
    · exact StageRule.failsBy_of_outcome h
    · rfl

/-- The field that a rule must not take away is a reserved one. -/
theorem isReserved_of_failsBy {s : Stage} {m m' : Message} {key : String}
    (h : FailsBy judge (b.stageRules s) m (.protectedField key) m') : isReserved key = true := by
  generalize hcause : FailureCause.protectedField key = cause at h
  cases h with
  | evaluation => exact absurd hcause (by simp)
  | protectedField before r after key' hrules hall hholds hkey hfirst =>
    obtain rfl := FailureCause.protectedField.inj hcause
    have hr : r ∈ b.stageRules s := by
      rw [hrules]
      exact List.mem_append_right _ List.mem_cons_self
    exact isReserved_of_protectedKey? hr hkey

/-- A run that fails has failed in a stage that the stages before it have passed the message on
to. -/
theorem runStages_fail {stages : List Stage} {m : Message} {f : Failure}
    (h : b.runStages judge stages m = .fail f) :
    ∃ i w, stages[i]? = some f.stage ∧ b.runStages judge (stages.take i) m = .forward w ∧
      b.runStage judge f.stage w = .failed f.cause f.partialMessage := by
  induction stages generalizing m with
  | nil => exact absurd h (by simp [runStages])
  | cons s rest ih =>
    rw [runStages] at h
    cases hstage : b.runStage judge s m with
    | next m' =>
      rw [hstage] at h
      obtain ⟨i, w, hi, hw, hf⟩ := ih h
      refine ⟨i + 1, w, hi, ?_, hf⟩
      rw [List.take_succ_cons, runStages, hstage]
      exact hw
    | drop reason =>
      rw [hstage] at h
      exact absurd h (by simp)
    | failed cause m' =>
      rw [hstage] at h
      obtain rfl := Verdict.fail.inj h
      exact ⟨0, m, rfl, rfl, hstage⟩

/-- The order of the stages is not looked at in a run. -/
theorem runStages_withStages (order : Option (List Stage)) (stages : List Stage) (m : Message) :
    ({ b with stages? := order } : Rulebook).runStages judge stages m =
      b.runStages judge stages m := by
  induction stages generalizing m with
  | nil => rfl
  | cons s rest ih =>
    have hstage : ({ b with stages? := order } : Rulebook).runStage judge s m =
        b.runStage judge s m := by
      cases s <;> rfl
    rw [runStages, runStages, hstage]
    cases b.runStage judge s m with
    | next m' => exact ih m'
    | drop => rfl
    | failed => rfl

end Rulebook

namespace Processor

/-- The processor with other stages. -/
def withStages (p : Processor) (stages : List Stage) : Processor :=
  { p with rulebook := { p.rulebook with stages? := some stages } }

/-- The truth values of conditions while the processor processes a message. -/
def judge (p : Processor) (order : Message.Order) (m : Message) : Judge :=
  Rulebook.judgeOn (Condition.Snapshot.fill order m p.pool.acquire.1)

/-- A message takes the way through the stages. -/
theorem process_verdict (p : Processor) (order : Message.Order) (m : Message) :
    (p.process order m).2 = p.rulebook.runStages (p.judge order m) p.rulebook.stages m := rfl

/-- With other stages, a message takes the way through these. -/
theorem process_withStages (p : Processor) (stages : List Stage) (order : Message.Order)
    (m : Message) :
    ((p.withStages stages).process order m).2 = p.rulebook.runStages (p.judge order m) stages m :=
  Rulebook.runStages_withStages (some stages) stages m

/-- A message that fails, fails in a stage of the list by the rules of this stage. A processor with
the stages before it only forwards the message, and the rules have started from what it forwards.
A field that a rule must not take away is a reserved one. -/
theorem process_fail (p : Processor) (order : Message.Order) (m : Message) (f : Failure)
    (h : (p.process order m).2 = .fail f) :
    ∃ i w, p.rulebook.stages[i]? = some f.stage ∧
      ((p.withStages (p.rulebook.stages.take i)).process order m).2 = .forward w ∧
      FailsBy (p.judge order m) (p.rulebook.stageRules f.stage) w f.cause f.partialMessage ∧
      ∀ key, f.cause = .protectedField key → isReserved key = true := by
  rw [process_verdict] at h
  obtain ⟨i, w, hi, hw, hf⟩ := Rulebook.runStages_fail h
  have hforward : ((p.withStages (p.rulebook.stages.take i)).process order m).2 = .forward w := by
    rw [process_verdict]
    exact (Rulebook.runStages_withStages _ _ m).trans hw
  have hfails := Rulebook.runStage_failed hf
  refine ⟨i, w, hi, hforward, hfails, fun key hkey => ?_⟩
  rw [hkey] at hfails
  exact Rulebook.isReserved_of_failsBy hfails

/-- Deleting the value of a message is refused, and the tag of the stage before is there. -/
theorem process_fail_deleteField :
    ∃ (p : Processor) (f : Failure),
      f = ⟨.deleteField, .protectedField "value", Location.tags.insert .empty "site" "lab"⟩ ∧
      (p.process .ascending .empty).2 = .fail f ∧
      ∃ i w, p.rulebook.stages[i]? = some f.stage ∧
        ((p.withStages (p.rulebook.stages.take i)).process .ascending .empty).2 = .forward w ∧
        FailsBy (p.judge .ascending .empty) (p.rulebook.stageRules f.stage) w f.cause
          f.partialMessage ∧
        ∀ key, f.cause = .protectedField key → isReserved key = true := by
  let always : Condition.Program := ⟨"*", .constant (.bool true), .standard⟩
  let edits (e : Edit) : List (Rule KeyValue) :=
    if e = .add .tags then [⟨always, ⟨"site", "lab"⟩⟩]
    else if e = .delete .fields then [⟨always, ⟨"value", ""⟩⟩]
    else []
  let p : Processor := { Processor.empty .standard with
    rulebook := { Rulebook.empty .standard with
      stages? := some [.addTag, .deleteField], edits := edits } }
  have h : (p.process .ascending .empty).2 = .fail ⟨.deleteField, .protectedField "value",
      Location.tags.insert .empty "site" "lab"⟩ := rfl
  exact ⟨p, _, rfl, h, process_fail p _ _ _ h⟩

end Processor

end Telemetry
