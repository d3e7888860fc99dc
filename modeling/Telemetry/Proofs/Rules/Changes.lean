import Mathlib.Data.List.TakeWhile
import Mathlib.Logic.Relation
import Telemetry.Proofs.Rules.Failure

/-!
# What stages do to messages

Whatever becomes of a message on its way through stages, it is changed in only five ways. A
forwarded message and what is left of a message that failed are reached by a row of such changes, so
that a property which every change preserves holds of both.
-/

namespace Telemetry

open Relation (ReflTransGen)

/-- One change that the listed stages make. -/
inductive Change (b : Rulebook) (judge : Judge) (stages : List Stage) :
    Message → Message → Prop where
  /-- The message has a name that is to be changed. -/
  | rename (m : Message) (name : String) (hs : .rename ∈ stages)
      (hname : b.renames[m.name]? = some name) : Change b judge stages m (m.rename name)
  /-- A rule for the name holds. -/
  | renameIf (m : Message) (r : Rule String) (hs : .renameIf ∈ stages) (hr : r ∈ b.renameIf)
      (hholds : judge r.condition = .ok true) : Change b judge stages m (m.rename r.action)
  /-- A rule that edits entries holds and is not refused. -/
  | edit (m : Message) (s : Stage) (e : Edit) (r : Rule KeyValue) (hs : s ∈ stages)
      (he : s.edit? = some e) (hr : r ∈ b.edits e) (hholds : judge r.condition = .ok true)
      (hallowed : e.protectedKey? r.action = none) : Change b judge stages m (e.apply r.action m)
  /-- A rule for the prefix of the unit holds. -/
  | changePrefix (m : Message) (r : Rule Prefix) (hs : .changeUnitPrefix ∈ stages)
      (hr : r ∈ b.prefixes) (hholds : judge r.condition = .ok true) :
      Change b judge stages m (m.changePrefix r.action)
  /-- Units are normalised. -/
  | normalize (m : Message) (hs : .normalizeUnit ∈ stages) (hon : b.normalizesUnits = true) :
      Change b judge stages m m.normalizeUnit

/-- The message that a stage leaves, unless it drops the message. -/
def StageResult.message? : StageResult → Option Message
  | next m => some m
  | drop _ => none
  | failed _ m => some m

variable {b : Rulebook} {judge : Judge} {stages : List Stage} {s : Stage}

/-! ## One stage -/

namespace StageRule

/-- A rule of a listed stage makes one change or none. -/
theorem applyTo_changes {r : StageRule} (hs : s ∈ stages) (hr : r ∈ b.stageRules s) (m : Message) :
    ReflTransGen (Change b judge stages) m (r.applyTo judge m) := by
  unfold applyTo
  split
  case h_2 => exact .refl
  case h_1 hholds hallowed =>
    unfold Rulebook.stageRules at hr
    split at hr
    case h_1 =>
      -- a rule that drops messages does nothing to them
      obtain ⟨rule, -, rfl⟩ := List.mem_map.mp hr
      exact .refl
    case h_2 =>
      obtain ⟨rule, hrule, rfl⟩ := List.mem_map.mp hr
      exact .single (.renameIf m rule hs hrule hholds)
    case h_3 =>
      obtain ⟨rule, hrule, rfl⟩ := List.mem_map.mp hr
      exact .single (.changePrefix m rule hs hrule hholds)
    case h_4 | h_5 | h_6 | h_7 => exact absurd hr List.not_mem_nil
    case h_8 =>
      split at hr
      · rename_i e he
        obtain ⟨rule, hrule, rfl⟩ := List.mem_map.mp hr
        exact .single (.edit m _ e rule hs he hrule hholds hallowed)
      · exact absurd hr List.not_mem_nil

/-- What the rules of a stage make of a message is reached by changes of that stage. -/
theorem applyAll_changes {rules : List StageRule} (hs : s ∈ stages)
    (hrules : ∀ r ∈ rules, r ∈ b.stageRules s) (m : Message) :
    ReflTransGen (Change b judge stages) m (applyAll judge rules m) := by
  induction rules generalizing m with
  | nil => exact .refl
  | cons r rules ih =>
    obtain ⟨hr, hrules⟩ := List.forall_mem_cons.mp hrules
    exact (applyTo_changes hs hr m).trans (ih hrules _)

/-- Rules leave a message as they have made it, up to the first condition without truth value. -/
theorem outcome_message (judge : Judge) (refused : Option String) (rules : List StageRule)
    (m : Message) :
    (outcome judge refused rules m).message? = some (applyAll judge (faultless judge rules) m) := by
  unfold outcome
  split
  · rfl
  · rename_i hnone
    have hall : faultless judge rules = rules := by
      refine List.takeWhile_eq_self_iff.mpr fun r hr => ?_
      rw [List.findSome?_eq_none_iff.mp hnone r hr]
      rfl
    rw [hall]
    split <;> rfl

/-- What leaves a stage, with or without a fault, is reached by changes of that stage. -/
theorem outcome_changes {refused : Option String} {m m' : Message} (hs : s ∈ stages)
    (h : (outcome judge refused (b.stageRules s) m).message? = some m') :
    ReflTransGen (Change b judge stages) m m' := by
  obtain rfl := Option.some.inj ((outcome_message judge refused (b.stageRules s) m).symm.trans h)
  exact applyAll_changes hs (fun r hr => (List.takeWhile_sublist _).mem hr) m

end StageRule

namespace Rulebook

/-- Rules that drop messages leave them as they are. -/
theorem judgeDrops_message {rules : List (Rule PUnit)} {m m' : Message}
    (h : (judgeDrops judge rules m).message? = some m') : m' = m := by
  induction rules with
  | nil => exact (Option.some.inj h).symm
  | cons r rules ih =>
    rw [judgeDrops] at h
    cases hjudge : judge r.condition with
    | error fault =>
      rw [hjudge] at h
      exact (Option.some.inj h).symm
    | ok holds =>
      rw [hjudge] at h
      cases holds with
      | true => exact absurd h (by simp [StageResult.message?])
      | false => exact ih h

/-- What a listed stage leaves is reached by its changes. -/
theorem runStage_changes {m m' : Message} (hs : s ∈ stages)
    (h : (b.runStage judge s m).message? = some m') :
    ReflTransGen (Change b judge stages) m m' := by
  cases s with
  | dropByName | dropByType =>
    simp only [runStage] at h
    split at h
    · exact absurd h (by simp [StageResult.message?])
    · obtain rfl := Option.some.inj h
      exact .refl
  | dropIf =>
    obtain rfl := judgeDrops_message h
    exact .refl
  | rename =>
    simp only [runStage] at h
    split at h
    · rename_i name hname
      obtain rfl := Option.some.inj h
      exact .single (.rename m name hs hname)
    · obtain rfl := Option.some.inj h
      exact .refl
  | renameIf => exact StageRule.outcome_changes hs (b.runStage_renameIf judge m ▸ h)
  | changeUnitPrefix =>
    rw [runStage_changeUnitPrefix] at h
    split at h
    · exact StageRule.outcome_changes hs h
    · obtain rfl := Option.some.inj h
      exact .refl
  | normalizeUnit =>
    obtain rfl := Option.some.inj h
    split
    · rename_i hon
      exact .single (.normalize m hs hon)
    · exact .refl
  | _ =>
    rw [runStage_edit] at h
    · exact StageRule.outcome_changes hs h
    · rfl

/-! ## All stages -/

/-- What stages leave is reached by changes of the stages that are listed with them. -/
theorem runStages_changes {run : List Stage} {m m' : Message} (hrun : ∀ s ∈ run, s ∈ stages)
    (h : (b.runStages judge run m).forwarded? true = some m') :
    ReflTransGen (Change b judge stages) m m' := by
  induction run generalizing m with
  | nil =>
    obtain rfl := Option.some.inj h
    exact .refl
  | cons s run ih =>
    obtain ⟨hs, hrun⟩ := List.forall_mem_cons.mp hrun
    rw [runStages] at h
    cases hstage : b.runStage judge s m with
    | next w =>
      rw [hstage] at h
      exact (runStage_changes hs (congrArg StageResult.message? hstage)).trans (ih hrun h)
    | drop reason =>
      rw [hstage] at h
      exact absurd h (by simp [Verdict.forwarded?])
    | failed cause w =>
      rw [hstage] at h
      obtain rfl := Option.some.inj h
      exact runStage_changes hs (congrArg StageResult.message? hstage)

end Rulebook

namespace Verdict

/-- A message that leaves the processor also leaves it where failed messages are wanted. -/
theorem forwarded?_true {v : Verdict} {onError : Bool} {m : Message}
    (h : v.forwarded? onError = some m) : v.forwarded? true = some m := by
  cases v with
  | forward => exact h
  | drop => exact h
  | fail f =>
    cases onError with
    | true => exact h
    | false => exact absurd h (by simp [forwarded?])

end Verdict

/-- A message that leaves a processor is reached from the one that came in by changes of the stages
of the processor, whose conditions are judged on the message that came in. -/
theorem Processor.process_changes {p : Processor} {order : Message.Order} {m m' : Message}
    {onError : Bool} (h : (p.process order m).2.forwarded? onError = some m') :
    ReflTransGen (Change p.rulebook (p.judge order m) p.rulebook.stages) m m' :=
  Rulebook.runStages_changes (fun _ hs => hs)
    (Verdict.forwarded?_true (p.process_verdict order m ▸ h))

end Telemetry
