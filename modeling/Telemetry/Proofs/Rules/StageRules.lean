import Telemetry.Rules.Application

/-!
# The rules of a stage

The rules of all stages with conditions are of one form: a condition, what the rule does to a
message, and the protected field that it would take away. What the rules make of a message is the
effects of those whose conditions hold, up to the first condition without truth value, and the
first protected field that one of them asks for.
-/

namespace Telemetry

open Condition (RuntimeFault)

/-- A rule of a stage. It is refused if it would take away a protected field. -/
structure StageRule where
  condition : Condition.Program
  protectedKey? : Option String
  effect : Message → Message

namespace StageRule

/-- The rule of an action. -/
def ofRule {α : Type} (protects : α → Option String) (apply : α → Message → Message)
    (r : Rule α) : StageRule :=
  ⟨r.condition, protects r.action, apply r.action⟩

section Judged

variable (judge : Judge)

/-- Why the condition of a rule has no truth value. -/
def fault? (r : StageRule) : Option RuntimeFault :=
  match judge r.condition with
  | .error fault => some fault
  | .ok _ => none

/-- The protected field that a rule asks for, if its condition holds. -/
def refused? (r : StageRule) : Option String :=
  match judge r.condition with
  | .ok true => r.protectedKey?
  | _ => none

/-- The message after a rule: unchanged if the condition does not hold or the rule is refused. -/
def applyTo (r : StageRule) (m : Message) : Message :=
  match judge r.condition, r.protectedKey? with
  | .ok true, none => r.effect m
  | _, _ => m

/-- The message after rules, one after the other. -/
def applyAll (rules : List StageRule) (m : Message) : Message :=
  rules.foldl (fun m r => r.applyTo judge m) m

/-- The rules up to the first condition without truth value. -/
def faultless (rules : List StageRule) : List StageRule :=
  rules.takeWhile fun r => (r.fault? judge).isNone

/-- What rules make of a message, where rules before them may have been refused. -/
def outcome (refused : Option String) (rules : List StageRule) (m : Message) : StageResult :=
  match rules.findSome? (fault? judge) with
  | some fault => .failed (.evaluation fault) (applyAll judge (faultless judge rules) m)
  | none =>
    match refused.or (rules.findSome? (refused? judge)) with
    | some key => .failed (.protectedField key) (applyAll judge rules m)
    | none => .next (applyAll judge rules m)

end Judged

variable {judge : Judge}

@[simp] theorem applyAll_nil (m : Message) : applyAll judge [] m = m := rfl

@[simp] theorem applyAll_cons (r : StageRule) (rules : List StageRule) (m : Message) :
    applyAll judge (r :: rules) m = applyAll judge rules (r.applyTo judge m) := rfl

/-- Rules in two parts are applied one part after the other. -/
theorem applyAll_append (rules others : List StageRule) (m : Message) :
    applyAll judge (rules ++ others) m = applyAll judge others (applyAll judge rules m) :=
  List.foldl_append

/-- A rule whose condition does not hold changes nothing. -/
theorem applyTo_of_not_holds {r : StageRule} (h : judge r.condition ≠ .ok true) (m : Message) :
    r.applyTo judge m = m := by
  unfold applyTo
  split
  · rename_i hholds _
    exact absurd hholds h
  · rfl

/-- A refused rule changes nothing. -/
theorem applyTo_of_refused {r : StageRule} {key : String} (h : r.protectedKey? = some key)
    (m : Message) : r.applyTo judge m = m := by
  unfold applyTo
  split
  · rename_i hnone
    exact absurd (h.symm.trans hnone) (by simp)
  · rfl

/-- A rule has no fault exactly if its condition has a truth value. -/
theorem fault?_eq_none {r : StageRule} :
    r.fault? judge = none ↔ ∃ b, judge r.condition = .ok b := by
  unfold fault?
  split
  · rename_i hjudge
    simp [hjudge]
  · rename_i b hjudge
    simp [hjudge]

/-- The fault of a rule is that of its condition. -/
theorem fault?_eq_some {r : StageRule} {fault : RuntimeFault} :
    r.fault? judge = some fault ↔ judge r.condition = .error fault := by
  unfold fault?
  split
  · rename_i hjudge
    simp [hjudge]
  · rename_i b hjudge
    simp [hjudge]

/-- A rule is refused exactly if its condition holds and it names a reserved field. -/
theorem refused?_eq_some {r : StageRule} {key : String} :
    r.refused? judge = some key ↔ judge r.condition = .ok true ∧ r.protectedKey? = some key := by
  unfold refused?
  split
  · rename_i hjudge
    simp [hjudge]
  · rename_i hjudge
    simp only [reduceCtorEq, false_iff, not_and]
    intro hholds
    exact absurd hholds hjudge

/-- A condition without truth value ends the rules. -/
theorem outcome_cons_of_fault {r : StageRule} {fault : RuntimeFault}
    (h : judge r.condition = .error fault) (refused : Option String) (rules : List StageRule)
    (m : Message) : outcome judge refused (r :: rules) m = .failed (.evaluation fault) m := by
  have hfault := fault?_eq_some.mpr h
  simp [outcome, faultless, hfault]

/-- A rule whose condition has a truth value goes before the others. -/
theorem outcome_cons_of_ok {r : StageRule} {b : Bool} (h : judge r.condition = .ok b)
    (refused : Option String) (rules : List StageRule) (m : Message) :
    outcome judge refused (r :: rules) m =
      outcome judge (refused.or (r.refused? judge)) rules (r.applyTo judge m) := by
  have hfault := fault?_eq_none.mpr ⟨b, h⟩
  have hrefused : (r :: rules).findSome? (refused? judge) =
      (r.refused? judge).or (rules.findSome? (refused? judge)) := by
    rw [List.findSome?_cons]
    cases r.refused? judge <;> rfl
  simp [outcome, faultless, hfault, hrefused, Option.or_assoc]

end StageRule

open StageRule in
/-- Rules that are applied one after the other have their outcome. -/
theorem applyRules_eq_outcome {α : Type} (judge : Judge) (protects : α → Option String)
    (apply : α → Message → Message) (refused : Option String) (rules : List (Rule α))
    (m : Message) :
    applyRules judge protects apply refused rules m =
      outcome judge refused (rules.map (ofRule protects apply)) m := by
  induction rules generalizing refused m with
  | nil => cases refused <;> rfl
  | cons r rules ih =>
    rw [List.map_cons, applyRules]
    cases hjudge : judge r.condition with
    | error fault => exact (outcome_cons_of_fault hjudge refused _ m).symm
    | ok holds =>
      rw [outcome_cons_of_ok hjudge]
      cases holds with
      | false => simp [ih, refused?, applyTo, ofRule, hjudge]
      | true =>
        cases hprotects : protects r.action with
        | none => simp [ih, refused?, applyTo, ofRule, hjudge, hprotects]
        | some key =>
          cases refused <;> simp [ih, refused?, applyTo, ofRule, hjudge, hprotects]

/-- Only reserved fields are protected, and each by its own key. -/
theorem Edit.protectedKey?_eq_some {e : Edit} {kv : KeyValue} {key : String}
    (h : e.protectedKey? kv = some key) : key = kv.key ∧ isReserved key = true := by
  unfold protectedKey? at h
  split at h
  · obtain ⟨hreserved, rfl⟩ := Option.ite_some_none_eq_some.mp h
    exact ⟨rfl, hreserved⟩
  · obtain ⟨hreserved, rfl⟩ := Option.ite_some_none_eq_some.mp h
    exact ⟨rfl, hreserved⟩
  · exact absurd h (by simp)

namespace Rulebook

/-- The rules of a stage with conditions. A rule that drops messages does nothing to them. -/
def stageRules (b : Rulebook) (s : Stage) : List StageRule :=
  match s with
  | .dropIf => b.dropIf.map (.ofRule (fun _ => none) fun _ m => m)
  | .renameIf => b.renameIf.map (.ofRule (fun _ => none) fun name m => m.rename name)
  | .changeUnitPrefix => b.prefixes.map (.ofRule (fun _ => none) Message.changePrefix)
  | .dropByName | .dropByType | .rename | .normalizeUnit => []
  | s =>
    match s.edit? with
    | some e => (b.edits e).map (.ofRule e.protectedKey? e.apply)
    | none => []

/-- Only reserved fields are protected. -/
theorem isReserved_of_protectedKey? {b : Rulebook} {s : Stage} {r : StageRule} {key : String}
    (hr : r ∈ b.stageRules s) (hkey : r.protectedKey? = some key) : isReserved key = true := by
  unfold stageRules at hr
  split at hr
  case h_1 | h_2 | h_3 =>
    obtain ⟨rule, -, rfl⟩ := List.mem_map.mp hr
    exact absurd hkey (by simp [StageRule.ofRule])
  case h_4 | h_5 | h_6 | h_7 => exact absurd hr List.not_mem_nil
  case h_8 =>
    split at hr
    · obtain ⟨rule, -, rfl⟩ := List.mem_map.mp hr
      exact (Edit.protectedKey?_eq_some hkey).2
    · exact absurd hr List.not_mem_nil

/-- A stage that edits entries makes of a message what its rules do. -/
theorem runStage_edit (b : Rulebook) (judge : Judge) {s : Stage} (hs : s.edit?.isSome = true)
    (m : Message) : b.runStage judge s m = StageRule.outcome judge none (b.stageRules s) m := by
  cases s with
  | dropByName | dropByType | dropIf | rename | renameIf | changeUnitPrefix | normalizeUnit =>
    exact absurd hs (by simp [Stage.edit?])
  | _ => exact applyRules_eq_outcome judge _ _ none _ m

/-- A stage that renames messages makes of a message what its rules do. -/
theorem runStage_renameIf (b : Rulebook) (judge : Judge) (m : Message) :
    b.runStage judge .renameIf m = StageRule.outcome judge none (b.stageRules .renameIf) m :=
  applyRules_eq_outcome judge _ _ none _ m

/-- A stage that changes units makes of a metric what its rules do, and leaves any other message. -/
theorem runStage_changeUnitPrefix (b : Rulebook) (judge : Judge) (m : Message) :
    b.runStage judge .changeUnitPrefix m =
      if m.type = .metric then StageRule.outcome judge none (b.stageRules .changeUnitPrefix) m
      else .next m := by
  rw [runStage, applyRules_eq_outcome]
  rfl

/-- A stage without rules passes every message on. -/
theorem runStage_of_ruleCount_eq_zero {b : Rulebook} {judge : Judge} {s : Stage}
    (h : b.ruleCount s = 0) (m : Message) : b.runStage judge s m = .next m := by
  cases s with
  | dropByName =>
    have hempty : b.droppedNames = ∅ := Std.ExtTreeMap.eq_empty_iff_size_eq_zero.mpr h
    simp [runStage, hempty]
  | dropByType =>
    have hempty : b.droppedTypes = [] := List.length_eq_zero_iff.mp h
    simp [runStage, hempty]
  | dropIf =>
    have hempty : b.dropIf = [] := List.length_eq_zero_iff.mp h
    rw [runStage, hempty]
    rfl
  | rename =>
    have hempty : b.renames = ∅ := Std.ExtTreeMap.eq_empty_iff_size_eq_zero.mpr h
    simp [runStage, hempty]
  | renameIf =>
    have hempty : b.renameIf = [] := List.length_eq_zero_iff.mp h
    rw [runStage, hempty]
    rfl
  | changeUnitPrefix =>
    have hempty : b.prefixes = [] := List.length_eq_zero_iff.mp h
    rw [runStage, hempty]
    exact ite_self _
  | normalizeUnit =>
    have hoff : b.normalizesUnits = false := by simpa [ruleCount] using h
    simp [runStage, hoff]
  | _ =>
    have hempty := List.length_eq_zero_iff.mp h
    simp only [runStage, Stage.edit?, hempty]
    rfl

end Rulebook

end Telemetry
