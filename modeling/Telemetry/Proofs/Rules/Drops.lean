import Telemetry.Proofs.Condition.Disjunction
import Telemetry.Proofs.Rules.Failure

/-!
# Rules that drop messages

A list of conditions that drop messages means that one of them holds: two rules next to each other
may be written as one, with the disjunction of their conditions. What becomes of a message stays the
same. Only the fault of a message that fails may differ, since a condition that is no truth value is
then blamed by `||`.
-/

namespace Telemetry

/-- What a stage makes of a message is the same, but for the fault of a condition. -/
inductive StageResult.Alike : StageResult → StageResult → Prop where
  | same (r : StageResult) : Alike r r
  | fault (f g : Condition.RuntimeFault) (m : Message) :
    Alike (.failed (.evaluation f) m) (.failed (.evaluation g) m)

/-- What becomes of a message is the same, but for the fault of a condition: it is dropped both
times, or forwarded as the same message, or it fails in one stage and is left as the same
message. -/
inductive Verdict.Alike : Verdict → Verdict → Prop where
  | same (v : Verdict) : Alike v v
  | fault (s : Stage) (f g : Condition.RuntimeFault) (m : Message) :
    Alike (.fail ⟨s, .evaluation f, m⟩) (.fail ⟨s, .evaluation g, m⟩)

namespace Rulebook

variable {judge : Judge} {first second both : Rule PUnit}

/-- The condition of one rule comes to what those of two rules come to, the second of them looked at
where the first does not hold. -/
def IsEither (judge : Judge) (first second both : Rule PUnit) : Prop :=
  (judge both.condition).toOption = (judge first.condition).toOption.bind fun holds =>
    if holds then some true else (judge second.condition).toOption

/-- Two rules in front may be one. -/
theorem judgeDrops_front (h : IsEither judge first second both)
    (rules : List (Rule PUnit)) (m : Message) :
    (judgeDrops judge (first :: second :: rules) m).Alike (judgeDrops judge (both :: rules) m) := by
  simp only [judgeDrops]
  cases hfirst : judge first.condition with
  | error f =>
    rw [IsEither, hfirst] at h
    cases hboth : judge both.condition with
    | error g => exact .fault f g m
    | ok => exact absurd (hboth ▸ h) (by simp [Except.toOption])
  | ok holds =>
    rw [IsEither, hfirst] at h
    cases holds with
    | true =>
      have hboth : judge both.condition = .ok true := Except.toOption_eq_some_iff.mp h
      rw [hboth]
      exact .same _
    | false =>
      have hsecond : (judge both.condition).toOption = (judge second.condition).toOption := h
      cases hs : judge second.condition with
      | error f =>
        cases hboth : judge both.condition with
        | error g => exact .fault f g m
        | ok => exact absurd (hboth ▸ hs ▸ hsecond) (by simp [Except.toOption])
      | ok b =>
        rw [hs] at hsecond
        rw [Except.toOption_eq_some_iff.mp hsecond]
        exact .same _

/-- Two rules next to each other may be one. -/
theorem judgeDrops_alike (h : IsEither judge first second both)
    (before after : List (Rule PUnit)) (m : Message) :
    (judgeDrops judge (before ++ first :: second :: after) m).Alike
      (judgeDrops judge (before ++ both :: after) m) := by
  induction before with
  | nil => exact judgeDrops_front h after m
  | cons r before ih =>
    rw [List.cons_append, List.cons_append, judgeDrops, judgeDrops]
    cases judge r.condition with
    | error => exact .same _
    | ok holds =>
      cases holds with
      | true => exact .same _
      | false => exact ih

/-- Rulebooks whose stages make the same of every message make the same of it in a run. -/
theorem runStages_alike {b b' : Rulebook}
    (h : ∀ s m, (b.runStage judge s m).Alike (b'.runStage judge s m)) (stages : List Stage)
    (m : Message) : (b.runStages judge stages m).Alike (b'.runStages judge stages m) := by
  induction stages generalizing m with
  | nil => exact .same _
  | cons s rest ih =>
    have hstage := h s m
    rw [runStages, runStages]
    generalize b.runStage judge s m = result at hstage
    generalize b'.runStage judge s m = result' at hstage
    cases hstage with
    | same =>
      cases result with
      | next m' => exact ih m'
      | drop => exact .same _
      | failed => exact .same _
    | fault f g m' => exact .fault s f g m'

/-- The rulebook with other rules that drop messages under a condition. -/
def withDrops (b : Rulebook) (rules : List (Rule PUnit)) : Rulebook := { b with dropIf := rules }

@[simp] theorem compile_withDrops (b : Rulebook) (rules : List (Rule PUnit)) (c : String) :
    (b.withDrops rules).compile c = b.compile c := by
  simp only [compile, withDrops]

/-- A rulebook with two rules as one makes the same of a message in every stage. -/
theorem runStage_alike {b : Rulebook} {before after : List (Rule PUnit)}
    (hrules : b.dropIf = before ++ first :: second :: after)
    (h : IsEither judge first second both) (s : Stage) (m : Message) :
    (b.runStage judge s m).Alike ((b.withDrops (before ++ both :: after)).runStage judge s m) := by
  cases s with
  | dropIf =>
    rw [runStage, runStage, hrules]
    exact judgeDrops_alike h before after m
  | _ => exact .same _

/-- What a rulebook compiles is the sanitised condition. -/
theorem program_of_compile {b : Rulebook} {c : String} {q : Condition.Program}
    (h : b.compile c = .ok q) :
    Condition.Program.compile b.environment (Condition.sanitize c) = .ok q := by
  unfold compile at h
  split at h
  · rename_i hq
    rw [hq, Except.ok.inj h]
  · exact absurd h (by simp)

/-- The conditions of a rulebook have one engine. -/
theorem patterns_of_compile {b : Rulebook} {c : String} {q : Condition.Program}
    (h : b.compile c = .ok q) : q.patterns = b.environment.patterns := by
  obtain ⟨root, -, rfl⟩ := Except.map_eq_ok_iff.mp (program_of_compile h)
  rfl

/-- The disjunction of two conditions is a condition, unless it is nested too deeply. -/
theorem compile_disjunction (b : Rulebook) {c₁ c₂ : String} {q₁ q₂ : Condition.Program}
    (h₁ : b.compile c₁ = .ok q₁) (h₂ : b.compile c₂ = .ok q₂)
    (hall₁ : Condition.Program.matchesAll c₁ = false)
    (hall₂ : Condition.Program.matchesAll c₂ = false) :
    b.compile (Condition.disjunction c₁ c₂) = .ok (q₁.either q₂) ∨
      ∃ offset, b.compile (Condition.disjunction c₁ c₂) =
        .error (.notCondition (Condition.disjunction c₁ c₂) (.ofSyntax ⟨offset, .tooDeep⟩)) := by
  unfold compile
  rw [Condition.sanitize_disjunction]
  rcases Condition.Program.compile_disjunction (program_of_compile h₁)
    (program_of_compile h₂)
    (Condition.Program.matchesAll_sanitize hall₁)
    (Condition.Program.matchesAll_sanitize hall₂) with hok | ⟨offset, herror⟩
  · rw [hok]
    exact .inl rfl
  · rw [herror]
    exact .inr ⟨offset, rfl⟩

end Rulebook

namespace Processor

/-- The processor with other rules that drop messages under a condition. -/
def withDrops (p : Processor) (rules : List (Rule PUnit)) : Processor :=
  { p with rulebook := p.rulebook.withDrops rules }

/-- Two conditions next to each other that drop messages may be written as their disjunction: this
is a condition, unless it is nested too deeply, and the processor with it in the place of the two
makes the same of every message, but for the fault of a message that fails. -/
theorem drops_disjunction (p : Processor) {c₁ c₂ : String} {q₁ q₂ : Condition.Program}
    (h₁ : p.rulebook.compile c₁ = .ok q₁) (h₂ : p.rulebook.compile c₂ = .ok q₂)
    (hall₁ : Condition.Program.matchesAll c₁ = false)
    (hall₂ : Condition.Program.matchesAll c₂ = false) {before after : List (Rule PUnit)}
    (hrules : p.rulebook.dropIf = before ++ ⟨q₁, ⟨⟩⟩ :: ⟨q₂, ⟨⟩⟩ :: after) :
    (∃ offset, p.rulebook.compile (Condition.disjunction c₁ c₂) =
        .error (.notCondition (Condition.disjunction c₁ c₂) (.ofSyntax ⟨offset, .tooDeep⟩))) ∨
      ∃ q, p.rulebook.compile (Condition.disjunction c₁ c₂) = .ok q ∧
        ∀ order m, (p.process order m).2.Alike
          ((p.withDrops (before ++ ⟨q, ⟨⟩⟩ :: after)).process order m).2 := by
  rcases p.rulebook.compile_disjunction h₁ h₂ hall₁ hall₂ with hok | herror
  · refine .inr ⟨_, hok, fun order m => ?_⟩
    have hpatterns : q₁.patterns = q₂.patterns :=
      (Rulebook.patterns_of_compile h₁).trans (Rulebook.patterns_of_compile h₂).symm
    have heither : Rulebook.IsEither (p.judge order m) ⟨q₁, ⟨⟩⟩ ⟨q₂, ⟨⟩⟩ ⟨q₁.either q₂, ⟨⟩⟩ :=
      Condition.Program.toOption_either_holds hpatterns _
    rw [process_verdict, process_verdict]
    exact Rulebook.runStages_alike (Rulebook.runStage_alike hrules heither) _ m
  · exact .inl herror

/-- A processor that drops messages without a name, and those of a site with a long name. -/
theorem drops_disjunction_names :
    ∃ (p : Processor) (q₁ q₂ q : Condition.Program),
      p.rulebook.compile "name == ''" = .ok q₁ ∧
      p.rulebook.compile "tags.site == 'lab' and len(name) > 8" = .ok q₂ ∧
      Condition.Program.matchesAll "name == ''" = false ∧
      Condition.Program.matchesAll "tags.site == 'lab' and len(name) > 8" = false ∧
      p.rulebook.dropIf = [] ++ ⟨q₁, ⟨⟩⟩ :: ⟨q₂, ⟨⟩⟩ :: [] ∧
      p.rulebook.compile (Condition.disjunction "name == ''"
        "tags.site == 'lab' and len(name) > 8") = .ok q ∧
      ∀ order m, (p.process order m).2.Alike
        ((p.withDrops ([] ++ ⟨q, ⟨⟩⟩ :: [])).process order m).2 := by
  let none : Rulebook := .empty .standard
  have h₁ : (none.compile "name == ''").toOption.isSome = true := by decide +kernel
  have h₂ : (none.compile
      "tags.site == 'lab' and len(name) > 8").toOption.isSome = true := by decide +kernel
  have h : (none.compile (Condition.disjunction "name == ''"
      "tags.site == 'lab' and len(name) > 8")).toOption.isSome = true := by decide +kernel
  obtain ⟨q₁, hq₁⟩ := Option.isSome_iff_exists.mp h₁
  obtain ⟨q₂, hq₂⟩ := Option.isSome_iff_exists.mp h₂
  let p : Processor := (empty .standard).withDrops ([] ++ ⟨q₁, ⟨⟩⟩ :: ⟨q₂, ⟨⟩⟩ :: [])
  have hcompile : ∀ c, p.rulebook.compile c = none.compile c :=
    Rulebook.compile_withDrops _ _
  have h₁ := (hcompile _).trans (Except.toOption_eq_some_iff.mp hq₁)
  have h₂ := (hcompile _).trans (Except.toOption_eq_some_iff.mp hq₂)
  have hall₁ : Condition.Program.matchesAll "name == ''" = false := by decide +kernel
  have hall₂ : Condition.Program.matchesAll "tags.site == 'lab' and len(name) > 8" = false := by
    decide +kernel
  have hrules : p.rulebook.dropIf = [] ++ ⟨q₁, ⟨⟩⟩ :: ⟨q₂, ⟨⟩⟩ :: [] := rfl
  rcases p.drops_disjunction h₁ h₂ hall₁ hall₂ hrules with ⟨offset, herror⟩ | ⟨q, hq, halike⟩
  · rw [hcompile] at herror
    rw [herror] at h
    exact absurd h (by simp [Except.toOption])
  · exact ⟨p, q₁, q₂, q, h₁, h₂, hall₁, hall₂, hrules, hq, halike⟩

end Processor

end Telemetry
