import Telemetry.Proofs.Condition.GrammarCompleteness
import Telemetry.Proofs.Condition.Sanitizing
import Telemetry.Proofs.Condition.TypeSoundness
import Telemetry.Proofs.Text.Trimming

/-!
# Two conditions as one

`disjunction c₁ c₂` writes two conditions into one text, each in parentheses. Each keeps its tokens
and its tree there: the parenthesis behind it ends its last token, and parentheses are operands of
every operator. So the text is the condition that holds where one of the two does, with the second
looked at where the first does not hold, unless its parentheses nest it too deeply.
-/

namespace Telemetry

namespace Condition

/-- The text of two conditions, one of which must hold. -/
def disjunction (c₁ c₂ : String) : String := "(" ++ c₁ ++ ") || (" ++ c₂ ++ ")"

/-- The characters of a disjunction: both conditions in parentheses and the operator between
them. -/
theorem toList_disjunction (c₁ c₂ : String) :
    (disjunction c₁ c₂).toList = '(' :: (c₁.toList ++
      ')' :: ' ' :: '|' :: '|' :: ' ' :: '(' :: (c₂.toList ++ [')'])) := by
  simp [disjunction]

/-! ## Reading -/

/-- Sanitising goes through the two conditions. -/
theorem sanitize_disjunction (c₁ c₂ : String) :
    sanitize (disjunction c₁ c₂) = disjunction (sanitize c₁) (sanitize c₂) := by
  apply String.toList_inj.mp
  rw [toList_disjunction, sanitize, sanitize, sanitize, String.toList_ofList,
    String.toList_ofList, String.toList_ofList, toList_disjunction]
  simp (disch := decide) only [sanitizeChars_append, sanitizeChars_other]
  rfl

/-- The tokens of a disjunction are those of its parts, between parentheses. -/
theorem disjunction_lexes {c₁ c₂ : String} {us vs : List Token} (h₁ : Lexes c₁.toList us)
    (h₂ : Lexes c₂.toList vs) :
    Lexes (disjunction c₁ c₂).toList
      (.leftParen :: (us ++ [.rightParen]) ++
        ([.orOr] ++ .leftParen :: (vs ++ [.rightParen]))) := by
  have hlast : Lexes [')'] [.rightParen] := .token (l := ⟨_, _, []⟩) rfl rfl .ending
  have hsecond := h₂.append (.closing []) hlast
  have hopen : Lexes ('(' :: (c₂.toList ++ [')'])) (.leftParen :: (vs ++ [.rightParen])) :=
    .token (l := ⟨_, _, _⟩) rfl rfl hsecond
  have hmark : Lexes ('|' :: '|' :: ' ' :: '(' :: (c₂.toList ++ [')']))
      (.orOr :: .leftParen :: (vs ++ [.rightParen])) :=
    .token (l := ⟨_, _, _⟩) rfl rfl (.blank rfl hopen)
  have hclose : Lexes (')' :: ' ' :: '|' :: '|' :: ' ' :: '(' :: (c₂.toList ++ [')']))
      (.rightParen :: .orOr :: .leftParen :: (vs ++ [.rightParen])) :=
    .token (l := ⟨_, _, _⟩) rfl rfl (.blank rfl hmark)
  have hfirst := h₁.append (.closing _) hclose
  have hwhole : Lexes ('(' :: _) (.leftParen :: _) := .token (l := ⟨_, _, _⟩) rfl rfl hfirst
  rw [toList_disjunction]
  simpa using hwhole

/-- A condition in parentheses is an operand of every operator. -/
theorem Phrase.enclosed {n : Nat} (hn : 1 ≤ n) (hle : n ≤ 7) {ts : List Token} {e : Expr}
    (h : Phrase .whole ts e) :
    Phrase (.joined n) (.leftParen :: (ts ++ [.rightParen])) e :=
  .looser hn hle (.operand (.object (.bare (.parenthesised h))))

/-- Two conditions by the grammar, in parentheses and with `||` between them, are one. -/
theorem Phrase.disjunction {us vs : List Token} {left right : Expr} (hl : Phrase .whole us left)
    (hr : Phrase .whole vs right) :
    Phrase .whole (.leftParen :: (us ++ [.rightParen]) ++
      ([.orOr] ++ .leftParen :: (vs ++ [.rightParen]))) (.binary .or left right) := by
  have hleft := hl.enclosed (n := BinaryOp.or.precedence) (by decide) (by decide)
  have hright := hr.enclosed (n := BinaryOp.or.precedence + 1) (by decide) (by decide)
  have hmark : [.orOr] ∈ BinaryOp.or.spellings := by decide
  have hjoined := Phrase.operator (by decide) hmark hleft hright
  exact .test (.looser (by decide) (by decide) hjoined)

/-- A disjunction is read as the tree of its parts, unless it is nested too deeply. -/
theorem parse_disjunction {c₁ c₂ : String} {left right : Expr} (h₁ : parse c₁ = .ok left)
    (h₂ : parse c₂ = .ok right) :
    parse (disjunction c₁ c₂) = .ok (.binary .or left right) ∨
      ∃ offset, parse (disjunction c₁ c₂) = .error ⟨offset, .tooDeep⟩ := by
  obtain ⟨us, -, -, hus, hleft⟩ := exists_phrase_of_parse h₁
  obtain ⟨vs, -, -, hvs, hright⟩ := exists_phrase_of_parse h₂
  exact (hleft.disjunction hright).parse (disjunction_lexes hus hvs)

/-! ## Compiling -/

namespace Program

/-- The condition that is always true has no character but the star and blanks. -/
theorem eq_star_of_matchesAll {source : String} (h : matchesAll source = true) {c : Char}
    (hc : c ∈ source.toList) (hblank : Text.isBlank c = false) : c = '*' := by
  have htrim : Text.trimChars source.toList = ['*'] := by
    rw [matchesAll, beq_iff_eq, Text.trim] at h
    simpa using congrArg String.toList h
  have hmem := Text.mem_trimChars hblank hc
  rw [htrim] at hmem
  exact List.mem_singleton.mp hmem

/-- Sanitising makes no condition always true. -/
theorem matchesAll_sanitize {c : String} (h : matchesAll c = false) :
    matchesAll (sanitize c) = false := by
  refine Bool.eq_false_iff.mpr fun hall => ?_
  have ht : 't' ∉ sanitizeChars c.toList := by
    intro ht
    have hmem : 't' ∈ (sanitize c).toList := by rwa [sanitize, String.toList_ofList]
    exact absurd (eq_star_of_matchesAll hall hmem (by decide)) (by decide)
  have hsame : sanitize c = c := by rw [sanitize, sanitizeChars_eq_self ht, String.ofList_toList]
  rw [hsame, h] at hall
  exact absurd hall (by decide)

/-- A disjunction is not the star, since it begins with a parenthesis. -/
theorem matchesAll_disjunction (c₁ c₂ : String) : matchesAll (disjunction c₁ c₂) = false := by
  refine Bool.eq_false_iff.mpr fun hall => ?_
  have hopen : '(' ∈ (disjunction c₁ c₂).toList := by simp [toList_disjunction]
  exact absurd (eq_star_of_matchesAll hall hopen (by decide)) (by decide)

variable {env : Environment} {c₁ c₂ : String} {p₁ p₂ : Program}

/-- Two programs with one engine as one: the second runs where the first does not hold. -/
def either (p₁ p₂ : Program) : Program :=
  ⟨disjunction p₁.source p₂.source, .binary .or p₁.root p₂.root, p₁.patterns⟩

/-- A condition that is not always true is compiled to the node of its tree. -/
theorem compile_cases {c : String} {p : Program} (h : compile env c = .ok p)
    (hall : matchesAll c = false) :
    ∃ e t, parse c = .ok e ∧ Resolves env e p.root t ∧ t.accepts .bool = true ∧ p.source = c ∧
      p.patterns = env.patterns := by
  obtain ⟨root, hroot, rfl⟩ := Except.map_eq_ok_iff.mp h
  rcases compileNode_cases hroot with ⟨hstar, -⟩ | ⟨-, e, t, he, hn, ht⟩
  · exact absurd (hall.symm.trans hstar) (by decide)
  · exact ⟨e, t, he, Node.ofExpr_resolves e hn, ht, rfl, rfl⟩

/-- A disjunction is compiled to the programs of its parts, unless it is nested too deeply. -/
theorem compile_disjunction (h₁ : compile env c₁ = .ok p₁) (h₂ : compile env c₂ = .ok p₂)
    (hall₁ : matchesAll c₁ = false) (hall₂ : matchesAll c₂ = false) :
    compile env (disjunction c₁ c₂) = .ok (p₁.either p₂) ∨
      ∃ offset, compile env (disjunction c₁ c₂) = .error (.ofSyntax ⟨offset, .tooDeep⟩) := by
  obtain ⟨left, t, hleft, hl, ht, hs₁, hpatterns⟩ := compile_cases h₁ hall₁
  obtain ⟨right, u, hright, hr, hu, hs₂, -⟩ := compile_cases h₂ hall₂
  have hall := matchesAll_disjunction c₁ c₂
  rcases parse_disjunction hleft hright with hparse | ⟨offset, hparse⟩
  · have hw : BinaryOp.or.resultType? t u = some (.only .bool) := by
      simp [BinaryOp.resultType?, ht, hu]
    have hnode := Node.ofExpr_of_resolves (.binary hl hr hw (by simp))
    refine .inl ?_
    simp [compile, compileNode, hall, hparse, Node.ofCondition, hnode, either, hs₁, hs₂,
      hpatterns, bind, Except.bind, Except.map]
  · refine .inr ⟨offset, ?_⟩
    simp [compile, compileNode, hall, hparse, Except.map]

/-! ## Running -/

/-- What a condition comes to, if it has a truth value. -/
theorem toOption_holds (p : Program) (scope : Scope) :
    (p.holds scope).toOption =
      (p.root.eval p.patterns scope).toOption.bind fun v => (v.truth .or).toOption := by
  unfold holds run
  cases p.root.eval p.patterns scope with
  | error => rfl
  | ok v => cases v <;> rfl

/-- One of two conditions holds where the first does, or where it does not but the second does. -/
theorem toOption_either_holds {p₁ p₂ : Program} (hpatterns : p₁.patterns = p₂.patterns)
    (scope : Scope) :
    ((p₁.either p₂).holds scope).toOption =
      (p₁.holds scope).toOption.bind fun holds =>
        if holds then some true else (p₂.holds scope).toOption := by
  simp only [toOption_holds, either, Node.eval, ← hpatterns]
  cases p₁.root.eval p₁.patterns scope with
  | error => rfl
  | ok a =>
    cases a with
    | bool holds =>
      cases holds with
      | true => rfl
      | false =>
        cases p₂.root.eval p₁.patterns scope with
        | error => rfl
        | ok b => cases b <;> rfl
    | _ => rfl

end Program

end Condition

end Telemetry
