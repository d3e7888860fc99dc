import Telemetry.Proofs.Condition.GrammarSoundness
import Telemetry.Proofs.Condition.Lexing
import Telemetry.Proofs.Condition.Operands

/-!
# Phrases are read

By induction on its derivation, a phrase is read by the readers of its category with a level for
each token, whatever stands behind it that does not belong to it. So the tokens of a condition have
one tree only: two trees would both be what is read.
-/

namespace Telemetry.Condition

open Level

/-- Operators of at least this precedence do not stand behind operands with operators of at least
the given one between them. Behind `??` there stands no operator at all. -/
def behindJoined (least : Nat) : Nat := if least = 1 then 1 else min (least + 1) 7

/-- Operators that are allowed behind tighter operands are allowed behind looser ones. -/
theorem behindJoined_le (least : Nat) : behindJoined least ≤ behindJoined (least + 1) := by
  unfold behindJoined
  split <;> split <;> omega

/-- Every operator has a precedence of at least one. -/
theorem one_le_behindJoined (least : Nat) : 1 ≤ behindJoined least := by
  unfold behindJoined
  split <;> omega

/-- The tokens are read by the readers of the category, with so many levels. -/
def Category.IsRead (levels : Nat) (e : Expr) (ts : List Located) : Category → Prop
  | whole => ReadsWhole levels e ts
  | joined least =>
    ∃ spine ≤ levels, ReadsChain levels e ts spine least (behindJoined least)
  | prefixed => ReadsUnary levels e ts
  | suffixed => ∃ spine ≤ levels, ReadsObject levels e ts spine
  | primary => ReadsObject levels e ts 0

/-! ## Phrases start with no closing bracket -/

/-- An operand that is a single token closes no list. -/
theorem starts_of_operand? {t : Token} {e : Expr} (h : t.operand? = some e) :
    Expr.Starts [t] := by
  refine ⟨t, [], rfl, ?_, ?_⟩ <;>
    · rintro rfl
      cases h

/-- No phrase begins with a closing bracket. -/
theorem Phrase.starts {category : Category} {us : List Token} {e : Expr}
    (h : Phrase category us e) : Expr.Starts us := by
  induction h with
  | test _ ih | tighter _ _ ih | operand _ ih | object _ ih | bare _ ih => exact ih
  | choice _ _ _ ih | coalesce _ _ ih | operator _ _ _ _ ih | index _ _ ih =>
    exact ih.append _
  | member _ _ _ ih => exact ih.append _
  | @unary op mark hmark =>
    refine ⟨_, _, rfl, ?_, ?_⟩ <;>
      · rintro rfl
        cases op <;> exact absurd hmark (by decide)
  | atom h => exact starts_of_operand? h
  | plus | call | array | parenthesised => exact ⟨_, _, rfl, by simp, by simp⟩

/-! ## One rule of the grammar at a time -/

section Rules

variable {levels leftLevels rightLevels : Nat} {e : Expr} {ts : List Located}

/-- A token that is an operand is read as this operand. -/
theorem atom_isRead {t : Located} (h : t.token.operand? = some e) : ReadsObject levels e [t] 0 := by
  obtain ⟨token, offset⟩ := t
  have hmark : token ∉ [.bang, .word "not", .minus, .plus] := by
    simp only [List.mem_cons, List.not_mem_nil, or_false, not_or]
    refine ⟨?_, ?_, ?_, ?_⟩ <;>
      · rintro rfl
        cases h
  refine readsObject_single hmark fun inner ending rest hcall => ?_
  dsimp only at h
  unfold Token.operand? at h
  split at h
  case h_7 w _ _ _ =>
    split at h
    · cases h
    · rename_i hword
      cases h
      rw [Expr.primary_word (eq_false_of_ne_true hword), if_neg hcall]
  case h_8 => cases h
  all_goals
    cases h
    rfl

/-- The items of a list are read with a level for each token of the list and one more. -/
theorem items_isRead {items : List (List Token × Expr)} {us : List Token}
    (hus : Listing (items.map (·.1)) us) (hitems : ∀ i ∈ items, Expr.Starts i.1 ∧
      ∀ ts : List Located, ts.map (·.token) = i.1 → ReadsWhole i.1.length i.2 ts) {m : Nat}
    (hm : us.length < m) : ∀ i ∈ items, Expr.ReadsItem (opened m).ternary i.1 i.2 := by
  intro i hi
  obtain ⟨hstarts, hread⟩ := hitems i hi
  have hle := hus.length_le_of_mem (List.mem_map_of_mem hi)
  exact ⟨hstarts, fun ts ending rest hts hrest => (hread ts hts).inner (by omega) hrest⟩

/-- Two operands and the operator between them are read as operands of its precedence. -/
theorem joined_isRead {op : BinaryOp} {start mark back : List Located} {left right : Expr}
    (hmark : mark.map (·.token) ∈ op.spellings)
    (hl : (Category.joined op.leftPrecedence).IsRead leftLevels left start)
    (hr : (Category.joined op.rightPrecedence).IsRead rightLevels right back)
    (hlevels : leftLevels + rightLevels + 1 ≤ levels) :
    (Category.joined op.precedence).IsRead levels (.binary op left right)
      (start ++ (mark ++ back)) := by
  obtain ⟨spine, hspine, hleft⟩ := hl
  obtain ⟨spine', hspine', hright⟩ := hr
  have hbounds : op.precedence ≤ op.leftPrecedence ∧
      op.precedence < behindJoined op.leftPrecedence ∧
      op.rightPrecedence ≤ behindJoined op.rightPrecedence ∧
      behindJoined op.precedence ≤ op.rightPrecedence := by
    cases op <;> decide
  have hmore : ReadsChain levels left start spine op.leftPrecedence
      (behindJoined op.leftPrecedence) := hleft.mono (by omega)
  have hjoined := hmore.binary hright hspine' (by omega) hmark hbounds.1 hbounds.2.1
    (Nat.le_refl _) hbounds.2.2.1
  exact ⟨spine + 1, by omega, hjoined.looser (Nat.le_refl _) hbounds.2.2.2⟩

end Rules

/-- The tokens of a phrase are read, with a level for each of them. -/
theorem Phrase.isRead {category : Category} {us : List Token} {e : Expr}
    (h : Phrase category us e) {ts : List Located} (hts : ts.map (·.token) = us) :
    category.IsRead us.length e ts := by
  induction h generalizing ts with
  | test _ ih =>
    obtain ⟨spine, hspine, hread⟩ := ih hts
    exact hread.whole hspine (Nat.le_refl 1) (one_le_behindJoined 1)
  | @choice us vs ws _ yes no _ _ _ iht ihy ihn =>
    obtain ⟨start, tail, rfl, hstart, htail⟩ := List.map_eq_append_iff.mp hts
    obtain ⟨question, later, rfl, hquestion, hlater⟩ := List.map_eq_cons_iff.mp htail
    obtain ⟨middle, others, rfl, hmiddle, hothers⟩ := List.map_eq_append_iff.mp hlater
    obtain ⟨colon, back, rfl, hcolon, hback⟩ := List.map_eq_cons_iff.mp hothers
    obtain ⟨spine, hspine, htest⟩ := iht hstart
    simp only [List.length_append, List.length_cons]
    have htest' := htest.mono (show us.length ≤ us.length + (vs.length + (ws.length + 1) + 1) by
      omega)
    have hyes : ReadsWhole (vs.length + ws.length) yes middle := (ihy hmiddle).mono (by omega)
    have hno : ReadsWhole (vs.length + ws.length) no back := (ihn hback).mono (by omega)
    exact htest'.choice (by omega) (Nat.le_refl 1) hyes hno (by omega) hquestion hcolon
  | tighter _ _ ih =>
    obtain ⟨spine, hspine, hread⟩ := ih hts
    exact ⟨spine, hspine, hread.looser (Nat.le_succ _) (behindJoined_le _)⟩
  | coalesce _ _ ihl ihr =>
    obtain ⟨start, tail, rfl, hstart, htail⟩ := List.map_eq_append_iff.mp hts
    obtain ⟨mark, back, rfl, hmark, hback⟩ := List.map_eq_cons_iff.mp htail
    have hspelling : [mark].map (·.token) ∈ BinaryOp.coalesce.spellings := by
      simp [hmark, BinaryOp.spellings, BinaryOp.tokens]
    refine joined_isRead hspelling (ihl hstart) (ihr hback) ?_
    simp only [List.length_append, List.length_cons]
    omega
  | @operator op hop _ _ _ hmark _ _ _ _ ihl ihr =>
    obtain ⟨start, tail, rfl, hstart, htail⟩ := List.map_eq_append_iff.mp hts
    obtain ⟨mark, back, rfl, rfl, hback⟩ := List.map_eq_append_iff.mp htail
    have hleft : op.leftPrecedence = op.precedence := if_neg hop
    have hright : op.rightPrecedence = op.precedence + 1 := if_neg hop
    have hpos : ∀ mark ∈ op.spellings, 1 ≤ mark.length := by cases op <;> decide
    have hlength := hpos _ hmark
    refine joined_isRead hmark (hleft ▸ ihl hstart) (hright ▸ ihr hback) ?_
    simp only [List.length_append]
    omega
  | operand _ ih => exact ⟨0, Nat.zero_le _, (ih hts).chain 7⟩
  | unary hmark _ ih =>
    obtain ⟨mark, later, rfl, rfl, hlater⟩ := List.map_eq_cons_iff.mp hts
    exact (ih hlater).unary _ hmark
  | plus _ ih =>
    obtain ⟨mark, later, rfl, hmark, hlater⟩ := List.map_eq_cons_iff.mp hts
    exact (ih hlater).plus hmark
  | object _ ih =>
    obtain ⟨spine, hspine, hread⟩ := ih hts
    exact hread.unary hspine
  | member _ key optional ih =>
    obtain ⟨start, tail, rfl, hstart, htail⟩ := List.map_eq_append_iff.mp hts
    obtain ⟨mark, words, rfl, hmark, hwords⟩ := List.map_eq_cons_iff.mp htail
    obtain ⟨word, rfl, hword⟩ := List.map_eq_singleton_iff.mp hwords
    obtain ⟨spine, hspine, hread⟩ := ih hstart
    rw [List.length_append]
    exact ⟨spine + 1, by simp; omega, (hread.member hmark hword).mono (Nat.le_add_right _ _)⟩
  | index _ _ iho ihp =>
    obtain ⟨start, tail, rfl, hstart, htail⟩ := List.map_eq_append_iff.mp hts
    obtain ⟨first, inner, last, rfl, hfirst, hinner, hlast⟩ := bracketed_of_map htail
    obtain ⟨spine, hspine, hread⟩ := iho hstart
    simp only [List.length_append, List.length_cons, List.length_nil]
    exact ⟨spine + 1, by omega,
      (hread.mono (by omega)).index (ihp hinner) (by omega) hfirst hlast⟩
  | bare _ ih => exact ⟨0, Nat.zero_le _, ih hts⟩
  | atom h =>
    obtain ⟨t, rfl, rfl⟩ := List.map_eq_singleton_iff.mp hts
    exact atom_isRead h
  | call hword h hlisting ih =>
    obtain ⟨⟨token, offset⟩, later, rfl, rfl, hlater⟩ := List.map_eq_cons_iff.mp hts
    obtain ⟨first, inner, last, rfl, hfirst, rfl, hlast⟩ := bracketed_of_map hlater
    simp only [List.length_append, List.length_cons, List.length_nil]
    refine readsObject_call hword (fun m hm => ?_) offset hfirst hlisting hlast
    exact items_isRead hlisting (fun i hi => ⟨(h i hi).starts, fun ts hts => ih i hi hts⟩)
      (by omega)
  | array h hlisting ih =>
    obtain ⟨first, inner, last, rfl, hfirst, rfl, hlast⟩ := bracketed_of_map hts
    simp only [List.length_append, List.length_cons, List.length_nil]
    refine readsObject_array (fun m hm => ?_) hfirst hlisting hlast
    exact items_isRead hlisting (fun i hi => ⟨(h i hi).starts, fun ts hts => ih i hi hts⟩)
      (by omega)
  | parenthesised _ ih =>
    obtain ⟨first, inner, last, rfl, hfirst, hinner, hlast⟩ := bracketed_of_map hts
    simp only [List.length_append, List.length_cons, List.length_nil]
    exact ((ih hinner).parenthesised hfirst hlast).mono (by omega)

/-- A condition by the grammar is read as its tree, with a level for each token and one more. -/
theorem Phrase.readWithin {ts : List Located} {e : Expr}
    (h : Phrase .whole (ts.map (·.token)) e) (ending : Nat) :
    readWithin (ts.length + 1) ending ts = .ok e := by
  have hread : ReadsWhole (ts.map (·.token)).length e ts := h.isRead rfl
  rw [List.length_map] at hread
  exact hread.readWithin (Nat.lt_succ_self _) ending

/-- Tokens are a condition with one tree only. -/
theorem Phrase.unique {us : List Token} {e e' : Expr} (h : Phrase .whole us e)
    (h' : Phrase .whole us e') : e' = e := by
  let ts : List Located := us.map fun t => ⟨t, 0⟩
  have hts : ts.map (·.token) = us := by
    simp [ts, Function.comp_def]
  have hread := Phrase.readWithin (hts ▸ h) 0
  have hread' := Phrase.readWithin (hts ▸ h') 0
  exact Except.ok.inj (hread'.symm.trans hread)

/-- A condition by the grammar is read as its tree, unless it is nested too deeply. -/
theorem Phrase.readTokens {ts : List Located} {e : Expr}
    (h : Phrase .whole (ts.map (·.token)) e) (ending : Nat) :
    readTokens ending ts = .ok e ∨ ∃ offset, readTokens ending ts = .error ⟨offset, .tooDeep⟩ :=
  readTokens_of_readWithin (h.readWithin ending)

/-! ## Texts -/

/-- What is read from a text is a condition by the grammar. -/
theorem exists_phrase_of_parse {source : String} {e : Expr} (h : parse source = .ok e) :
    ∃ located ending, tokenize source = .ok (located ++ [⟨.ending, ending⟩]) ∧
      Lexes source.toList (located.map (·.token)) ∧ Phrase .whole (located.map (·.token)) e := by
  obtain ⟨all, htokens, hread⟩ := Except.bind_eq_ok_iff.mp h
  obtain ⟨located, ending, rfl, hlexes⟩ := tokenize_eq_ok htokens
  rw [List.dropLast_concat, readTokens_eq_readWithin] at hread
  have hended : ∀ t ∈ located, t.token ≠ .ending := fun t ht =>
    hlexes.ne_ending _ (List.mem_map_of_mem ht)
  exact ⟨located, ending, htokens, hlexes, phrase_of_readWithin hended hread⟩

/-- A text whose tokens are a condition by the grammar is read as its tree, unless it is nested too
deeply. -/
theorem Phrase.parse {source : String} {us : List Token} {e : Expr} (h : Phrase .whole us e)
    (hlexes : Lexes source.toList us) :
    parse source = .ok e ∨ ∃ offset, parse source = .error ⟨offset, .tooDeep⟩ := by
  obtain ⟨located, ending, htokens, rfl⟩ := hlexes.tokenize
  have hparse : Condition.parse source = Condition.readTokens (width source.toList) located := by
    rw [Condition.parse, htokens]
    simp [bind, Except.bind]
  rw [hparse]
  exact h.readTokens _

/-- Only conditions by the grammar are read: the tokens without the end are a condition, with the
tree that is read and no other. -/
theorem parse_phrase {source : String} {e : Expr} (h : parse source = .ok e) :
    ∃ ts ending, tokenize source = .ok (ts ++ [⟨.ending, ending⟩]) ∧
      Phrase .whole (ts.map (·.token)) e ∧
      ∀ e', Phrase .whole (ts.map (·.token)) e' → e' = e := by
  obtain ⟨ts, ending, htokens, -, hphrase⟩ := exists_phrase_of_parse h
  exact ⟨ts, ending, htokens, hphrase, fun _ hphrase' => hphrase.unique hphrase'⟩

/-- A condition in which words are operators and a member name, with a comma behind the last
item. -/
theorem parse_phrase_words : ∃ e, parse "not a.in not in [b ?? c,]" = .ok e ∧
    e.print '"' = "! a . in not in [ b ?? c ]" ∧
    ∃ ts ending, tokenize "not a.in not in [b ?? c,]" = .ok (ts ++ [⟨.ending, ending⟩]) ∧
      Phrase .whole (ts.map (·.token)) e ∧
      ∀ e', Phrase .whole (ts.map (·.token)) e' → e' = e := by
  have hprint : (parse "not a.in not in [b ?? c,]").toOption.map (Expr.print '"') =
      some "! a . in not in [ b ?? c ]" := by
    decide +kernel
  obtain ⟨e, hread, hprint⟩ := Option.map_eq_some_iff.mp hprint
  have hparse := Except.toOption_eq_some_iff.mp hread
  exact ⟨e, hparse, hprint, parse_phrase hparse⟩

end Telemetry.Condition
