import Telemetry.Proofs.Condition.Grammar
import Telemetry.Proofs.Condition.Levels
import Telemetry.Proofs.Fallible

/-!
# What is read is a phrase

Every reader takes tokens away from the front and returns the tree that they stand for by the
grammar. The readers of operators carry what makes the precedences right: the left operand binds at
least as tightly as the operator in front of them asks for, and when they end, the operator in front
binds too loosely for them.
-/

namespace Telemetry.Condition

/-! ## What a reader takes away -/

/-- If something is read, it is read from tokens in front, and the others are left over. -/
def Consumes {α : Type} (P : List Token → α → List Located → Prop) (ts : List Located)
    (x : Except SyntaxError (α × List Located)) : Prop :=
  x.Ends (fun r => ∃ used, ts = used ++ r.2 ∧ P (used.map (·.token)) r.1 r.2) fun _ => True

namespace Consumes

variable {α β : Type} {P P' : List Token → α → List Located → Prop}
  {Q : List Token → β → List Located → Prop} {ts : List Located}
  {x : Except SyntaxError (α × List Located)}

/-- Nothing need be taken away. -/
theorem ok {a : α} (h : P [] a ts) : Consumes P ts (.ok (a, ts)) :=
  Except.Ends.ok ⟨[], rfl, h⟩

/-- A reader that fails takes nothing away. -/
theorem error {e : SyntaxError} : Consumes P ts (.error e) := Except.Ends.error trivial

/-- What is taken away has every property that follows from the one it is known to have. -/
theorem imp (h : Consumes P ts x) (himp : ∀ us a rest, P us a rest → P' us a rest) :
    Consumes P' ts x :=
  Except.Ends.imp h fun _ ⟨used, hts, hP⟩ => ⟨used, hts, himp _ _ _ hP⟩

/-- A sequence takes away what its first part does, and then what its second part does. -/
theorem bind {f : α × List Located → Except SyntaxError (β × List Located)} (h : Consumes P ts x)
    (hf : ∀ us a rest, P us a rest → Consumes (fun vs => Q (us ++ vs)) rest (f (a, rest))) :
    Consumes Q ts (x >>= f) := by
  refine Except.Ends.bind h fun ⟨a, rest⟩ ⟨used, hts, hP⟩ => ?_
  refine Except.Ends.imp (hf _ a rest hP) fun ⟨b, later⟩ ⟨more, hrest, hQ⟩ => ?_
  dsimp only at hts hrest hQ
  refine ⟨used ++ more, ?_, ?_⟩
  · rw [hts, hrest, List.append_assoc]
  · rw [List.map_append]
    exact hQ

/-- Tokens that are skipped are taken away as well. -/
theorem skip (mark : List Located)
    (h : Consumes (fun us => P (mark.map (·.token) ++ us)) ts x) : Consumes P (mark ++ ts) x := by
  refine Except.Ends.imp h fun r ⟨used, hts, hP⟩ => ⟨mark ++ used, ?_, ?_⟩
  · rw [hts, List.append_assoc]
  · rw [List.map_append]
    exact hP

end Consumes

/-- The token in front is the first one. -/
theorem eq_cons_of_front {ts : List Located} {t : Token} (h : front ts = t) (ht : t ≠ .ending) :
    ∃ u, u.token = t ∧ ts = [u] ++ ts.drop 1 := by
  cases ts with
  | nil => exact absurd h.symm ht
  | cons u ts => exact ⟨u, h, rfl⟩

/-- What is read behind the token in front is read behind this token. -/
theorem Consumes.behind {α : Type} {P : List Token → α → List Located → Prop} {ts : List Located}
    {x : Except SyntaxError (α × List Located)} {t : Token} (hfront : front ts = t)
    (ht : t ≠ .ending) (h : Consumes (fun us => P (t :: us)) (ts.drop 1) x) : Consumes P ts x := by
  obtain ⟨u, rfl, hts⟩ := eq_cons_of_front hfront ht
  rw [hts]
  exact .skip [u] h

/-- A token that has to come is the one that is taken away. -/
theorem expect_consumes {want : Token} (hwant : want ≠ .ending) (what : String) (ending : Nat)
    (ts : List Located) :
    Consumes (fun us _ _ => us = [want]) ts (expect want what ending ts) := by
  unfold expect
  split
  · rename_i hfront
    exact .behind hfront hwant (.ok rfl)
  · exact .error

/-- An operator in front is written there. -/
theorem spelling_of_operator? {ts rest : List Located} {op : BinaryOp}
    (h : operator? ts = some (op, rest)) :
    ∃ mark, ts = mark ++ rest ∧ mark.map (·.token) ∈ op.spellings := by
  cases ts with
  | nil => exact absurd h (by simp [operator?])
  | cons t ts =>
    obtain ⟨token, offset⟩ := t
    unfold operator? at h
    dsimp only at h
    split at h
    case h_22 =>
      split at h
      · rename_i hnext
        obtain ⟨u, hu, hts⟩ := eq_cons_of_front hnext (by decide)
        cases h
        exact ⟨[⟨.word "not", offset⟩, u], congrArg _ hts, by simp [hu, BinaryOp.spellings,
          BinaryOp.tokens]⟩
      · cases h
    case h_23 => cases h
    all_goals
      cases h
      exact ⟨[⟨_, offset⟩], rfl, by simp [BinaryOp.spellings, BinaryOp.tokens]⟩

/-! ## What the readers of a level take away -/

/-- The operators in front, if there are any, bind too loosely. -/
def Ended (least : Nat) (ts : List Located) : Prop :=
  ∀ op rest, operator? ts = some (op, rest) → op.precedence < least

/-- The operators in front, if there are any, allow a left operand of the precedence. -/
def Continued (precedence : Nat) (ts : List Located) : Prop :=
  ∀ op rest, operator? ts = some (op, rest) → op.leftPrecedence ≤ precedence

/-- The tightest operators are of precedence seven. -/
theorem BinaryOp.leftPrecedence_le (op : BinaryOp) : op.leftPrecedence ≤ 7 := by
  cases op <;> decide

/-- What a right operand leaves over may stand behind the operator and its operands. -/
theorem Ended.continued {op : BinaryOp} {ts : List Located} (h : Ended op.rightPrecedence ts) :
    Continued op.precedence ts := by
  intro next rest hnext
  have hlt : next.precedence < op.rightPrecedence := h next rest hnext
  cases op <;> cases next <;> first | decide | exact absurd hlt (by decide)

/-- The tokens are conditions with commas between them and the closing token behind them. -/
def Enlisted (close : Token) (us : List Token) (items : List (List Token × Expr)) : Prop :=
  (∀ i ∈ items, Phrase .whole i.1 i.2) ∧
    ∃ inner, us = inner ++ [close] ∧ Listing (items.map (·.1)) inner

namespace Level

/-- The readers of a level take phrases away. -/
structure ReadsPhrases (l : Level) : Prop where
  ternary : ∀ ending ts, Consumes (fun us e _ => Phrase .whole us e) ts (l.ternary ending ts)
  binary : ∀ least ending ts, 1 ≤ least → least ≤ 7 →
    Consumes (fun us e rest => Phrase (.joined least) us e ∧ Ended least rest) ts
      (l.binary least ending ts)
  chain : ∀ least precedence us left ending ts, 1 ≤ least → least ≤ precedence →
    precedence ≤ 7 → Phrase (.joined precedence) us left → Continued precedence ts →
    Consumes (fun vs e rest => Phrase (.joined least) (us ++ vs) e ∧ Ended least rest) ts
      (l.chain least left ending ts)
  unary : ∀ ending ts, Consumes (fun us e _ => Phrase .prefixed us e) ts (l.unary ending ts)
  access : ∀ us object ending ts, front ts ∈ [.dot, .questionDot, .leftBracket] →
    Phrase .suffixed us object →
    Consumes (fun vs e _ => Phrase .suffixed (us ++ vs) e) ts (l.access object ending ts)

/-- Nothing is read where no level is left. -/
theorem closed_readsPhrases : closed.ReadsPhrases :=
  ⟨fun _ _ => .error, fun _ _ _ _ _ => .error, fun _ _ _ _ _ _ _ _ _ _ _ => .error,
    fun _ _ => .error, fun _ _ _ _ _ _ => .error⟩

/-! ## Lists -/

section Lists

variable {item : Reader Expr}
  (hitem : ∀ ending ts, Consumes (fun us e _ => Phrase .whole us e) ts (item ending ts))
  {close : Token} (hclose : close ≠ .ending) (what : String)

include hitem hclose

/-- Items and the token that closes them are taken away, by induction on the bound of their
number. -/
theorem listFrom_consumes (fuel ending : Nat) (ts : List Located) :
    Consumes (fun us es _ => ∃ first others, es = (first :: others).map (·.2) ∧
      Enlisted close us (first :: others)) ts (listFrom item close what fuel ending ts) := by
  induction fuel generalizing ts with
  | zero => exact .error
  | succ fuel ih =>
    refine (hitem ending ts).bind fun us e rest he => ?_
    have hone : ∀ i ∈ [(us, e)], Phrase .whole i.1 i.2 := List.forall_mem_singleton.mpr he
    dsimp only
    split
    · rename_i hcomma
      refine .behind hcomma (by decide) ?_
      split
      · rename_i hend
        have hlisting : Listing [us] (us ++ [.comma]) := .trailing us
        exact .behind hend hclose (.ok ⟨(us, e), [], rfl, hone, _, by simp, hlisting⟩)
      · refine (ih _).bind fun vs es rest' hes => .ok ?_
        obtain ⟨next, others, rfl, hall, inner, rfl, hlisting⟩ := hes
        refine ⟨(us, e), next :: others, rfl, List.forall_mem_cons.mpr ⟨he, hall⟩,
          us ++ .comma :: inner, ?_, .more us hlisting⟩
        simp
    · split
      · rename_i hend
        exact .behind hend hclose (.ok ⟨(us, e), [], rfl, hone, us, by simp, .last us⟩)
      · exact .error

/-- A list takes its items and the token that closes it away. -/
theorem list_consumes (ending : Nat) (ts : List Located) :
    Consumes (fun us es _ => ∃ items, es = items.map (·.2) ∧ Enlisted close us items) ts
      (list item close what ending ts) := by
  unfold list
  split
  · rename_i hend
    exact .behind hend hclose (.ok ⟨[], rfl, List.forall_mem_nil _, [], rfl, .empty⟩)
  · refine (listFrom_consumes hitem hclose what _ ending ts).imp fun us es _ h => ?_
    obtain ⟨first, others, hes, hlist⟩ := h
    exact ⟨first :: others, hes, hlist⟩

end Lists

/-! ## The readers of one level, by those one level further in -/

variable {inner : Level}

/-- A word that is an operand is a constant or a name. -/
private theorem operand?_word {w : String} (hword : keywords.contains w = false) :
    (Token.word w).operand? = some (.name w) := by
  unfold Token.operand?
  split
  case h_7 w' _ _ _ hw =>
    cases hw
    rw [hword]
    rfl
  all_goals simp_all [keywords]

/-- A word and what belongs to it are an operand without accesses. -/
theorem wordAt_consumes (h : inner.ReadsPhrases) (offset : Nat) (w : String) (ending : Nat)
    (ts : List Located) :
    Consumes (fun us e _ => Phrase .primary (.word w :: us) e) ts
      (wordAt inner offset w ending ts) := by
  unfold wordAt
  split
  case h_4 htrue hfalse hnil =>
    split
    · exact .error
    rename_i hoperator
    have hword : keywords.contains w = false := by
      rw [keywords, List.contains_append, eq_false_of_ne_true hoperator, Bool.or_false]
      simp only [List.contains_cons, Bool.or_eq_false_iff, beq_eq_false_iff_ne]
      exact ⟨htrue, hfalse, hnil, rfl⟩
    split
    · rename_i hparen
      refine .behind hparen (by decide) ?_
      refine (list_consumes h.ternary (by decide) _ _ _).bind fun us es rest hes => .ok ?_
      obtain ⟨items, rfl, hall, inner, rfl, hlisting⟩ := hes
      rw [List.append_nil]
      exact .call hword hall hlisting
    · exact .ok (.atom (operand?_word hword))
  all_goals exact .ok (.atom rfl)

/-- An operand without accesses is taken away. -/
theorem primary_consumes (h : inner.ReadsPhrases) (ending : Nat) (ts : List Located) :
    Consumes (fun us e _ => Phrase .primary us e) ts (primary inner ending ts) := by
  cases ts with
  | nil => exact .error
  | cons t rest =>
    obtain ⟨token, offset⟩ := t
    cases token with
    | int | float | text => exact .skip [_] (.ok (.atom rfl))
    | word w => exact .skip [_] (wordAt_consumes h offset w ending rest)
    | leftParen =>
      refine .skip [_] ((h.ternary _ _).bind fun us e rest he => ?_)
      refine (expect_consumes (by decide) _ _ _).bind fun vs _ rest' hvs => .ok ?_
      rw [hvs, List.append_nil]
      exact .parenthesised he
    | leftBracket =>
      refine .skip [_] ((list_consumes h.ternary (by decide) _ _ _).bind
        fun us es rest hes => .ok ?_)
      obtain ⟨items, rfl, hall, inner, rfl, hlisting⟩ := hes
      rw [List.append_nil]
      exact .array hall hlisting
    | _ => exact .error

/-- The accesses behind an object are taken away, so that both are an object with accesses. -/
theorem accesses_consumes (h : inner.ReadsPhrases) {us : List Token} {object : Expr}
    (ho : Phrase .suffixed us object) (ending : Nat) (ts : List Located) :
    Consumes (fun vs e _ => Phrase .suffixed (us ++ vs) e) ts
      (accesses inner object ending ts) := by
  unfold accesses
  split
  case h_4 =>
    refine .ok ?_
    rw [List.append_nil]
    exact ho
  all_goals
    rename_i hfront
    exact h.access us object ending ts (by simp [hfront]) ho

/-- An access and those behind it are taken away, so that all are one object. -/
theorem accessOf_consumes (h : inner.ReadsPhrases) {us : List Token} {object : Expr} (ending : Nat)
    {ts : List Located} (hfront : front ts ∈ [.dot, .questionDot, .leftBracket])
    (ho : Phrase .suffixed us object) :
    Consumes (fun vs e _ => Phrase .suffixed (us ++ vs) e) ts
      (accessOf inner object ending ts) := by
  unfold accessOf
  split
  · rename_i hbracket
    refine .behind hbracket (by decide) ((h.ternary _ _).bind fun vs position rest hp => ?_)
    refine (expect_consumes (by decide) _ _ _).bind fun ws _ rest' hws => ?_
    subst hws
    refine (accesses_consumes h (ho.index hp) ending rest').imp fun _ _ _ he => ?_
    simpa using he
  · rename_i hbracket
    have hmark : front ts = .dot ∨ front ts = .questionDot := by
      rcases List.mem_cons.mp hfront with hdot | hfront
      · exact .inl hdot
      · exact .inr ((List.mem_cons.mp hfront).resolve_right fun h =>
          hbracket (List.mem_singleton.mp h))
    have hnot : front ts ≠ .ending := by rcases hmark with h | h <;> simp [h]
    refine .behind rfl hnot ?_
    dsimp only
    split
    · rename_i key hkey
      refine .behind hkey (by simp) ?_
      have hmember := ho.member key (decide (front ts = .questionDot))
      refine (accesses_consumes h hmember ending _).imp fun vs e _ he => ?_
      have hdot : (if decide (front ts = .questionDot) = true then Token.questionDot else .dot) =
          front ts := by
        rcases hmark with h | h <;> simp [h]
      rw [hdot] at he
      simpa using he
    · exact .error

/-- An operand with its signs is taken away. -/
theorem unaryOf_consumes (h : inner.ReadsPhrases) (ending : Nat) (ts : List Located) :
    Consumes (fun us e _ => Phrase .prefixed us e) ts (unaryOf inner ending ts) := by
  have hmarked : ∀ (op : UnaryOp) (mark : Token), mark ∈ op.spellings → front ts = mark →
      Consumes (fun us e _ => Phrase .prefixed us e) ts
        (inner.unary ending (ts.drop 1) >>= fun r => .ok (.unary op r.1, r.2)) := by
    intro op mark hmark hfront
    have hnot : mark ≠ .ending := by
      rintro rfl
      cases op <;> exact absurd hmark (by decide)
    refine .behind hfront hnot ((h.unary _ _).bind fun us e rest he => .ok ?_)
    rw [List.append_nil]
    exact .unary hmark he
  unfold unaryOf
  split
  · rename_i hfront
    exact hmarked .not .bang (by decide) hfront
  · rename_i hfront
    exact hmarked .not (.word "not") (by decide) hfront
  · rename_i hfront
    exact hmarked .negate .minus (by decide) hfront
  · rename_i hfront
    exact .behind hfront (by decide) ((h.unary _ _).imp fun _ _ _ he => .plus he)
  · refine (primary_consumes h ending ts).bind fun us e rest he => ?_
    exact (accesses_consumes h (.bare he) ending rest).imp fun _ _ _ he' => .object he'

/-- Operators behind a left operand that they may stand behind are taken away, up to one that binds
too loosely. -/
theorem chainOf_consumes (h : inner.ReadsPhrases) {least precedence : Nat} {us : List Token}
    {left : Expr} (ending : Nat) {ts : List Located} (hpos : 1 ≤ least)
    (hle : least ≤ precedence) (hleft : Phrase (.joined precedence) us left)
    (hnext : Continued precedence ts) :
    Consumes (fun vs e rest => Phrase (.joined least) (us ++ vs) e ∧ Ended least rest) ts
      (chainOf inner least left ending ts) := by
  have hstop : Ended least ts →
      Consumes (fun vs e rest => Phrase (.joined least) (us ++ vs) e ∧ Ended least rest) ts
        (.ok (left, ts)) := by
    intro hended
    refine .ok ⟨?_, hended⟩
    rw [List.append_nil]
    exact hleft.looser hpos hle
  unfold chainOf
  split
  · rename_i hnone
    refine hstop fun op rest hop => ?_
    rw [hnone] at hop
    cases hop
  · rename_i op rest hop
    split
    · rename_i hlt
      refine hstop fun op' rest' hop' => ?_
      rw [hop] at hop'
      cases hop'
      exact hlt
    · rename_i hge
      obtain ⟨mark, rfl, hmark⟩ := spelling_of_operator? hop
      have hbounds : 1 ≤ op.leftPrecedence ∧ 1 ≤ op.rightPrecedence ∧ op.rightPrecedence ≤ 7 ∧
          op.precedence ≤ 7 := by
        cases op <;> decide
      have hleft' : Phrase (.joined op.leftPrecedence) us left :=
        hleft.looser hbounds.1 (hnext op rest hop)
      refine .skip mark ((h.binary op.rightPrecedence ending rest hbounds.2.1 hbounds.2.2.1).bind
        fun vs right rest' ⟨hright, hended⟩ => ?_)
      -- the operands that are joined so far are the left operand of what follows
      have hjoined := Phrase.binary hmark hleft' hright
      refine (h.chain least op.precedence _ _ ending rest' hpos (Nat.le_of_not_lt hge)
        hbounds.2.2.2 hjoined hended.continued).imp fun ws e _ he => ?_
      simpa using he

/-- Operands with operators of a least precedence are taken away, up to an operator that binds too
loosely. -/
theorem binaryOf_consumes (h : inner.ReadsPhrases) {least : Nat} (ending : Nat)
    (ts : List Located) (hpos : 1 ≤ least) (hle : least ≤ 7) :
    Consumes (fun us e rest => Phrase (.joined least) us e ∧ Ended least rest) ts
      (binaryOf inner least ending ts) := by
  refine (unaryOf_consumes h ending ts).bind fun us left rest hleft => ?_
  exact chainOf_consumes h ending hpos hle (.operand hleft) fun op _ _ => op.leftPrecedence_le

/-- A whole condition is taken away. -/
theorem ternaryOf_consumes (h : inner.ReadsPhrases) (ending : Nat) (ts : List Located) :
    Consumes (fun us e _ => Phrase .whole us e) ts (ternaryOf inner ending ts) := by
  refine (binaryOf_consumes h ending ts (Nat.le_refl 1) (by decide)).bind
    fun us test rest ⟨htest, _⟩ => ?_
  dsimp only
  split
  · rename_i hquestion
    refine .behind hquestion (by decide) ((h.ternary _ _).bind fun vs yes rest' hyes => ?_)
    refine (expect_consumes (by decide) _ _ _).bind fun marks _ rest'' hmarks => ?_
    refine (h.ternary _ _).bind fun ws no _ hno => .ok ?_
    rw [hmarks, List.append_nil]
    exact .choice htest hyes hno
  · refine .ok ?_
    rw [List.append_nil]
    exact .test htest

/-- The readers around those of another level take phrases away if these do. -/
theorem around_readsPhrases (h : inner.ReadsPhrases) : inner.around.ReadsPhrases where
  ternary := ternaryOf_consumes h
  binary _ ending ts := binaryOf_consumes h ending ts
  chain _ _ _ _ ending _ hpos hle _ := chainOf_consumes h ending hpos hle
  unary := unaryOf_consumes h
  access _ _ ending _ := accessOf_consumes h ending

/-- Readers with so many levels take phrases away, by induction on their number. -/
theorem opened_readsPhrases (n : Nat) : (opened n).ReadsPhrases := by
  induction n with
  | zero => exact closed_readsPhrases
  | succ n ih => exact around_readsPhrases ih

end Level

/-- Tokens that are read as a condition are a condition by the grammar. -/
theorem phrase_of_readWithin {levels ending : Nat} {ts : List Located} {e : Expr}
    (hts : ∀ t ∈ ts, t.token ≠ .ending) (h : readWithin levels ending ts = .ok e) :
    Phrase .whole (ts.map (·.token)) e := by
  obtain ⟨⟨e', rest⟩, hternary, hend⟩ := Except.bind_eq_ok_iff.mp h
  obtain ⟨used, hused, hphrase⟩ :=
    ((Level.opened_readsPhrases levels).ternary ending ts).result_of_eq hternary
  dsimp only at hused hphrase hend
  split at hend
  · rename_i hfront
    cases hend
    have hrest : rest = [] := by
      cases rest with
      | nil => rfl
      | cons t rest => exact absurd hfront (hts t (by simp [hused]))
    rw [hused, hrest, List.append_nil]
    exact hphrase
  · cases hend

end Telemetry.Condition
