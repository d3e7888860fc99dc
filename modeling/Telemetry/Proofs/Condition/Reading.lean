import Telemetry.Proofs.Condition.Grammar
import Telemetry.Proofs.Condition.Levels

/-!
# How operands are read

The tokens of an operand are read by several readers, from whole conditions to operands without
operators. What each of them comes to depends on the levels that are left and on what stands
behind the operand. Operators and members behind an operand continue with the levels that its own
ones have left over.
-/

namespace Telemetry.Condition

open Level

@[simp] theorem front_nil : front [] = .ending := rfl

@[simp] theorem front_cons (t : Located) (ts : List Located) : front (t :: ts) = t.token := rfl

/-- The token in front of tokens is their first one. -/
theorem front_append {ts : List Located} {t : Token} {later : List Token}
    (hts : ts.map (·.token) = t :: later) (rest : List Located) : front (ts ++ rest) = t := by
  obtain ⟨u, us, rfl, hu, -⟩ := List.map_eq_cons_iff.mp hts
  exact hu

/-- Tokens between two brackets. -/
theorem bracketed_of_map {ts : List Located} {a b : Token} {between : List Token}
    (hts : ts.map (·.token) = a :: (between ++ [b])) :
    ∃ first inner last, ts = first :: (inner ++ [last]) ∧ first.token = a ∧
      inner.map (·.token) = between ∧ last.token = b := by
  obtain ⟨first, later, rfl, hfirst, hlater⟩ := List.map_eq_cons_iff.mp hts
  obtain ⟨inner, lasts, rfl, hinner, hlasts⟩ := List.map_eq_append_iff.mp hlater
  obtain ⟨last, rfl, hlast⟩ := List.map_eq_singleton_iff.mp hlasts
  exact ⟨first, inner, last, rfl, hfirst, hinner, hlast⟩

/-- The tokens of an operator are read as the operator. -/
theorem operator?_spelling {op : BinaryOp} {ts : List Located}
    (hts : ts.map (·.token) ∈ op.spellings) (rest : List Located) :
    operator? (ts ++ rest) = some (op, rest) := by
  cases op <;>
    simp only [BinaryOp.spellings, BinaryOp.tokens, List.mem_cons, List.not_mem_nil, or_false,
      List.map_eq_cons_iff, List.map_eq_nil_iff] at hts
  case notIn =>
    obtain ⟨t, ts, rfl, ht, u, us, rfl, hu, rfl⟩ := hts
    simp [operator?, ht, hu, front]
  case or | and =>
    rcases hts with ⟨t, ts, rfl, ht, rfl⟩ | ⟨t, ts, rfl, ht, rfl⟩ <;> simp [operator?, ht]
  all_goals
    obtain ⟨t, ts, rfl, ht, rfl⟩ := hts
    simp [operator?, ht]

/-- The tokens that end a condition. -/
def endings : List Token := [.rightParen, .rightBracket, .comma, .colon, .ending]

/-- What stands behind an operand does not belong to it: it is no member, index or list of
arguments, and no operator of at least the bound. -/
structure Follows (bound : Nat) (rest : List Located) : Prop where
  access : front rest ≠ .dot ∧ front rest ≠ .questionDot ∧ front rest ≠ .leftBracket
  call : front rest ≠ .leftParen
  operator : ∀ op later, operator? rest = some (op, later) → op.precedence < bound

namespace Follows

variable {bound : Nat} {rest : List Located}

/-- What does not belong to an operand does not belong to a tighter one. -/
theorem mono (h : Follows bound rest) {tighter : Nat} (hle : bound ≤ tighter) :
    Follows tighter rest where
  access := h.access
  call := h.call
  operator op later hop := Nat.lt_of_lt_of_le (h.operator op later hop) hle

/-- What ends a condition, or a test, belongs to none of its operands. -/
theorem of_ending (h : front rest ∈ .question :: endings) : Follows 0 rest := by
  cases rest with
  | nil => exact ⟨by decide, by decide, fun _ _ hop => absurd hop (by simp [operator?])⟩
  | cons t rest =>
    obtain ⟨token, offset⟩ := t
    simp only [front, endings, List.mem_cons, List.not_mem_nil, or_false] at h
    rcases h with rfl | rfl | rfl | rfl | rfl | rfl <;>
      exact ⟨by simp [front], by simp [front], fun _ _ hop => absurd hop (by simp [operator?])⟩

/-- An operator belongs to no operand that binds more tightly. -/
theorem of_operator {op : BinaryOp} {ts : List Located}
    (hts : ts.map (·.token) ∈ op.spellings) (hop : op.precedence < bound) :
    Follows bound (ts ++ rest) := by
  have hstart : ∀ us ∈ op.spellings, ∃ t later, us = t :: later ∧
      t ∉ [.dot, .questionDot, .leftBracket, .leftParen] := by
    cases op <;> simp [BinaryOp.spellings, BinaryOp.tokens]
  obtain ⟨t, later, htokens, ht⟩ := hstart _ hts
  have hfront : front (ts ++ rest) = t := front_append htokens rest
  simp only [List.mem_cons, List.not_mem_nil, or_false, not_or] at ht
  refine ⟨?_, ?_, fun found later hfound => ?_⟩
  · rw [hfront]
    exact ⟨ht.1, ht.2.1, ht.2.2.1⟩
  · rw [hfront]
    exact ht.2.2.2
  · rw [operator?_spelling hts rest] at hfound
    obtain ⟨rfl, -⟩ := Prod.mk.inj (Option.some.inj hfound)
    exact hop

end Follows

/-! ## Readers on the tokens of an operand -/

section Readers

variable (levels : Nat) (e : Expr) (ts : List Located)

/-- The tokens are read as a whole condition, if so many levels are left. -/
def ReadsWhole : Prop :=
  ∀ m ending rest, levels ≤ m → Follows 1 rest → front rest ≠ .question →
    ternaryOf (opened m) ending (ts ++ rest) = .ok (e, rest)

/-- The tokens are read as an operand of operators up to a precedence, in front of what does not
belong to operands up to a bound. Their own operators open so many levels of `spine`. -/
def ReadsChain (spine precedence bound : Nat) : Prop :=
  ∀ m ending rest least, levels ≤ m + spine → least ≤ precedence → Follows bound rest →
    binaryOf (opened (m + spine)) least ending (ts ++ rest) =
      chainOf (opened m) least e ending rest

/-- The tokens are read as an operand with the operators in front of it. -/
def ReadsUnary : Prop :=
  ∀ m ending rest, levels ≤ m → Follows 7 rest →
    unaryOf (opened m) ending (ts ++ rest) = .ok (e, rest)

/-- The tokens are read as an object. Their own members and indices open so many levels. -/
def ReadsObject (spine : Nat) : Prop :=
  ∀ m ending rest, levels ≤ m + spine → front rest ≠ .leftParen →
    unaryOf (opened (m + spine)) ending (ts ++ rest) = accesses (opened m) e ending rest

/-- The tokens are read by every reader whose operands may have the precedence. -/
structure Reads (precedence bound : Nat) : Prop where
  whole : ReadsWhole levels e ts
  chain : 1 ≤ precedence → ∃ spine ≤ levels, ReadsChain levels e ts spine precedence bound
  unary : 7 ≤ precedence → ReadsUnary levels e ts
  object : 8 ≤ precedence → ∃ spine ≤ levels, ReadsObject levels e ts spine

end Readers

variable {levels spine precedence bound : Nat} {e : Expr} {ts : List Located}

/-- Operators that do not belong to an operand end a chain. -/
theorem chainOf_follows {inner : Level} {least : Nat} {rest : List Located}
    (h : Follows least rest) (e : Expr) (ending : Nat) :
    chainOf inner least e ending rest = .ok (e, rest) := by
  unfold chainOf
  split
  · rfl
  · rename_i op later hop
    rw [if_pos (h.operator op later hop)]

/-- What is no member or index ends an operand. -/
theorem accesses_follows {inner : Level} {rest : List Located} (h : Follows bound rest) (e : Expr)
    (ending : Nat) : accesses inner e ending rest = .ok (e, rest) := by
  unfold accesses
  split
  · rename_i hfront
    exact absurd hfront h.access.1
  · rename_i hfront
    exact absurd hfront h.access.2.1
  · rename_i hfront
    exact absurd hfront h.access.2.2
  · rfl

/-- An object is read as an operand with its signs, if the levels of its accesses are left. -/
theorem ReadsObject.unary (h : ReadsObject levels e ts spine) (hspine : spine ≤ levels) :
    ReadsUnary levels e ts := by
  intro m ending rest hm hrest
  obtain ⟨m, rfl⟩ : ∃ k, m = k + spine := ⟨m - spine, by omega⟩
  rw [h m ending rest hm hrest.call, accesses_follows hrest]

/-- An operand with its signs is read as a left operand of any operators. -/
theorem ReadsUnary.chain (h : ReadsUnary levels e ts) (precedence : Nat) :
    ReadsChain levels e ts 0 precedence 7 := by
  intro m ending rest least hm _ hrest
  rw [binaryOf, h _ ending rest hm hrest]
  rfl

/-- What is read in a place is read in places that ask for less. -/
theorem ReadsChain.looser (h : ReadsChain levels e ts spine precedence bound) {p b : Nat}
    (hp : p ≤ precedence) (hb : b ≤ bound) : ReadsChain levels e ts spine p b :=
  fun m ending rest least hm hleast hrest =>
    h m ending rest least hm (Nat.le_trans hleast hp) (hrest.mono hb)

/-- A left operand is read as a whole condition, if the levels of its operators are left. -/
theorem ReadsChain.whole (h : ReadsChain levels e ts spine precedence bound)
    (hspine : spine ≤ levels) (hprecedence : 1 ≤ precedence) (hbound : 1 ≤ bound) :
    ReadsWhole levels e ts := by
  intro m ending rest hm hrest hquestion
  obtain ⟨m, rfl⟩ : ∃ k, m = k + spine := ⟨m - spine, by omega⟩
  rw [ternaryOf, h m ending rest 1 hm hprecedence (hrest.mono hbound), chainOf_follows hrest]
  exact if_neg hquestion

/-- An object is read by every reader. -/
theorem ReadsObject.reads (h : ReadsObject levels e ts spine) (hspine : spine ≤ levels) :
    Reads levels e ts 8 7 where
  whole := ((h.unary hspine).chain 8).whole (Nat.zero_le _) (by decide) (by decide)
  chain _ := ⟨0, Nat.zero_le _, (h.unary hspine).chain 8⟩
  unary _ := h.unary hspine
  object _ := ⟨spine, hspine, h⟩

/-- An operand with its signs is read by every reader but that of objects. -/
theorem ReadsUnary.reads (h : ReadsUnary levels e ts) : Reads levels e ts 7 7 where
  whole := (h.chain 7).whole (Nat.zero_le _) (by decide) (by decide)
  chain _ := ⟨0, Nat.zero_le _, h.chain 7⟩
  unary _ := h
  object hprecedence := absurd hprecedence (by decide)

/-- Operands with operators between them are read by the readers of operators and of conditions. -/
theorem ReadsChain.reads (h : ReadsChain levels e ts spine precedence bound)
    (hspine : spine ≤ levels) (hleast : 1 ≤ precedence) (hmost : precedence < 7)
    (hbound : 1 ≤ bound) : Reads levels e ts precedence bound where
  whole := h.whole hspine hleast hbound
  chain _ := ⟨spine, hspine, h⟩
  unary hprecedence := by omega
  object hprecedence := by omega

/-- A whole condition is read by the reader of conditions. -/
theorem ReadsWhole.reads (h : ReadsWhole levels e ts) : Reads levels e ts 0 bound where
  whole := h
  chain hprecedence := absurd hprecedence (by decide)
  unary hprecedence := absurd hprecedence (by decide)
  object hprecedence := absurd hprecedence (by decide)

/-! ## More levels -/

section More

variable {more : Nat}

/-- A condition is read with more levels, too. -/
theorem ReadsWhole.mono (h : ReadsWhole levels e ts) (hle : levels ≤ more) :
    ReadsWhole more e ts :=
  fun m ending rest hm => h m ending rest (Nat.le_trans hle hm)

/-- A left operand is read with more levels, too. -/
theorem ReadsChain.mono (h : ReadsChain levels e ts spine precedence bound) (hle : levels ≤ more) :
    ReadsChain more e ts spine precedence bound :=
  fun m ending rest least hm => h m ending rest least (Nat.le_trans hle hm)

/-- An operand with its signs is read with more levels, too. -/
theorem ReadsUnary.mono (h : ReadsUnary levels e ts) (hle : levels ≤ more) :
    ReadsUnary more e ts :=
  fun m ending rest hm => h m ending rest (Nat.le_trans hle hm)

/-- An object is read with more levels, too. -/
theorem ReadsObject.mono (h : ReadsObject levels e ts spine) (hle : levels ≤ more) :
    ReadsObject more e ts spine :=
  fun m ending rest hm => h m ending rest (Nat.le_trans hle hm)

/-- Tokens that are read by several readers are read by them with more levels, too. -/
theorem Reads.mono (h : Reads levels e ts precedence bound) (hle : levels ≤ more) :
    Reads more e ts precedence bound where
  whole := h.whole.mono hle
  chain hprecedence := by
    obtain ⟨spine, hspine, hchain⟩ := h.chain hprecedence
    exact ⟨spine, Nat.le_trans hspine hle, hchain.mono hle⟩
  unary hprecedence := (h.unary hprecedence).mono hle
  object hprecedence := by
    obtain ⟨spine, hspine, hobject⟩ := h.object hprecedence
    exact ⟨spine, Nat.le_trans hspine hle, hobject.mono hle⟩

end More

/-! ## Conditions on their own and in brackets -/

/-- A whole condition takes one more level where it is a part of another one. -/
theorem ReadsWhole.inner (h : ReadsWhole levels e ts) {m ending : Nat} {rest : List Located}
    (hm : levels < m) (hrest : front rest ∈ endings) :
    (opened m).ternary ending (ts ++ rest) = .ok (e, rest) := by
  obtain ⟨m, rfl⟩ : ∃ k, m = k + 1 := ⟨m - 1, by omega⟩
  refine h m ending rest (by omega) ?_ ?_
  · exact (Follows.of_ending (List.mem_cons_of_mem _ hrest)).mono (Nat.zero_le _)
  · intro hquestion
    rw [hquestion] at hrest
    exact absurd hrest (by decide)

/-- A whole condition is read, if a level is left beyond those that it takes. -/
theorem ReadsWhole.readWithin (h : ReadsWhole levels e ts) {m : Nat} (hm : levels < m)
    (ending : Nat) : readWithin m ending ts = .ok e := by
  have hinner : (opened m).ternary ending (ts ++ []) = .ok (e, []) := h.inner hm (by decide)
  rw [List.append_nil] at hinner
  rw [Condition.readWithin, hinner]
  rfl

/-- Parentheses make an object of a condition. -/
theorem ReadsWhole.parenthesised (h : ReadsWhole levels e ts) {first last : Located}
    (hfirst : first.token = .leftParen) (hlast : last.token = .rightParen) :
    ReadsObject (levels + 1) e (first :: (ts ++ [last])) 0 := by
  intro m ending rest hm _
  have hinner : (opened m).ternary ending (ts ++ last :: rest) = .ok (e, last :: rest) :=
    h.inner (by omega) (by simp [front, hlast, endings])
  simp [unaryOf, primary, front, hfirst, hinner, expect, hlast, bind, Except.bind]

end Telemetry.Condition
