import Telemetry.Condition.Parser

/-!
# Readers with more or fewer levels

Readers that may open more levels read whatever readers that may open fewer do: these give the same
result, or they fail for want of a level.
-/

namespace Telemetry.Condition

/-- The first result is the second one, or there were too few levels to reach it. -/
inductive Approximates {α : Type} : Except SyntaxError α → Except SyntaxError α → Prop where
  | same (x : Except SyntaxError α) : Approximates x x
  | tooDeep (offset : Nat) (x : Except SyntaxError α) : Approximates (.error ⟨offset, .tooDeep⟩) x

/-- A sequence is approximated by a sequence of approximations. -/
theorem Approximates.bind {α β : Type} {x y : Except SyntaxError α}
    {f g : α → Except SyntaxError β} (h : Approximates x y) (hf : ∀ a, Approximates (f a) (g a)) :
    Approximates (x >>= f) (y >>= g) := by
  cases h with
  | tooDeep offset y => exact .tooDeep offset _
  | same x =>
    cases x with
    | error e => exact .same _
    | ok a => exact hf a

/-- What approximates a result is this result or too deep. -/
theorem Approximates.cases_ok {α : Type} {x : Except SyntaxError α} {a : α}
    (h : Approximates x (.ok a)) : x = .ok a ∨ ∃ offset, x = .error ⟨offset, .tooDeep⟩ := by
  cases h with
  | same => exact .inl rfl
  | tooDeep offset => exact .inr ⟨offset, rfl⟩

/-- A result without fault is approximated by itself alone. -/
theorem Approximates.eq_of_ok {α : Type} {y : Except SyntaxError α} {a : α}
    (h : Approximates (.ok a) y) : .ok a = y := by
  cases h with
  | same => rfl

namespace Level

/-- Each reader of a level approximates the one of another level. -/
structure Approximates (l m : Level) : Prop where
  ternary : ∀ ending ts, Condition.Approximates (l.ternary ending ts) (m.ternary ending ts)
  binary : ∀ least ending ts,
    Condition.Approximates (l.binary least ending ts) (m.binary least ending ts)
  chain : ∀ least left ending ts,
    Condition.Approximates (l.chain least left ending ts) (m.chain least left ending ts)
  unary : ∀ ending ts, Condition.Approximates (l.unary ending ts) (m.unary ending ts)
  access : ∀ object ending ts,
    Condition.Approximates (l.access object ending ts) (m.access object ending ts)

variable {l m : Level}

/-- Lists are approximated if their items are, by induction on the bound of their number. -/
theorem listFrom_approximates {item item' : Reader Expr}
    (h : ∀ ending ts, Condition.Approximates (item ending ts) (item' ending ts)) (close : Token)
    (what : String) (fuel ending : Nat) (ts : List Located) :
    Condition.Approximates (listFrom item close what fuel ending ts)
      (listFrom item' close what fuel ending ts) := by
  induction fuel generalizing ts with
  | zero => exact .same _
  | succ fuel ih =>
    refine (h ending ts).bind fun ⟨first, ts⟩ => ?_
    dsimp only
    split
    · split
      · exact .same _
      · exact (ih _).bind fun _ => .same _
    · exact .same _

/-- The same of a list in its brackets. -/
theorem list_approximates (h : l.Approximates m) (close : Token) (what : String) (ending : Nat)
    (ts : List Located) :
    Condition.Approximates (list l.ternary close what ending ts)
      (list m.ternary close what ending ts) := by
  unfold list
  split
  · exact .same _
  · exact listFrom_approximates h.ternary close what _ ending ts

/-- A word with fewer levels for its arguments approximates it with more. -/
theorem wordAt_approximates (h : l.Approximates m) (offset : Nat) (w : String) (ending : Nat)
    (ts : List Located) :
    Condition.Approximates (wordAt l offset w ending ts) (wordAt m offset w ending ts) := by
  unfold wordAt
  split
  case h_4 =>
    split
    · exact .same _
    split
    · exact (list_approximates h _ _ _ _).bind fun _ => .same _
    · exact .same _
  all_goals exact .same _

/-- An operand without accesses with fewer levels approximates it with more. -/
theorem primary_approximates (h : l.Approximates m) (ending : Nat) (ts : List Located) :
    Condition.Approximates (primary l ending ts) (primary m ending ts) := by
  cases ts with
  | nil => exact .same _
  | cons t rest =>
    obtain ⟨token, offset⟩ := t
    cases token with
    | word w => exact wordAt_approximates h offset w ending rest
    | leftParen => exact (h.ternary _ _).bind fun _ => .same _
    | leftBracket => exact (list_approximates h _ _ _ _).bind fun _ => .same _
    | _ => exact .same _

/-- Accesses with fewer levels approximate them with more. -/
theorem accesses_approximates (h : l.Approximates m) (object : Expr) (ending : Nat)
    (ts : List Located) :
    Condition.Approximates (accesses l object ending ts) (accesses m object ending ts) := by
  unfold accesses
  split
  · exact h.access _ _ _
  · exact h.access _ _ _
  · exact h.access _ _ _
  · exact .same _

/-- An operand with its signs with fewer levels approximates it with more. -/
theorem unaryOf_approximates (h : l.Approximates m) (ending : Nat) (ts : List Located) :
    Condition.Approximates (unaryOf l ending ts) (unaryOf m ending ts) := by
  unfold unaryOf
  split
  · exact (h.unary _ _).bind fun _ => .same _
  · exact (h.unary _ _).bind fun _ => .same _
  · exact (h.unary _ _).bind fun _ => .same _
  · exact h.unary _ _
  · exact (primary_approximates h _ _).bind fun _ => accesses_approximates h _ _ _

/-- The operators behind a left operand with fewer levels approximate them with more. -/
theorem chainOf_approximates (h : l.Approximates m) (least : Nat) (left : Expr) (ending : Nat)
    (ts : List Located) :
    Condition.Approximates (chainOf l least left ending ts) (chainOf m least left ending ts) := by
  unfold chainOf
  split
  · exact .same _
  split
  · exact .same _
  · exact (h.binary _ _ _).bind fun _ => h.chain _ _ _ _

/-- Operators of a least precedence with fewer levels approximate them with more. -/
theorem binaryOf_approximates (h : l.Approximates m) (least : Nat) (ending : Nat)
    (ts : List Located) :
    Condition.Approximates (binaryOf l least ending ts) (binaryOf m least ending ts) :=
  (unaryOf_approximates h ending ts).bind fun _ => chainOf_approximates h least _ _ _

/-- A condition with fewer levels approximates it with more. -/
theorem ternaryOf_approximates (h : l.Approximates m) (ending : Nat) (ts : List Located) :
    Condition.Approximates (ternaryOf l ending ts) (ternaryOf m ending ts) := by
  refine (binaryOf_approximates h 1 ending ts).bind fun ⟨test, ts⟩ => ?_
  dsimp only
  split
  · refine (h.ternary _ _).bind fun _ => Condition.Approximates.bind (.same _) fun _ => ?_
    exact (h.ternary _ _).bind fun _ => .same _
  · exact .same _

/-- An access with fewer levels approximates it with more. -/
theorem accessOf_approximates (h : l.Approximates m) (object : Expr) (ending : Nat)
    (ts : List Located) :
    Condition.Approximates (accessOf l object ending ts) (accessOf m object ending ts) := by
  unfold accessOf
  split
  · refine (h.ternary _ _).bind fun _ => Condition.Approximates.bind (.same _) fun _ => ?_
    exact accesses_approximates h _ _ _
  · dsimp only
    split
    · exact accesses_approximates h _ _ _
    · exact .same _

/-- A level around a better one is better. -/
theorem around_approximates (h : l.Approximates m) : l.around.Approximates m.around where
  ternary := ternaryOf_approximates h
  binary := binaryOf_approximates h
  chain := chainOf_approximates h
  unary := unaryOf_approximates h
  access := accessOf_approximates h

/-- The readers that may open so many levels, their own among them. -/
def opened : Nat → Level
  | 0 => closed
  | n + 1 => (opened n).around

/-- Readers that may open more levels are better. -/
theorem opened_approximates {n k : Nat} (h : n ≤ k) : (opened n).Approximates (opened k) := by
  induction n generalizing k with
  | zero =>
    exact ⟨fun _ _ => .tooDeep _ _, fun _ _ _ => .tooDeep _ _, fun _ _ _ _ => .tooDeep _ _,
      fun _ _ => .tooDeep _ _, fun _ _ _ => .tooDeep _ _⟩
  | succ n ih =>
    obtain ⟨k, rfl⟩ : ∃ j, k = j + 1 := ⟨k - 1, by omega⟩
    exact around_approximates (ih (Nat.le_of_succ_le_succ h))

end Level

/-- The readers of a level open it and further levels. -/
theorem level_eq_opened (n : Nat) : level n = Level.opened (n + 1) := by
  induction n with
  | zero => rfl
  | succ n ih =>
    rw [level, ih]
    rfl

/-! ## Conditions that may open so many levels -/

/-- Reads the tokens of one condition that may open so many levels. -/
def readWithin (levels ending : Nat) (ts : List Located) : Except SyntaxError Expr := do
  let (e, rest) ← (Level.opened levels).ternary ending ts
  if front rest = .ending then .ok e
  else failAt ending rest (.trailingToken (front rest))

/-- Reads a condition that may open so many levels. -/
def parseWithin (levels : Nat) (source : String) : Except SyntaxError Expr := do
  let ts ← tokenize source
  readWithin levels (width source.toList) ts.dropLast

/-- A condition may open the levels that there are. -/
theorem readTokens_eq_readWithin : readTokens = readWithin levelLimit := by
  funext ending ts
  rw [readTokens, level_eq_opened]
  rfl

/-- A condition is parsed with the levels that the limit allows. -/
theorem parse_eq_parseWithin : parse = parseWithin levelLimit := by
  funext source
  rw [parse, readTokens_eq_readWithin]
  rfl

/-- The tokens of a condition are read with more levels as with fewer, or these are too few. -/
theorem readWithin_approximates {n k : Nat} (h : n ≤ k) (ending : Nat) (ts : List Located) :
    Approximates (readWithin n ending ts) (readWithin k ending ts) :=
  ((Level.opened_approximates h).ternary ending ts).bind fun _ => .same _

/-- Tokens that are read with some number of levels are read with those that there are, or these are
too few. -/
theorem readTokens_of_readWithin {n ending : Nat} {ts : List Located} {e : Expr}
    (h : readWithin n ending ts = .ok e) :
    readTokens ending ts = .ok e ∨ ∃ offset, readTokens ending ts = .error ⟨offset, .tooDeep⟩ := by
  -- enough levels for these tokens, and no fewer than there are
  let enough := max levelLimit n
  have hmore := readWithin_approximates (Nat.le_max_right levelLimit n : n ≤ enough) ending ts
  rw [h] at hmore
  have happrox := readWithin_approximates (Nat.le_max_left levelLimit n : _ ≤ enough) ending ts
  rw [← hmore.eq_of_ok, ← readTokens_eq_readWithin] at happrox
  exact happrox.cases_ok

/-- A condition that is accepted is accepted with more levels too. -/
theorem parseWithin_mono {n k : Nat} (h : n ≤ k) {source : String} {e : Expr}
    (hread : parseWithin n source = .ok e) : parseWithin k source = .ok e := by
  have happrox : Approximates (parseWithin n source) (parseWithin k source) :=
    .bind (.same _) fun ts => readWithin_approximates h _ ts.dropLast
  rw [hread] at happrox
  exact happrox.eq_of_ok.symm

end Telemetry.Condition
