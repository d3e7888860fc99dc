import Telemetry.Proofs.Condition.Levels
import Telemetry.Proofs.Fallible

/-!
# Which trees are read with so many levels

The places in which trees are read, and the rules by which a tree in a place comes from its parts.
Whatever a reader returns has been derived by these rules with the levels that the reader may open,
so that a property of the trees that are read is an induction over the rules.
-/

namespace Telemetry.Condition

namespace Expr

/-- Whether the tree is an operand that is a single token. -/
def isAtom : Expr → Bool
  | .nil | .bool _ | .int _ | .float _ | .text _ | .name _ => true
  | _ => false

end Expr

/-- A place in which a tree is read. -/
inductive Place where
  /-- A whole condition. -/
  | whole
  /-- An operand and the operators behind it. -/
  | operand
  /-- The operators behind a left operand, which is a part of the tree. -/
  | chain (left : Expr)
  /-- An operand with the operators in front of it. -/
  | prefixed
  /-- An operand without operators, members and indices. -/
  | primary
  /-- The members and indices behind an object, which is a part of the tree. -/
  | suffixes (object : Expr)

/-- The trees that are read in a place with so many levels, the one of the place among them. -/
inductive Derives : Nat → Place → Expr → Prop where
  | test {n : Nat} {e : Expr} (h : Derives n .operand e) : Derives n .whole e
  | choice {n : Nat} {test yes no : Expr} (ht : Derives (n + 1) .operand test)
      (hy : Derives n .whole yes) (hn : Derives n .whole no) :
      Derives (n + 1) .whole (.choice test yes no)
  | operand {n : Nat} {left e : Expr} (hl : Derives n .prefixed left)
      (h : Derives n (.chain left) e) : Derives n .operand e
  /-- The operators end. -/
  | chainEnd {n : Nat} {left : Expr} : Derives (n + 1) (.chain left) left
  /-- One more operator, with its level. -/
  | operator {n : Nat} {op : BinaryOp} {left right e : Expr} (hr : Derives n .operand right)
      (h : Derives n (.chain (.binary op left right)) e) : Derives (n + 1) (.chain left) e
  | unary {n : Nat} (op : UnaryOp) {e : Expr} (h : Derives n .prefixed e) :
      Derives (n + 1) .prefixed (.unary op e)
  /-- A plus sign leaves no trace. -/
  | plus {n : Nat} {e : Expr} (h : Derives n .prefixed e) : Derives (n + 1) .prefixed e
  | object {n : Nat} {object e : Expr} (ho : Derives n .primary object)
      (h : Derives n (.suffixes object) e) : Derives n .prefixed e
  | atom {n : Nat} {e : Expr} (h : e.isAtom = true) : Derives (n + 1) .primary e
  | array {n : Nat} {items : List Expr} (h : ∀ e ∈ items, Derives n .whole e) :
      Derives (n + 1) .primary (.array items)
  | call {n : Nat} (function : String) {arguments : List Expr}
      (h : ∀ e ∈ arguments, Derives n .whole e) :
      Derives (n + 1) .primary (.call function arguments)
  /-- Parentheses leave no trace. -/
  | parenthesised {n : Nat} {e : Expr} (h : Derives n .whole e) : Derives (n + 1) .primary e
  /-- The members and indices end. -/
  | suffixesEnd {n : Nat} {object : Expr} : Derives (n + 1) (.suffixes object) object
  /-- One more member, with its level. -/
  | member {n : Nat} {object e : Expr} {key : String} {optional : Bool}
      (h : Derives n (.suffixes (.member object key optional)) e) :
      Derives (n + 1) (.suffixes object) e
  /-- One more index, with its level. -/
  | index {n : Nat} {object position e : Expr} (hp : Derives n .whole position)
      (h : Derives (n + 1) (.suffixes (.index object position)) e) :
      Derives (n + 2) (.suffixes object) e

/-- Nothing is read without a level. -/
theorem Derives.levels_pos {n : Nat} {place : Place} {e : Expr} (h : Derives n place e) :
    0 < n := by
  induction h with
  | test _ ih | operand _ _ ih | object _ _ ih => exact ih
  | _ => exact Nat.succ_pos _

/-- Whether what is read has a property, if something is read. -/
abbrev Yields {α : Type} (P : α → Prop) (x : Except SyntaxError (α × List Located)) : Prop :=
  x.Ends (fun r => P r.1) fun _ => True

namespace Level

/-- The readers of a level read what is derived with so many levels. The reader of members and
indices has opened the level of the first one already. -/
structure Sound (l : Level) (n : Nat) : Prop where
  ternary : ∀ ending ts, Yields (Derives n .whole) (l.ternary ending ts)
  binary : ∀ least ending ts, Yields (Derives n .operand) (l.binary least ending ts)
  chain : ∀ least left ending ts, Yields (Derives n (.chain left)) (l.chain least left ending ts)
  unary : ∀ ending ts, Yields (Derives n .prefixed) (l.unary ending ts)
  access : ∀ object ending ts,
    Yields (Derives (n + 1) (.suffixes object)) (l.access object ending ts)

/-- Nothing is read where no level is left. -/
theorem closed_sound : closed.Sound 0 :=
  ⟨fun _ _ => .error trivial, fun _ _ _ => .error trivial, fun _ _ _ _ => .error trivial,
    fun _ _ => .error trivial, fun _ _ _ => .error trivial⟩

/-! ## Lists -/

/-- Items are what the reader of an item reads, by induction on their number. -/
theorem listFrom_yields {item : Reader Expr} {P : Expr → Prop}
    (h : ∀ ending ts, Yields P (item ending ts)) (close : Token) (what : String)
    (fuel ending : Nat) (ts : List Located) :
    Yields (fun es => ∀ e ∈ es, P e) (listFrom item close what fuel ending ts) := by
  induction fuel generalizing ts with
  | zero => exact .error trivial
  | succ fuel ih =>
    refine (h ending ts).bind fun ⟨first, ts⟩ hfirst => ?_
    have hsingle : ∀ e ∈ [first], P e := List.forall_mem_singleton.mpr hfirst
    dsimp only
    split
    · split
      · exact .ok hsingle
      · exact (ih _).bind fun _ hothers => .ok (List.forall_mem_cons.mpr ⟨hfirst, hothers⟩)
    · split
      · exact .ok hsingle
      · exact .error trivial

/-- The same of a list in its brackets. -/
theorem list_yields {item : Reader Expr} {P : Expr → Prop}
    (h : ∀ ending ts, Yields P (item ending ts)) (close : Token) (what : String)
    (ending : Nat) (ts : List Located) :
    Yields (fun es => ∀ e ∈ es, P e) (list item close what ending ts) := by
  unfold list
  split
  · exact .ok (List.forall_mem_nil _)
  · exact listFrom_yields h close what _ ending ts

/-- A token that must be in front adds nothing to a tree. -/
theorem expect_yields (want : Token) (what : String) (ending : Nat) (ts : List Located) :
    Yields (fun _ => True) (expect want what ending ts) := by
  unfold expect
  split
  · exact .ok trivial
  · exact .error trivial

/-! ## The readers of one level, by those one level further in -/

variable {inner : Level} {n : Nat}

/-- A word is an operand by itself, or a call of arguments that are derived one level further in. -/
theorem wordAt_yields (h : inner.Sound n) (offset : Nat) (w : String) (ending : Nat)
    (ts : List Located) :
    Yields (Derives (n + 1) .primary) (wordAt inner offset w ending ts) := by
  unfold wordAt
  split
  case h_4 =>
    split
    · exact .error trivial
    split
    · exact (list_yields h.ternary _ _ _ _).bind fun _ harguments => .ok (.call w harguments)
    · exact .ok (.atom rfl)
  all_goals exact .ok (.atom rfl)

/-- An operand without accesses is a single token, or it comes from conditions one level further
in. -/
theorem primary_yields (h : inner.Sound n) (ending : Nat) (ts : List Located) :
    Yields (Derives (n + 1) .primary) (primary inner ending ts) := by
  cases ts with
  | nil => exact .error trivial
  | cons t rest =>
    obtain ⟨token, offset⟩ := t
    cases token with
    | int | float | text => exact .ok (.atom rfl)
    | word w => exact wordAt_yields h offset w ending rest
    | leftParen =>
      refine (h.ternary _ _).bind fun r hr => ?_
      exact (expect_yields _ _ _ _).bind fun _ _ => .ok (.parenthesised hr)
    | leftBracket =>
      exact (list_yields h.ternary _ _ _ _).bind fun _ hitems => .ok (.array hitems)
    | _ => exact .error trivial

/-- The accesses behind an object are derived from it; the first one has a level of its own. -/
theorem accesses_yields (h : inner.Sound n) (object : Expr) (ending : Nat) (ts : List Located) :
    Yields (Derives (n + 1) (.suffixes object)) (accesses inner object ending ts) := by
  unfold accesses
  split
  · exact h.access object ending ts
  · exact h.access object ending ts
  · exact h.access object ending ts
  · exact .ok .suffixesEnd

/-- An operand with its signs is derived with a level for each sign. -/
theorem unaryOf_yields (h : inner.Sound n) (ending : Nat) (ts : List Located) :
    Yields (Derives (n + 1) .prefixed) (unaryOf inner ending ts) := by
  unfold unaryOf
  split
  · exact (h.unary _ _).bind fun _ hr => .ok (.unary .not hr)
  · exact (h.unary _ _).bind fun _ hr => .ok (.unary .not hr)
  · exact (h.unary _ _).bind fun _ hr => .ok (.unary .negate hr)
  · exact (h.unary _ _).imp fun _ hr => .plus hr
  · refine (primary_yields h ending ts).bind fun r hr => ?_
    exact (accesses_yields h r.1 ending r.2).imp fun _ hr' => .object hr hr'

/-- The operators behind a left operand are derived with a level for each operator. -/
theorem chainOf_yields (h : inner.Sound n) (least : Nat) (left : Expr) (ending : Nat)
    (ts : List Located) :
    Yields (Derives (n + 1) (.chain left)) (chainOf inner least left ending ts) := by
  unfold chainOf
  split
  · exact .ok .chainEnd
  rename_i op rest _
  split
  · exact .ok .chainEnd
  · refine (h.binary op.rightPrecedence ending rest).bind fun r hr => ?_
    exact (h.chain least (.binary op left r.1) ending r.2).imp fun _ hr' => .operator hr hr'

/-- An operand and the operators behind it are derived from both of these. -/
theorem binaryOf_yields (h : inner.Sound n) (least ending : Nat) (ts : List Located) :
    Yields (Derives (n + 1) .operand) (binaryOf inner least ending ts) := by
  refine (unaryOf_yields h ending ts).bind fun r hr => ?_
  exact (chainOf_yields h least r.1 ending r.2).imp fun _ hr' => .operand hr hr'

/-- A condition is derived as its test, or as a choice whose branches are one level further in. -/
theorem ternaryOf_yields (h : inner.Sound n) (ending : Nat) (ts : List Located) :
    Yields (Derives (n + 1) .whole) (ternaryOf inner ending ts) := by
  refine (binaryOf_yields h 1 ending ts).bind fun r htest => ?_
  dsimp only
  split
  · refine (h.ternary _ _).bind fun _ hyes => (expect_yields _ _ _ _).bind fun _ _ => ?_
    exact (h.ternary _ _).bind fun _ hno => .ok (.choice htest hyes hno)
  · exact .ok (.test htest)

/-- One access and those behind it are derived with the level of the access opened. -/
theorem accessOf_yields (h : inner.Sound n) (object : Expr) (ending : Nat) (ts : List Located) :
    Yields (Derives (n + 2) (.suffixes object)) (accessOf inner object ending ts) := by
  unfold accessOf
  split
  · refine (h.ternary _ _).bind fun r hr => (expect_yields _ _ _ _).bind fun r' _ => ?_
    exact (accesses_yields h (.index object r.1) ending r'.2).imp fun _ he => .index hr he
  · dsimp only
    split
    · exact (accesses_yields h _ ending _).imp fun _ he => .member he
    · exact .error trivial

/-- One more level around sound readers. -/
theorem around_sound (h : inner.Sound n) : inner.around.Sound (n + 1) where
  ternary := ternaryOf_yields h
  binary := binaryOf_yields h
  chain := chainOf_yields h
  unary := unaryOf_yields h
  access := accessOf_yields h

/-- Readers with so many levels read what is derived with them, by induction on their number. -/
theorem opened_sound (n : Nat) : (opened n).Sound n := by
  induction n with
  | zero => exact closed_sound
  | succ n ih => exact around_sound ih

end Level

/-- Conditions that may open so many levels are derived with them. -/
theorem derives_of_parseWithin {levels : Nat} {source : String} {e : Expr}
    (h : parseWithin levels source = .ok e) : Derives levels .whole e := by
  obtain ⟨ts, -, hread⟩ := Except.bind_eq_ok_iff.mp h
  obtain ⟨⟨e', rest⟩, hternary, hend⟩ := Except.bind_eq_ok_iff.mp hread
  have hderives := ((Level.opened_sound levels).ternary _ _).result_of_eq hternary
  dsimp only at hend
  split at hend
  · exact Except.ok.inj hend ▸ hderives
  · cases hend

end Telemetry.Condition
