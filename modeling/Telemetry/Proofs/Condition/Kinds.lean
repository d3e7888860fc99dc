import Telemetry.Condition.Evaluation
import Telemetry.Proofs.Fallible

/-!
# Kinds of results

The kind of a result follows from the operation and the kinds of its operands, and the types of
operations accept these kinds. Operations that have no result fail inside of a condition.
-/

namespace Telemetry.Condition

namespace StaticType

/-- A type accepts a kind if it is unknown or this kind. -/
theorem accepts_iff {t : StaticType} {k : Kind} : t.accepts k = true ↔ t = any ∨ t = only k := by
  simp only [accepts, Bool.or_eq_true, decide_eq_true_eq]

@[simp] theorem any_accepts (k : Kind) : any.accepts k = true := rfl

@[simp] theorem only_accepts {k m : Kind} : (only k).accepts m = true ↔ m = k := by
  simp [accepts, eq_comm]

@[simp] theorem ofValue_accepts (v : Value) : (ofValue v).accepts v.kind = true := by
  simp [ofValue]

end StaticType

/-! ## Operations -/

/-- The kind of the result on an argument of a kind. -/
def Builtin.resultKind (argument : Kind) : Builtin → Kind
  | len | int => .int
  | lower | upper | trim | text => .text
  | float => .float
  | abs => argument

/-- The type of a call accepts the kind of its result. -/
theorem Builtin.resultType?_accepts {f : Builtin} {t u : StaticType} {k : Kind}
    (hu : f.resultType? t = some u) (hk : t.accepts k = true) :
    u.accepts (f.resultKind k) = true := by
  cases f <;> simp only [resultType?, Option.ite_none_right_eq_some, Option.some.injEq] at hu
  case abs => exact hu.2 ▸ hk
  case text => exact hu ▸ rfl
  all_goals exact hu.2 ▸ rfl

/-- The kind of the result on an operand of a kind. -/
def UnaryOp.resultKind (operand : Kind) : UnaryOp → Kind
  | not => .bool
  | negate => operand

/-- The type of an operation accepts the kind of its result. -/
theorem UnaryOp.resultType?_accepts {op : UnaryOp} {t u : StaticType} {k : Kind}
    (hu : op.resultType? t = some u) (hk : t.accepts k = true) :
    u.accepts (op.resultKind k) = true := by
  cases op <;> simp only [resultType?, Option.ite_none_right_eq_some, Option.some.injEq] at hu
  case not => exact hu.2 ▸ rfl
  case negate => exact hu.2 ▸ hk

namespace BinaryOp

/-- The kind of the result on operands of two kinds: two integers give an integer, two texts a text,
other numbers a binary64 number. -/
def resultKind (left right : Kind) : BinaryOp → Kind
  | add =>
    if left = .text ∧ right = .text then .text
    else if left = .int ∧ right = .int then .int
    else .float
  | subtract | multiply => if left = .int ∧ right = .int then .int else .float
  | divide => .float
  | modulo => .int
  | _ => .bool

private theorem sumType?_accepts {l r u : StaticType} {k m : Kind} (hu : sumType? l r = some u)
    (hl : l.accepts k = true) (hr : r.accepts m = true) :
    u.accepts (add.resultKind k m) = true := by
  unfold sumType? at hu
  split at hu
  · obtain rfl := Option.some.inj hu
    rw [StaticType.only_accepts] at hl hr
    rw [hl, hr]
    rfl
  · obtain rfl := Option.some.inj hu
    rw [StaticType.only_accepts] at hl hr
    rw [hl, hr]
    rfl
  · rw [Option.ite_none_right_eq_some] at hu
    exact Option.some.inj hu.2 ▸ rfl
  · rw [Option.ite_none_right_eq_some] at hu
    exact Option.some.inj hu.2 ▸ rfl
  · rename_i hleft hright htext hint
    rw [Option.ite_none_right_eq_some] at hu
    obtain rfl := Option.some.inj hu.2
    obtain rfl : l = .only k := (StaticType.accepts_iff.mp hl).resolve_left hleft
    obtain rfl : r = .only m := (StaticType.accepts_iff.mp hr).resolve_left hright
    have ht : ¬(k = .text ∧ m = .text) := by
      rintro ⟨rfl, rfl⟩
      exact htext rfl rfl
    have hi : ¬(k = .int ∧ m = .int) := by
      rintro ⟨rfl, rfl⟩
      exact hint rfl rfl
    simp only [resultKind, if_neg ht, if_neg hi]
    rfl

private theorem productType?_accepts {l r u : StaticType} {k m : Kind}
    (hu : productType? l r = some u) (hl : l.accepts k = true) (hr : r.accepts m = true) :
    u.accepts (subtract.resultKind k m) = true := by
  unfold productType? at hu
  split at hu
  · exact absurd hu (by simp)
  split at hu
  · rename_i hint
    obtain rfl := Option.some.inj hu
    simp only [Bool.and_eq_true, decide_eq_true_eq] at hint
    rw [hint.1, StaticType.only_accepts] at hl
    rw [hint.2, StaticType.only_accepts] at hr
    rw [hl, hr]
    rfl
  split at hu
  · exact Option.some.inj hu ▸ rfl
  · rename_i hint hany
    obtain rfl := Option.some.inj hu
    simp only [Bool.and_eq_true, Bool.or_eq_true, decide_eq_true_eq, not_and, not_or] at hint hany
    obtain rfl : l = .only k := (StaticType.accepts_iff.mp hl).resolve_left hany.1
    obtain rfl : r = .only m := (StaticType.accepts_iff.mp hr).resolve_left hany.2
    have hi : ¬(k = .int ∧ m = .int) := by
      rintro ⟨rfl, rfl⟩
      exact hint rfl rfl
    simp only [resultKind, if_neg hi]
    rfl

/-- The type of an operation accepts the kind of its result. The result of `??` is one of its
operands. -/
theorem resultType?_accepts {op : BinaryOp} {l r u : StaticType} {k m : Kind}
    (hop : op ≠ .coalesce) (hu : op.resultType? l r = some u)
    (hl : l.accepts k = true) (hr : r.accepts m = true) :
    u.accepts (op.resultKind k m) = true := by
  cases op
  case coalesce => exact absurd rfl hop
  case add => exact sumType?_accepts hu hl hr
  case subtract | multiply => exact productType?_accepts hu hl hr
  case equal | notEqual => exact Option.some.inj hu ▸ rfl
  all_goals
    simp only [resultType?, Option.ite_none_right_eq_some, Option.some.injEq] at hu
    exact hu.2 ▸ rfl

end BinaryOp

/-! ## Values -/

/-- A fault inside of a condition, which does not blame the kind of its result. -/
def RuntimeFault.Internal : RuntimeFault → Prop
  | result _ => False
  | _ => True

namespace Value

/-- A value of the kind of texts is one. -/
theorem eq_text_of_kind {v : Value} (h : v.kind = .text) : ∃ s, v = text s := by
  cases v with
  | text s => exact ⟨s, rfl⟩
  | _ => exact absurd h (by simp [kind])

/-- A value of the kind of integers is one. -/
theorem eq_int_of_kind {v : Value} (h : v.kind = .int) : ∃ n, v = int n := by
  cases v with
  | int n => exact ⟨n, rfl⟩
  | _ => exact absurd h (by simp [kind])

/-- An exact result is an integer, or it overflows. -/
theorem ofExact_ends (n : Int) : (ofExact n).Ends (·.kind = .int) RuntimeFault.Internal := by
  unfold ofExact
  split
  · exact .ok rfl
  · exact .error trivial

/-- The whole part of a number is an integer, if there is one. -/
theorem truncated_kind {x : Float} {v : Value} (h : truncated x = some v) : v.kind = .int := by
  obtain ⟨n, -, rfl⟩ := Option.map_eq_some_iff.mp h
  rfl

/-- What is read from a text as an integer is one. -/
theorem readInteger?_kind {cs : List Char} {v : Value} (h : readInteger? cs = some v) :
    v.kind = .int := by
  unfold readInteger? at h
  split at h
  · exact Option.some.inj h ▸ rfl
  · obtain ⟨x, -, hx⟩ := Option.bind_eq_some_iff.mp h
    exact truncated_kind hx

/-- A call has a result of its kind. -/
theorem apply_ends (f : Builtin) (v : Value) :
    (v.apply f).Ends (·.kind = f.resultKind v.kind) RuntimeFault.Internal := by
  cases f with
  | len =>
    cases v with
    | text | array | map =>
      rw [apply]
      exact ofExact_ends _
    | _ => exact .error trivial
  | lower | upper | trim =>
    cases v with
    | text => exact .ok rfl
    | _ => exact .error trivial
  | int =>
    cases v with
    | int => exact .ok rfl
    | float x =>
      simp only [apply]
      split
      · rename_i hv
        exact .ok (truncated_kind hv)
      · exact .error trivial
    | text s =>
      simp only [apply]
      split
      · rename_i hv
        exact .ok (readInteger?_kind hv)
      · exact .error trivial
    | _ => exact .error trivial
  | float =>
    cases v with
    | int | float => exact .ok rfl
    | text s =>
      simp only [apply]
      split
      · exact .ok rfl
      · exact .error trivial
    | _ => exact .error trivial
  | text => exact .ok rfl
  | abs =>
    cases v with
    | int =>
      rw [apply]
      exact ofExact_ends _
    | float => exact .ok rfl
    | _ => exact .error trivial

/-- An operation on one operand has a result of its kind. -/
theorem applyUnary_ends (op : UnaryOp) (v : Value) :
    (v.applyUnary op).Ends (·.kind = op.resultKind v.kind) RuntimeFault.Internal := by
  cases op with
  | not =>
    cases v with
    | bool => exact .ok rfl
    | _ => exact .error trivial
  | negate =>
    cases v with
    | int =>
      exact ofExact_ends _
    | float => exact .ok rfl
    | _ => exact .error trivial

/-- An operation on two integers has a result of its kind. -/
theorem integerResult_ends (op : BinaryOp) (m n : Int64) :
    (integerResult op m n).Ends (·.kind = op.resultKind .int .int) RuntimeFault.Internal := by
  cases op with
  | add | subtract | multiply => exact ofExact_ends _
  | divide => exact .ok rfl
  | modulo =>
    simp only [integerResult]
    split
    · exact .error trivial
    split
    · exact .error trivial
    · exact ofExact_ends _
  | _ => exact .error trivial

/-- Operands that are neither two integers nor two texts give a binary64 number. -/
theorem floatResult?_kind {op : BinaryOp} {x y z : Float} {k m : Kind}
    (h : floatResult? op x y = some z) (ht : ¬(k = .text ∧ m = .text))
    (hi : ¬(k = .int ∧ m = .int)) : op.resultKind k m = .float := by
  cases op with
  | add => simp only [BinaryOp.resultKind, if_neg ht, if_neg hi]
  | subtract | multiply => simp only [BinaryOp.resultKind, if_neg hi]
  | divide => rfl
  | _ => exact absurd h (by simp [floatResult?])

/-- An arithmetical operation has a result of its kind. -/
theorem arithmetic_ends (op : BinaryOp) (a b : Value) :
    (arithmetic op a b).Ends (·.kind = op.resultKind a.kind b.kind) RuntimeFault.Internal := by
  unfold arithmetic
  dsimp only
  split
  · split
    · rename_i hop
      subst hop
      exact .ok rfl
    · exact .error trivial
  · exact integerResult_ends op _ _
  · rename_i htext hint
    split
    · split
      · rename_i hz
        refine .ok (floatResult?_kind hz ?_ ?_).symm
        · rintro ⟨ha, hb⟩
          obtain ⟨s, rfl⟩ := eq_text_of_kind ha
          obtain ⟨t, rfl⟩ := eq_text_of_kind hb
          exact htext s t rfl rfl
        · rintro ⟨ha, hb⟩
          obtain ⟨m, rfl⟩ := eq_int_of_kind ha
          obtain ⟨n, rfl⟩ := eq_int_of_kind hb
          exact hint m n rfl rfl
      · exact .error trivial
    · exact .error trivial

/-- A comparison has a truth value for a result. -/
theorem ordered_ends (op : BinaryOp) (accept : Ordering → Bool) (a b : Value) :
    (ordered op accept a b).Ends (·.kind = .bool) RuntimeFault.Internal := by
  unfold ordered
  split
  · exact .ok rfl
  · exact .error trivial

/-- A relation of two texts has a truth value for a result. -/
theorem related_ends (op : BinaryOp) (holds : List Char → List Char → Bool) (a b : Value) :
    (related op holds a b).Ends (·.kind = .bool) RuntimeFault.Internal := by
  unfold related
  split
  · exact .ok rfl
  · exact .error trivial

/-- A match has a truth value for a result, whatever the patterns are. -/
theorem matchesText_ends (patterns : Pattern.Engine) (a b : Value) :
    (matchesText patterns a b).Ends (·.kind = .bool) RuntimeFault.Internal := by
  unfold matchesText
  split
  · split
    · exact .ok rfl
    · exact .error trivial
  · exact .error trivial

/-- An operation on two operands has a result of its kind. -/
theorem applyBinary_ends (patterns : Pattern.Engine) (op : BinaryOp) (a b : Value) :
    (a.applyBinary patterns op b).Ends (·.kind = op.resultKind a.kind b.kind)
      RuntimeFault.Internal := by
  cases op with
  | equal | notEqual => exact .ok rfl
  | less | lessEqual | greater | greaterEqual => exact ordered_ends _ _ a b
  | matchesPattern => exact matchesText_ends patterns a b
  | contains | startsWith | endsWith =>
    rw [applyBinary]
    exact related_ends _ _ a b
  | _ => exact arithmetic_ends _ a b

/-- A demand for a truth value fails inside of the condition, if it fails. -/
theorem truth_ends (op : BinaryOp) (v : Value) :
    (v.truth op).Ends (fun _ => True) RuntimeFault.Internal := by
  cases v with
  | bool => exact .ok trivial
  | _ => exact .error trivial

/-- A search fails inside of the condition, if it fails. -/
theorem isIn_ends (needle whole : Value) :
    (needle.isIn whole).Ends (fun _ => True) RuntimeFault.Internal := by
  unfold isIn
  split
  · split <;> exact .ok trivial
  · exact .ok trivial
  · exact .ok trivial
  · exact .error trivial

/-- An index fails inside of the condition, if it fails. -/
theorem atIndex_ends (object position : Value) :
    (object.atIndex position).Ends (fun _ => True) RuntimeFault.Internal := by
  unfold atIndex
  split
  · exact .ok trivial
  · extract_lets n
    split
    · exact .error trivial
    split
    · exact .ok trivial
    · exact .error trivial
  · exact .error trivial

/-- A member of nil is nil. -/
theorem member_ends (object : Value) (key : String) (optional : Bool) :
    (object.member key optional).Ends (fun v => object.kind = .nil → v.kind = .nil)
      RuntimeFault.Internal := by
  cases object with
  | nil =>
    cases optional with
    | false => exact .error trivial
    | true => exact .ok fun _ => rfl
  | map => exact .ok fun h => absurd h (by simp [kind])
  | _ => exact .error trivial

end Value

end Telemetry.Condition
