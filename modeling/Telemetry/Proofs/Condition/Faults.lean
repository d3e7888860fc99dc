import Telemetry.Proofs.Condition.Kinds
import Telemetry.Proofs.Decimal.NotANumber
import Telemetry.Proofs.Decimal.ReadBack

/-!
# Faults that types leave

An operation whose operands are of known kinds, and of kinds that its types allow, has a result but
for a few faults: a whole number that does not fit its word, a remainder by zero, a number that is
none in an order, a text that cannot be read, and a pattern that is no pattern. `FailsOn` lists them
for calls and operators, each with the operands that it needs.
-/

namespace Telemetry.Condition

/-! ## Known kinds -/

namespace StaticType

/-- A known type accepts its own kind alone. -/
theorem eq_only_of_accepts {t : StaticType} {k : Kind} (ht : t ≠ .any) (h : t.accepts k = true) :
    t = .only k :=
  (accepts_iff.mp h).resolve_left ht

/-- The kinds of numbers. -/
theorem only_isNumeric {k : Kind} : (only k).isNumeric = true ↔ k = .int ∨ k = .float := by
  simp [isNumeric]

end StaticType

namespace Value

/-- A value of the kind of truth values is one. -/
theorem eq_bool_of_kind {v : Value} (h : v.kind = .bool) : ∃ b, v = bool b := by
  cases v with
  | bool b => exact ⟨b, rfl⟩
  | _ => exact absurd h (by simp [kind])

/-- A value of a numeric kind is an integer or a binary64 number. -/
theorem number_of_kind {v : Value} (h : v.kind = .int ∨ v.kind = .float) :
    (∃ n, v = int n) ∨ ∃ x, v = float x := by
  cases v with
  | int n => exact .inl ⟨n, rfl⟩
  | float x => exact .inr ⟨x, rfl⟩
  | _ => exact absurd h (by simp [kind])

/-- Whether a value is the number that is none. -/
def IsNaN (v : Value) : Prop := ∃ x, v = float x ∧ x.isNaN = true

/-! ## Numbers -/

/-- Two binary64 numbers have an order unless one of them is none. -/
theorem compareFloats?_eq_none {x y : Float} (h : compareFloats? x y = none) :
    x.isNaN = true ∨ y.isNaN = true := by
  unfold compareFloats? at h
  split at h
  · exact absurd h (by simp)
  rename_i hlt
  split at h
  · exact absurd h (by simp)
  rename_i hgt
  split at h
  · exact absurd h (by simp)
  rename_i heq
  rw [BinaryValue.lt_iff_compare] at hlt hgt
  rw [BinaryValue.beq_iff_compare] at heq
  rw [BinaryValue.compare_swap] at hgt
  have hnone : x.toModel.unpack.compare y.toModel.unpack = none := by
    cases ho : x.toModel.unpack.compare y.toModel.unpack with
    | none => rfl
    | some o =>
      rw [ho] at hlt hgt heq
      cases o with
      | lt => exact absurd rfl hlt
      | eq => exact absurd rfl heq
      | gt => exact absurd rfl hgt
  exact BinaryValue.compare_eq_none_iff.mp hnone

/-- A finite number has a whole part. -/
theorem truncated_eq_none {x : Float} (h : truncated x = none) : x.isFinite = false := by
  by_contra hx
  obtain ⟨negative, m, e, hof, -⟩ :=
    BinaryValue.exists_canonical_of_isFinite (Bool.eq_true_of_not_eq_false hx)
  rw [truncated, hof] at h
  exact absurd h (by simp [BinaryValue.truncate?])

/-- A result that is refused is an integer that does not fit its word. -/
theorem ofExact_eq_error {n : Int} {fault : RuntimeFault} (h : ofExact n = .error fault) :
    fault = .integerOverflow ∧ exactInt64? n = none := by
  unfold ofExact at h
  split at h
  · exact absurd h (by simp)
  · rename_i hn
    exact ⟨(Except.error.inj h).symm, hn⟩

/-- A remainder fits the word of the divisor. -/
theorem exactInt64?_tmod (m : Int) {n : Int64} (hn : n ≠ 0) :
    exactInt64? (m.tmod n.toInt) ≠ none := by
  have hzero : n.toInt ≠ 0 := fun h => hn (Int64.toInt_inj.mp h)
  have hlow := n.minValue_le_toInt
  have hhigh := n.toInt_le
  have habs : (m.tmod n.toInt).natAbs < n.toInt.natAbs := by
    rw [Int.natAbs_tmod]
    exact Nat.mod_lt _ (Int.natAbs_pos.mpr hzero)
  rw [exactInt64?, if_pos]
  · simp
  · rw [show Int64.minValue.toInt = -2 ^ 63 from rfl] at hlow ⊢
    rw [show Int64.maxValue.toInt = 2 ^ 63 - 1 from rfl] at hhigh ⊢
    omega

end Value

/-! ## Calls -/

/-- The number of characters, items or entries. -/
def Value.length? : Value → Option Nat
  | text s => some s.length
  | array items => some items.length
  | map entries => some entries.length
  | _ => none

/-- The faults of a call on an argument of the right kind. -/
inductive Builtin.FailsOn : Builtin → Value → RuntimeFault → Prop where
  | tooLong {v : Value} {n : Nat} (hv : v.length? = some n) (hn : exactInt64? n = none) :
    FailsOn .len v .integerOverflow
  | absolute {n : Int64} (hn : exactInt64? n.toInt.natAbs = none) :
    FailsOn .abs (.int n) .integerOverflow
  | notFinite {x : Float} (hx : x.isFinite = false) :
    FailsOn .int (.float x) (.argument .int .float)
  | noInteger {s : String} (hs : Value.readInteger? (Text.trimChars s.toList) = none) :
    FailsOn .int (.text s) (.unreadableInteger (Text.trim s))
  | noNumber {s : String} (hs : Decimal.readFloat? (Text.trimChars s.toList) = none) :
    FailsOn .float (.text s) (.unreadableNumber s)

/-- The faults of a call are those of its function. -/
theorem Value.apply_eq_error {f : Builtin} {v : Value} {u : StaticType} {fault : RuntimeFault}
    (hu : f.resultType? (.only v.kind) = some u) (h : v.apply f = .error fault) :
    f.FailsOn v fault := by
  cases f with
  | len =>
    cases v with
    | text | array | map =>
      obtain ⟨rfl, hn⟩ := ofExact_eq_error h
      exact .tooLong rfl hn
    | _ => exact absurd hu (by simp [Builtin.resultType?, kind, StaticType.accepts])
  | lower | upper | trim =>
    cases v with
    | text => exact absurd h (by simp [apply])
    | _ => exact absurd hu (by simp [Builtin.resultType?, kind, StaticType.accepts])
  | int =>
    cases v with
    | int => exact absurd h (by simp [apply])
    | float x =>
      simp only [apply] at h
      split at h
      · exact absurd h (by simp)
      · rename_i hx
        obtain rfl := Except.error.inj h
        exact .notFinite (truncated_eq_none hx)
    | text s =>
      simp only [apply] at h
      split at h
      · exact absurd h (by simp)
      · rename_i hs
        obtain rfl := Except.error.inj h
        exact .noInteger hs
    | _ => exact absurd hu (by simp [Builtin.resultType?, kind, StaticType.isNumeric])
  | float =>
    cases v with
    | int | float => exact absurd h (by simp [apply])
    | text s =>
      simp only [apply] at h
      split at h
      · exact absurd h (by simp)
      · rename_i hs
        obtain rfl := Except.error.inj h
        exact .noNumber hs
    | _ => exact absurd hu (by simp [Builtin.resultType?, kind, StaticType.isNumeric])
  | text => exact absurd h (by simp [apply])
  | abs =>
    cases v with
    | int n =>
      obtain ⟨rfl, hn⟩ := ofExact_eq_error h
      exact .absolute hn
    | float => exact absurd h (by simp [apply])
    | _ => exact absurd hu (by simp [Builtin.resultType?, kind, StaticType.isNumeric])

/-! ## Operators with one operand -/

/-- The faults of an operator on an operand of the right kind. -/
inductive UnaryOp.FailsOn : UnaryOp → Value → RuntimeFault → Prop where
  | overflow {n : Int64} (hn : exactInt64? (-n.toInt) = none) :
    FailsOn .negate (.int n) .integerOverflow

/-- The faults of an operation on one operand are those of its operator. -/
theorem Value.applyUnary_eq_error {op : UnaryOp} {v : Value} {u : StaticType}
    {fault : RuntimeFault} (hu : op.resultType? (.only v.kind) = some u)
    (h : v.applyUnary op = .error fault) : op.FailsOn v fault := by
  cases op with
  | not =>
    cases v with
    | bool => exact absurd h (by simp [applyUnary])
    | _ => exact absurd hu (by simp [UnaryOp.resultType?, kind, StaticType.accepts])
  | negate =>
    cases v with
    | int n =>
      obtain ⟨rfl, hn⟩ := ofExact_eq_error h
      exact .overflow hn
    | float => exact absurd h (by simp [applyUnary])
    | _ => exact absurd hu (by simp [UnaryOp.resultType?, kind, StaticType.isNumeric])

/-! ## Operators with two operands -/

namespace BinaryOp

/-- What must fit a word for an operator on two integers to have a result. Of a remainder it is the
quotient. -/
def fitted? (m n : Int) : BinaryOp → Option Int
  | add => some (m + n)
  | subtract => some (m - n)
  | multiply => some (m * n)
  | modulo => some (m.tdiv n)
  | _ => none

/-- Whether an operator asks for the order of its operands. -/
def isOrder : BinaryOp → Bool
  | less | lessEqual | greater | greaterEqual => true
  | _ => false

/-- Whether an operator computes with its operands. -/
def isArithmetic : BinaryOp → Bool
  | add | subtract | multiply | divide | modulo => true
  | _ => false

/-- Whether an operator evaluates both operands before anything else. -/
def isStrict : BinaryOp → Bool
  | coalesce | or | and | isIn | notIn => false
  | _ => true

/-- The faults of an operator on operands of the right kinds. -/
inductive FailsOn (patterns : Pattern.Engine) :
    BinaryOp → Value → Value → RuntimeFault → Prop where
  | overflow {op : BinaryOp} {m n : Int64} {k : Int} (hk : op.fitted? m.toInt n.toInt = some k)
    (hfit : exactInt64? k = none) : FailsOn patterns op (.int m) (.int n) .integerOverflow
  | byZero {m : Int64} : FailsOn patterns .modulo (.int m) (.int 0) .divisionByZero
  | unordered {op : BinaryOp} {a b : Value} (hop : op.isOrder = true)
    (ha : a.kind = .int ∨ a.kind = .float) (hb : b.kind = .int ∨ b.kind = .float)
    (h : a.IsNaN ∨ b.IsNaN) : FailsOn patterns op a b (.operands op a.kind b.kind)
  | noPattern {s source : String} (h : patterns.test? source = none) :
    FailsOn patterns .matchesPattern (.text s) (.text source) (.invalidPattern source)

end BinaryOp

namespace Value

variable {patterns : Pattern.Engine} {a b : Value} {op : BinaryOp} {fault : RuntimeFault}

/-- Numbers have an order, but for the number that is none. -/
theorem compare?_eq_none (ha : a.kind = .int ∨ a.kind = .float)
    (hb : b.kind = .int ∨ b.kind = .float) (h : a.compare? b = none) : a.IsNaN ∨ b.IsNaN := by
  rcases number_of_kind ha with ⟨m, rfl⟩ | ⟨x, rfl⟩ <;>
    rcases number_of_kind hb with ⟨n, rfl⟩ | ⟨y, rfl⟩
  · exact absurd h (by simp [compare?])
  · have hint : ¬(Float.ofInt m.toInt).isNaN = true := by
      rw [BinaryValue.isNaN_ofInt]
      exact Bool.false_ne_true
    exact .inr ⟨y, rfl, (compareFloats?_eq_none h).resolve_left hint⟩
  · have hint : ¬(Float.ofInt n.toInt).isNaN = true := by
      rw [BinaryValue.isNaN_ofInt]
      exact Bool.false_ne_true
    exact .inl ⟨x, rfl, (compareFloats?_eq_none h).resolve_right hint⟩
  · exact (compareFloats?_eq_none h).imp (fun hx => ⟨x, rfl, hx⟩) fun hy => ⟨y, rfl, hy⟩

/-- What is put in order: two numbers or two texts. -/
theorem operands_of_order {k m : Kind} {w : StaticType} (hop : op.isOrder = true)
    (hw : op.resultType? (.only k) (.only m) = some w) :
    ((k = .int ∨ k = .float) ∧ (m = .int ∨ m = .float)) ∨ (k = .text ∧ m = .text) := by
  rw [← StaticType.only_isNumeric, ← StaticType.only_isNumeric]
  cases op with
  | less | lessEqual | greater | greaterEqual =>
    have hkinds := (Option.ite_none_right_eq_some.mp hw).1
    simpa using hkinds
  | _ => exact absurd hop (by simp [BinaryOp.isOrder])

/-- A comparison of operands with an order fails only where one of them is no number. -/
theorem ordered_eq_error {accept : Ordering → Bool} {w : StaticType} (hop : op.isOrder = true)
    (hw : op.resultType? (.only a.kind) (.only b.kind) = some w)
    (h : ordered op accept a b = .error fault) : op.FailsOn patterns a b fault := by
  unfold ordered at h
  split at h
  · exact absurd h (by simp)
  · rename_i hnone
    obtain rfl := Except.error.inj h
    rcases operands_of_order hop hw with ⟨ha, hb⟩ | ⟨ha, hb⟩
    · exact .unordered hop ha hb (compare?_eq_none ha hb hnone)
    · obtain ⟨s, rfl⟩ := eq_text_of_kind ha
      obtain ⟨t, rfl⟩ := eq_text_of_kind hb
      exact absurd hnone (by simp [compare?])

/-- Operators on texts have a result on texts. -/
theorem related_ne_error {holds : List Char → List Char → Bool} (ha : a.kind = .text)
    (hb : b.kind = .text) : related op holds a b ≠ .error fault := by
  obtain ⟨s, rfl⟩ := eq_text_of_kind ha
  obtain ⟨t, rfl⟩ := eq_text_of_kind hb
  simp [related]

/-- A match of two texts fails only where the second one is no pattern. -/
theorem matchesText_eq_error (ha : a.kind = .text) (hb : b.kind = .text)
    (h : a.matchesText patterns b = .error fault) :
    BinaryOp.matchesPattern.FailsOn patterns a b fault := by
  obtain ⟨s, rfl⟩ := eq_text_of_kind ha
  obtain ⟨source, rfl⟩ := eq_text_of_kind hb
  simp only [matchesText] at h
  split at h
  · exact absurd h (by simp)
  · rename_i hnone
    obtain rfl := Except.error.inj h
    exact .noPattern hnone

/-- An operation on two integers fails only where its result does not fit, or on a remainder by
zero. -/
theorem integerResult_eq_error {m n : Int64} (hop : op.isArithmetic = true)
    (h : integerResult op m n = .error fault) : op.FailsOn patterns (.int m) (.int n) fault := by
  cases op with
  | add | subtract | multiply =>
    obtain ⟨rfl, hfit⟩ := ofExact_eq_error h
    exact .overflow rfl hfit
  | divide => exact absurd h (by simp [integerResult])
  | modulo =>
    simp only [integerResult] at h
    split at h
    · rename_i hzero
      obtain rfl := Except.error.inj h
      rw [hzero]
      exact .byZero
    split at h
    · rename_i hquotient
      obtain rfl := Except.error.inj h
      simp only [Bool.and_eq_true, decide_eq_true_eq] at hquotient
      rw [hquotient.1, hquotient.2]
      exact .overflow rfl (by decide)
    · rename_i hzero _
      exact absurd (ofExact_eq_error h).2 (exactInt64?_tmod _ hzero)
  | _ => exact absurd hop (by simp [BinaryOp.isArithmetic])

/-- What arithmetic is done on: two texts that are added, two integers for a remainder, or two
numbers. -/
theorem operands_of_arithmetic {k m : Kind} {w : StaticType} (hop : op.isArithmetic = true)
    (hw : op.resultType? (.only k) (.only m) = some w) :
    (op = .add ∧ k = .text ∧ m = .text) ∨ (k = .int ∧ m = .int) ∨
      (op ≠ .modulo ∧ (k = .int ∨ k = .float) ∧ (m = .int ∨ m = .float)) := by
  cases op with
  | add =>
    cases k <;> cases m <;>
      simp [BinaryOp.resultType?, sumType?, StaticType.isNumeric] at hw ⊢
  | subtract | multiply =>
    have hkinds := (Option.ite_none_left_eq_some.mp hw).1
    rw [Bool.not_eq_true, Bool.not_eq_false', Bool.and_eq_true, StaticType.only_isNumeric,
      StaticType.only_isNumeric] at hkinds
    exact .inr (.inr ⟨by simp, hkinds⟩)
  | divide =>
    have hkinds := (Option.ite_none_right_eq_some.mp hw).1
    rw [Bool.and_eq_true, StaticType.only_isNumeric, StaticType.only_isNumeric] at hkinds
    exact .inr (.inr ⟨by simp, hkinds⟩)
  | modulo =>
    have hkinds := (Option.ite_none_right_eq_some.mp hw).1
    rw [Bool.and_eq_true, StaticType.only_accepts, StaticType.only_accepts] at hkinds
    exact .inr (.inl ⟨hkinds.1.symm, hkinds.2.symm⟩)
  | _ => exact absurd hop (by simp [BinaryOp.isArithmetic])

/-- Two numbers have a result other than a remainder. -/
theorem exists_floatResult? (hop : op.isArithmetic = true) (hmod : op ≠ .modulo) (x y : Float) :
    ∃ z, floatResult? op x y = some z := by
  cases op with
  | add | subtract | multiply | divide => exact ⟨_, rfl⟩
  | modulo => exact absurd rfl hmod
  | _ => exact absurd hop (by simp [BinaryOp.isArithmetic])

/-- An operation on two numbers fails only where its result does not fit, or on a remainder by
zero. -/
theorem arithmetic_eq_error {w : StaticType} (hop : op.isArithmetic = true)
    (hw : op.resultType? (.only a.kind) (.only b.kind) = some w)
    (h : arithmetic op a b = .error fault) : op.FailsOn patterns a b fault := by
  rcases operands_of_arithmetic hop hw with ⟨rfl, ha, hb⟩ | ⟨ha, hb⟩ | ⟨hmod, ha, hb⟩
  · obtain ⟨s, rfl⟩ := eq_text_of_kind ha
    obtain ⟨t, rfl⟩ := eq_text_of_kind hb
    exact absurd h (by simp [arithmetic])
  · obtain ⟨m, rfl⟩ := eq_int_of_kind ha
    obtain ⟨n, rfl⟩ := eq_int_of_kind hb
    exact integerResult_eq_error hop h
  · have hfloat := exists_floatResult? hop hmod
    rcases number_of_kind ha with ⟨m, rfl⟩ | ⟨x, rfl⟩ <;>
      rcases number_of_kind hb with ⟨n, rfl⟩ | ⟨y, rfl⟩
    · exact integerResult_eq_error hop h
    · obtain ⟨z, hz⟩ := hfloat (.ofInt m.toInt) y
      exact absurd h (by simp [arithmetic, toFloat?, hz])
    · obtain ⟨z, hz⟩ := hfloat x (.ofInt n.toInt)
      exact absurd h (by simp [arithmetic, toFloat?, hz])
    · obtain ⟨z, hz⟩ := hfloat x y
      exact absurd h (by simp [arithmetic, toFloat?, hz])

/-- The faults of an operation on two operands are those of its operator. -/
theorem applyBinary_eq_error {w : StaticType} (hop : op.isStrict = true)
    (hw : op.resultType? (.only a.kind) (.only b.kind) = some w)
    (h : a.applyBinary patterns op b = .error fault) : op.FailsOn patterns a b fault := by
  have htexts : ∀ {u : StaticType},
      (if (StaticType.only a.kind).accepts .text && (StaticType.only b.kind).accepts .text
        then some (StaticType.only .bool) else none) = some u →
      a.kind = .text ∧ b.kind = .text := by
    intro u hu
    have hkinds := (Option.ite_none_right_eq_some.mp hu).1
    rw [Bool.and_eq_true, StaticType.only_accepts, StaticType.only_accepts] at hkinds
    exact ⟨hkinds.1.symm, hkinds.2.symm⟩
  cases op with
  | equal | notEqual => exact absurd h (by simp [applyBinary])
  | less | lessEqual | greater | greaterEqual => exact ordered_eq_error rfl hw h
  | matchesPattern => exact matchesText_eq_error (htexts hw).1 (htexts hw).2 h
  | contains | startsWith | endsWith =>
    rw [applyBinary] at h
    exact absurd h (related_ne_error (htexts hw).1 (htexts hw).2)
  | add | subtract | multiply | divide | modulo => exact arithmetic_eq_error rfl hw h
  | _ => exact absurd hop (by simp [BinaryOp.isStrict])

end Value

end Telemetry.Condition
