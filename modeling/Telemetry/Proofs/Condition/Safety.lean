import Telemetry.Proofs.Condition.Faults
import Telemetry.Proofs.Condition.TypeSoundness

/-!
# Conditions of known types are safe

A condition none of whose parts is of an unknown type never fails for the kind of an operand: on
every message it has a value of its type, or one of its nodes fails as its operation does on
operands of the right kinds. The induction is over the rules that resolve the condition; each rule
for an operation gives the kinds of the operands, and `FailsOn` the faults that these leave.
-/

namespace Telemetry.Condition

/-! ## Parts of conditions -/

/-- The conditions that a condition is put together from. -/
def Expr.children : Expr → List Expr
  | .array items => items
  | .member object _ _ => [object]
  | .index object position => [object, position]
  | .call _ arguments => arguments
  | .unary _ operand => [operand]
  | .binary _ left right => [left, right]
  | .choice test yes no => [test, yes, no]
  | _ => []

/-- The parts of a condition, from the condition itself down to its names and literals. -/
inductive Expr.Part : Expr → Expr → Prop where
  | self (e : Expr) : Part e e
  | inside {e child part : Expr} (hc : child ∈ e.children) (h : Part child part) : Part e part

/-- No part of the condition is of an unknown type. -/
def Expr.Known (env : Environment) (e : Expr) : Prop :=
  ∀ part, e.Part part → ∀ node t, Node.ofExpr env part = .ok (node, t) → t ≠ .any

/-- What is known of a condition is known of its parts. -/
theorem Expr.Known.child {env : Environment} {e child : Expr} (h : e.Known env)
    (hc : child ∈ e.children) : child.Known env :=
  fun part hpart => h part (.inside hc hpart)

/-- A condition of known types has a known type itself. -/
theorem Expr.Known.type_ne_any {env : Environment} {e : Expr} {node : Node} {t : StaticType}
    (h : e.Known env) (he : Resolves env e node t) : t ≠ .any :=
  h e (.self e) node t (Node.ofExpr_of_resolves he)

/-- A condition is of known types if it is of one, and so are all that it is put together from. -/
theorem Expr.known_of_children {env : Environment} {e : Expr} {node : Node} {k : Kind}
    (he : Node.ofExpr env e = .ok (node, .only k))
    (hchildren : ∀ child ∈ e.children, child.Known env) : e.Known env := by
  intro part hpart n t hn
  cases hpart with
  | self =>
    rw [he] at hn
    obtain ⟨-, rfl⟩ := Prod.mk.inj (Except.ok.inj hn)
    simp
  | inside hc hpart => exact hchildren _ hc part hpart n t hn

/-! ## Faults of nodes -/

/-- The nodes that a node is put together from. -/
def Node.children : Node → List Node
  | .array items => items
  | .member object _ _ => [object]
  | .index object position => [object, position]
  | .call _ argument => [argument]
  | .unary _ operand => [operand]
  | .binary _ left right => [left, right]
  | .matching subject _ => [subject]
  | .choice test yes no => [test, yes, no]
  | _ => []

/-- A fault of a node whose operands are of the right kinds: that of its operation on their values,
or a fault inside. Only a pattern that is not constant can be none. -/
inductive Node.FailsIn (patterns : Pattern.Engine) (scope : Scope) :
    Node → RuntimeFault → Prop where
  | call {f : Builtin} {argument : Node} {v : Value} {fault : RuntimeFault}
    (ha : argument.eval patterns scope = .ok v) (h : f.FailsOn v fault) :
    FailsIn patterns scope (.call f argument) fault
  | unary {op : UnaryOp} {operand : Node} {v : Value} {fault : RuntimeFault}
    (ho : operand.eval patterns scope = .ok v) (h : op.FailsOn v fault) :
    FailsIn patterns scope (.unary op operand) fault
  | binary {op : BinaryOp} {left right : Node} {a b : Value} {fault : RuntimeFault}
    (hl : left.eval patterns scope = .ok a) (hr : right.eval patterns scope = .ok b)
    (h : op.FailsOn patterns a b fault)
    (hpattern : op = .matchesPattern → ∀ source, right ≠ .constant (.text source)) :
    FailsIn patterns scope (.binary op left right) fault
  | inside {node child : Node} {fault : RuntimeFault} (hc : child ∈ node.children)
    (h : FailsIn patterns scope child fault) : FailsIn patterns scope node fault

/-- A fault that blames the kind of an operand, or the place of a member or an item: everything but
an overflow, a remainder by zero, numbers without an order, a number without a whole part, and texts
that cannot be read. -/
def RuntimeFault.IsMismatch : RuntimeFault → Prop
  | integerOverflow | divisionByZero | unreadableInteger _ | unreadableNumber _
  | invalidPattern _ => False
  | operands op left right =>
    ¬(op.isOrder = true ∧ (left = .int ∨ left = .float) ∧ (right = .int ∨ right = .float))
  | argument f k => ¬(f = .int ∧ k = .float)
  | _ => True

/-- A call on the kind that it takes blames no kind. -/
theorem Builtin.FailsOn.not_isMismatch {f : Builtin} {v : Value} {fault : RuntimeFault}
    (h : f.FailsOn v fault) : ¬fault.IsMismatch := by
  cases h with
  | notFinite => exact fun hnot => hnot ⟨rfl, rfl⟩
  | _ => exact id

/-- An operation on the kinds that it takes blames no kind. -/
theorem BinaryOp.FailsOn.not_isMismatch {patterns : Pattern.Engine} {op : BinaryOp} {a b : Value}
    {fault : RuntimeFault} (h : op.FailsOn patterns a b fault) : ¬fault.IsMismatch := by
  cases h with
  | unordered hop ha hb => exact fun hnot => hnot ⟨hop, ha, hb⟩
  | _ => exact id

/-- Operands of the right kinds are not to blame. -/
theorem Node.FailsIn.not_isMismatch {patterns : Pattern.Engine} {scope : Scope} {node : Node}
    {fault : RuntimeFault} (h : node.FailsIn patterns scope fault) : ¬fault.IsMismatch := by
  induction h with
  | call _ h => exact h.not_isMismatch
  | unary _ h =>
    cases h with
    | overflow => exact id
  | binary _ _ h => exact h.not_isMismatch
  | inside _ _ ih => exact ih

namespace Node

variable {patterns : Pattern.Engine} {scope : Scope}

/-- A node of a known type: it has values of this type only, and fails only where its operations do
on operands of the right kinds. -/
structure Safe (patterns : Pattern.Engine) (scope : Scope) (n : Node) (t : StaticType) : Prop where
  fits : n.Fits patterns scope t
  known : t ≠ .any
  fails : ∀ fault, n.eval patterns scope = .error fault → n.FailsIn patterns scope fault

/-- The type of a safe node is the kind of its value. -/
theorem Safe.type_eq {n : Node} {t : StaticType} {v : Value} (h : n.Safe patterns scope t)
    (hv : n.eval patterns scope = .ok v) : t = .only v.kind :=
  StaticType.eq_only_of_accepts h.known (h.fits.result_of_eq hv)

/-- A kind that the type of a safe node accepts is the kind of its value. -/
theorem Safe.kind_eq {n : Node} {t : StaticType} {v : Value} {k : Kind}
    (h : n.Safe patterns scope t) (hk : t.accepts k = true)
    (hv : n.eval patterns scope = .ok v) : v.kind = k := by
  rw [h.type_eq hv, StaticType.only_accepts] at hk
  exact hk.symm

variable {fault : RuntimeFault}

/-- Where an operation cannot fail, its fault is inside. -/
theorem Safe.inside {n node : Node} {t : StaticType} (h : n.Safe patterns scope t)
    (hc : n ∈ node.children) (hn : n.eval patterns scope = .error fault) :
    node.FailsIn patterns scope fault :=
  .inside hc (h.fails fault hn)

/-- An evaluation that begins with an operand fails inside it, or behind it on its value. -/
theorem Safe.behind {n node : Node} {t : StaticType} {rest : Value → Except RuntimeFault Value}
    (h : n.Safe patterns scope t) (hc : n ∈ node.children)
    (hfault : n.eval patterns scope >>= rest = .error fault)
    (hrest : ∀ v, n.eval patterns scope = .ok v → rest v = .error fault →
      node.FailsIn patterns scope fault) :
    node.FailsIn patterns scope fault := by
  rcases Except.bind_eq_error_iff.mp hfault with herror | ⟨v, hv, herror⟩
  · exact h.inside hc herror
  · exact hrest v hv herror

/-- The values of the items fail where an item does. -/
theorem evalAll_eq_error {nodes : List Node} (h : evalAll patterns scope nodes = .error fault) :
    ∃ n ∈ nodes, n.eval patterns scope = .error fault := by
  induction nodes with
  | nil => exact absurd h (by simp [evalAll])
  | cons n ns ih =>
    rw [evalAll] at h
    rcases Except.bind_eq_error_iff.mp h with hn | ⟨v, -, h⟩
    · exact ⟨n, List.mem_cons_self, hn⟩
    rcases Except.bind_eq_error_iff.mp h with hns | ⟨vs, -, h⟩
    · obtain ⟨m, hm, herror⟩ := ih hns
      exact ⟨m, List.mem_cons_of_mem _ hm, herror⟩
    · exact absurd h (by simp)

/-- An array fails inside of one of its items. -/
theorem array_failsIn {nodes : List Node} (hs : ∀ n ∈ nodes, ∃ t, n.Safe patterns scope t)
    (h : (array nodes).eval patterns scope = .error fault) :
    (array nodes).FailsIn patterns scope fault := by
  rw [eval] at h
  rcases Except.bind_eq_error_iff.mp h with hall | ⟨vs, -, h⟩
  · obtain ⟨n, hn, herror⟩ := evalAll_eq_error hall
    obtain ⟨t, hsafe⟩ := hs n hn
    exact hsafe.inside hn herror
  · exact absurd h (by simp)

/-- A call fails inside of its argument, or on its value. -/
theorem call_failsIn {f : Builtin} {argument : Node} {t u : StaticType}
    (ha : argument.Safe patterns scope t) (hu : f.resultType? t = some u)
    (h : (call f argument).eval patterns scope = .error fault) :
    (call f argument).FailsIn patterns scope fault := by
  rw [eval] at h
  refine ha.behind (by simp [children]) h fun v hv h => ?_
  rw [ha.type_eq hv] at hu
  exact .call hv (Value.apply_eq_error hu h)

/-- An operator with one operand fails inside of it, or on its value. -/
theorem unary_failsIn {op : UnaryOp} {operand : Node} {t u : StaticType}
    (ho : operand.Safe patterns scope t) (hu : op.resultType? t = some u)
    (h : (unary op operand).eval patterns scope = .error fault) :
    (unary op operand).FailsIn patterns scope fault := by
  rw [eval] at h
  refine ho.behind (by simp [children]) h fun v hv h => ?_
  rw [ho.type_eq hv] at hu
  exact .unary hv (Value.applyUnary_eq_error hu h)

/-- A match with a constant pattern fails inside of its subject. -/
theorem matching_failsIn {subject : Node} {t : StaticType} (occursIn : String → Bool)
    (hs : subject.Safe patterns scope t) (ht : t.accepts .text = true)
    (h : (matching subject occursIn).eval patterns scope = .error fault) :
    (matching subject occursIn).FailsIn patterns scope fault := by
  rw [eval] at h
  refine hs.behind (by simp [children]) h fun v hv h => ?_
  obtain ⟨s, rfl⟩ := Value.eq_text_of_kind (hs.kind_eq ht hv)
  exact absurd h (by simp)

/-- A choice fails inside of its test or of the branch that is taken. -/
theorem choice_failsIn {test yes no : Node} {t u w : StaticType} (ht : test.Safe patterns scope t)
    (hy : yes.Safe patterns scope u) (hn : no.Safe patterns scope w)
    (hbool : t.accepts .bool = true)
    (h : (choice test yes no).eval patterns scope = .error fault) :
    (choice test yes no).FailsIn patterns scope fault := by
  rw [eval] at h
  refine ht.behind (by simp [children]) h fun v hv h => ?_
  obtain ⟨b, rfl⟩ := Value.eq_bool_of_kind (ht.kind_eq hbool hv)
  cases b with
  | true => exact hy.inside (by simp [children]) h
  | false => exact hn.inside (by simp [children]) h

/-! ## Operators with two operands -/

/-- An evaluation that begins with a truth value for `and` or `or` fails inside it, or behind it. -/
theorem Safe.behind_truth {n node : Node} {t : StaticType} {op : BinaryOp}
    {rest : Bool → Except RuntimeFault Value} (hn : n.Safe patterns scope t)
    (ht : t.accepts .bool = true) (hc : n ∈ node.children)
    (hfault : (do let v ← n.eval patterns scope; let b ← v.truth op; rest b) = .error fault)
    (hrest : ∀ b, rest b = .error fault → node.FailsIn patterns scope fault) :
    node.FailsIn patterns scope fault := by
  refine hn.behind hc hfault fun v hv h => ?_
  obtain ⟨b, rfl⟩ := Value.eq_bool_of_kind (hn.kind_eq ht hv)
  exact hrest b h

variable {left right : Node} {t u w : StaticType}

/-- The right operand of `and` and `or`, where it is asked for. -/
theorem Safe.last_truth {node : Node} {op : BinaryOp} (hr : right.Safe patterns scope u)
    (hu : u.accepts .bool = true) (hc : right ∈ node.children)
    (h : (do let b ← right.eval patterns scope; return Value.bool (← b.truth op)) = .error fault) :
    node.FailsIn patterns scope fault :=
  hr.behind_truth hu hc h fun _ h => absurd h (by simp [pure, Except.pure])

/-- What `and` and `or` ask for. -/
private theorem operands_of_connective {op : BinaryOp} (hop : op = .and ∨ op = .or)
    (hw : op.resultType? t u = some w) : t.accepts .bool = true ∧ u.accepts .bool = true := by
  rcases hop with rfl | rfl <;>
    exact Bool.and_eq_true_iff.mp (Option.ite_none_right_eq_some.mp hw).1

/-- A conjunction fails inside of the operands that are looked at. -/
theorem and_failsIn (hl : left.Safe patterns scope t) (hr : right.Safe patterns scope u)
    (hw : BinaryOp.and.resultType? t u = some w)
    (h : (binary .and left right).eval patterns scope = .error fault) :
    (binary .and left right).FailsIn patterns scope fault := by
  obtain ⟨ht, hu⟩ := operands_of_connective (.inl rfl) hw
  rw [eval] at h
  refine hl.behind_truth ht (by simp [children]) h fun p h => ?_
  cases p with
  | true => exact hr.last_truth hu (by simp [children]) h
  | false => exact absurd h (by simp [pure, Except.pure])

/-- A disjunction fails inside of the operands that are looked at. -/
theorem or_failsIn (hl : left.Safe patterns scope t) (hr : right.Safe patterns scope u)
    (hw : BinaryOp.or.resultType? t u = some w)
    (h : (binary .or left right).eval patterns scope = .error fault) :
    (binary .or left right).FailsIn patterns scope fault := by
  obtain ⟨ht, hu⟩ := operands_of_connective (.inr rfl) hw
  rw [eval] at h
  refine hl.behind_truth ht (by simp [children]) h fun p h => ?_
  cases p with
  | true => exact absurd h (by simp [pure, Except.pure])
  | false => exact hr.last_truth hu (by simp [children]) h

/-- A default value fails inside of the operands that are looked at. -/
theorem coalesce_failsIn (hl : left.Safe patterns scope t) (hr : right.Safe patterns scope u)
    (h : (binary .coalesce left right).eval patterns scope = .error fault) :
    (binary .coalesce left right).FailsIn patterns scope fault := by
  rw [eval] at h
  refine hl.behind (by simp [children]) h fun a _ h => ?_
  split at h
  · exact hr.inside (by simp [children]) h
  · exact absurd h (by simp)

/-- The kinds in which something can be. -/
private theorem whole_of_isIn {op : BinaryOp} (hop : op = .isIn ∨ op = .notIn)
    (hw : op.resultType? t u = some w) :
    u.accepts .array = true ∨ u = .only .map ∨ u = .only .nil := by
  rcases hop with rfl | rfl <;>
    simpa [or_assoc] using (Option.ite_none_right_eq_some.mp hw).1

/-- Something is in an array, a map or nil, or it is not. -/
theorem Safe.isIn_ne_error {needle whole : Value} (hr : right.Safe patterns scope u)
    (hu : u.accepts .array = true ∨ u = .only .map ∨ u = .only .nil)
    (hwhole : right.eval patterns scope = .ok whole) : needle.isIn whole ≠ .error fault := by
  have hkind : whole.kind = .array ∨ whole.kind = .map ∨ whole.kind = .nil := by
    rcases hu with hu | hu | hu
    · exact .inl (hr.kind_eq hu hwhole)
    · exact .inr (.inl (hr.kind_eq (by simp [hu]) hwhole))
    · exact .inr (.inr (hr.kind_eq (by simp [hu]) hwhole))
  cases whole with
  | nil | array => simp [Value.isIn]
  | map => cases needle <;> simp [Value.isIn]
  | _ => exact absurd hkind (by simp [Value.kind])

/-- The search for a key or an item fails with its right operand only. -/
theorem Safe.search_failsIn {node : Node} {needle : Value} {f : Bool → Value}
    (hr : right.Safe patterns scope u)
    (hu : u.accepts .array = true ∨ u = .only .map ∨ u = .only .nil)
    (hc : right ∈ node.children)
    (h : (match membership? scope right needle with
      | some found => return f found
      | none => do
        let whole ← right.eval patterns scope
        return f (← needle.isIn whole)) = Except.error fault) :
    node.FailsIn patterns scope fault := by
  split at h
  · exact absurd h (by simp [pure, Except.pure])
  refine hr.behind hc h fun whole hwhole h => ?_
  rcases Except.bind_eq_error_iff.mp h with hin | ⟨found, -, h⟩
  · exact absurd hin (hr.isIn_ne_error hu hwhole)
  · exact absurd h (by simp [pure, Except.pure])

/-- The search for an item fails inside of its operands. -/
theorem isIn_failsIn (hl : left.Safe patterns scope t) (hr : right.Safe patterns scope u)
    (hw : BinaryOp.isIn.resultType? t u = some w)
    (h : (binary .isIn left right).eval patterns scope = .error fault) :
    (binary .isIn left right).FailsIn patterns scope fault := by
  rw [eval] at h
  refine hl.behind (by simp [children]) h fun needle _ h => ?_
  exact hr.search_failsIn (whole_of_isIn (.inl rfl) hw) (by simp [children]) h

/-- The search for the lack of an item fails inside of its operands. -/
theorem notIn_failsIn (hl : left.Safe patterns scope t) (hr : right.Safe patterns scope u)
    (hw : BinaryOp.notIn.resultType? t u = some w)
    (h : (binary .notIn left right).eval patterns scope = .error fault) :
    (binary .notIn left right).FailsIn patterns scope fault := by
  rw [eval] at h
  refine hl.behind (by simp [children]) h fun needle _ h => ?_
  exact hr.search_failsIn (f := fun found => .bool !found) (whole_of_isIn (.inr rfl) hw)
    (by simp [children]) h

/-- An operation that looks at both operands fails inside of them, or on their values. -/
theorem strict_failsIn {op : BinaryOp} (hop : op.isStrict = true) (hl : left.Safe patterns scope t)
    (hr : right.Safe patterns scope u) (hw : op.resultType? t u = some w)
    (hpattern : op = .matchesPattern → ∀ source, right ≠ .constant (.text source))
    (h : (do
      let a ← left.eval patterns scope
      let b ← right.eval patterns scope
      a.applyBinary patterns op b) = .error fault) :
    (binary op left right).FailsIn patterns scope fault := by
  refine hl.behind (by simp [children]) h fun a ha h => ?_
  refine hr.behind (by simp [children]) h fun b hb h => ?_
  rw [hl.type_eq ha, hr.type_eq hb] at hw
  exact .binary ha hb (Value.applyBinary_eq_error hop hw h) hpattern

/-- An operation fails inside of its operands, or on their values. -/
theorem binary_failsIn {op : BinaryOp} (hl : left.Safe patterns scope t)
    (hr : right.Safe patterns scope u) (hw : op.resultType? t u = some w)
    (hpattern : op = .matchesPattern → ∀ source, right ≠ .constant (.text source))
    (h : (binary op left right).eval patterns scope = .error fault) :
    (binary op left right).FailsIn patterns scope fault := by
  cases op with
  | and => exact and_failsIn hl hr hw h
  | or => exact or_failsIn hl hr hw h
  | coalesce => exact coalesce_failsIn hl hr h
  | isIn => exact isIn_failsIn hl hr hw h
  | notIn => exact notIn_failsIn hl hr hw h
  | _ => exact strict_failsIn rfl hl hr hw hpattern h

/-- A member of nil that may be missing is nil. -/
theorem member_failsIn {object : Node} {key : String} (ho : object.Safe patterns scope (.only .nil))
    (h : (member object key true).eval patterns scope = .error fault) :
    (member object key true).FailsIn patterns scope fault := by
  rw [eval] at h
  split at h
  · exact absurd h (by simp)
  refine ho.behind (by simp [children]) h fun v hv h => ?_
  have hnil := ho.kind_eq (StaticType.only_accepts.mpr rfl) hv
  cases v with
  | nil => exact absurd h (by simp [Value.member])
  | _ => exact absurd hnil (by simp [Value.kind])

end Node

/-! ## Conditions -/

/-- A member of a known type fails with its object only. -/
theorem Fetches.failsIn {object node : Node} {t u : StaticType} {key : String} {optional : Bool}
    (h : Fetches object t key optional node u) (hu : u ≠ .any) {patterns : Pattern.Engine}
    {s : Snapshot} {fault : RuntimeFault} (ho : object.Safe patterns s.scope t)
    (herror : node.eval patterns s.scope = .error fault) : node.FailsIn patterns s.scope fault := by
  cases h with
  | folded => exact absurd herror (by simp [Node.eval])
  | ofMessage =>
    have hfound : Node.shortcut? s.scope (.variable .message) key =
        some (s.messageMember key) := rfl
    rw [Node.eval, hfound] at herror
    exact absurd herror (by simp)
  | general => exact absurd rfl hu
  | ofNil => exact Node.member_failsIn ho herror

/-- An item that is looked up at an index is of an unknown type. -/
theorem indexType?_eq_any {t u w : StaticType} (h : indexType? t u = some w) : w = .any := by
  unfold indexType? at h
  split at h
  · exact (Option.some.inj h).symm
  · exact (Option.some.inj (Option.ite_none_right_eq_some.mp h).2).symm
  · exact (Option.some.inj (Option.ite_none_right_eq_some.mp h).2).symm
  · exact absurd h (by simp)

/-- A resolved condition of known types is safe if it fails as its operations do. -/
theorem Resolves.safe_of_fails {env : Environment} {e : Expr} {node : Node} {t : StaticType}
    (h : Resolves env e node t) {patterns : Pattern.Engine} {s : Snapshot} (hknown : e.Known env)
    (hfails : e.Known env →
      ∀ fault, node.eval patterns s.scope = .error fault → node.FailsIn patterns s.scope fault) :
    node.Safe patterns s.scope t :=
  ⟨h.fits patterns s, hknown.type_ne_any h, hfails hknown⟩

/-- A resolved condition of known types fails as its operations do on operands of the right
kinds. -/
theorem Resolves.failsIn {env : Environment} {e : Expr} {node : Node} {t : StaticType}
    (h : Resolves env e node t) (patterns : Pattern.Engine) (s : Snapshot) (hknown : e.Known env)
    (fault : RuntimeFault)
    (herror : node.eval patterns s.scope = .error fault) : node.FailsIn patterns s.scope fault := by
  induction h generalizing fault with
  | literal | constant | part => exact absurd herror (by simp [Node.eval])
  | array items hitems ih =>
    refine Node.array_failsIn (fun n hn => ?_) herror
    obtain ⟨i, hi, rfl⟩ := List.mem_map.mp hn
    have hchild : i.1 ∈ (Expr.array (items.map (·.1))).children := List.mem_map_of_mem hi
    exact ⟨i.2.2, (hitems i hi).safe_of_fails (hknown.child hchild) (ih i hi)⟩
  | member ho hf ih =>
    have hsafe := ho.safe_of_fails (hknown.child (by simp [Expr.children])) ih
    exact hf.failsIn (hknown.type_ne_any (.member ho hf)) hsafe herror
  | indexMember ho hp ht hf iho ihp =>
    have hsafe := ho.safe_of_fails (hknown.child (by simp [Expr.children])) iho
    exact hf.failsIn (hknown.type_ne_any (.indexMember ho hp ht hf)) hsafe herror
  | index ho hp hkey hw =>
    exact absurd (indexType?_eq_any hw) (hknown.type_ne_any (.index ho hp hkey hw))
  | call hf ha hu ih =>
    have hsafe := ha.safe_of_fails (hknown.child (by simp [Expr.children])) ih
    exact Node.call_failsIn hsafe hu herror
  | unary he hu ih =>
    have hsafe := he.safe_of_fails (hknown.child (by simp [Expr.children])) ih
    exact Node.unary_failsIn hsafe hu herror
  | matching hl hr hw hp ihl =>
    have hsafe := hl.safe_of_fails (hknown.child (by simp [Expr.children])) ihl
    have htext := (Bool.and_eq_true_iff.mp (Option.ite_none_right_eq_some.mp hw).1).1
    exact Node.matching_failsIn _ hsafe htext herror
  | binary hl hr hw hpattern ihl ihr =>
    have hleft := hl.safe_of_fails (hknown.child (by simp [Expr.children])) ihl
    have hright := hr.safe_of_fails (hknown.child (by simp [Expr.children])) ihr
    exact Node.binary_failsIn hleft hright hw hpattern herror
  | choice hc ht hy hn ihc ihy ihn =>
    have htest := hc.safe_of_fails (hknown.child (by simp [Expr.children])) ihc
    have hyes := hy.safe_of_fails (hknown.child (by simp [Expr.children])) ihy
    have hno := hn.safe_of_fails (hknown.child (by simp [Expr.children])) ihn
    exact Node.choice_failsIn htest hyes hno ht herror

/-- A condition of known types has a value of its type on every message, or one of its operations
fails on operands of the right kinds. So does the program of such a condition: it never fails for
not being a truth value. -/
theorem known_types_safe (env : Environment) (e : Expr) (node : Node) (t : StaticType)
    (he : Node.ofExpr env e = .ok (node, t)) (hknown : e.Known env) (s : Snapshot) :
    (node.eval env.patterns s.scope).Ends (fun v => t = .only v.kind)
        (fun fault => node.FailsIn env.patterns s.scope fault ∧ ¬fault.IsMismatch) ∧
      (t.accepts .bool = true → ∀ source,
        ((⟨source, node, env.patterns⟩ : Program).holds s.scope).Ends (fun _ => True)
          (fun fault => node.FailsIn env.patterns s.scope fault ∧ ¬fault.IsMismatch)) := by
  have h := Node.ofExpr_resolves e he
  have hsafe : node.Safe env.patterns s.scope t := h.safe_of_fails hknown (h.failsIn env.patterns s)
  have hends : (node.eval env.patterns s.scope).Ends (fun v => t = .only v.kind)
      (fun fault => node.FailsIn env.patterns s.scope fault ∧ ¬fault.IsMismatch) := by
    cases hv : node.eval env.patterns s.scope with
    | ok v => exact .ok (hsafe.type_eq hv)
    | error fault =>
      have hfails := hsafe.fails fault hv
      exact .error ⟨hfails, hfails.not_isMismatch⟩
  refine ⟨hends, fun hbool source => ?_⟩
  unfold Program.holds Program.run
  split
  · exact .ok trivial
  · rename_i v hnot hv
    obtain ⟨b, rfl⟩ := Value.eq_bool_of_kind (hsafe.kind_eq hbool hv)
    exact absurd rfl (hnot b)
  · rename_i fault hv
    exact .error (hends.fault_of_eq hv)

/-- A condition that reads the name as an integer is of known types. On a message without a name it
fails, as there is no integer to read. -/
theorem known_types_safe_noInteger :
    let env := Environment.empty .standard
    let e := Expr.binary .greater (.call "int" [.name "name"]) (.int 0)
    let scope := (Snapshot.ofMessage .ascending .empty).scope
    ∃ node, Node.ofExpr env e = .ok (node, .only .bool) ∧ e.Known env ∧
      node.eval .standard scope = .error (.unreadableInteger "") ∧
      node.FailsIn .standard scope (.unreadableInteger "") ∧
      ¬(RuntimeFault.unreadableInteger "").IsMismatch ∧
      ((⟨"int(name) > 0", node, .standard⟩ : Program).holds scope).Ends (fun _ => True)
        (fun fault => node.FailsIn .standard scope fault ∧ ¬fault.IsMismatch) := by
  intro env e scope
  have hnode : Node.ofExpr env e =
      .ok (.binary .greater (.call .int (.variable .name)) (.constant (.int 0)),
        .only .bool) := rfl
  have hname : (Expr.name "name").Known env :=
    Expr.known_of_children (k := .text) rfl (by simp [Expr.children])
  have hcall : (Expr.call "int" [.name "name"]).Known env :=
    Expr.known_of_children (k := .int) rfl (by simpa [Expr.children] using hname)
  have hzero : (Expr.int 0).Known env :=
    Expr.known_of_children (k := .int) rfl (by simp [Expr.children])
  have hknown : e.Known env :=
    Expr.known_of_children hnode (by simpa [e, Expr.children] using ⟨hcall, hzero⟩)
  have hv : (Node.binary .greater (.call .int (.variable .name)) (.constant (.int 0))).eval
      .standard scope = .error (.unreadableInteger "") := rfl
  have h := known_types_safe _ _ _ _ hnode hknown (Snapshot.ofMessage .ascending .empty)
  obtain ⟨hfails, hblameless⟩ := h.1.fault_of_eq hv
  exact ⟨_, hnode, hknown, hv, hfails, hblameless, h.2 rfl _⟩

end Telemetry.Condition
