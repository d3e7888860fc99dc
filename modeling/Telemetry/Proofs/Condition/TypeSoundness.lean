import Telemetry.Condition.Program
import Telemetry.Condition.Snapshot
import Telemetry.Proofs.Condition.Kinds
import Telemetry.Proofs.Condition.Resolution

/-!
# Types of conditions are kept

The types of resolved conditions accept the kinds of their values, by the rules that resolve them.
So a condition that is resolved to a known type has a value of this type on every snapshot, unless
it has none, and a condition whose type is the truth values never fails for not being one.
-/

namespace Telemetry.Condition

/-! ## Parts of a message -/

namespace Snapshot

/-- A part of a message is of the type of its name. -/
theorem staticType_accepts (s : Snapshot) (v : Variable) :
    v.staticType.accepts (s.value v).kind = true := by
  cases v with
  | field key => exact StaticType.any_accepts _
  | _ => rfl

/-- A member of a message is of the type of its key. -/
theorem messageMemberType_accepts (s : Snapshot) (key : String) :
    (messageMemberType key).accepts (s.messageMember key).kind = true := by
  unfold messageMemberType
  split
  case h_11 => exact StaticType.any_accepts _
  all_goals rfl

/-- Only the maps of a message have entries. -/
theorem kind_of_entry? {s : Snapshot} {v : Variable} {key : String} {w : Value}
    (h : s.entry? v key = some w) : (s.value v).kind = .map := by
  cases v with
  | tags | metadata | fields | message => rfl
  | name | type | timestamp | field => exact absurd h (by simp [ entry?])

end Snapshot

/-! ## Nodes -/

namespace Node

/-- A node has values of a type only, and faults inside only. -/
def Fits (patterns : Pattern.Engine) (scope : Scope) (n : Node) (t : StaticType) : Prop :=
  (n.eval patterns scope).Ends (fun v => t.accepts v.kind = true) RuntimeFault.Internal

variable {patterns : Pattern.Engine} {scope : Scope}

/-- Any node whose faults are inside fits the unknown type. -/
theorem Fits.any {n : Node} {P : Value → Prop}
    (h : (n.eval patterns scope).Ends P RuntimeFault.Internal) : n.Fits patterns scope .any :=
  h.imp fun v _ => StaticType.any_accepts v.kind

/-- A constant is of its own type. -/
theorem constant_fits (v : Value) : (constant v).Fits patterns scope (.ofValue v) := by
  rw [Fits, eval]
  exact .ok (StaticType.ofValue_accepts v)

/-- Items that are of their types have values, or fail inside. -/
theorem evalAll_ends {nodes : List Node}
    (h : ∀ n ∈ nodes, ∃ t, n.Fits patterns scope t) :
    (evalAll patterns scope nodes).Ends (fun _ => True) RuntimeFault.Internal := by
  induction nodes with
  | nil => exact .ok trivial
  | cons n ns ih =>
    obtain ⟨t, hn⟩ := h n List.mem_cons_self
    rw [evalAll]
    refine hn.bind fun v _ => ?_
    refine (ih fun n hn => h n (List.mem_cons_of_mem _ hn)).bind fun vs _ => ?_
    exact .ok trivial

/-- An array is of the type of arrays. -/
theorem array_fits {nodes : List Node} (h : ∀ n ∈ nodes, ∃ t, n.Fits patterns scope t) :
    (array nodes).Fits patterns scope (.only .array) := by
  rw [Fits, eval]
  exact (evalAll_ends h).bind fun vs _ => .ok rfl

/-- A member is looked up in the value of its object, or in the map of its variable. -/
theorem member_fits {object : Node} {t u : StaticType} {key : String} {optional : Bool}
    (ho : object.Fits patterns scope t)
    (hs : ∀ v, shortcut? scope object key = some v → u.accepts v.kind = true)
    (hm : ∀ v : Value, t.accepts v.kind = true →
      (v.member key optional).Ends (fun w => u.accepts w.kind = true) RuntimeFault.Internal) :
    (member object key optional).Fits patterns scope u := by
  rw [Fits, eval]
  split
  · rename_i v hv
    exact .ok (hs v hv)
  · exact ho.bind hm

/-- An item by an index is of the type that the object and the position give it. -/
theorem index_fits {object position : Node} {t u w : StaticType} (ho : object.Fits patterns scope t)
    (hp : position.Fits patterns scope u) (hw : indexType? t u = some w) :
    (index object position).Fits patterns scope w := by
  have hany : w = .any := by
    unfold indexType? at hw
    split at hw
    · exact (Option.some.inj hw).symm
    · exact (Option.some.inj (Option.ite_none_right_eq_some.mp hw).2).symm
    · exact (Option.some.inj (Option.ite_none_right_eq_some.mp hw).2).symm
    · exact absurd hw (by simp)
  subst hany
  rw [Fits, eval]
  refine ho.bind fun v _ => hp.bind fun i _ => ?_
  exact (Value.atIndex_ends v i).imp fun a _ => StaticType.any_accepts a.kind

/-- A call is of the type that its argument gives it. -/
theorem call_fits {f : Builtin} {argument : Node} {t u : StaticType}
    (ha : argument.Fits patterns scope t) (hu : f.resultType? t = some u) :
    (call f argument).Fits patterns scope u := by
  rw [Fits, eval]
  refine ha.bind fun v hv => (Value.apply_ends f v).imp fun w hw => ?_
  rw [hw]
  exact Builtin.resultType?_accepts hu hv

/-- An operator with one operand is of the type that the operand gives it. -/
theorem unary_fits {op : UnaryOp} {operand : Node} {t u : StaticType}
    (ho : operand.Fits patterns scope t) (hu : op.resultType? t = some u) :
    (unary op operand).Fits patterns scope u := by
  rw [Fits, eval]
  refine ho.bind fun v hv => (Value.applyUnary_ends op v).imp fun w hw => ?_
  rw [hw]
  exact UnaryOp.resultType?_accepts hu hv

/-- Two operands that are both evaluated. -/
private theorem strict_ends {op : BinaryOp} {x y : Except RuntimeFault Value} {t u w : StaticType}
    (hx : x.Ends (fun v => t.accepts v.kind = true) RuntimeFault.Internal)
    (hy : y.Ends (fun v => u.accepts v.kind = true) RuntimeFault.Internal)
    (hop : op ≠ .coalesce) (hw : op.resultType? t u = some w) :
    (do let a ← x; let b ← y; Value.applyBinary patterns op a b).Ends
      (fun v : Value => w.accepts v.kind = true) RuntimeFault.Internal := by
  refine hx.bind fun a ha => hy.bind fun b hb => (Value.applyBinary_ends patterns op a b).imp ?_
  intro v hv
  rw [hv]
  exact BinaryOp.resultType?_accepts hop hw ha hb

/-- The type of `??` accepts what its right operand may be. -/
private theorem coalesce_accepts_right {t u w : StaticType} {k : Kind}
    (hw : BinaryOp.coalesce.resultType? t u = some w) (hk : u.accepts k = true) :
    w.accepts k = true := by
  obtain rfl := Option.some.inj hw
  split
  · exact hk
  split
  · rename_i htu
    rw [htu]
    exact hk
  · exact StaticType.any_accepts k

/-- The type of `??` accepts what its left operand may be other than nil. -/
private theorem coalesce_accepts_left {t u w : StaticType} {v : Value}
    (hw : BinaryOp.coalesce.resultType? t u = some w) (ht : t.accepts v.kind = true)
    (hv : v.isNil = false) : w.accepts v.kind = true := by
  obtain rfl := Option.some.inj hw
  split
  · rename_i hnil
    rw [hnil, StaticType.only_accepts] at ht
    cases v with
    | nil => exact absurd hv (by simp [Value.isNil])
    | _ => exact absurd ht (by simp [Value.kind])
  split
  · exact ht
  · exact StaticType.any_accepts v.kind

/-- What a truth value is asked of gives a truth value. -/
private theorem bool_of_connective {op : BinaryOp} {t u w : StaticType}
    (hop : op = .and ∨ op = .or ∨ op = .isIn ∨ op = .notIn) (hw : op.resultType? t u = some w) :
    w = .only .bool := by
  rcases hop with rfl | rfl | rfl | rfl <;>
    exact (Option.some.inj (Option.ite_none_right_eq_some.mp hw).2).symm

/-- An operation is of the type that its operands give it. -/
theorem binary_fits {op : BinaryOp} {left right : Node} {t u w : StaticType}
    (hl : left.Fits patterns scope t) (hr : right.Fits patterns scope u)
    (hw : op.resultType? t u = some w) : (binary op left right).Fits patterns scope w := by
  cases op with
  | and =>
    obtain rfl := bool_of_connective (by simp) hw
    rw [Fits, eval]
    refine hl.bind fun a _ => (Value.truth_ends .and a).bind fun p _ => ?_
    split
    · exact hr.bind fun b _ => (Value.truth_ends .and b).bind fun q _ => .ok rfl
    · exact .ok rfl
  | or =>
    obtain rfl := bool_of_connective (by simp) hw
    rw [Fits, eval]
    refine hl.bind fun a _ => (Value.truth_ends .or a).bind fun p _ => ?_
    split
    · exact .ok rfl
    · exact hr.bind fun b _ => (Value.truth_ends .or b).bind fun q _ => .ok rfl
  | coalesce =>
    rw [Fits, eval]
    refine hl.bind fun a ha => ?_
    split
    · exact hr.imp fun b hb => coalesce_accepts_right hw hb
    · rename_i hnil
      exact .ok (coalesce_accepts_left hw ha (Bool.eq_false_iff.mpr hnil))
  | isIn | notIn =>
    obtain rfl := bool_of_connective (by simp) hw
    rw [Fits, eval]
    refine hl.bind fun needle _ => ?_
    split
    · exact .ok rfl
    · exact hr.bind fun whole _ => (Value.isIn_ends needle whole).bind fun found _ => .ok rfl
  | _ => exact strict_ends hl hr (by simp) hw

/-- A match with a constant pattern is of the type of truth values. -/
theorem matching_fits {subject : Node} {t : StaticType} (occursIn : String → Bool)
    (hs : subject.Fits patterns scope t) :
    (matching subject occursIn).Fits patterns scope (.only .bool) := by
  rw [Fits, eval]
  refine hs.bind fun v _ => ?_
  split
  · exact .ok rfl
  · exact .error trivial

/-- The type of a choice accepts what either of its branches may be. -/
private theorem choice_accepts {t u : StaticType} {k : Kind}
    (h : t.accepts k = true ∨ u.accepts k = true) :
    (if t = u then t else .any).accepts k = true := by
  by_cases htu : t = u
  · rw [if_pos htu]
    exact h.elim id fun hu => htu ▸ hu
  · rw [if_neg htu]
    exact StaticType.any_accepts k

/-- A choice is of the type of its branches, if both have the same. -/
theorem choice_fits {test yes no : Node} {t u w : StaticType} (ht : test.Fits patterns scope t)
    (hy : yes.Fits patterns scope u) (hn : no.Fits patterns scope w) :
    (choice test yes no).Fits patterns scope (if u = w then u else .any) := by
  have hyes := hy.imp fun a ha => choice_accepts (u := w) (.inl ha)
  have hno := hn.imp fun a ha => choice_accepts (t := u) (.inr ha)
  generalize (if u = w then u else StaticType.any) = joined at hyes hno ⊢
  rw [Fits, eval]
  refine ht.bind fun v _ => ?_
  split
  · exact hyes
  · exact hno
  · exact .error trivial

/-- An object whose entries the snapshot has at hand is a map. -/
theorem Fits.map_of_shortcut? {s : Snapshot} {object : Node} {t : StaticType} {key : String}
    {v : Value} (ho : object.Fits patterns s.scope t) (hv : shortcut? s.scope object key = some v) :
    t.accepts .map = true := by
  cases object with
  | «variable» x =>
    have hmap : (s.value x).kind = .map := Snapshot.kind_of_entry? hv
    rw [Fits, eval] at ho
    exact hmap ▸ ho.result_of_eq rfl
  | _ => exact absurd hv (by simp [shortcut?, asVariable?])

end Node

/-- A member that is found fits its type on every snapshot. -/
theorem Fetches.fits {object node : Node} {t u : StaticType} {key : String} {optional : Bool}
    (h : Fetches object t key optional node u) {patterns : Pattern.Engine} (s : Snapshot)
    (ho : object.Fits patterns s.scope t) : node.Fits patterns s.scope u := by
  cases h with
  | folded => exact Node.constant_fits _
  | ofMessage =>
    have hfound : Node.shortcut? s.scope (.variable .message) key =
        some (s.messageMember key) := rfl
    rw [Node.Fits, Node.eval, hfound]
    exact .ok (s.messageMemberType_accepts key)
  | general =>
    refine Node.member_fits ho (fun v _ => StaticType.any_accepts v.kind) fun v _ => ?_
    exact (Value.member_ends v key optional).imp fun w _ => StaticType.any_accepts w.kind
  | ofNil =>
    refine Node.member_fits ho (fun v hv => ?_) fun v hv => ?_
    · exact absurd (ho.map_of_shortcut? hv) (by simp)
    · rw [StaticType.only_accepts] at hv
      exact (Value.member_ends v key true).imp fun w hw =>
        StaticType.only_accepts.mpr (hw hv)

/-- A resolved condition fits its type on every snapshot. -/
theorem Resolves.fits {env : Environment} {e : Expr} {node : Node} {t : StaticType}
    (h : Resolves env e node t) (patterns : Pattern.Engine) (s : Snapshot) :
    node.Fits patterns s.scope t := by
  induction h with
  | literal => exact Node.constant_fits _
  | array items _ ih =>
    refine Node.array_fits fun n hn => ?_
    obtain ⟨i, hi, rfl⟩ := List.mem_map.mp hn
    exact ⟨i.2.2, ih i hi⟩
  | part =>
    rw [Node.Fits, Node.eval]
    exact .ok (s.staticType_accepts _)
  | constant => exact Node.constant_fits _
  | member _ hf ih => exact hf.fits s ih
  | indexMember _ _ _ hf ih _ => exact hf.fits s ih
  | index _ _ _ hw iho ihp => exact Node.index_fits iho ihp hw
  | call _ _ hu ih => exact Node.call_fits ih hu
  | unary _ hu ih => exact Node.unary_fits ih hu
  | matching _ _ _ _ ihl _ => exact Node.matching_fits _ ihl
  | binary _ _ hw _ ihl ihr => exact Node.binary_fits ihl ihr hw
  | choice _ _ _ _ ihc ihy ihn => exact Node.choice_fits ihc ihy ihn

/-! ## Programs -/

/-- The type of a condition as a whole, if it is one. -/
def Program.rootType? (env : Environment) (source : String) : Option StaticType :=
  if matchesAll source then some (.only .bool)
  else
    match parse source with
    | .error _ => none
    | .ok e =>
      match Node.ofExpr env e with
      | .error _ => none
      | .ok (_, t) => some t

/-- The root of a program is always true, or the node of its condition. -/
theorem Program.compileNode_cases {env : Environment} {source : String} {root : Node}
    (h : compileNode env source = .ok root) :
    (matchesAll source = true ∧ root = .constant (.bool true)) ∨
      (matchesAll source = false ∧ ∃ e t, parse source = .ok e ∧
        Node.ofExpr env e = .ok (root, t) ∧ t.accepts .bool = true) := by
  unfold compileNode at h
  split at h
  · rename_i hall
    exact .inl ⟨hall, (Except.ok.inj h).symm⟩
  · rename_i hall
    split at h
    · exact absurd h (by simp)
    · rename_i e he
      split at h
      · exact absurd h (by simp)
      · rename_i node hnode
        obtain rfl := Except.ok.inj h
        obtain ⟨⟨n, t⟩, hn, hbool⟩ := Except.bind_eq_ok_iff.mp hnode
        dsimp only at hbool
        split at hbool
        · rename_i ht
          obtain rfl := Except.ok.inj hbool
          exact .inr ⟨Bool.eq_false_iff.mpr hall, e, t, he, hn, ht⟩
        · exact absurd hbool (by simp)

/-- The root of a program fits the type of its condition on every snapshot. -/
theorem Program.root_fits {env : Environment} {source : String} {p : Program} {t : StaticType}
    (hp : compile env source = .ok p) (ht : rootType? env source = some t) (s : Snapshot) :
    p.root.Fits p.patterns s.scope t := by
  obtain ⟨root, hroot, rfl⟩ := Except.map_eq_ok_iff.mp hp
  rcases compileNode_cases hroot with ⟨hall, rfl⟩ | ⟨hall, e, u, he, hn, -⟩
  · simp only [rootType?, hall, if_true, Option.some.injEq] at ht
    subst ht
    exact Node.constant_fits _
  · simp only [rootType?, hall, he, hn, Bool.false_eq_true, if_false, Option.some.injEq] at ht
    subst ht
    exact (Node.ofExpr_resolves e hn).fits env.patterns s

/-- What a condition of a known type evaluates to is of this type, on every snapshot and with any
constants. A condition that is known to be a truth value never fails for being none. -/
theorem types_preserved (env : Environment) (s : Snapshot) :
    (∀ e node k v, Node.ofExpr env e = .ok (node, .only k) →
      node.eval env.patterns s.scope = .ok v → v.kind = k) ∧
    ∀ source p k, Program.compile env source = .ok p →
      Program.rootType? env source = some (.only .bool) →
      p.holds s.scope ≠ .error (.result k) := by
  constructor
  · intro e node k v he hv
    have hfits := (Node.ofExpr_resolves e he).fits env.patterns s
    exact StaticType.only_accepts.mp (hfits.result_of_eq hv)
  · intro source p k hp ht h
    have hfits := Program.root_fits hp ht s
    unfold Program.holds Program.run at h
    split at h
    · exact absurd h (by simp)
    · rename_i v hnot hv
      have hbool : v.kind = .bool := StaticType.only_accepts.mp (hfits.result_of_eq hv)
      cases v with
      | bool b => exact hnot b rfl
      | _ => exact absurd hbool (by simp [Value.kind])
    · rename_i fault hv
      have hinside := hfits.fault_of_eq hv
      rw [Except.error.inj h] at hinside
      exact hinside

/-- A condition that compares the length of the name is a truth value on the empty message. -/
theorem types_preserved_length :
    ∃ node p v,
      Node.ofExpr (.empty .standard) (.binary .greater (.call "len" [.name "name"]) (.int 0)) =
        .ok (node, .only .bool) ∧
      node.eval .standard (Snapshot.ofMessage .ascending .empty).scope = .ok v ∧ v.kind = .bool ∧
      Program.compile (.empty .standard) "len(name) > 0" = .ok p ∧
      Program.rootType? (.empty .standard) "len(name) > 0" = some (.only .bool) ∧
      p.holds (Snapshot.ofMessage .ascending .empty).scope ≠ .error (.result .nil) := by
  have hnode : Node.ofExpr (.empty .standard)
      (.binary .greater (.call "len" [.name "name"]) (.int 0)) =
      .ok (.binary .greater (.call .len (.variable .name)) (.constant (.int 0)),
        .only .bool) := rfl
  have hchars : "len(name) > 0".toList =
      ['l', 'e', 'n', '(', 'n', 'a', 'm', 'e', ')', ' ', '>', ' ', '0'] := by simp
  have hparse : parse "len(name) > 0" =
      .ok (.binary .greater (.call "len" [.name "name"]) (.int 0)) := by
    rw [parse, tokenize, hchars]
    rfl
  have hall : Program.matchesAll "len(name) > 0" = false := rfl
  have hv : (Node.binary .greater (.call .len (.variable .name)) (.constant (.int 0))).eval
      .standard (Snapshot.ofMessage .ascending .empty).scope = .ok (.bool false) := rfl
  have hp : Program.compile (.empty .standard) "len(name) > 0" = .ok ⟨"len(name) > 0",
      .binary .greater (.call .len (.variable .name)) (.constant (.int 0)), .standard⟩ := by
    simp [Program.compile, Program.compileNode, hall, hparse, Node.ofCondition, hnode, bind,
      Except.bind, Except.map, StaticType.accepts]
  have ht : Program.rootType? (.empty .standard) "len(name) > 0" = some (.only .bool) := by
    simp [Program.rootType?, hall, hparse, hnode]
  have h := types_preserved (.empty .standard) (Snapshot.ofMessage .ascending .empty)
  exact ⟨_, _, _, hnode, hv, h.1 _ _ _ _ hnode hv, hp, ht, h.2 _ _ _ hp ht⟩

end Telemetry.Condition
