import Telemetry.Condition.Evaluation
import Telemetry.Proofs.Condition.Resolution

/-!
# Conditions evaluated without being resolved

`Expr.value?` evaluates a syntax tree as it stands: names are looked up when they are reached,
members and indices in the value of the whole object, and patterns are read when they are reached.
A condition that can be resolved has this value, or has none as well, in every scope whose shortcuts
agree with the whole parts.
-/

namespace Telemetry.Condition

/-! ## The reference -/

/-- The result of an operator on a left operand, and on a right one as far as it is asked for. -/
def BinaryOp.resultOn? (patterns : Pattern.Engine) (op : BinaryOp) (a : Value)
    (right : Option Value) : Option Value :=
  match op with
  | .and => do
    if ← (a.truth .and).toOption then
      let b ← right
      return .bool (← (b.truth .and).toOption)
    else return .bool false
  | .or => do
    if ← (a.truth .or).toOption then return .bool true
    else
      let b ← right
      return .bool (← (b.truth .or).toOption)
  | .coalesce => if a.isNil then right else some a
  | .isIn => do
    let whole ← right
    return .bool (← (a.isIn whole).toOption)
  | .notIn => do
    let whole ← right
    return .bool !(← (a.isIn whole).toOption)
  | op => do
    let b ← right
    (a.applyBinary patterns op b).toOption

namespace Expr

/-- What a name stands for in a scope. -/
def nameValue? (env : Environment) (scope : Scope) (s : String) : Option Value :=
  match env.resolve s with
  | some (.variable v) => some (scope.value v)
  | some (.constant c) => some c
  | none => none

mutual

/-- The value of a condition, or of a part of one. -/
def value? (env : Environment) (scope : Scope) : Expr → Option Value
  | .nil => some .nil
  | .bool b => some (.bool b)
  | .int n => some (.int n)
  | .float x => some (.float x)
  | .text s => some (.text s)
  | .array items => do
    let values ← values? env scope items
    some (.array values)
  | .name s => nameValue? env scope s
  | .member object key optional => do
    let v ← value? env scope object
    (v.member key optional).toOption
  | .index object position => do
    let v ← value? env scope object
    let i ← value? env scope position
    (v.atIndex i).toOption
  | .call function [argument] => do
    let f ← Builtin.ofName? function
    let v ← value? env scope argument
    (v.apply f).toOption
  | .call _ _ => none
  | .unary op operand => do
    let v ← value? env scope operand
    (v.applyUnary op).toOption
  | .binary op left right => do
    let a ← value? env scope left
    op.resultOn? env.patterns a (value? env scope right)
  | .choice test yes no => do
    let t ← value? env scope test
    match t with
    | .bool true => value? env scope yes
    | .bool false => value? env scope no
    | _ => none

/-- The values of the items of an array. -/
def values? (env : Environment) (scope : Scope) : List Expr → Option (List Value)
  | [] => some []
  | e :: es => do
    let v ← value? env scope e
    let vs ← values? env scope es
    some (v :: vs)

end

end Expr

/-- Both shortcuts of a scope agree with the whole parts, which are maps where there is one. -/
structure Scope.Coherent (scope : Scope) : Prop where
  entry : ∀ v key x, scope.entry? v key = some x →
    ∃ entries, scope.value v = .map entries ∧ x = (entries.lookup key).getD .nil
  hasEntry : ∀ v key b, scope.hasEntry? v key = some b →
    ∃ entries, scope.value v = .map entries ∧ b = (entries.lookup key).isSome

/-- The scope that gives every part as a map, with a shortcut to each of its entries. -/
def Scope.ofMaps (maps : Variable → List (String × Value)) : Scope where
  value v := .map (maps v)
  entry? v key := some (((maps v).lookup key).getD .nil)
  hasEntry? v key := some ((maps v).lookup key).isSome

/-- A scope that looks its maps up answers by its shortcuts as by the whole maps. -/
theorem Scope.ofMaps_coherent (maps : Variable → List (String × Value)) :
    (ofMaps maps).Coherent where
  entry v _ _ h := ⟨maps v, rfl, (Option.some.inj h).symm⟩
  hasEntry v _ _ h := ⟨maps v, rfl, (Option.some.inj h).symm⟩

/-! ## Shortcuts -/

/-- A text as index finds what a member of this name finds. -/
theorem Value.atIndex_text (v : Value) (key : String) :
    (v.atIndex (.text key)).toOption = (v.member key false).toOption := by
  cases v <;> rfl

namespace Node

variable {patterns : Pattern.Engine} {scope : Scope}

/-- A member is the member of the whole object, with a shortcut or without. -/
theorem eval_member (hc : scope.Coherent) (object : Node) (key : String) (optional : Bool) :
    ((member object key optional).eval patterns scope).toOption =
      (object.eval patterns scope).toOption.bind fun v => (v.member key optional).toOption := by
  rw [eval]
  split
  · rename_i x hx
    obtain ⟨v, hv, hentry⟩ := Option.bind_eq_some_iff.mp hx
    obtain ⟨entries, hmap, rfl⟩ := hc.entry v key x hentry
    have hobject : object = .variable v := by
      cases object with
      | «variable» w => exact congrArg Node.variable (Option.some.inj hv)
      | _ => exact absurd hv (by simp [asVariable?])
    rw [hobject, eval, hmap]
    rfl
  · exact Except.toOption_bind _ _

/-- What a shortcut says of a key is so in the whole map. -/
theorem isIn_of_membership? (patterns : Pattern.Engine) (hc : scope.Coherent) {whole : Node}
    {needle : Value} {found : Bool} (h : membership? scope whole needle = some found) :
    ∃ v, whole.eval patterns scope = .ok v ∧ needle.isIn v = .ok found := by
  unfold membership? at h
  split at h
  · rename_i v key
    obtain ⟨entries, hmap, rfl⟩ := hc.hasEntry v key found h
    refine ⟨.map entries, ?_, rfl⟩
    rw [eval, hmap]
  · exact absurd h (by simp)

/-- The right operand of `and` or `or`, where it is asked for. -/
private theorem toOption_truth (op : BinaryOp) (y : Except RuntimeFault Value) :
    (do let b ← y; return Value.bool (← b.truth op)).toOption =
      (do let b ← y.toOption; return Value.bool (← (b.truth op).toOption)) := by
  cases y with
  | error => rfl
  | ok b =>
    cases hb : b.truth op with
    | error => simp [bind, Except.bind, Except.toOption, hb]
    | ok q => simp [bind, Except.bind, Except.toOption, hb, pure, Except.pure]

/-- The search for a key or an item, through a shortcut or in the whole part. -/
private theorem toOption_isIn (hc : scope.Coherent) (whole : Node) (needle : Value)
    (result : Bool → Value) :
    (match membership? scope whole needle with
      | some found => (return result found : Except RuntimeFault Value)
      | none => do
        let v ← whole.eval patterns scope
        return result (← needle.isIn v)).toOption =
      (do
        let v ← (whole.eval patterns scope).toOption
        return result (← (needle.isIn v).toOption)) := by
  split
  · rename_i found hfound
    obtain ⟨v, hv, hin⟩ := isIn_of_membership? patterns hc hfound
    simp [hv, hin, Except.toOption, pure, Except.pure]
  · cases hv : whole.eval patterns scope with
    | error => rfl
    | ok v =>
      cases hin : needle.isIn v with
      | error => simp [bind, Except.bind, Except.toOption, hin]
      | ok found => simp [bind, Except.bind, Except.toOption, hin, pure, Except.pure]

/-- An operation has the result of its operator on the operands. -/
theorem eval_binary (hc : scope.Coherent) (op : BinaryOp) (left right : Node) :
    ((binary op left right).eval patterns scope).toOption =
      (left.eval patterns scope).toOption.bind fun a =>
        op.resultOn? patterns a (right.eval patterns scope).toOption := by
  cases op with
  | and =>
    rw [eval, Except.toOption_bind]
    refine congrArg _ (funext fun a => ?_)
    cases a with
    | bool p =>
      cases p with
      | false => rfl
      | true => exact toOption_truth .and _
    | _ => rfl
  | or =>
    rw [eval, Except.toOption_bind]
    refine congrArg _ (funext fun a => ?_)
    cases a with
    | bool p =>
      cases p with
      | false => exact toOption_truth .or _
      | true => rfl
    | _ => rfl
  | coalesce =>
    rw [eval, Except.toOption_bind]
    refine congrArg _ (funext fun a => ?_)
    rw [BinaryOp.resultOn?]
    split <;> rfl
  | isIn =>
    rw [eval, Except.toOption_bind]
    exact congrArg _ (funext fun needle => toOption_isIn hc right needle .bool)
  | notIn =>
    rw [eval, Except.toOption_bind]
    exact congrArg _ (funext fun needle => toOption_isIn hc right needle fun found => .bool !found)
  | _ =>
    simp only [eval, Except.toOption_bind]
    rfl

end Node

/-- A member that is found is the member of the value of its object. -/
theorem Fetches.eval_eq_member {object node : Node} {t u : StaticType} {key : String}
    {optional : Bool} (h : Fetches object t key optional node u) {patterns : Pattern.Engine}
    {scope : Scope} (hc : scope.Coherent) :
    (node.eval patterns scope).toOption =
      (object.eval patterns scope).toOption.bind fun v => (v.member key optional).toOption := by
  cases h with
  | folded => simp only [Node.eval]; rfl
  | ofMessage => exact Node.eval_member hc _ key optional
  | general => exact Node.eval_member hc object key optional
  | ofNil => exact Node.eval_member hc object key true

/-- The items of an array have the values of their nodes. -/
private theorem evalAll_eq_values? {env : Environment} {scope : Scope}
    (items : List (Expr × Node × StaticType))
    (h : ∀ i ∈ items, (i.2.1.eval env.patterns scope).toOption = i.1.value? env scope) :
    (Node.evalAll env.patterns scope (items.map (·.2.1))).toOption =
      Expr.values? env scope (items.map (·.1)) := by
  induction items with
  | nil => rfl
  | cons i rest ih =>
    have hi := h i List.mem_cons_self
    have hrest := ih fun j hj => h j (List.mem_cons_of_mem _ hj)
    simp only [List.map_cons, Node.evalAll, Expr.values?, Except.toOption_bind, hi, hrest]
    rfl

/-- A resolved condition has the value of its syntax tree, or neither has one. -/
theorem Resolves.eval_eq_value? {env : Environment} {e : Expr} {node : Node} {t : StaticType}
    (h : Resolves env e node t) {scope : Scope} (hc : scope.Coherent) :
    (node.eval env.patterns scope).toOption = e.value? env scope := by
  induction h with
  | @literal e v hv =>
    rw [Node.eval]
    cases e with
    | nil | bool | int | float | text => exact hv.symm
    | _ => exact absurd hv (by simp [Expr.literal?])
  | array items _ ih =>
    simp only [Node.eval, Expr.value?, Except.toOption_bind, evalAll_eq_values? items ih]
    rfl
  | part hs =>
    simp only [Node.eval, Expr.value?, Expr.nameValue?, hs]
    rfl
  | constant hs =>
    simp only [Node.eval, Expr.value?, Expr.nameValue?, hs]
    rfl
  | member _ hf ih =>
    rw [hf.eval_eq_member hc, ih, Expr.value?]
    rfl
  | @indexMember o p object node t u w key _ _ _ hf ih ihp =>
    have hp : p.value? env scope = some (.text key) := by
      rw [← ihp, Node.eval]
      rfl
    simp only [hf.eval_eq_member hc, ih, Expr.value?, hp]
    exact congrArg _ (funext fun v => (v.atIndex_text key).symm)
  | index _ _ _ _ iho ihp =>
    simp only [Node.eval, Expr.value?, Except.toOption_bind, iho, ihp]
    rfl
  | call hf _ _ ih =>
    simp only [Node.eval, Expr.value?, Except.toOption_bind, hf, ih]
    rfl
  | unary _ _ ih =>
    simp only [Node.eval, Expr.value?, Except.toOption_bind, ih]
    rfl
  | @matching l r left t u source occursIn _ _ _ htest ihl ihr =>
    have hr : r.value? env scope = some (.text source) := by
      rw [← ihr, Node.eval]
      rfl
    simp only [Node.eval, Expr.value?, Except.toOption_bind, ihl, hr]
    refine congrArg _ (funext fun v => ?_)
    cases v with
    | text s => simp [BinaryOp.resultOn?, Value.applyBinary, Value.matchesText, htest]
    | _ => rfl
  | binary _ _ _ _ ihl ihr =>
    rw [Node.eval_binary hc, ihl, ihr, Expr.value?]
    rfl
  | choice _ _ _ _ ihc ihy ihn =>
    simp only [Node.eval, Expr.value?, Except.toOption_bind, ihc]
    refine congrArg _ (funext fun v => ?_)
    cases v with
    | bool b =>
      cases b with
      | true => exact ihy
      | false => exact ihn
    | _ => rfl

/-- Resolving a condition keeps its meaning: its node and its syntax tree have the same value, or
both have none. -/
theorem resolution_preserves_value (env : Environment) (scope : Scope) (e : Expr) (node : Node)
    (t : StaticType) (he : Node.ofExpr env e = .ok (node, t)) (hc : scope.Coherent) :
    (node.eval env.patterns scope).toOption = e.value? env scope :=
  (Node.ofExpr_resolves e he).eval_eq_value? hc

/-- Keys of a map variable that are looked up through its shortcuts, and a pattern that is read in
advance. -/
theorem resolution_preserves_value_shortcuts :
    ∃ node t,
      Node.ofExpr (.empty .standard) (.binary .and (.binary .isIn (.text "site") (.name "tags"))
        (.binary .matchesPattern (.index (.name "tags") (.text "site")) (.text "a"))) =
        .ok (node, t) ∧
      (Scope.ofMaps fun _ => [("site", .text "lab")]).Coherent ∧
      (node.eval .standard (Scope.ofMaps fun _ => [("site", .text "lab")])).toOption =
        (Expr.binary .and (.binary .isIn (.text "site") (.name "tags"))
          (.binary .matchesPattern (.index (.name "tags") (.text "site")) (.text "a"))).value?
          (.empty .standard) (Scope.ofMaps fun _ => [("site", .text "lab")]) := by
  have hnode : Node.ofExpr (.empty .standard)
      (.binary .and (.binary .isIn (.text "site") (.name "tags"))
        (.binary .matchesPattern (.index (.name "tags") (.text "site")) (.text "a"))) =
      .ok (.binary .and (.binary .isIn (.constant (.text "site")) (.variable .tags))
        (.matching (.member (.variable .tags) "site" false)
          (Pattern.chars (.ranges [(97, 97)])).occursIn), .only .bool) := rfl
  have hc := Scope.ofMaps_coherent fun _ => [("site", .text "lab")]
  exact ⟨_, _, hnode, hc, resolution_preserves_value _ _ _ _ _ hnode hc⟩

end Telemetry.Condition
