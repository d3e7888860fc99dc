import Telemetry.Proofs.Condition.Kinds

/-!
# Resolution as a relation

`Resolves env e n t` says by which rule a condition becomes a node of a type, one rule for each
shape that the node can take: members of constant maps are folded, members of the message have types
of their own, a constant text as index is a member, and a constant pattern is read in advance. What
holds of all resolved conditions is proved by induction over these rules.
-/

namespace Telemetry.Condition

/-- The value that a literal stands for. -/
def Expr.literal? : Expr → Option Value
  | .nil => some .nil
  | .bool b => some (.bool b)
  | .int n => some (.int n)
  | .float x => some (.float x)
  | .text s => some (.text s)
  | _ => none

/-- How a member of an object becomes a node of a type. -/
inductive Fetches : Node → StaticType → String → Bool → Node → StaticType → Prop where
  /-- A member of a constant map is a constant. -/
  | folded (entries : List (String × Value)) (t : StaticType) (key : String) (optional : Bool) :
      Fetches (.constant (.map entries)) t key optional
        (.constant ((entries.lookup key).getD .nil)) (.ofValue ((entries.lookup key).getD .nil))
  | ofMessage (key : String) (optional : Bool) :
      Fetches (.variable .message) (.only .map) key optional
        (.member (.variable .message) key optional) (messageMemberType key)
  | general (object : Node) (t : StaticType) (key : String) (optional : Bool)
      (ht : t.accepts .map = true) (hmap : ∀ entries, object ≠ .constant (.map entries))
      (hmessage : object = .variable .message → t = .any) :
      Fetches object t key optional (.member object key optional) .any
  | ofNil (object : Node) (key : String) (hmap : ∀ entries, object ≠ .constant (.map entries)) :
      Fetches object (.only .nil) key true (.member object key true) (.only .nil)

/-- How a condition becomes a node of a type. -/
inductive Resolves (env : Environment) : Expr → Node → StaticType → Prop where
  | literal {e : Expr} {v : Value} (hv : e.literal? = some v) :
      Resolves env e (.constant v) (.ofValue v)
  | array (items : List (Expr × Node × StaticType))
      (h : ∀ i ∈ items, Resolves env i.1 i.2.1 i.2.2) :
      Resolves env (.array (items.map (·.1))) (.array (items.map (·.2.1))) (.only .array)
  | part {s : String} {v : Variable} (hs : env.resolve s = some (.variable v)) :
      Resolves env (.name s) (.variable v) v.staticType
  | constant {s : String} {c : Value} (hs : env.resolve s = some (.constant c)) :
      Resolves env (.name s) (.constant c) (.ofValue c)
  | member {o : Expr} {object node : Node} {t u : StaticType} {key : String} {optional : Bool}
      (ho : Resolves env o object t) (hf : Fetches object t key optional node u) :
      Resolves env (.member o key optional) node u
  /-- A constant text as index is a member. -/
  | indexMember {o p : Expr} {object node : Node} {t u w : StaticType} {key : String}
      (ho : Resolves env o object t) (hp : Resolves env p (.constant (.text key)) u)
      (ht : t.accepts .map = true ∨ t = .only .nil) (hf : Fetches object t key false node w) :
      Resolves env (.index o p) node w
  | index {o p : Expr} {object position : Node} {t u w : StaticType}
      (ho : Resolves env o object t) (hp : Resolves env p position u)
      (hkey : ∀ key, position = .constant (.text key) → t.accepts .map = false ∧ t ≠ .only .nil)
      (hw : indexType? t u = some w) :
      Resolves env (.index o p) (.index object position) w
  | call {function : String} {f : Builtin} {a : Expr} {argument : Node} {t u : StaticType}
      (hf : Builtin.ofName? function = some f) (ha : Resolves env a argument t)
      (hu : f.resultType? t = some u) :
      Resolves env (.call function [a]) (.call f argument) u
  | unary {op : UnaryOp} {e : Expr} {operand : Node} {t u : StaticType}
      (he : Resolves env e operand t) (hu : op.resultType? t = some u) :
      Resolves env (.unary op e) (.unary op operand) u
  /-- A constant pattern is read in advance. -/
  | matching {l r : Expr} {left : Node} {t u : StaticType} {source : String}
      {occursIn : String → Bool}
      (hl : Resolves env l left t) (hr : Resolves env r (.constant (.text source)) u)
      (hw : BinaryOp.matchesPattern.resultType? t u = some (.only .bool))
      (htest : env.patterns.test? source = some occursIn) :
      Resolves env (.binary .matchesPattern l r) (.matching left occursIn) (.only .bool)
  | binary {op : BinaryOp} {l r : Expr} {left right : Node} {t u w : StaticType}
      (hl : Resolves env l left t) (hr : Resolves env r right u)
      (hw : op.resultType? t u = some w)
      (hpattern : op = .matchesPattern → ∀ source, right ≠ .constant (.text source)) :
      Resolves env (.binary op l r) (.binary op left right) w
  | choice {c y n : Expr} {test yes no : Node} {t u w : StaticType}
      (hc : Resolves env c test t) (ht : t.accepts .bool = true) (hy : Resolves env y yes u)
      (hn : Resolves env n no w) :
      Resolves env (.choice c y n) (.choice test yes no) (if u = w then u else .any)

namespace Node

/-- Every member that is found is found by one of the rules. -/
theorem ofMember_fetches {object node : Node} {t u : StaticType} {key : String} {optional : Bool}
    (h : ofMember object t key optional = .ok (node, u)) :
    Fetches object t key optional node u := by
  unfold ofMember at h
  split at h
  · obtain ⟨rfl, rfl⟩ := Prod.mk.inj (Except.ok.inj h)
    exact .folded _ t key optional
  · obtain ⟨rfl, rfl⟩ := Prod.mk.inj (Except.ok.inj h)
    exact .ofMessage key optional
  · rename_i hmap
    obtain ⟨rfl, rfl⟩ := Prod.mk.inj (Except.ok.inj h)
    exact .general object .any key optional rfl hmap fun _ => rfl
  · rename_i hmap hmessage
    obtain ⟨rfl, rfl⟩ := Prod.mk.inj (Except.ok.inj h)
    exact .general object _ key optional rfl hmap fun ho => (hmessage ho).elim
  · rename_i hmap
    split at h
    · rename_i ho
      obtain ⟨rfl, rfl⟩ := Prod.mk.inj (Except.ok.inj h)
      subst ho
      exact .ofNil object key hmap
    · exact absurd h (by simp)
  · exact absurd h (by simp)

/-- What is found by one of the rules is the member. -/
theorem ofMember_of_fetches {object node : Node} {t u : StaticType} {key : String}
    {optional : Bool} (h : Fetches object t key optional node u) :
    ofMember object t key optional = .ok (node, u) := by
  cases h with
  | folded | ofMessage => rfl
  | general _ _ _ _ ht hmap hmessage =>
    unfold ofMember
    split
    · exact absurd rfl (hmap _)
    · exact absurd (hmessage rfl) (by simp)
    · rfl
    · rfl
    · exact absurd ht (by simp)
    · rename_i hany hmap _ _
      exact (StaticType.accepts_iff.mp ht).elim (fun h => (hany h).elim) fun h => (hmap h).elim
  | ofNil _ _ hmap =>
    unfold ofMember
    split
    · exact absurd rfl (hmap _)
    all_goals simp_all

/-- An index is a member or an index proper. -/
theorem ofIndex_resolves {env : Environment} {o p : Expr} {object position node : Node}
    {t u w : StaticType} (ho : Resolves env o object t) (hp : Resolves env p position u)
    (h : ofIndex object t position u = .ok (node, w)) :
    Resolves env (.index o p) node w := by
  unfold ofIndex at h
  extract_lets general at h
  have hgeneral : (∀ key, position = constant (.text key) →
      t.accepts .map = false ∧ t ≠ .only .nil) →
      general = .ok (node, w) → Resolves env (.index o p) node w := by
    intro hkey hg
    simp only [general] at hg
    split at hg
    · rename_i hw
      obtain ⟨rfl, rfl⟩ := Prod.mk.inj (Except.ok.inj hg)
      exact .index ho hp hkey hw
    · exact absurd hg (by simp)
  split at h
  · split at h
    · rename_i ht
      rw [Bool.or_eq_true, decide_eq_true_eq] at ht
      exact .indexMember ho hp ht (ofMember_fetches h)
    · rename_i ht
      rw [Bool.or_eq_true, decide_eq_true_eq, not_or, Bool.not_eq_true] at ht
      exact hgeneral (fun _ _ => ht) h
  · rename_i hno
    exact hgeneral (fun key hk => absurd hk (hno key)) h

/-- An operation is a search for a pattern read in advance, or an operation proper. -/
theorem ofBinary_resolves {env : Environment} {op : BinaryOp} {l r : Expr}
    {left right node : Node} {t u w : StaticType} (hl : Resolves env l left t)
    (hr : Resolves env r right u) (h : ofBinary env.patterns op left t right u = .ok (node, w)) :
    Resolves env (.binary op l r) node w := by
  unfold ofBinary at h
  split at h
  · exact absurd h (by simp)
  · rename_i type htype
    split at h
    · split at h
      · rename_i occursIn htest
        obtain ⟨rfl, rfl⟩ := Prod.mk.inj (Except.ok.inj h)
        have hbool : type = .only .bool := by
          simp only [BinaryOp.resultType?] at htype
          split at htype
          · exact (Option.some.inj htype).symm
          · exact absurd htype (by simp)
        subst hbool
        exact .matching hl hr htype htest
      · exact absurd h (by simp)
    · rename_i hno
      obtain ⟨rfl, rfl⟩ := Prod.mk.inj (Except.ok.inj h)
      exact .binary hl hr htype fun hop source hsource => hno source hop hsource

/-- A name is a part of the message or a constant. -/
theorem ofName_resolves {env : Environment} {s : String} {node : Node} {t : StaticType}
    (h : ofName env s = .ok (node, t)) : Resolves env (.name s) node t := by
  unfold ofName at h
  split at h
  · rename_i v hv
    obtain ⟨rfl, rfl⟩ := Prod.mk.inj (Except.ok.inj h)
    exact .part hv
  · rename_i c hc
    obtain ⟨rfl, rfl⟩ := Prod.mk.inj (Except.ok.inj h)
    exact .constant hc
  · exact absurd h (by simp)

/-- The nodes of a list are the nodes of its items. -/
theorem ofExprs_resolves {env : Environment} {es : List Expr} {nodes : List Node}
    (hes : ∀ e ∈ es, ∀ n t, ofExpr env e = .ok (n, t) → Resolves env e n t)
    (h : ofExprs env es = .ok nodes) :
    ∃ items : List (Expr × Node × StaticType), items.map (·.1) = es ∧
      items.map (·.2.1) = nodes ∧ ∀ i ∈ items, Resolves env i.1 i.2.1 i.2.2 := by
  induction es generalizing nodes with
  | nil =>
    obtain rfl := Except.ok.inj h
    exact ⟨[], rfl, rfl, by simp⟩
  | cons e es ih =>
    rw [ofExprs] at h
    obtain ⟨⟨n, t⟩, hn, h⟩ := Except.bind_eq_ok_iff.mp h
    obtain ⟨ns, hns, h⟩ := Except.bind_eq_ok_iff.mp h
    obtain rfl := Except.ok.inj h
    obtain ⟨items, rfl, rfl, hitems⟩ :=
      ih (fun e he => hes e (List.mem_cons_of_mem _ he)) hns
    refine ⟨(e, n, t) :: items, rfl, rfl, ?_⟩
    intro i hi
    rcases List.mem_cons.mp hi with rfl | hi
    · exact hes e List.mem_cons_self n t hn
    · exact hitems i hi

/-- Every condition that is resolved is resolved by the rules. -/
theorem ofExpr_resolves {env : Environment} (e : Expr) {node : Node} {t : StaticType}
    (h : ofExpr env e = .ok (node, t)) : Resolves env e node t := by
  induction e generalizing node t with
  | nil | bool | int | float | text =>
    rw [ofExpr] at h
    obtain ⟨rfl, rfl⟩ := Prod.mk.inj (Except.ok.inj h)
    exact .literal rfl
  | array items ih =>
    rw [ofExpr] at h
    obtain ⟨nodes, hnodes, h⟩ := Except.bind_eq_ok_iff.mp h
    obtain ⟨rfl, rfl⟩ := Prod.mk.inj (Except.ok.inj h)
    obtain ⟨parts, rfl, rfl, hparts⟩ := ofExprs_resolves (fun e he n t => ih e he) hnodes
    exact .array parts hparts
  | name s =>
    rw [ofExpr] at h
    exact ofName_resolves h
  | member o key optional ih =>
    rw [ofExpr] at h
    obtain ⟨⟨object, u⟩, ho, h⟩ := Except.bind_eq_ok_iff.mp h
    exact .member (ih ho) (ofMember_fetches h)
  | index o p iho ihp =>
    rw [ofExpr] at h
    obtain ⟨⟨object, u⟩, ho, h⟩ := Except.bind_eq_ok_iff.mp h
    obtain ⟨⟨position, w⟩, hp, h⟩ := Except.bind_eq_ok_iff.mp h
    exact ofIndex_resolves (iho ho) (ihp hp) h
  | call function arguments ih =>
    unfold ofExpr at h
    split at h
    · exact absurd h (by simp)
    · rename_i f hf
      split at h
      · rename_i a
        obtain ⟨⟨argument, u⟩, ha, h⟩ := Except.bind_eq_ok_iff.mp h
        dsimp only at h
        split at h
        · rename_i hu
          obtain ⟨rfl, rfl⟩ := Prod.mk.inj (Except.ok.inj h)
          exact .call hf (ih a List.mem_cons_self ha) hu
        · exact absurd h (by simp)
      · exact absurd h (by simp)
  | unary op operand ih =>
    rw [ofExpr] at h
    obtain ⟨⟨n, u⟩, hn, h⟩ := Except.bind_eq_ok_iff.mp h
    dsimp only at h
    split at h
    · rename_i hu
      obtain ⟨rfl, rfl⟩ := Prod.mk.inj (Except.ok.inj h)
      exact .unary (ih hn) hu
    · exact absurd h (by simp)
  | binary op l r ihl ihr =>
    rw [ofExpr] at h
    obtain ⟨⟨left, u⟩, hl, h⟩ := Except.bind_eq_ok_iff.mp h
    obtain ⟨⟨right, w⟩, hr, h⟩ := Except.bind_eq_ok_iff.mp h
    exact ofBinary_resolves (ihl hl) (ihr hr) h
  | choice c y n ihc ihy ihn =>
    rw [ofExpr] at h
    obtain ⟨⟨test, u⟩, hc, h⟩ := Except.bind_eq_ok_iff.mp h
    dsimp only at h
    split at h
    · rename_i ht
      obtain ⟨⟨yes, u⟩, hy, h⟩ := Except.bind_eq_ok_iff.mp h
      obtain ⟨⟨no, w⟩, hn, h⟩ := Except.bind_eq_ok_iff.mp h
      obtain ⟨rfl, rfl⟩ := Prod.mk.inj (Except.ok.inj h)
      exact .choice (ihc hc) ht (ihy hy) (ihn hn)
    · exact absurd h (by simp)

/-- The nodes of a list of items that are resolved. -/
theorem ofExprs_of_ofExpr {env : Environment} {items : List (Expr × Node × StaticType)}
    (h : ∀ i ∈ items, ofExpr env i.1 = .ok i.2) :
    ofExprs env (items.map (·.1)) = .ok (items.map (·.2.1)) := by
  induction items with
  | nil => rfl
  | cons i rest ih =>
    rw [List.map_cons, ofExprs, h i List.mem_cons_self]
    simp only [ih fun j hj => h j (List.mem_cons_of_mem _ hj), bind, Except.bind, List.map_cons]

/-- An index that is a member, or none. -/
theorem ofIndex_of_key {object : Node} {t u : StaticType} {key : String}
    (ht : t.accepts .map = true ∨ t = .only .nil) :
    ofIndex object t (constant (.text key)) u = ofMember object t key false := by
  rw [ofIndex]
  exact if_pos (by rwa [Bool.or_eq_true, decide_eq_true_eq])

/-- An index proper. -/
theorem ofIndex_of_position {object position : Node} {t u w : StaticType}
    (hkey : ∀ key, position = .constant (.text key) → t.accepts .map = false ∧ t ≠ .only .nil)
    (hw : indexType? t u = some w) :
    ofIndex object t position u = .ok (index object position, w) := by
  unfold ofIndex
  extract_lets general
  have hgeneral : general = .ok (index object position, w) := by
    simp only [general, hw]
  split
  · obtain ⟨hmap, hnil⟩ := hkey _ rfl
    rw [if_neg (by simp [hmap, hnil]), hgeneral]
  · exact hgeneral

/-- An operation proper. -/
theorem ofBinary_of_type {patterns : Pattern.Engine} {op : BinaryOp} {left right : Node}
    {t u w : StaticType} (hw : op.resultType? t u = some w)
    (hpattern : op = .matchesPattern → ∀ source, right ≠ .constant (.text source)) :
    ofBinary patterns op left t right u = .ok (binary op left right, w) := by
  simp only [ofBinary, hw]
  split
  · exact absurd rfl (hpattern rfl _)
  · rfl

/-- What the rules resolve is the node of the condition. -/
theorem ofExpr_of_resolves {env : Environment} {e : Expr} {node : Node} {t : StaticType}
    (h : Resolves env e node t) : ofExpr env e = .ok (node, t) := by
  induction h with
  | @literal e v hv =>
    cases e with
    | nil | bool | int | float | text =>
      obtain rfl := Option.some.inj hv
      rfl
    | _ => exact absurd hv (by simp [Expr.literal?])
  | array items _ ih =>
    rw [ofExpr, ofExprs_of_ofExpr ih]
    rfl
  | part hs | constant hs => rw [ofExpr, ofName, hs]
  | member _ hf ih =>
    rw [ofExpr, ih]
    exact ofMember_of_fetches hf
  | indexMember _ _ ht hf iho ihp =>
    rw [ofExpr, iho, ihp]
    exact (ofIndex_of_key ht).trans (ofMember_of_fetches hf)
  | index _ _ hkey hw iho ihp =>
    rw [ofExpr, iho, ihp]
    exact ofIndex_of_position hkey hw
  | call hf _ hu ih => simp only [ofExpr, hf, ih, bind, Except.bind, hu]
  | unary _ hu ih => simp only [ofExpr, ih, bind, Except.bind, hu]
  | matching _ _ hw htest ihl ihr =>
    simp only [ofExpr, ihl, ihr, bind, Except.bind, ofBinary, hw, htest]
  | binary _ _ hw hpattern ihl ihr =>
    rw [ofExpr, ihl, ihr]
    exact ofBinary_of_type hw hpattern
  | choice _ ht _ _ ihc ihy ihn => simp only [ofExpr, ihc, ihy, ihn, bind, Except.bind, ht, if_true]

/-- The rules say exactly what a condition is resolved to. -/
theorem ofExpr_eq_ok_iff {env : Environment} {e : Expr} {node : Node} {t : StaticType} :
    ofExpr env e = .ok (node, t) ↔ Resolves env e node t :=
  ⟨ofExpr_resolves e, ofExpr_of_resolves⟩

end Node

end Telemetry.Condition
