import Telemetry.Condition.Value
import Telemetry.Proofs.Decimal.NotANumber
import Telemetry.Proofs.Distinct
import Telemetry.Proofs.Json.ReadBack

/-!
# Equality and order of values

Two maps are compared in one direction only: the second one must have the entries of the first. As
both have the same number of keys and none of them twice, the first then has the entries of the
second, so that equality does not depend on the side on which a value stands. The order of two
values is the opposite one with the sides exchanged, and values in an order are of the same rank
exactly if they are equal.
-/

namespace Telemetry.Condition

/-! ## Entries with the same keys -/

section Entries

variable {α β : Type} {xs : List (String × α)} {ys : List (String × β)}

/-- Of two lists with as many keys, the one with the keys of the other has no more than those. -/
theorem keys_subset_of_subset (hxs : (xs.map (·.1)).Nodup) (hlength : xs.length = ys.length)
    (h : xs.map (·.1) ⊆ ys.map (·.1)) : ys.map (·.1) ⊆ xs.map (·.1) := by
  have hle : (ys.map (·.1)).length ≤ (xs.map (·.1)).length := by
    rw [List.length_map, List.length_map, hlength]
  have hperm := (List.subperm_of_subset hxs h).perm_of_length_le hle
  exact hperm.symm.subset

/-- Entries that all have a partner of their key among as many others are the partners of all of
these. -/
theorem partners_symm {R : α → β → Prop} (hxs : (xs.map (·.1)).Nodup)
    (hys : (ys.map (·.1)).Nodup) (hlength : xs.length = ys.length)
    (h : ∀ key x, (key, x) ∈ xs → ∃ y, (key, y) ∈ ys ∧ R x y) :
    ∀ key y, (key, y) ∈ ys → ∃ x, (key, x) ∈ xs ∧ R x y := by
  have hkeys : xs.map (·.1) ⊆ ys.map (·.1) := by
    intro key hkey
    obtain ⟨⟨_, x⟩, hmem, rfl⟩ := List.mem_map.mp hkey
    obtain ⟨y, hy, -⟩ := h _ x hmem
    exact List.mem_map.mpr ⟨_, hy, rfl⟩
  intro key y hy
  -- the key is one of the first list, and there its partner can only be this one
  have hkey := keys_subset_of_subset hxs hlength hkeys (List.mem_map.mpr ⟨_, hy, rfl⟩)
  obtain ⟨⟨_, x⟩, hx, rfl⟩ := List.mem_map.mp hkey
  obtain ⟨y', hy', hxy⟩ := h _ x hx
  have hsame : y' = y := by
    have hfound := (lookup_eq_some_iff hys).mpr hy'
    rw [(lookup_eq_some_iff hys).mpr hy] at hfound
    exact (Option.some.inj hfound).symm
  exact ⟨x, hx, hsame ▸ hxy⟩

end Entries

namespace Value

/-! ## Equality -/

/-- Every map in the value has each of its keys once. -/
inductive DistinctKeys : Value → Prop where
  | nil : DistinctKeys .nil
  | bool (b : Bool) : DistinctKeys (.bool b)
  | int (n : Int64) : DistinctKeys (.int n)
  | float (x : Float) : DistinctKeys (.float x)
  | text (s : String) : DistinctKeys (.text s)
  | array {items : List Value} (h : ∀ v ∈ items, DistinctKeys v) : DistinctKeys (.array items)
  | map {entries : List (String × Value)} (hkeys : (entries.map (·.1)).Nodup)
      (h : ∀ entry ∈ entries, DistinctKeys entry.2) : DistinctKeys (.map entries)

/-- A map by keys has each of them once. -/
theorem DistinctKeys.ofKeyMap {entries : KeyMap Value}
    (h : ∀ (key : String) (v : Value), entries[key]? = some v → v.DistinctKeys) :
    (Value.ofKeyMap entries).DistinctKeys := by
  refine .map ?_ ?_
  · rw [Std.ExtTreeMap.map_fst_toList_eq_keys]
    exact Std.ExtTreeMap.nodup_keys
  · intro entry hentry
    exact h _ _ (Std.ExtTreeMap.mem_toList_iff_getElem?_eq_some.mp hentry)

/-- An item of a constant array comes from an item of the JSON array. -/
theorem mem_ofJsonItems {items : List Json} {v : Value} (h : v ∈ ofJsonItems items) :
    ∃ item ∈ items, v = ofJson item := by
  induction items with
  | nil => cases h
  | cons item items ih =>
    rcases List.mem_cons.mp h with rfl | h
    · exact ⟨item, List.mem_cons_self, rfl⟩
    · obtain ⟨other, hother, rfl⟩ := ih h
      exact ⟨other, List.mem_cons_of_mem _ hother, rfl⟩

/-- An entry of a constant map comes from a member of the JSON object. -/
theorem getElem?_ofJsonMembers {members : List (String × Json)} {key : String} {v : Value}
    (h : (ofJsonMembers members)[key]? = some v) : ∃ member ∈ members, v = ofJson member.2 := by
  induction members with
  | nil => simp [ofJsonMembers] at h
  | cons member members ih =>
    rw [ofJsonMembers, KeyMap.getElem?_insert] at h
    split at h
    · exact ⟨member, List.mem_cons_self, (Option.some.inj h).symm⟩
    · obtain ⟨other, hother, rfl⟩ := ih h
      exact ⟨other, List.mem_cons_of_mem _ hother, rfl⟩

/-- What JSON denotes has each key once in each map. -/
theorem ofJson_distinctKeys (j : Json) : (ofJson j).DistinctKeys := by
  induction j using Json.byParts with
  | null => exact .nil
  | bool b => exact .bool b
  | number n =>
    rw [ofJson, ofNumber.eq_def]
    split
    · split
      · exact .int _
      · exact .float _
    · exact .float _
  | string s => exact .text s
  | array items ih =>
    refine .array ?_
    intro v hv
    obtain ⟨item, hitem, rfl⟩ := mem_ofJsonItems hv
    exact ih item hitem
  | object members ih =>
    refine .ofKeyMap ?_
    intro key v hv
    obtain ⟨member, hmember, rfl⟩ := getElem?_ofJsonMembers hv
    exact ih member hmember

/-- The entries of one map are found in another one exactly if each key has an equal value there. -/
theorem looseEqEntries_iff {xs ys : List (String × Value)} (hys : (ys.map (·.1)).Nodup) :
    looseEqEntries xs ys = true ↔
      ∀ key x, (key, x) ∈ xs → ∃ y, (key, y) ∈ ys ∧ x.looseEq y = true := by
  induction xs with
  | nil => simp [looseEqEntries]
  | cons entry xs ih =>
    obtain ⟨key, x⟩ := entry
    rw [looseEqEntries]
    constructor
    · intro h key' x' hmem
      cases hy : ys.lookup key with
      | none => simp [hy] at h
      | some y =>
        simp only [hy, Bool.and_eq_true] at h
        rcases List.mem_cons.mp hmem with heq | hmem
        · cases heq
          exact ⟨y, (lookup_eq_some_iff hys).mp hy, h.1⟩
        · exact ih.mp h.2 key' x' hmem
    · intro h
      obtain ⟨y, hy, hxy⟩ := h key x List.mem_cons_self
      have hlater := ih.mpr fun key' x' hmem => h key' x' (List.mem_cons_of_mem _ hmem)
      simp [(lookup_eq_some_iff hys).mpr hy, hxy, hlater]

/-- Maps are equal if they are of the same size and the second one has the entries of the first. -/
theorem looseEq_map_iff {xs ys : List (String × Value)} (hys : (ys.map (·.1)).Nodup) :
    (map xs).looseEq (map ys) = true ↔ xs.length = ys.length ∧
      ∀ key x, (key, x) ∈ xs → ∃ y, (key, y) ∈ ys ∧ x.looseEq y = true := by
  rw [looseEq, Bool.and_eq_true, beq_iff_eq, looseEqEntries_iff hys]

/-- Two binary64 numbers are equal in either order. -/
theorem beq_comm_float (x y : Float) : (x == y) = (y == x) := by
  rw [Bool.eq_iff_iff, BinaryValue.beq_iff_compare, BinaryValue.beq_iff_compare,
    BinaryValue.compare_swap x.toModel.unpack]
  cases x.toModel.unpack.compare y.toModel.unpack with
  | none => simp
  | some o => cases o <;> simp

/-- Arrays are equal in either order if their items are. -/
theorem looseEqAll_comm {xs ys : List Value}
    (h : ∀ x ∈ xs, ∀ y ∈ ys, x.looseEq y = y.looseEq x) :
    looseEqAll xs ys = looseEqAll ys xs := by
  induction xs generalizing ys with
  | nil => cases ys <;> rfl
  | cons x xs ih =>
    cases ys with
    | nil => rfl
    | cons y ys =>
      have hlater : looseEqAll xs ys = looseEqAll ys xs := by
        refine ih fun x' hx' y' hy' => ?_
        exact h x' (List.mem_cons_of_mem _ hx') y' (List.mem_cons_of_mem _ hy')
      rw [looseEqAll, looseEqAll, h x List.mem_cons_self y List.mem_cons_self, hlater]

/-- If maps are equal part by part from one side, so are they from the other. -/
theorem looseEq_map_of_looseEq {xs ys : List (String × Value)} (hxs : (xs.map (·.1)).Nodup)
    (hys : (ys.map (·.1)).Nodup)
    (hcomm : ∀ x ∈ xs, ∀ y ∈ ys, x.2.looseEq y.2 = true → y.2.looseEq x.2 = true)
    (h : (map xs).looseEq (map ys) = true) : (map ys).looseEq (map xs) = true := by
  obtain ⟨hlength, hpartners⟩ := (looseEq_map_iff hys).mp h
  refine (looseEq_map_iff hxs).mpr ⟨hlength.symm, ?_⟩
  intro key y hy
  obtain ⟨x, hx, hxy⟩ := partners_symm hxs hys hlength hpartners key y hy
  exact ⟨x, hx, hcomm _ hx _ hy hxy⟩

/-- Values are equal in both directions or in none. -/
theorem looseEq_comm {a b : Value} (ha : a.DistinctKeys) (hb : b.DistinctKeys) :
    a.looseEq b = b.looseEq a := by
  induction a generalizing b with
  | array xs ih =>
    cases ha with
    | array hitems =>
      cases hb with
      | array hitems' =>
        rw [looseEq, looseEq]
        exact looseEqAll_comm fun x hx y hy => ih x hx (hitems x hx) (hitems' y hy)
      | _ => rfl
  | map xs ih =>
    cases ha with
    | map hkeys hvalues =>
      cases hb with
      | map hkeys' hvalues' =>
        have hcomm := fun x hx y hy => ih x hx (hvalues x hx) (hvalues' y hy)
        rw [Bool.eq_iff_iff]
        constructor
        · refine looseEq_map_of_looseEq hkeys hkeys' fun x hx y hy hxy => ?_
          rw [← hcomm x hx y hy, hxy]
        · refine looseEq_map_of_looseEq hkeys' hkeys fun y hy x hx hyx => ?_
          rw [hcomm x hx y hy, hyx]
      | _ => rfl
  | int m =>
    cases b with
    | int n => exact BEq.comm
    | float y => exact beq_comm_float _ _
    | _ => rfl
  | float x =>
    cases b with
    | int n => exact beq_comm_float _ _
    | float y => exact beq_comm_float _ _
    | _ => rfl
  | nil => cases b <;> rfl
  | bool p =>
    cases b with
    | bool q => exact BEq.comm
    | _ => rfl
  | text s =>
    cases b with
    | text t => exact BEq.comm
    | _ => rfl

/-! ## Order -/

/-- The order of two numbers is found on their bits. -/
theorem compareFloats?_eq (x y : Float) :
    compareFloats? x y = x.toModel.unpack.compare y.toModel.unpack := by
  have hswap := BinaryValue.compare_swap x.toModel.unpack y.toModel.unpack
  unfold compareFloats?
  simp only [BinaryValue.lt_iff_compare, BinaryValue.beq_iff_compare, hswap]
  cases x.toModel.unpack.compare y.toModel.unpack with
  | none => simp
  | some o => cases o <;> simp

/-- To compare numbers the other way round is to turn the answer round. -/
theorem compareFloats?_swap (x y : Float) :
    compareFloats? y x = (compareFloats? x y).map Ordering.swap := by
  rw [compareFloats?_eq, compareFloats?_eq, BinaryValue.compare_swap x.toModel.unpack]

/-- Numbers have the same place in the order exactly if they are equal. -/
theorem compareFloats?_eq_some_eq {x y : Float} :
    compareFloats? x y = some .eq ↔ (x == y) = true := by
  rw [compareFloats?_eq, BinaryValue.beq_iff_compare]

/-- With the sides exchanged, values have the opposite order, or none as before. -/
theorem compare?_swap (a b : Value) : b.compare? a = (a.compare? b).map Ordering.swap := by
  cases a with
  | int m =>
    cases b with
    | int n => exact congrArg some Std.OrientedCmp.eq_swap
    | float y => exact compareFloats?_swap _ _
    | _ => rfl
  | float x =>
    cases b with
    | int n => exact compareFloats?_swap _ _
    | float y => exact compareFloats?_swap _ _
    | _ => rfl
  | text s =>
    cases b with
    | text t => exact congrArg some Std.OrientedCmp.eq_swap
    | _ => rfl
  | _ => cases b <;> rfl

/-- Values in an order are of the same rank exactly if they are equal. -/
theorem eq_iff_looseEq_of_compare? {a b : Value} {o : Ordering} (h : a.compare? b = some o) :
    o = .eq ↔ a.looseEq b = true := by
  have hfloats : ∀ {x y : Float}, compareFloats? x y = some o → (o = .eq ↔ (x == y) = true) := by
    intro x y hxy
    rw [← compareFloats?_eq_some_eq, hxy, Option.some_inj]
  cases a with
  | int m =>
    cases b with
    | int n =>
      obtain rfl := Option.some.inj h
      rw [Std.LawfulEqCmp.compare_eq_iff_eq, looseEq, beq_iff_eq, Int64.toInt_inj]
    | float y => exact hfloats h
    | _ => cases h
  | float x =>
    cases b with
    | int n => exact hfloats h
    | float y => exact hfloats h
    | _ => cases h
  | text s =>
    cases b with
    | text t =>
      obtain rfl := Option.some.inj h
      rw [Std.LawfulEqCmp.compare_eq_iff_eq, looseEq, beq_iff_eq]
    | _ => cases h
  | _ => cases b <;> cases h

/-- Equality does not depend on the side on which a value stands. The order of two values is turned
round with the sides, so that there is one on both sides or on none, and values that are in an order
compare as equal exactly if they are equal. -/
theorem equality_agrees_with_order {a b : Value} (ha : a.DistinctKeys) (hb : b.DistinctKeys) :
    a.looseEq b = b.looseEq a ∧
      b.compare? a = (a.compare? b).map Ordering.swap ∧
      ((a.compare? b).isNone ↔ (b.compare? a).isNone) ∧
      ∀ o, a.compare? b = some o → (o = .eq ↔ a.looseEq b = true) := by
  have hswap := compare?_swap a b
  refine ⟨looseEq_comm ha hb, hswap, ?_, fun o ho => eq_iff_looseEq_of_compare? ho⟩
  rw [hswap, Option.isNone_map]

/-- Maps of the same entries, with whole numbers of either kind, inside an array. -/
theorem equality_agrees_with_order_nested :
    let a : Value := .array [.map [("a", .int 1), ("b", .array [.nil, .float 2.0])]]
    let b : Value := .array [.map [("a", .float 1.0), ("b", .array [.nil, .int 2])]]
    a.DistinctKeys ∧ b.DistinctKeys ∧ a.looseEq b = true ∧ a.looseEq b = b.looseEq a ∧
      b.compare? a = (a.compare? b).map Ordering.swap ∧
      ((a.compare? b).isNone ↔ (b.compare? a).isNone) ∧
      ∀ o, a.compare? b = some o → (o = .eq ↔ a.looseEq b = true) := by
  intro a b
  have ha : a.DistinctKeys := by
    refine .array (List.forall_mem_singleton.mpr (.map (by decide) ?_))
    refine List.forall_mem_cons.mpr ⟨.int 1, List.forall_mem_singleton.mpr (.array ?_)⟩
    exact List.forall_mem_cons.mpr ⟨.nil, List.forall_mem_singleton.mpr (.float _)⟩
  have hb : b.DistinctKeys := by
    refine .array (List.forall_mem_singleton.mpr (.map (by decide) ?_))
    refine List.forall_mem_cons.mpr ⟨.float _, List.forall_mem_singleton.mpr (.array ?_)⟩
    exact List.forall_mem_cons.mpr ⟨.nil, List.forall_mem_singleton.mpr (.int 2)⟩
  exact ⟨ha, hb, by decide +kernel, equality_agrees_with_order ha hb⟩

end Value

end Telemetry.Condition
