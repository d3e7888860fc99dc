import Telemetry.Proofs.Condition.Constants
import Telemetry.Proofs.Distinct
import Telemetry.Proofs.Json.ReadBack

/-!
# Constants that were given

Constants are given in batches that have each name once. A batch gives the same constants in
whatever order its names are visited, because each of them changes what its own name stands for and
nothing else. So a name stands for the last scalar that was given for it, or if there was none for
the first map, and never for an array or nil, on any level; the names of the parts of the message
stay theirs.
-/

namespace Telemetry.Condition

/-- A scalar, or a map of such values: there is no array and no nil in it. -/
inductive Value.IsConstant : Value → Prop where
  | bool (b : Bool) : IsConstant (.bool b)
  | int (n : Int64) : IsConstant (.int n)
  | float (x : Float) : IsConstant (.float x)
  | text (s : String) : IsConstant (.text s)
  | map {entries : List (String × Value)} (h : ∀ entry ∈ entries, IsConstant entry.2) :
      IsConstant (.map entries)

namespace Environment

/-! ## What JSON gives -/

/-- The scalar that JSON denotes, if it denotes one. -/
def scalar? : Json → Option Value
  | .bool b => some (.bool b)
  | .number n => some (.ofNumber n)
  | .string s => some (.text s)
  | _ => none

/-- The map of the constants in an object. -/
def map? : Json → Option Value
  | .object members => some (.ofKeyMap (constantMembers members))
  | _ => none

/-- A number becomes an integer or a float, whatever it is. -/
theorem ofNumber_cases (n : Json.Number) :
    (∃ w, Value.ofNumber n = .int w) ∨ ∃ x, Value.ofNumber n = .float x := by
  rw [Value.ofNumber.eq_def]
  split
  · split
    · exact .inl ⟨_, rfl⟩
    · exact .inr ⟨_, rfl⟩
  · exact .inr ⟨_, rfl⟩

/-- What a member stands for in a constant map comes from a member of the object. -/
theorem constant?_of_getElem? {members : List (String × Json)} {key : String} {v : Value}
    (h : (constantMembers members)[key]? = some v) :
    ∃ member ∈ members, constant? member.2 = some v := by
  induction members with
  | nil => simp [constantMembers] at h
  | cons member members ih =>
    have hlater : (constantMembers members)[key]? = some v →
        ∃ other ∈ member :: members, constant? other.2 = some v := by
      intro hv
      obtain ⟨other, hother, hconstant⟩ := ih hv
      exact ⟨other, List.mem_cons_of_mem _ hother, hconstant⟩
    rw [constantMembers] at h
    cases hmember : constant? member.2 with
    | none => exact hlater (by simpa only [hmember] using h)
    | some w =>
      simp only [hmember, KeyMap.getElem?_insert] at h
      split at h
      · exact ⟨member, List.mem_cons_self, hmember.trans h⟩
      · exact hlater h

/-- Arrays and nil are left out on all levels. -/
theorem isConstant_of_constant? {j : Json} {v : Value} (h : constant? j = some v) :
    v.IsConstant := by
  induction j using Json.byParts generalizing v with
  | null => cases h
  | bool b => exact Option.some.inj h ▸ .bool b
  | number n =>
    obtain rfl := Option.some.inj h
    rcases ofNumber_cases n with ⟨w, hw⟩ | ⟨x, hx⟩
    · exact hw ▸ .int w
    · exact hx ▸ .float x
  | string s => exact Option.some.inj h ▸ .text s
  | array items => cases h
  | object members ih =>
    obtain rfl := Option.some.inj h
    refine .map fun entry hentry => ?_
    have hget := Std.ExtTreeMap.mem_toList_iff_getElem?_eq_some.mp hentry
    obtain ⟨member, hmember, hconstant⟩ := constant?_of_getElem? hget
    exact ih member hmember hconstant

/-- A scalar replaces what its name stood for, a map is taken if that was nothing. -/
theorem valueAfter_eq {name : String} (hname : Variable.ofName? name = none) (j : Json)
    (old : Option Value) : valueAfter name j old = (scalar? j).or (old.or (map? j)) := by
  rw [valueAfter, hname, Option.isSome_none, if_neg Bool.false_ne_true]
  cases j with
  | number n =>
    have hconstant : constant? (.number n) = some (Value.ofNumber n) := rfl
    rw [hconstant]
    rcases ofNumber_cases n with ⟨w, hw⟩ | ⟨x, hx⟩
    · rw [scalar?, hw]
      rfl
    · rw [scalar?, hx]
      rfl
  | null | array => cases old <;> rfl
  | bool | string | object => rfl

/-- A name of a part of the message is left alone. -/
theorem valueAfter_of_variable {name : String} (hname : (Variable.ofName? name).isSome = true)
    (j : Json) (old : Option Value) : valueAfter name j old = old := by
  rw [valueAfter, if_pos hname]

/-! ## One batch -/

section Batch

variable {env : Environment} {members others : List (String × Json)}

/-- A batch changes what a name stands for by what it has for the name. -/
theorem getElem?_add (env : Environment) (hnames : (members.map (·.1)).Nodup) (name : String) :
    (env.add members).1.constants[name]? =
      match members.lookup name with
      | some j => valueAfter name j env.constants[name]?
      | none => env.constants[name]? := by
  rw [add_eq_foldl]
  induction members generalizing env with
  | nil => rfl
  | cons entry members ih =>
    obtain ⟨key, j⟩ := entry
    obtain ⟨hfirst, hlater⟩ := List.nodup_cons.mp hnames
    rw [List.foldl_cons, ih _ hlater, getElem?_addOne]
    by_cases hname : name = key
    · subst hname
      have hnone : members.lookup name = none := by
        rw [List.lookup_eq_none_iff]
        intro other hother
        have hne : name ≠ other.1 := fun h => hfirst (List.mem_map.mpr ⟨other, hother, h.symm⟩)
        simpa using hne
      rw [hnone, List.lookup_cons_self, if_pos rfl]
    · rw [List.lookup_cons, beq_eq_false_iff_ne.mpr hname, if_neg hname]

/-- Whether a constant is taken in where nothing was added before it. -/
def takes (env : Environment) (entry : String × Json) : Bool := (env.addOne? entry.1 entry.2).isSome

/-- Whether a constant is taken in is decided by what its name stands for. -/
theorem takes_congr {env env' : Environment} {entry : String × Json}
    (h : env.constants[entry.1]? = env'.constants[entry.1]?) :
    env.takes entry = env'.takes entry := by
  rw [takes, takes, addOne?, addOne?, contains_eq, contains_eq, h]
  split
  · rfl
  · split
    · split <;> rfl
    · rfl
    · rfl

/-- A batch counts what is taken in of it. -/
theorem count_add (env : Environment) (hnames : (members.map (·.1)).Nodup) :
    (env.add members).2 = members.countP env.takes := by
  induction members generalizing env with
  | nil => rfl
  | cons entry members ih =>
    obtain ⟨hfirst, hlater⟩ := List.nodup_cons.mp hnames
    -- the first constant leaves alone what the others are decided by
    have hothers : members.countP (env.addOne entry).takes = members.countP env.takes := by
      refine List.countP_congr fun other hother => ?_
      have hne : other.1 ≠ entry.1 := fun h => hfirst (List.mem_map.mpr ⟨other, hother, h⟩)
      have hsame : (env.addOne entry).constants[other.1]? = env.constants[other.1]? := by
        rw [getElem?_addOne, if_neg hne]
      rw [takes_congr hsame]
    rw [List.countP_cons, ← hothers, add, addOne, takes]
    cases env.addOne? entry.1 entry.2 with
    | none => exact ih env hlater
    | some env' => exact congrArg (· + 1) (ih env' hlater)

/-- The names of a batch can be visited in any order. -/
theorem add_of_perm (env : Environment) (hnames : (members.map (·.1)).Nodup)
    (h : members.Perm others) : env.add others = env.add members := by
  have hnames' : (others.map (·.1)).Nodup := (h.map _).nodup hnames
  have hlookup : ∀ name : String, others.lookup name = members.lookup name := by
    intro name
    apply Option.ext
    intro j
    rw [lookup_eq_some_iff hnames', lookup_eq_some_iff hnames, h.mem_iff]
  refine Prod.ext (ext_getElem? (by simp) fun name => ?_) ?_
  · rw [getElem?_add env hnames', getElem?_add env hnames, hlookup]
  · rw [count_add env hnames', count_add env hnames, h.countP_eq]

/-- A map is not taken in for a name that stands for something. -/
theorem getElem?_add_of_object (hnames : (members.map (·.1)).Nodup) {name : String}
    {entries : List (String × Json)} (h : (name, .object entries) ∈ members) {v : Value}
    (hv : env.constants[name]? = some v) : (env.add members).1.constants[name]? = some v := by
  rw [getElem?_add env hnames, (lookup_eq_some_iff hnames).mpr h, hv]
  cases hname : Variable.ofName? name with
  | none => exact valueAfter_eq hname _ _
  | some part => exact valueAfter_of_variable (by rw [hname]; rfl) _ _

end Batch

/-! ## All batches -/

/-- Adds batches of constants one after the other, and counts what was added of each. -/
def addAll (env : Environment) : List (List (String × Json)) → Environment × List Nat
  | [] => (env, [])
  | members :: batches =>
    let (env, n) := env.add members
    let (env, counts) := env.addAll batches
    (env, n :: counts)

/-- What was given for a name, in the order of the batches. -/
def given (name : String) (batches : List (List (String × Json))) : List Json :=
  batches.filterMap (·.lookup name)

/-- The last scalar that was given, or else the first map. -/
def standing? (js : List Json) : Option Value :=
  (js.filterMap scalar?).getLast?.or (js.filterMap map?).head?

section Batches

variable {batches : List (List (String × Json))}

/-- Batches in other orders, each with the same members, add the same constants if no batch has a
name twice. -/
theorem addAll_of_perm {reordered : List (List (String × Json))} (env : Environment)
    (hnames : ∀ members ∈ batches, (members.map (·.1)).Nodup)
    (h : List.Forall₂ List.Perm batches reordered) : env.addAll reordered = env.addAll batches := by
  induction h generalizing env with
  | nil => rfl
  | cons hfirst _ ih =>
    obtain ⟨hmembers, hlater⟩ := List.forall_mem_cons.mp hnames
    simp only [addAll, add_of_perm env hmembers hfirst, ih _ hlater]

/-- What a name stands for changes with each of the values that are given for it. -/
theorem getElem?_addAll (env : Environment)
    (hnames : ∀ members ∈ batches, (members.map (·.1)).Nodup) (name : String) :
    (env.addAll batches).1.constants[name]? =
      (given name batches).foldl (fun old j => valueAfter name j old) env.constants[name]? := by
  induction batches generalizing env with
  | nil => rfl
  | cons members batches ih =>
    obtain ⟨hmembers, hlater⟩ := List.forall_mem_cons.mp hnames
    have hstep := getElem?_add env hmembers name
    simp only [addAll, ih _ hlater, hstep, given, List.filterMap_cons]
    cases members.lookup name with
    | none => rfl
    | some j => rfl

/-- Behind several constants of a name, none of them built in, the last scalar stands; where there
is none, what stood before does, or else the first map. -/
theorem foldl_valueAfter {name : String} (hname : Variable.ofName? name = none) (js : List Json)
    (old : Option Value) :
    js.foldl (fun old j => valueAfter name j old) old =
      (js.filterMap scalar?).getLast?.or (old.or (js.filterMap map?).head?) := by
  induction js generalizing old with
  | nil => simp
  | cons j js ih =>
    rw [List.foldl_cons, ih, valueAfter_eq hname]
    cases j with
    | bool | number | string =>
      simp only [scalar?, map?, List.filterMap_cons, List.getLast?_cons, Option.some_or]
      cases (js.filterMap scalar?).getLast? <;> rfl
    | object => cases old <;> simp [scalar?, map?]
    | null | array =>
      simp only [scalar?, map?, List.filterMap_cons, Option.none_or, Option.or_none]

/-- What a name stands for is what was given for it. -/
theorem getElem?_addAll_empty (patterns : Pattern.Engine)
    (hnames : ∀ members ∈ batches, (members.map (·.1)).Nodup) (name : String) :
    ((empty patterns).addAll batches).1.constants[name]? =
      if (Variable.ofName? name).isSome then none else standing? (given name batches) := by
  have hempty : (empty patterns).constants[name]? = none := Std.ExtTreeMap.getElem?_empty
  rw [getElem?_addAll _ hnames, hempty]
  split
  · rename_i hname
    generalize given name batches = js
    induction js with
    | nil => rfl
    | cons j js ih => rw [List.foldl_cons, valueAfter_of_variable hname, ih]
  · rename_i hname
    rw [Bool.not_eq_true, Option.isSome_eq_false_iff, Option.isNone_iff_eq_none] at hname
    rw [foldl_valueAfter hname, Option.none_or, standing?]

/-- What stands for a name was denoted by something that was given for it. -/
theorem constant?_of_standing? {js : List Json} {v : Value} (h : standing? js = some v) :
    ∃ j ∈ js, constant? j = some v := by
  rcases Option.or_eq_some_iff.mp h with hscalar | ⟨-, hmap⟩
  · obtain ⟨j, hj, hv⟩ := List.mem_filterMap.mp (List.mem_of_getLast? hscalar)
    refine ⟨j, hj, ?_⟩
    cases j <;> first | exact hv | cases hv
  · obtain ⟨j, hj, hv⟩ := List.mem_filterMap.mp (List.mem_of_head? hmap)
    refine ⟨j, hj, ?_⟩
    cases j <;> first | exact hv | cases hv

/-- What is no map is the last scalar. -/
theorem getLast?_of_standing? {js : List Json} {v : Value} (h : standing? js = some v)
    (hv : v.kind ≠ .map) : (js.filterMap scalar?).getLast? = some v := by
  rcases Option.or_eq_some_iff.mp h with hscalar | ⟨-, hmap⟩
  · exact hscalar
  · obtain ⟨j, -, hj⟩ := List.mem_filterMap.mp (List.mem_of_head? hmap)
    cases j with
    | object members => exact absurd (Option.some.inj hj ▸ rfl) hv
    | _ => cases hj

/-- Batches of constants, whatever order the names of each batch are visited in: the constants and
the counts are the same in every order. No constant has the name of a part of the message, so that
these names stand for their parts. There is no array and no nil in a constant. A name stands for the
last scalar that was given for it, or if there was none for the first map, and a further map for a
name changes nothing. -/
theorem constants_settled (patterns : Pattern.Engine)
    {batches reordered : List (List (String × Json))}
    (hnames : ∀ members ∈ batches, (members.map (·.1)).Nodup)
    (horder : List.Forall₂ List.Perm batches reordered) :
    let env := ((empty patterns).addAll batches).1
    (empty patterns).addAll reordered = (empty patterns).addAll batches ∧
      (∀ name v, Variable.ofName? name = some v →
        env.constants[name]? = none ∧ env.resolve name = some (.variable v)) ∧
      (∀ (name : String) v, env.constants[name]? = some v → v.IsConstant) ∧
      (∀ name, Variable.ofName? name = none →
        env.constants[name]? = standing? (given name batches)) ∧
      (∀ (name : String) v, env.constants[name]? = some v → v.kind ≠ .map →
        ((given name batches).filterMap scalar?).getLast? = some v) ∧
      ∀ members name entries v, (members.map (·.1)).Nodup → (name, .object entries) ∈ members →
        env.constants[name]? = some v → (env.add members).1.constants[name]? = some v := by
  intro env
  have hget := getElem?_addAll_empty patterns hnames
  have hstanding : ∀ (name : String) v, env.constants[name]? = some v →
      standing? (given name batches) = some v := by
    intro name v hv
    rw [hget name] at hv
    split at hv
    · cases hv
    · exact hv
  refine ⟨addAll_of_perm _ hnames horder, ?_, ?_, ?_, ?_, ?_⟩
  · intro name v hname
    refine ⟨?_, ?_⟩
    · rw [hget name, hname, Option.isSome_some, if_pos rfl]
    · rw [resolve, hname]
  · intro name v hv
    obtain ⟨j, -, hj⟩ := constant?_of_standing? (hstanding name v hv)
    exact isConstant_of_constant? hj
  · intro name hname
    rw [hget name, hname, Option.isSome_none, if_neg Bool.false_ne_true]
  · intro name v hv hkind
    exact getLast?_of_standing? (hstanding name v hv) hkind
  · intro members name entries v hmembers hmem hv
    exact getElem?_add_of_object hmembers hmem hv

/-- Two batches that are visited from either end: a scalar is replaced, a map is not, and a part of
the message keeps its name. -/
theorem constants_settled_bothEnds :
    let first : List (String × Json) :=
      [("limit", .number (.integer 1)), ("site", .object [("a", .bool true), ("list", .array [])]),
        ("name", .string "x")]
    let second : List (String × Json) := [("site", .object [("b", .null)]), ("limit", .string "no")]
    let none := empty .standard
    let env := (none.addAll [first, second]).1
    none.addAll [first.reverse, second.reverse] = none.addAll [first, second] ∧
      env.constants["limit"]? = some (.text "no") ∧
      env.constants["site"]? = some (.ofKeyMap (constantMembers [("a", .bool true)])) ∧
      env.resolve "name" = some (.variable .name) := by
  intro first second none env
  have hnames : ∀ members ∈ [first, second], (members.map (·.1)).Nodup := by decide
  have horder : List.Forall₂ List.Perm [first, second] [first.reverse, second.reverse] :=
    .cons first.reverse_perm.symm (.cons second.reverse_perm.symm .nil)
  obtain ⟨hsame, hvariables, -, hstanding, -, -⟩ := constants_settled .standard hnames horder
  exact ⟨hsame, hstanding "limit" rfl, hstanding "site" rfl, (hvariables "name" _ rfl).2⟩

end Batches

end Environment

end Telemetry.Condition
