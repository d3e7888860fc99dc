import Mathlib.Data.List.Pairwise
import Telemetry.Proofs.Fallible
import Telemetry.Proofs.Json.ReadBack
import Telemetry.Rules.Config

/-!
# Which option is to blame

A rule document is refused in two cases: a member is refused where it stands alone, or an option is
given by both of its names. In the first case the document is blamed on the first such member. In
the second case no member is refused alone if the first case does not hold as well, and then the
document is blamed as a whole.
-/

namespace Telemetry

/-! ## Names of options -/

namespace RuleOption

/-- The second name of an option. -/
def secondName? : RuleOption → Option String
  | edit (.add .fields) => some "add_field_if"
  | edit (.delete .fields) => some "delete_field_if"
  | _ => none

/-- A key stands for the option that it is the name or the second name of. -/
theorem name_or_secondName {key : String} {o : RuleOption} (h : ofKey? key = some o) :
    key = o.name ∨ o.secondName? = some key := by
  unfold ofKey? at h
  split at h
  · obtain rfl := Option.some.inj h
    exact .inr rfl
  · obtain rfl := Option.some.inj h
    exact .inr rfl
  · have hname : (o.name == key) = true :=
      List.find?_some (p := fun other : RuleOption => other.name == key) h
    exact .inl (beq_iff_eq.mp hname).symm

/-- Two options have a second name, in which the part of the message is not in the plural. -/
theorem secondName?_cases {key : String} {o : RuleOption} (h : o.secondName? = some key) :
    o = .edit (.add .fields) ∧ key = "add_field_if" ∨
      o = .edit (.delete .fields) ∧ key = "delete_field_if" := by
  unfold secondName? at h
  split at h
  · exact .inl ⟨rfl, (Option.some.inj h).symm⟩
  · exact .inr ⟨rfl, (Option.some.inj h).symm⟩
  · exact absurd h (by simp)

/-- Both names of an option stand for it, and they are not the same. -/
theorem ofKey?_names {key : String} {o : RuleOption} (h : o.secondName? = some key) :
    ofKey? o.name = some o ∧ ofKey? key = some o ∧ o.name ≠ key := by
  obtain ⟨rfl, rfl⟩ | ⟨rfl, rfl⟩ := secondName?_cases h
  · decide
  · decide

end RuleOption

namespace RuleConfig

open RuleOption (ofKey?)

/-! ## When a document is refused -/

/-- Whether a document with these members is refused. -/
def IsRefused (members : List (String × Json)) : Prop :=
  ∃ fault, ofJson (.object members) = .error fault

/-- The options that members are for, one after the other. -/
def optionsOf (members : List (String × Json)) : List RuleOption :=
  members.filterMap fun member => ofKey? member.1

/-- Whether the value of a member suits its option, if it has one. -/
def Suitable (member : String × Json) : Prop :=
  ∀ o, ofKey? member.1 = some o → (empty.set? o member.2).isSome = true

/-- Whether an option is given by both of its names. -/
def NamedTwice (members : List (String × Json)) : Prop :=
  ∃ o key, RuleOption.secondName? o = some key ∧ o.name ∈ members.map (·.1) ∧
    key ∈ members.map (·.1)

variable {members : List (String × Json)} {member : String × Json}

/-- Whether a value suits an option does not depend on the other options. -/
theorem isSome_set? (c : RuleConfig) (o : RuleOption) (j : Json) :
    (c.set? o j).isSome = (empty.set? o j).isSome := by
  cases o <;> simp only [set?, Option.isSome_map]

/-- A value for no option suits. -/
theorem suitable_of_unknown {key : String} (ho : ofKey? key = none) (j : Json) :
    Suitable (key, j) := fun o h => absurd (ho.symm.trans h) (by simp)

/-- A value suits its option exactly if the option takes it, whatever the other options are. -/
theorem suitable_iff {key : String} {o : RuleOption} (ho : ofKey? key = some o) (c : RuleConfig)
    (j : Json) : Suitable (key, j) ↔ (c.set? o j).isSome = true := by
  rw [isSome_set?]
  constructor
  · intro h
    exact h o ho
  · intro h o' ho'
    obtain rfl := Option.some.inj (ho.symm.trans ho')
    exact h

/-- Members are read exactly if each value suits its option and no option comes twice, or again
behind those that were seen. -/
theorem isSome_readMembers? (seen : List RuleOption) (c : RuleConfig)
    (members : List (String × Json)) :
    (readMembers? seen c members).isSome = true ↔
      (∀ member ∈ members, Suitable member) ∧ (optionsOf members).Nodup ∧
        ∀ o ∈ optionsOf members, o ∉ seen := by
  induction members generalizing seen c with
  | nil => simp [readMembers?, optionsOf]
  | cons member members ih =>
    obtain ⟨key, j⟩ := member
    rw [readMembers?, List.forall_mem_cons, optionsOf, List.filterMap_cons]
    cases ho : ofKey? key with
    | none =>
      simp only [ih, suitable_of_unknown ho j, true_and]
      rfl
    | some o =>
      by_cases hseen : o ∈ seen
      · simp [hseen]
      · simp only [if_neg hseen]
        rw [suitable_iff ho c]
        cases hset : c.set? o j with
        | none => simp
        | some c' =>
          simp only [ih, Option.isSome_some, true_and, List.nodup_cons, List.forall_mem_cons]
          change _ ∧ (optionsOf members).Nodup ∧ _ ↔
            _ ∧ (o ∉ optionsOf members ∧ (optionsOf members).Nodup) ∧ o ∉ seen ∧
              ∀ o' ∈ optionsOf members, o' ∉ seen
          constructor
          · rintro ⟨hsuit, hnodup, hnew⟩
            have ho : o ∉ optionsOf members := fun hmem => hnew o hmem List.mem_cons_self
            exact ⟨hsuit, ⟨ho, hnodup⟩, hseen,
              fun o' ho' hmem => hnew o' ho' (List.mem_cons_of_mem _ hmem)⟩
          · rintro ⟨hsuit, ⟨ho, hnodup⟩, -, hnew⟩
            refine ⟨hsuit, hnodup, fun o' ho' hmem => ?_⟩
            rcases List.mem_cons.mp hmem with rfl | hmem
            · exact ho ho'
            · exact hnew o' ho' hmem

/-- A document is read exactly if each value suits its option and no option comes twice. -/
theorem isSome_ofMembers? : (ofMembers? members).isSome = true ↔
    (∀ member ∈ members, Suitable member) ∧ (optionsOf members).Nodup := by
  rw [ofMembers?, isSome_readMembers?]
  simp

/-- A document is refused exactly if its members cannot be read. -/
theorem isRefused_iff : IsRefused members ↔ ofMembers? members = none := by
  simp only [IsRefused, ofJson]
  cases ofMembers? members <;> simp

/-- A member alone is refused exactly if its value does not suit its option. -/
theorem isRefused_singleton : IsRefused [member] ↔ ¬Suitable member := by
  have hnodup : (optionsOf [member]).Nodup := by
    unfold optionsOf
    rw [List.filterMap_cons]
    split <;> simp
  rw [isRefused_iff, ← Option.not_isSome_iff_eq_none, isSome_ofMembers?]
  simp [hnodup]

/-- In a document without a key twice, an option comes twice exactly if it is given by both of its
names. -/
theorem nodup_optionsOf (h : (members.map (·.1)).Nodup) :
    (optionsOf members).Nodup ↔ ¬NamedTwice members := by
  have hoptions : optionsOf members = (members.map (·.1)).filterMap ofKey? := by
    rw [optionsOf, List.filterMap_map]
    rfl
  rw [hoptions, List.Nodup, List.pairwise_filterMap]
  constructor
  · rintro hpairwise ⟨o, key, hkey, hname, hsecond⟩
    have : Std.Symm fun k k' : String =>
        ∀ o, ofKey? k = some o → ∀ o', ofKey? k' = some o' → o ≠ o' :=
      ⟨fun k k' hne o ho o' ho' heq => hne o' ho' o ho heq.symm⟩
    obtain ⟨ho, ho', hne⟩ := RuleOption.ofKey?_names hkey
    exact hpairwise.forall hname hsecond hne o ho o ho' rfl
  · intro hnot
    refine List.Pairwise.imp_of_mem (fun {k k'} hk hk' hne o ho o' ho' => ?_) h
    rintro rfl
    rcases RuleOption.name_or_secondName ho with rfl | hsecond
    · rcases RuleOption.name_or_secondName ho' with rfl | hsecond'
      · exact hne rfl
      · exact hnot ⟨o, k', hsecond', hk, hk'⟩
    · rcases RuleOption.name_or_secondName ho' with rfl | hsecond'
      · exact hnot ⟨o, k, hsecond, hk', hk⟩
      · exact hne (Option.some.inj (hsecond.symm.trans hsecond'))

/-- A document without a key twice is refused exactly if one of its members is refused alone, or an
option is given by both of its names. -/
theorem isRefused_iff_alone (h : (members.map (·.1)).Nodup) :
    IsRefused members ↔ (∃ member ∈ members, IsRefused [member]) ∨ NamedTwice members := by
  rw [isRefused_iff, ← Option.not_isSome_iff_eq_none, isSome_ofMembers?, nodup_optionsOf h,
    not_and_or, not_not]
  simp only [isRefused_singleton, not_forall, exists_prop]

/-! ## What is blamed -/

/-- Whether a key is that of the first member that is refused where it stands alone. -/
def IsFirstRefused (members : List (String × Json)) (key : String) : Prop :=
  ∃ before value after, members = before ++ (key, value) :: after ∧ IsRefused [(key, value)] ∧
    ∀ member ∈ before, ¬IsRefused [member]

/-- The key that is found to be refused is that of the first member that is refused alone. -/
theorem refusedKey?_eq_some {key : String} (h : refusedKey? members = some key) :
    IsFirstRefused members key := by
  obtain ⟨member, hfind, rfl⟩ := Option.map_eq_some_iff.mp h
  obtain ⟨hrefused, before, after, hmembers, hbefore⟩ := List.find?_eq_some_iff_append.mp hfind
  refine ⟨before, member.2, after, hmembers, ?_, fun other hother => ?_⟩
  · rw [isRefused_iff, ← Option.isNone_iff_eq_none]
    exact hrefused
  · rw [isRefused_iff, ← Option.isNone_iff_eq_none]
    simpa [Option.isSome_iff_ne_none] using hbefore other hother

/-- If no key is found to be refused, no member is refused alone. -/
theorem refusedKey?_eq_none (h : refusedKey? members = none) :
    ∀ member ∈ members, ¬IsRefused [member] := by
  intro member hmember
  have hnone := List.find?_eq_none.mp (Option.map_eq_none_iff.mp h) member hmember
  rw [isRefused_iff, ← Option.isNone_iff_eq_none]
  exact hnone

/-- A document is refused exactly if one of its members is refused where it stands alone, or an
option is given by both of its names. It is blamed on the first member that is refused alone. If
there is none, so that only the two names clash, no member is to blame, and the document is blamed
as a whole. -/
theorem refused_document_blamed (h : (members.map (·.1)).Nodup) :
    (IsRefused members ↔ (∃ member ∈ members, IsRefused [member]) ∨ NamedTwice members) ∧
    ∀ fault, ofJson (.object members) = .error fault →
      IsFirstRefused members fault.option ∨
      (∀ member ∈ members, ¬IsRefused [member]) ∧ NamedTwice members ∧
        fault.option = wholeDocument := by
  refine ⟨isRefused_iff_alone h, fun fault hfault => ?_⟩
  have hrefused : IsRefused members := ⟨fault, hfault⟩
  have hoption : fault.option = (refusedKey? members).getD wholeDocument := by
    simp only [ofJson, isRefused_iff.mp hrefused, Except.error.injEq] at hfault
    exact congrArg ConfigFault.option hfault.symm
  cases hkey : refusedKey? members with
  | some key =>
    rw [hoption, hkey]
    exact .inl (refusedKey?_eq_some hkey)
  | none =>
    have halone := refusedKey?_eq_none hkey
    refine .inr ⟨halone, ?_, by rw [hoption, hkey]; rfl⟩
    refine ((isRefused_iff_alone h).mp hrefused).resolve_left ?_
    rintro ⟨member, hmember, hmember'⟩
    exact halone member hmember hmember'

/-- A document with two members that are refused alone, and with both names of an option. -/
def severalFaults : List (String × Json) :=
  [("comment", .bool true), ("drop_messages", .array [.string "swap"]), ("add_field_if", .null),
    ("rename_messages", .object [("disk", .bool true)]), ("add_fields_if", .array []),
    ("drop_messages_if", .string "*")]

/-- It is blamed on the first of the two. -/
theorem refused_document_blamed_severalFaults :
    (severalFaults.map (·.1)).Nodup ∧ NamedTwice severalFaults ∧
    ∃ fault, ofJson (.object severalFaults) = .error fault ∧ fault.option = "rename_messages" ∧
      IsFirstRefused severalFaults fault.option := by
  have hnodup : (severalFaults.map (·.1)).Nodup := by decide
  have hnamed : NamedTwice severalFaults :=
    ⟨.edit (.add .fields), "add_field_if", rfl, by decide, by decide⟩
  obtain ⟨hrefused, hblamed⟩ := refused_document_blamed hnodup
  obtain ⟨fault, hfault⟩ := hrefused.mpr (.inr hnamed)
  have hoption : fault.option = "rename_messages" := by
    have hkey : ((ofJson (.object severalFaults)).fault?.map ConfigFault.option) =
        some "rename_messages" := by decide +kernel
    rw [hfault] at hkey
    exact Option.some.inj hkey
  have hother : fault.option ≠ wholeDocument := by
    rw [hoption]
    decide
  exact ⟨hnodup, hnamed, fault, hfault, hoption,
    (hblamed fault hfault).resolve_right fun h => hother h.2.2⟩

/-- Both names of an option make a document refused, neither of them is refused alone, and what is
blamed is no key of the document. -/
theorem refused_document_bothNames :
    let members := [("add_field_if", Json.array []), ("add_fields_if", Json.array [])]
    Json.read? "\x7b\"add_field_if\":[],\"add_fields_if\":[]\x7d" = some (.object members) ∧
    ofJson (.object members) = .error ⟨"<document>", .unsuitable⟩ ∧
    "<document>" ∉ members.map (·.1) ∧ ∀ member ∈ members, ¬IsRefused [member] := by
  intro members
  have hcompact : "\x7b\"add_field_if\":[],\"add_fields_if\":[]\x7d" =
      (Json.object members).compact := by decide +kernel
  have hread : Json.read? "\x7b\"add_field_if\":[],\"add_fields_if\":[]\x7d" =
      some (.object members) := by
    rw [hcompact, Json.read?, Json.read?_compact]
    rfl
  refine ⟨hread, rfl, by decide, fun member hmember => ?_⟩
  rw [isRefused_iff, ← Option.isNone_iff_eq_none]
  rcases List.mem_cons.mp hmember with rfl | hmember
  · decide
  · obtain rfl := List.mem_singleton.mp hmember
    decide

end RuleConfig

end Telemetry
