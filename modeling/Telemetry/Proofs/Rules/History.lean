import Mathlib.Data.List.Induction
import Mathlib.Data.List.Nodup
import Telemetry.KeyMap
import Telemetry.Rules.Rule

/-!
# Histories of rules

The rules of a list are registered and taken back over time. At any time the list holds the rules
that were registered last and not taken back since, by the age of their conditions. It is a map from
conditions to rules that lists its entries in the order of insertion.
-/

namespace Telemetry

/-- What happens to the rules of a list. -/
inductive Registration (α : Type) where
  /-- A rule is registered. -/
  | put (r : Rule α)
  /-- The rule of a condition is taken back. -/
  | take (source : String)

namespace Registration

variable {α : Type}

/-- The condition whose rule is registered or taken back. -/
def source : Registration α → String
  | put r => r.source
  | take source => source

/-- The rules after a registration. -/
def applyTo (rules : List (Rule α)) : Registration α → List (Rule α)
  | put r => Rules.upsert r rules
  | take source => Rules.remove source rules

end Registration

/-! ## Maps in order of insertion -/

/-- A map from texts that lists its entries by age: an entry keeps its age when its value is
replaced. Every key is listed once. -/
structure OrderedMap (α : Type) where
  keys : List String
  entries : KeyMap α
  nodup : keys.Nodup
  mem_keys : ∀ key, key ∈ keys ↔ key ∈ entries

namespace OrderedMap

variable {α : Type}

/-- No entries. -/
def empty : OrderedMap α := ⟨[], ∅, List.nodup_nil, by simp⟩

/-- The map with an entry, which is the youngest if it is new. -/
def insert (m : OrderedMap α) (key : String) (v : α) : OrderedMap α where
  keys := if key ∈ m.keys then m.keys else m.keys ++ [key]
  entries := m.entries.insert key v
  nodup := by
    split
    · exact m.nodup
    · rename_i hkey
      exact List.Nodup.append m.nodup (List.nodup_singleton key) (by simpa using hkey)
  mem_keys other := by
    rw [Std.ExtTreeMap.mem_insert, Std.LawfulEqCmp.compare_eq_iff_eq, ← m.mem_keys]
    split
    · rename_i hkey
      exact ⟨.inr, fun h => h.elim (fun heq => heq ▸ hkey) id⟩
    · rw [List.mem_append, List.mem_singleton, or_comm, eq_comm]

/-- The map without an entry. -/
def erase (m : OrderedMap α) (key : String) : OrderedMap α where
  keys := m.keys.erase key
  entries := m.entries.erase key
  nodup := m.nodup.erase key
  mem_keys other := by
    rw [List.Nodup.mem_erase_iff m.nodup, Std.ExtTreeMap.mem_erase, ne_eq, ne_eq,
      Std.LawfulEqCmp.compare_eq_iff_eq, m.mem_keys, eq_comm]

/-- The values of the entries by their age. -/
def values (m : OrderedMap α) : List α := m.keys.filterMap (m.entries[·]?)

/-- The map after rules were registered and taken back, with their conditions as keys. -/
def ofHistory (h : List (Registration α)) : OrderedMap (Rule α) :=
  h.foldl (fun m x =>
    match x with
    | .put r => m.insert r.source r
    | .take source => m.erase source) empty

end OrderedMap

/-! ## Lists of rules -/

namespace Rules

variable {α : Type}

/-- A rule takes the place of the one with the same condition, or the last place. -/
theorem sources_upsert (r : Rule α) (rules : List (Rule α)) :
    (upsert r rules).map Rule.source =
      if r.source ∈ rules.map Rule.source then rules.map Rule.source
      else rules.map Rule.source ++ [r.source] := by
  induction rules with
  | nil => rfl
  | cons first rules ih =>
    rw [upsert]
    by_cases hfirst : first.source = r.source
    · simp [hfirst]
    · have hne : r.source ≠ first.source := fun h => hfirst h.symm
      simp only [beq_iff_eq, hfirst, if_false, List.map_cons, ih, List.mem_cons, hne, false_or]
      split <;> rfl

/-- A removal takes the condition out of the list of conditions, and no other one. -/
theorem sources_remove (source : String) (rules : List (Rule α)) :
    (remove source rules).map Rule.source = (rules.map Rule.source).filter (· != source) := by
  rw [remove, List.filter_map]
  rfl

/-- A rule that is put into a list is there, with the rules of other conditions. -/
theorem mem_upsert {r : Rule α} {rules : List (Rule α)} (h : (rules.map Rule.source).Nodup)
    {x : Rule α} : x ∈ upsert r rules ↔ x = r ∨ (x ∈ rules ∧ x.source ≠ r.source) := by
  induction rules with
  | nil => simp [upsert]
  | cons first rules ih =>
    obtain ⟨hfirst, hrules⟩ := List.nodup_cons.mp h
    rw [upsert]
    by_cases heq : first.source = r.source
    · have hother : x ∈ rules → x.source ≠ r.source := fun hx hs =>
        hfirst (heq.trans hs.symm ▸ List.mem_map_of_mem hx)
      simp only [heq, beq_self_eq_true, if_true, List.mem_cons]
      constructor
      · rintro (rfl | hx)
        · exact .inl rfl
        · exact .inr ⟨.inr hx, hother hx⟩
      · rintro (rfl | ⟨rfl | hx, hs⟩)
        · exact .inl rfl
        · exact absurd heq hs
        · exact .inr hx
    · simp only [beq_iff_eq, heq, if_false, List.mem_cons, ih hrules]
      constructor
      · rintro (rfl | rfl | ⟨hx, hs⟩)
        · exact .inr ⟨.inl rfl, heq⟩
        · exact .inl rfl
        · exact .inr ⟨.inr hx, hs⟩
      · rintro (rfl | ⟨rfl | hx, hs⟩)
        · exact .inr (.inl rfl)
        · exact .inl rfl
        · exact .inr (.inr ⟨hx, hs⟩)

/-- A removal leaves the rules of other conditions. -/
theorem mem_remove {source : String} {rules : List (Rule α)} {x : Rule α} :
    x ∈ remove source rules ↔ x ∈ rules ∧ x.source ≠ source := by
  simp [remove]

end Rules

/-! ## What stands after a history -/

section History

variable {α : Type} {h : List (Registration α)} {x : Registration α} {r : Rule α} {source : String}
  {i : Nat}

/-- The last that happened to the condition of a rule is that the rule was registered. -/
def Standing (h : List (Registration α)) (r : Rule α) : Prop :=
  ∃ before after, h = before ++ .put r :: after ∧ ∀ x ∈ after, x.source ≠ r.source

/-- A condition has had a rule since a place of the history: its first registration since the rule
was last taken back. -/
def StandsSince (h : List (Registration α)) (source : String) (i : Nat) : Prop :=
  ∃ before r after, h = before ++ .put r :: after ∧ before.length = i ∧ r.source = source ∧
    (∀ r', Standing before r' → r'.source ≠ source) ∧ .take source ∉ after

/-- One more registration puts its own rule, and takes back or replaces the rule of its
condition. -/
theorem standing_concat :
    Standing (h ++ [x]) r ↔ x = .put r ∨ (Standing h r ∧ x.source ≠ r.source) := by
  constructor
  · rintro ⟨before, after, heq, hafter⟩
    rcases List.eq_nil_or_concat after with rfl | ⟨after, y, rfl⟩
    · obtain ⟨-, hx⟩ := List.append_inj' heq rfl
      exact .inl (List.singleton_inj.mp hx)
    · rw [List.concat_eq_append, ← List.cons_append, ← List.append_assoc] at heq
      obtain ⟨rfl, hx⟩ := List.append_inj' heq rfl
      obtain rfl := List.singleton_inj.mp hx
      exact .inr ⟨⟨before, after, rfl, fun z hz => hafter z (by simp [hz])⟩, hafter x (by simp)⟩
  · rintro (rfl | ⟨⟨before, after, rfl, hafter⟩, hx⟩)
    · exact ⟨h, [], rfl, by simp⟩
    · refine ⟨before, after ++ [x], by simp, fun z hz => ?_⟩
      rcases List.mem_append.mp hz with hz | hz
      · exact hafter z hz
      · exact List.mem_singleton.mp hz ▸ hx

/-- One more registration leaves a place as it is, unless it takes the condition back; a condition
without a rule gets the place behind all others. -/
theorem standsSince_concat :
    StandsSince (h ++ [x]) source i ↔
      (StandsSince h source i ∧ x ≠ .take source) ∨
        (i = h.length ∧ (∃ r, x = .put r ∧ r.source = source) ∧
          ∀ r, Standing h r → r.source ≠ source) := by
  constructor
  · rintro ⟨before, r, after, heq, rfl, rfl, hbefore, hafter⟩
    rcases List.eq_nil_or_concat after with rfl | ⟨after, y, rfl⟩
    · obtain ⟨rfl, hx⟩ := List.append_inj' heq rfl
      exact .inr ⟨rfl, ⟨r, List.singleton_inj.mp hx, rfl⟩, hbefore⟩
    · rw [List.concat_eq_append, ← List.cons_append, ← List.append_assoc] at heq
      obtain ⟨rfl, hx⟩ := List.append_inj' heq rfl
      obtain rfl := List.singleton_inj.mp hx
      simp only [List.concat_eq_append, List.mem_append, List.mem_singleton, not_or] at hafter
      exact .inl ⟨⟨before, r, after, rfl, rfl, rfl, hbefore, hafter.1⟩, fun hx => hafter.2 hx.symm⟩
  · rintro (⟨⟨before, r, after, rfl, rfl, rfl, hbefore, hafter⟩, hx⟩ |
      ⟨rfl, ⟨r, rfl, rfl⟩, hbefore⟩)
    · refine ⟨before, r, after ++ [x], by simp, rfl, rfl, hbefore, ?_⟩
      simp only [List.mem_append, List.mem_singleton, not_or]
      exact ⟨hafter, fun heq => hx heq.symm⟩
    · exact ⟨h, r, [], rfl, rfl, rfl, hbefore, by simp⟩

/-- A place in a history lies before its end. -/
theorem StandsSince.lt_length (hi : StandsSince h source i) : i < h.length := by
  obtain ⟨before, r, after, rfl, rfl, -⟩ := hi
  simp

/-- A condition that has had a rule since a place has one. -/
theorem StandsSince.standing (hi : StandsSince h source i) :
    ∃ r, Standing h r ∧ r.source = source := by
  induction h using List.reverseRecOn with
  | nil => exact absurd hi.lt_length (by simp)
  | append_singleton h x ih =>
    rcases standsSince_concat.mp hi with ⟨hi, hx⟩ | ⟨-, ⟨r, rfl, hr⟩, -⟩
    · obtain ⟨r, hr, rfl⟩ := ih hi
      by_cases hsource : x.source = r.source
      · cases x with
        | put r' => exact ⟨r', standing_concat.mpr (.inl rfl), hsource⟩
        | take source => exact absurd (congrArg Registration.take hsource) hx
      · exact ⟨r, standing_concat.mpr (.inr ⟨hr, hsource⟩), rfl⟩
    · exact ⟨r, standing_concat.mpr (.inl rfl), hr⟩

end History

/-! ## Lists that follow a history -/

/-- What a list of rules is after a history: each condition is there once, the rules are those that
stand, they are listed by the age of their conditions, and the map of the history has the same. -/
structure Follows {α : Type} (rules : List (Rule α)) (h : List (Registration α)) : Prop where
  distinct : (rules.map Rule.source).Nodup
  standing : ∀ r, r ∈ rules ↔ Standing h r
  since : ∀ r ∈ rules, ∃ i, StandsSince h r.source i
  order : (rules.map Rule.source).Pairwise fun source source' =>
    ∀ i j, StandsSince h source i → StandsSince h source' j → i < j
  reference : rules = (OrderedMap.ofHistory h).values

/-- Whether a map lists the conditions of rules in the order of the rules, and has these rules. -/
structure OrderedMap.Lists {α : Type} (m : OrderedMap (Rule α)) (rules : List (Rule α)) : Prop where
  keys : rules.map Rule.source = m.keys
  entries : ∀ r ∈ rules, m.entries[r.source]? = some r

namespace OrderedMap.Lists

variable {α : Type} {m : OrderedMap (Rule α)} {rules : List (Rule α)}

/-- The rules of a list are the values of the ordered map that it lists. -/
theorem eq_values (h : m.Lists rules) : rules = m.values := by
  rw [values, ← h.keys, List.filterMap_map]
  exact (List.filterMap_some.symm.trans (List.filterMap_congr fun r hr => (h.entries r hr).symm))

/-- A list of an ordered map has no condition twice. -/
theorem nodup (h : m.Lists rules) : (rules.map Rule.source).Nodup := h.keys ▸ m.nodup

/-- A rule that is put into a list is an entry of the map. -/
theorem upsert (h : m.Lists rules) (r : Rule α) :
    (m.insert r.source r).Lists (Rules.upsert r rules) where
  keys := by rw [Rules.sources_upsert, h.keys, insert]
  entries x hx := by
    simp only [insert, Std.ExtTreeMap.getElem?_insert, Std.LawfulEqCmp.compare_eq_iff_eq]
    rcases (Rules.mem_upsert h.nodup).mp hx with rfl | ⟨hx, hne⟩
    · rw [if_pos rfl]
    · rw [if_neg fun heq => hne heq.symm, h.entries x hx]

/-- A rule that is taken out of a list is no entry of the map. -/
theorem remove (h : m.Lists rules) (source : String) :
    (m.erase source).Lists (Rules.remove source rules) where
  keys := by
    rw [Rules.sources_remove, h.keys]
    exact (List.Nodup.erase_eq_filter m.nodup source).symm
  entries x hx := by
    obtain ⟨hx, hne⟩ := Rules.mem_remove.mp hx
    simp only [erase, Std.ExtTreeMap.getElem?_erase, Std.LawfulEqCmp.compare_eq_iff_eq]
    rw [if_neg fun heq => hne heq.symm, h.entries x hx]

end OrderedMap.Lists

variable {α : Type}

/-- The map of a history lists the rules after the history. -/
theorem ofHistory_lists (h : List (Registration α)) :
    (OrderedMap.ofHistory h).Lists (h.foldl Registration.applyTo []) := by
  induction h using List.reverseRecOn with
  | nil => exact ⟨rfl, by simp⟩
  | append_singleton h x ih =>
    rw [OrderedMap.ofHistory, List.foldl_append, List.foldl_append]
    cases x with
    | put r => exact ih.upsert r
    | take source => exact ih.remove source

/-- The rules after a history are those that stand. -/
theorem mem_foldl_applyTo (h : List (Registration α)) (r : Rule α) :
    r ∈ h.foldl Registration.applyTo [] ↔ Standing h r := by
  induction h using List.reverseRecOn with
  | nil => simp [Standing]
  | append_singleton h x ih =>
    rw [standing_concat, ← ih, List.foldl_append]
    cases x with
    | put r' =>
      rw [List.foldl_cons, List.foldl_nil, Registration.applyTo,
        Rules.mem_upsert (ofHistory_lists h).nodup, Registration.put.injEq, eq_comm, ne_comm,
        Registration.source]
    | take source =>
      rw [List.foldl_cons, List.foldl_nil, Registration.applyTo, Rules.mem_remove, ne_comm,
        Registration.source]
      simp

/-- The conditions of a list are those with a rule that stands. -/
theorem mem_sources_iff (h : List (Registration α)) (source : String) :
    source ∈ (h.foldl Registration.applyTo []).map Rule.source ↔
      ∃ r, Standing h r ∧ r.source = source := by
  simp only [List.mem_map, mem_foldl_applyTo]

/-- The conditions of the rules after a history are listed by age. -/
theorem pairwise_foldl_applyTo (h : List (Registration α)) :
    ((h.foldl Registration.applyTo []).map Rule.source).Pairwise fun source source' =>
      ∀ i j, StandsSince h source i → StandsSince h source' j → i < j := by
  induction h using List.reverseRecOn with
  | nil => exact List.Pairwise.nil
  | append_singleton h x ih =>
    -- conditions that had rules before the last registration have kept their age
    have hkept : ∀ source ∈ (h.foldl Registration.applyTo []).map Rule.source,
        ∀ i, StandsSince (h ++ [x]) source i → StandsSince h source i := by
      intro source hsource i hi
      obtain ⟨r, hr, rfl⟩ := (mem_sources_iff h source).mp hsource
      rcases standsSince_concat.mp hi with ⟨hi, -⟩ | ⟨-, -, hnew⟩
      · exact hi
      · exact absurd rfl (hnew r hr)
    have hold : ((h.foldl Registration.applyTo []).map Rule.source).Pairwise fun source source' =>
        ∀ i j, StandsSince (h ++ [x]) source i → StandsSince (h ++ [x]) source' j → i < j :=
      ih.imp_of_mem fun hsource hsource' hlt i j hi hj =>
        hlt i j (hkept _ hsource i hi) (hkept _ hsource' j hj)
    rw [List.foldl_append, List.foldl_cons, List.foldl_nil]
    cases x with
    | take source =>
      rw [Registration.applyTo, Rules.sources_remove]
      exact hold.filter _
    | put r =>
      rw [Registration.applyTo, Rules.sources_upsert]
      split
      · exact hold
      · rename_i hnew
        refine List.pairwise_append.mpr ⟨hold, List.pairwise_singleton _ _, ?_⟩
        intro source hsource source' hsource' i j hi hj
        obtain rfl := List.mem_singleton.mp hsource'
        rcases standsSince_concat.mp hj with ⟨hj, -⟩ | ⟨rfl, -, -⟩
        · exact absurd ((mem_sources_iff h r.source).mpr hj.standing) hnew
        · exact (hkept source hsource i hi).lt_length

/-- A rule that stands has stood since a place of the history. -/
theorem Standing.since {h : List (Registration α)} {r : Rule α} (hr : Standing h r) :
    ∃ i, StandsSince h r.source i := by
  induction h using List.reverseRecOn generalizing r with
  | nil => simp [Standing] at hr
  | append_singleton h x ih =>
    rcases standing_concat.mp hr with rfl | ⟨hr, hx⟩
    · by_cases hnew : ∃ r', Standing h r' ∧ r'.source = r.source
      · obtain ⟨r', hr', hsource⟩ := hnew
        obtain ⟨i, hi⟩ := ih hr'
        exact ⟨i, standsSince_concat.mpr (.inl ⟨hsource ▸ hi, by simp⟩)⟩
      · refine ⟨h.length, standsSince_concat.mpr (.inr ⟨rfl, ⟨r, rfl, rfl⟩, ?_⟩)⟩
        exact fun r' hr' hsource => hnew ⟨r', hr', hsource⟩
    · obtain ⟨i, hi⟩ := ih hr
      refine ⟨i, standsSince_concat.mpr (.inl ⟨hi, ?_⟩)⟩
      rintro rfl
      exact hx rfl

/-- The rules after a history follow it. -/
theorem foldl_applyTo_follows (h : List (Registration α)) :
    Follows (h.foldl Registration.applyTo []) h where
  distinct := (ofHistory_lists h).nodup
  standing := mem_foldl_applyTo h
  since r hr := ((mem_foldl_applyTo h r).mp hr).since
  order := pairwise_foldl_applyTo h
  reference := (ofHistory_lists h).eq_values

end Telemetry
