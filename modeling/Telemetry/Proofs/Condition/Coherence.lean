import Telemetry.Condition.Program
import Telemetry.Condition.Snapshot
import Telemetry.Proofs.Distinct

/-!
# What the views of a message show

A condition reaches an entry of a part of the message by a member, by a constant or computed index,
by `in`, or through the whole part. Scopes have shortcuts for some of these, and each goes its own
way to the message. They all show the entries of the whole part, but for members of the message
itself: these have names under which the whole message has no entries.
-/

namespace Telemetry

namespace KeyMap

variable {α : Type}

/-- The list of a map has the entries of the map. -/
theorem lookup_toList (map : KeyMap α) (key : String) : map.toList.lookup key = map[key]? := by
  have hnodup : (map.toList.map (·.1)).Nodup := by
    rw [Std.ExtTreeMap.map_fst_toList_eq_keys]
    exact Std.ExtTreeMap.nodup_keys
  apply Option.ext
  intro x
  rw [lookup_eq_some_iff hnodup, Std.ExtTreeMap.mem_toList_iff_getElem?_eq_some]

end KeyMap

namespace Condition

/-- The key under which the whole part has what a member of this name is. -/
def Variable.entryKey : Variable → String → String
  | .message, "messagetype" => "type"
  | .message, "time" => "timestamp"
  | .message, "tag" => "tags"
  | .message, "field" => "fields"
  | _, key => key

/-- The parts of the message that are maps. -/
def Variable.maps : List Variable := [.tags, .metadata, .fields, .message]

namespace Snapshot

variable (s : Snapshot)

/-- The entries of a part of the message that is a map. -/
def entries : Variable → KeyMap Value
  | .tags => s.maps.tags.map fun _ t => .text t
  | .metadata => s.maps.metadata.map fun _ t => .text t
  | .fields => s.message.fields.map fun _ v => .ofField v
  | .message => KeyMap.ofEntries
    [("name", s.part .name), ("type", s.part .type), ("timestamp", s.part .timestamp),
      ("tags", s.part .tags), ("meta", s.part .metadata), ("fields", s.part .fields)]
  | _ => ∅

/-- A variable with entries stands for the map of them. -/
theorem value_eq_entries {v : Variable} (hv : v ∈ Variable.maps) :
    s.value v = .map (s.entries v).toList := by
  simp only [Variable.maps, List.mem_cons, List.not_mem_nil, or_false] at hv
  rcases hv with rfl | rfl | rfl | rfl <;> rfl

/-- The whole message has six entries. -/
theorem getElem?_message (key : String) :
    (s.entries .message)[key]? =
      if key = "fields" then some (s.part .fields)
      else if key = "meta" then some (s.part .metadata)
      else if key = "tags" then some (s.part .tags)
      else if key = "timestamp" then some (s.part .timestamp)
      else if key = "type" then some (s.part .type)
      else if key = "name" then some (s.part .name)
      else none := by
  simp only [entries, KeyMap.ofEntries, List.foldl_cons, List.foldl_nil,
    Std.ExtTreeMap.getElem?_insert, Std.LawfulEqCmp.compare_eq_iff_eq, eq_comm (b := key),
    Std.ExtTreeMap.getElem?_empty]

/-- A member of the message is an entry of the whole message, under another name perhaps. -/
theorem messageMember_eq (key : String) :
    s.messageMember key = ((s.entries .message)[Variable.message.entryKey key]?).getD .nil := by
  unfold messageMember
  split
  case h_11 => simp_all [getElem?_message, Variable.entryKey]
  all_goals
    rw [getElem?_message]
    rfl

/-- The entry of a key, as a snapshot finds it, is that of the map; a key that is not there stands
for nil. -/
theorem entry?_eq {v : Variable} (hv : v ∈ Variable.maps) (key : String) :
    s.entry? v key = some (((s.entries v)[v.entryKey key]?).getD .nil) := by
  simp only [Variable.maps, List.mem_cons, List.not_mem_nil, or_false] at hv
  rcases hv with rfl | rfl | rfl | rfl
  · simp [ entry?, entries, Variable.entryKey]
  · simp [ entry?, entries, Variable.entryKey]
  · simp [ entry?, entries, Variable.entryKey]
  · exact congrArg some (s.messageMember_eq key)

/-- Whether a snapshot has an entry, where it can tell without the map, is whether the map has
one. -/
theorem hasEntry?_eq {v : Variable} (hv : v ∈ Variable.maps) {key : String} {found : Bool}
    (h : s.hasEntry? v key = some found) : found = ((s.entries v)[key]?).isSome := by
  simp only [Variable.maps, List.mem_cons, List.not_mem_nil, or_false] at hv
  rcases hv with rfl | rfl | rfl | rfl
  · cases h
    simp [entries]
  · cases h
    simp [entries]
  · cases h
    simp [entries]
  · cases h

/-- No part of the message has an entry without a value. -/
theorem isNil_of_getElem? {v : Variable} {key : String} {x : Value}
    (h : (s.entries v)[key]? = some x) : x.isNil = false := by
  cases v with
  | tags | metadata =>
    simp only [entries, Std.ExtTreeMap.getElem?_map, Option.map_eq_some_iff] at h
    obtain ⟨t, -, rfl⟩ := h
    rfl
  | fields =>
    simp only [entries, Std.ExtTreeMap.getElem?_map, Option.map_eq_some_iff] at h
    obtain ⟨field, -, rfl⟩ := h
    cases field with
    | uint n =>
      unfold Value.ofField
      dsimp only
      split <;> rfl
    | _ => rfl
  | message =>
    rw [getElem?_message] at h
    iterate 6
      split at h
      · cases h
        rfl
    cases h
  | _ => simp [entries] at h

/-! ## Conditions -/

variable {s} {v : Variable} {key : String} {patterns : Pattern.Engine}

/-- A variable evaluates to the map of its entries. -/
theorem eval_variable (hv : v ∈ Variable.maps) :
    (Node.variable v).eval patterns s.scope = .ok (.map (s.entries v).toList) := by
  rw [Node.eval]
  exact congrArg _ (s.value_eq_entries hv)

/-- A member evaluates to the entry of its key, in the form in which the entries have it. -/
theorem eval_member (hv : v ∈ Variable.maps) (key : String) (optional : Bool) :
    (Node.member (.variable v) key optional).eval patterns s.scope =
      .ok (((s.entries v)[v.entryKey key]?).getD .nil) := by
  have hshortcut : Node.shortcut? s.scope (.variable v) key = s.entry? v key := rfl
  rw [Node.eval, hshortcut, s.entry?_eq hv]

/-- An index that is a text evaluates to the entry of this very key. -/
theorem eval_index (hv : v ∈ Variable.maps) {position : Node}
    (hposition : position.eval patterns s.scope = .ok (.text key)) :
    (Node.index (.variable v) position).eval patterns s.scope =
      .ok (((s.entries v)[key]?).getD .nil) := by
  rw [Node.eval, eval_variable hv, hposition, ← KeyMap.lookup_toList]
  rfl

/-- Whether a text is a key of the part is found by the shortcut or, without one, in the part. -/
private theorem membership_cases (hv : v ∈ Variable.maps) (key : String) :
    Node.membership? s.scope (.variable v) (.text key) = some ((s.entries v)[key]?).isSome ∨
      Node.membership? s.scope (.variable v) (.text key) = none ∧
        (Value.text key).isIn (s.scope.value v) = .ok ((s.entries v)[key]?).isSome := by
  have hshortcut : Node.membership? s.scope (.variable v) (.text key) = s.hasEntry? v key := rfl
  have hvalue : s.scope.value v = .map (s.entries v).toList := s.value_eq_entries hv
  rw [hshortcut, hvalue, ← KeyMap.lookup_toList]
  cases hfound : s.hasEntry? v key with
  | none => exact .inr ⟨rfl, rfl⟩
  | some found =>
    rw [s.hasEntry?_eq hv hfound, KeyMap.lookup_toList]
    exact .inl rfl

/-- The search for a key in a variable finds out whether there is an entry, by the shortcut and
without it. -/
theorem eval_isIn (hv : v ∈ Variable.maps) {needle : Node}
    (hneedle : needle.eval patterns s.scope = .ok (.text key)) :
    (Node.binary .isIn needle (.variable v)).eval patterns s.scope =
      .ok (.bool ((s.entries v)[key]?).isSome) := by
  rcases membership_cases (s := s) hv key with hshortcut | ⟨hshortcut, hwhole⟩
  · simp only [Node.eval, hneedle, bind, Except.bind, hshortcut]
    rfl
  · simp only [Node.eval, hneedle, bind, Except.bind, hshortcut, hwhole]
    rfl

/-- The search for the lack of a key is the opposite of the search for the key. -/
theorem eval_notIn (hv : v ∈ Variable.maps) {needle : Node}
    (hneedle : needle.eval patterns s.scope = .ok (.text key)) :
    (Node.binary .notIn needle (.variable v)).eval patterns s.scope =
      .ok (.bool !((s.entries v)[key]?).isSome) := by
  rcases membership_cases (s := s) hv key with hshortcut | ⟨hshortcut, hwhole⟩
  · simp only [Node.eval, hneedle, bind, Except.bind, hshortcut]
    rfl
  · simp only [Node.eval, hneedle, bind, Except.bind, hshortcut, hwhole]
    rfl

/-- What the views of a part of the message show, by the entries of the whole part. -/
structure Shows (s : Snapshot) (v : Variable) (entries : List (String × Value)) : Prop where
  value : s.value v = .map entries
  present : ∀ key x, entries.lookup key = some x → x.isNil = false
  entry : ∀ key, s.entry? v key = some ((entries.lookup (v.entryKey key)).getD .nil)
  hasEntry : ∀ key found, s.hasEntry? v key = some found → found = (entries.lookup key).isSome
  member : ∀ patterns key optional,
    (Node.member (.variable v) key optional).eval patterns s.scope =
      .ok ((entries.lookup (v.entryKey key)).getD .nil)
  /-- A constant index is a member. -/
  constantIndex : ∀ key t, Node.ofIndex (.variable v) v.staticType (.constant (.text key)) t =
    Node.ofMember (.variable v) v.staticType key false
  index : ∀ patterns key (position : Node), position.eval patterns s.scope = .ok (.text key) →
    (Node.index (.variable v) position).eval patterns s.scope =
      .ok ((entries.lookup key).getD .nil)
  isIn : ∀ patterns key (needle : Node), needle.eval patterns s.scope = .ok (.text key) →
    (Node.binary .isIn needle (.variable v)).eval patterns s.scope =
      .ok (.bool (entries.lookup key).isSome)
  notIn : ∀ patterns key (needle : Node), needle.eval patterns s.scope = .ok (.text key) →
    (Node.binary .notIn needle (.variable v)).eval patterns s.scope =
      .ok (.bool !(entries.lookup key).isSome)

/-- The views of a part of the message show its entries. -/
theorem shows_of_maps (hv : v ∈ Variable.maps) : s.Shows v (s.entries v).toList := by
  have hmap : v.staticType = .only .map := by
    simp only [Variable.maps, List.mem_cons, List.not_mem_nil, or_false] at hv
    rcases hv with rfl | rfl | rfl | rfl <;> rfl
  constructor
  case value => exact s.value_eq_entries hv
  case constantIndex =>
    intro key t
    rw [hmap]
    rfl
  all_goals simp only [KeyMap.lookup_toList]
  case present => exact fun key x => s.isNil_of_getElem?
  case entry => exact s.entry?_eq hv
  case hasEntry => exact fun key found => s.hasEntry?_eq hv
  case member => exact fun _ key => eval_member hv key
  case index => exact fun _ key position => eval_index hv
  case isIn => exact fun _ key needle => eval_isIn hv
  case notIn => exact fun _ key needle => eval_notIn hv

/-- All views of a part of the message show the same entries: a computed index and `in` the one of
the key, a member and a constant index the one that the name of the member stands for. That is the
one of the name, but for four members of the message itself. -/
theorem views_agree (s : Snapshot) {v : Variable} (hv : v ∈ Variable.maps) :
    ∃ entries, s.Shows v entries ∧ ∀ key, v.entryKey key = key ∨
      (v = .message ∧ key ∈ ["messagetype", "time", "tag", "field"] ∧
        entries.lookup key = none ∧ ∃ x, entries.lookup (v.entryKey key) = some x) := by
  refine ⟨_, shows_of_maps hv, fun key => ?_⟩
  simp only [KeyMap.lookup_toList]
  unfold Variable.entryKey
  split
  case h_5 => exact .inl rfl
  all_goals
    refine .inr ⟨rfl, by decide, ?_, ?_⟩
    · rw [getElem?_message]
      rfl
    · rw [getElem?_message]
      exact ⟨_, rfl⟩

/-- The views of a whole message without entries. -/
theorem views_agree_message : Variable.message ∈ Variable.maps ∧
    ∃ entries, (ofMessage .ascending .empty).Shows .message entries ∧
      ∀ key, Variable.message.entryKey key = key ∨
        (Variable.message = .message ∧ key ∈ ["messagetype", "time", "tag", "field"] ∧
          entries.lookup key = none ∧
          ∃ x, entries.lookup (Variable.message.entryKey key) = some x) :=
  ⟨by decide, views_agree _ (by decide)⟩

/-- The time of a message is a member of it, but no entry: with a constant index it is found, with a
computed one it is not. -/
theorem time_by_constant_index_only :
    Snapshot.entry? (ofMessage .ascending .empty) .message "time" = some (.int 0) ∧
    (∃ entries, (ofMessage .ascending .empty).value .message = .map entries ∧
      entries.lookup "time" = none) ∧
    ((Program.compile (.empty .standard)
      "message['time'] == message['ti' + 'me']").toOption.map fun p =>
        (p.holds (ofMessage .ascending .empty).scope).toOption) = some (some false) := by
  refine ⟨rfl, ⟨_, value_eq_entries _ (by decide), ?_⟩, by decide +kernel⟩
  rw [KeyMap.lookup_toList, getElem?_message]
  rfl

end Snapshot

end Condition

end Telemetry
