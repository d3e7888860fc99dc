import Telemetry.Proofs.KeyMap
import Telemetry.Proofs.Run.Accounting

/-!
# Where the order of entries shows

Nobody chooses the order in which a map visits its entries. A snapshot keeps the last one of those
entries whose keys become the same, so it is the same in all orders exactly if such entries have the
same value. What becomes of a message of this kind does not depend on the orders, and a run over
such messages comes to the same at all moments of the same times; only objects that are written show
in which order the entries stand.
-/

namespace Telemetry

namespace KeyMap

open Std (ExtTreeMap)

variable {α : Type}

/-- All keys but one by ascending key, and then that one. -/
def Order.withLast (key : String) : Order where
  arrange keys := keys.filter (fun k => !(k == key)) ++ keys.filter (· == key)
  perm keys := List.perm_append_comm.trans (List.filter_append_perm _ keys)

/-- The entry of the last key is visited last. -/
theorem entriesIn_withLast {map : KeyMap α} {key : String} {value : α}
    (h : map[key]? = some value) :
    ∃ entries, map.entriesIn (.withLast key) = entries ++ [(key, value)] := by
  have hmem : key ∈ map.keys :=
    ExtTreeMap.mem_keys.mpr (ExtTreeMap.mem_iff_isSome_getElem?.mpr (by rw [h]; rfl))
  have hlast : map.keys.filter (· == key) = [key] := by
    rw [List.filter_beq, List.count_eq_one_of_mem ExtTreeMap.nodup_keys hmem]
    rfl
  let others := map.keys.filter fun k => !(k == key)
  have harrange : (Order.withLast key).arrange map.keys = others ++ [key] :=
    congrArg (others ++ ·) hlast
  refine ⟨others.filterMap fun k => map[k]?.map (k, ·), ?_⟩
  rw [entriesIn, harrange, List.filterMap_append]
  simp [h]

end KeyMap

/-! ## Snapshots -/

namespace Condition.Snapshot

/-- Entries whose keys become the same have the same value. -/
def TwinsAgree (entries : KeyMap String) : Prop :=
  ∀ a ∈ entries.toList, ∀ b ∈ entries.toList, sanitize a.1 = sanitize b.1 → a.2 = b.2

instance (entries : KeyMap String) : Decidable (TwinsAgree entries) :=
  inferInstanceAs (Decidable (∀ a ∈ entries.toList, ∀ b ∈ entries.toList, _ → _))

/-- Two entries can be added in either order, unless one replaces the other by another value. -/
theorem insert_sanitized_comm {a b : String × String}
    (h : sanitize a.1 = sanitize b.1 → a.2 = b.2) (map : KeyMap String) :
    (map.insert (sanitize a.1) a.2).insert (sanitize b.1) b.2 =
      (map.insert (sanitize b.1) b.2).insert (sanitize a.1) a.2 := by
  refine Std.ExtTreeMap.ext_getElem? fun key => ?_
  simp only [KeyMap.getElem?_insert]
  by_cases ha : key = sanitize a.1
  · by_cases hb : key = sanitize b.1
    · rw [if_pos hb, if_pos ha, h (ha.symm.trans hb)]
    · rw [if_neg hb, if_pos ha, if_pos ha]
  · rw [if_neg ha, if_neg ha]

/-- The entry that is added last stands behind its sanitised key. -/
theorem getElem?_addSanitized_last (map : KeyMap String) (entries : List (String × String))
    (key value : String) :
    (addSanitized map (entries ++ [(key, value)]))[sanitize key]? = some value := by
  rw [addSanitized, List.foldl_append, List.foldl_cons, List.foldl_nil, KeyMap.getElem?_insert,
    if_pos rfl]

/-- Entries are added with the same result in all orders exactly if those whose keys become the
same have the same value. -/
theorem addSanitized_orderFree_iff (map entries : KeyMap String) :
    (∀ order order', addSanitized map (entries.entriesIn order) =
      addSanitized map (entries.entriesIn order')) ↔ TwinsAgree entries := by
  constructor
  · rintro hfree ⟨key, value⟩ ha ⟨key', value'⟩ hb hkey
    obtain ⟨before, hlast⟩ :=
      KeyMap.entriesIn_withLast (Std.ExtTreeMap.mem_toList_iff_getElem?_eq_some.mp ha)
    obtain ⟨before', hlast'⟩ :=
      KeyMap.entriesIn_withLast (Std.ExtTreeMap.mem_toList_iff_getElem?_eq_some.mp hb)
    have hsame := hfree (.withLast key) (.withLast key')
    rw [hlast, hlast'] at hsame
    have hvalue := getElem?_addSanitized_last map before key value
    rw [hsame, hkey, getElem?_addSanitized_last] at hvalue
    exact (Option.some.inj hvalue).symm
  · intro hagree order order'
    have hperm := (KeyMap.entriesIn_perm order entries).trans
      (KeyMap.entriesIn_perm order' entries).symm
    have hmem := fun a => (KeyMap.entriesIn_perm order entries).mem_iff (a := a)
    exact hperm.foldl_eq' (fun a ha b hb map =>
      insert_sanitized_comm (hagree a ((hmem a).mp ha) b ((hmem b).mp hb)) map) map

end Condition.Snapshot

namespace Message

open Condition.Snapshot (fill TwinsAgree addSanitized_orderFree_iff)

/-- No two tags and no two meta entries look the same to conditions and differ. -/
structure OrderFree (m : Message) : Prop where
  tags : TwinsAgree m.tags
  metadata : TwinsAgree m.metadata

/-- The snapshots of a message are the same in all orders exactly if no entries of it look the same
and differ. -/
theorem fill_orderFree_iff (m : Message) (maps : Condition.SnapshotMaps) :
    (∀ order order', fill order m maps = fill order' m maps) ↔ m.OrderFree := by
  constructor
  · intro hfree
    refine ⟨(addSanitized_orderFree_iff maps.tags m.tags).mp fun order order' => ?_,
      (addSanitized_orderFree_iff maps.metadata m.metadata).mp fun order order' => ?_⟩
    · have hsame := hfree ⟨order, .ascending, .ascending⟩ ⟨order', .ascending, .ascending⟩
      exact congrArg (·.maps.tags) hsame
    · have hsame := hfree ⟨.ascending, order, .ascending⟩ ⟨.ascending, order', .ascending⟩
      exact congrArg (·.maps.metadata) hsame
  · intro h order order'
    rw [fill, fill, (addSanitized_orderFree_iff maps.tags m.tags).mpr h.tags _ order'.tags,
      (addSanitized_orderFree_iff maps.metadata m.metadata).mpr h.metadata _ order'.metadata]

/-- The two tags look the same, and conditions see the one that is visited last. -/
example : ¬Message.OrderFree
    { Message.empty with tags := .ofEntries [("type-id", "0"), ("typeid", "1")] } := fun h =>
  absurd h.tags (by decide +kernel)

end Message

/-! ## Runs -/

namespace RunOptions

variable (o : RunOptions)

/-- As much is written, and the same where messages are written as lines. -/
structure WrittenAlike (output output' : List String) : Prop where
  length : output.length = output'.length
  lines : o.format = .line → output = output'

variable {o}

/-- Outputs in two parts are alike if both parts are. -/
theorem WrittenAlike.append {first first' rest rest' : List String}
    (hfirst : o.WrittenAlike first first') (hrest : o.WrittenAlike rest rest') :
    o.WrittenAlike (first ++ rest) (first' ++ rest') where
  length := by rw [List.length_append, List.length_append, hfirst.length, hrest.length]
  lines ho := by rw [hfirst.lines ho, hrest.lines ho]

/-- A verdict is written in all orders or in none, and as the same line in all of them. -/
theorem writtenAlike_written? (order order' : Message.Order) (v : Verdict) :
    o.WrittenAlike (o.written? order v).toList (o.written? order' v).toList where
  length := by
    rw [Option.length_toList, Option.length_toList, isSome_written?, isSome_written?]
  lines ho := by
    have hencode : o.encode? order = o.encode? order' := funext fun m => by
      simp only [encode?, ho]
    rw [written?, written?, hencode]

end RunOptions

namespace Processor

/-- A message without entries that look the same and differ is processed in the same way whatever
the orders are. -/
theorem process_orderFree (p : Processor) {m : Message} (h : m.OrderFree)
    (order order' : Message.Order) : p.process order m = p.process order' m := by
  have hfill : Condition.Snapshot.fill order m p.pool.acquire.1 =
      Condition.Snapshot.fill order' m p.pool.acquire.1 := (m.fill_orderFree_iff _).mpr h _ _
  simp only [process, hfill]

/-- What comes of a line with such a message, at two moments of the same time. -/
theorem runLine_orderFree (p : Processor) (o : RunOptions) {now now' : Moment}
    (htime : now.time = now'.time) {text : String}
    (hfree : ∀ m, Message.ofJson? o.codec (Text.trim text) now.time = some m → m.OrderFree) :
    (p.runLine o now text).processor = (p.runLine o now' text).processor ∧
      (p.runLine o now text).summary = (p.runLine o now' text).summary ∧
      o.WrittenAlike (p.runLine o now text).output (p.runLine o now' text).output := by
  have hsame : Message.ofLine? o.codec (now', text) =
      (Message.ofLine? o.codec (now, text)).map fun x => (now', x.2) := by
    simp only [Message.ofLine?, htime]
    split
    · rfl
    · simp [Function.comp_def]
  have htally : ∀ vs, RunSummary.tally o [(now, text)] vs = .tally o [(now', text)] vs := by
    simp [RunSummary.tally, Message.isMalformed, hsame]
  simp only [p.runLine_eq o (now, text), p.runLine_eq o (now', text), hsame, htally]
  cases hline : Message.ofLine? o.codec (now, text) with
  | none => exact ⟨rfl, rfl, rfl, fun _ => rfl⟩
  | some brought =>
    obtain ⟨m, hm, rfl⟩ : ∃ m, Message.ofJson? o.codec (Text.trim text) now.time = some m ∧
        (now, m) = brought := by
      rw [Message.ofLine?_of_not_allBlank (Message.allBlank_of_ofLine? hline)] at hline
      exact Option.map_eq_some_iff.mp hline
    have hprocess := p.process_orderFree (hfree m hm) now.seen now'.seen
    have hserved : p.serveAll [.message now.seen m] = p.serveAll [.message now'.seen m] := by
      simp only [serveAll, serve, Call.message?, hprocess]
    simp only [Option.map_some, Option.toList_some, List.map_cons, List.map_nil, hserved, true_and]
    simp only [serveAll, serve, Call.message?, Option.toList_some, List.append_nil,
      RunOptions.outputs_singleton]
    exact o.writtenAlike_written? _ _ _

/-- Runs over the same lines at moments of the same times. If no message has entries that look the
same and differ, the orders at the moments change neither what is counted nor what becomes of the
processor; the same lines are written, and as many objects. -/
theorem run_orderFree (p : Processor) (o : RunOptions) {moments moments' : Nat → Moment}
    (htime : ∀ i, (moments i).time = (moments' i).time)
    {items : List (Except Text.Utf8Fault String)}
    (hfree : ∀ i text m, items[i]? = some (.ok text) →
      Message.ofJson? o.codec (Text.trim text) (moments i).time = some m → m.OrderFree) :
    let r := p.run o (timed moments items)
    let r' := p.run o (timed moments' items)
    r.processor = r'.processor ∧ r.summary = r'.summary ∧ r.fault? = r'.fault? ∧
      o.WrittenAlike r.output r'.output := by
  induction items generalizing p moments moments' with
  | nil => exact ⟨rfl, rfl, rfl, rfl, fun _ => rfl⟩
  | cons item items ih =>
    have hcons : ∀ moments : Nat → Moment, timed moments (item :: items) =
        (moments 0, item) :: timed (fun i => moments (i + 1)) items := fun moments =>
      List.mapIdx_cons
    simp only [hcons]
    cases item with
    | error fault => exact ⟨rfl, rfl, rfl, rfl, fun _ => rfl⟩
    | ok text =>
      obtain ⟨hprocessor, hsummary, houtput⟩ :=
        p.runLine_orderFree o (htime 0) (hfree 0 text · rfl)
      obtain ⟨hprocessor', hsummary', hfault', houtput'⟩ :=
        ih (p.runLine o (moments 0) text).processor (fun i => htime (i + 1))
          (fun i => hfree (i + 1))
      simp only [run, ← hprocessor, ← hsummary]
      exact ⟨hprocessor', congrArg _ hsummary', hfault', houtput.append houtput'⟩

end Processor

end Telemetry
