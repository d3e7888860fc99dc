import Mathlib.Data.List.Basic
import Telemetry.KeyMap

/-!
# Maps and their entries

A map is made of its entries in any order, and the entries that are visited are those of the map.
-/

namespace Telemetry.KeyMap

open Std (ExtTreeMap)

variable {α : Type}

/-- To enter entries one after the other is to enter all of them. -/
theorem foldl_insert_eq_insertMany (entries : List (String × α)) (map : KeyMap α) :
    entries.foldl (fun map entry => map.insert entry.1 entry.2) map = map.insertMany entries := by
  induction entries generalizing map with
  | nil => simp
  | cons entry entries ih => rw [List.foldl_cons, ih, ExtTreeMap.insertMany_cons]

/-- A map is made of its entries, in whatever order they are taken in. -/
theorem ofEntries_of_perm {map : KeyMap α} {entries : List (String × α)}
    (h : entries.Perm map.toList) : ofEntries entries = map := by
  refine ExtTreeMap.ext_getElem? fun key => ?_
  rw [ofEntries, foldl_insert_eq_insertMany]
  cases hkey : map[key]? with
  | some value =>
    have hmem : (key, value) ∈ entries :=
      h.mem_iff.mpr (ExtTreeMap.mem_toList_iff_getElem?_eq_some.mpr hkey)
    have hdistinct := (h.pairwise_iff fun {a b} hab hba => hab (Std.OrientedCmp.eq_symm hba)).mpr
      (ExtTreeMap.distinct_keys_toList (t := map))
    exact ExtTreeMap.getElem?_insertMany_list_of_mem Std.ReflCmp.compare_self hdistinct hmem
  | none =>
    have hkeys : (entries.map Prod.fst).contains key = false := by
      rw [(h.map Prod.fst).contains_eq, ExtTreeMap.map_fst_toList_eq_keys, ExtTreeMap.contains_keys,
        ExtTreeMap.contains_eq_isSome_getElem?, hkey]
      rfl
    rw [ExtTreeMap.getElem?_insertMany_list_of_contains_eq_false hkeys, ExtTreeMap.getElem?_empty]

/-- The entries by the keys are the entries. -/
theorem filterMap_keys (map : KeyMap α) :
    map.keys.filterMap (fun key => map[key]?.map (key, ·)) = map.toList := by
  have hentry : ∀ entry ∈ map.toList,
      ((fun key => map[key]?.map (key, ·)) ∘ Prod.fst) entry = some entry := by
    intro entry hmem
    simp [ExtTreeMap.mem_toList_iff_getElem?_eq_some.mp hmem]
  rw [← ExtTreeMap.map_fst_toList_eq_keys, List.filterMap_map, List.filterMap_congr hentry,
    List.filterMap_some]

/-- Whatever order the entries are visited in, they are the entries of the map. -/
theorem entriesIn_perm (order : Order) (map : KeyMap α) :
    (map.entriesIn order).Perm map.toList := by
  rw [← filterMap_keys]
  exact (order.perm map.keys).filterMap _

@[simp] theorem entriesIn_ascending (map : KeyMap α) : map.entriesIn .ascending = map.toList :=
  filterMap_keys map

/-- The entries that are visited are those of the map. -/
theorem mem_entriesIn {order : Order} {map : KeyMap α} {entry : String × α} :
    entry ∈ map.entriesIn order ↔ map[entry.1]? = some entry.2 := by
  rw [(entriesIn_perm order map).mem_iff, ExtTreeMap.mem_toList_iff_getElem?_eq_some]

/-- A map is made of its entries. -/
theorem ofEntries_toList (map : KeyMap α) : ofEntries map.toList = map :=
  ofEntries_of_perm (.refl _)

end Telemetry.KeyMap
