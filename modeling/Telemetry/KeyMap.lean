import Std.Data.ExtTreeMap

/-!
# String-keyed maps

A `KeyMap α` holds one value per key. Two maps with equal look-ups are equal, and `toList` lists
the entries by ascending key, in code point order. A program that visits the entries of a map meets
them in some order, of which nothing more is known.
-/

namespace Telemetry

/-- A finite map from text keys, kept in key order. -/
abbrev KeyMap (α : Type) := Std.ExtTreeMap String α

namespace KeyMap

/-- Later entries replace earlier ones of the same key. -/
def ofEntries {α : Type} (entries : List (String × α)) : KeyMap α :=
  entries.foldl (fun map entry => map.insert entry.1 entry.2) ∅

/-- A new entry is found by its key. -/
theorem getElem?_insert {α : Type} (map : KeyMap α) (key : String) (v : α) (key' : String) :
    (map.insert key v)[key']? = if key' = key then some v else map[key']? := by
  simp only [Std.ExtTreeMap.getElem?_insert, Std.LawfulEqCmp.compare_eq_iff_eq, @eq_comm _ key']

/-- An order in which a map visits its entries. Each key is visited once; nothing else is promised,
and two maps with the same keys may have different orders. -/
structure Order where
  /-- The keys in the order in which they are visited, given them by ascending key. -/
  arrange : List String → List String
  perm : ∀ keys, (arrange keys).Perm keys

/-- By ascending key. -/
def Order.ascending : Order := ⟨id, .refl⟩

/-- The entries of a map in the order in which they are visited. -/
def entriesIn {α : Type} (order : Order) (map : KeyMap α) : List (String × α) :=
  (order.arrange map.keys).filterMap fun key => map[key]?.map (key, ·)

end KeyMap

end Telemetry
