import Telemetry.Message.Codec
import Telemetry.Proofs.Json.ReadBack

/-!
# What a JSON library is relied on for

A library reads a text part by part, and the parts make up a value if the numbers and the strings
have a meaning. It reads a value back if it prints it on one line and the parts of that line make up
the value again. The library of the program reads back what has no numbers but those that their own
texts denote.
-/

namespace Telemetry.Json

namespace Codec

mutual

/-- The value that a text holds, part by part, if its numbers and strings have a meaning. -/
def value? (c : Codec) : Syntax → Option Json
  | .null => some .null
  | .bool b => some (.bool b)
  | .number t => (c.number? t).map .number
  | .string s => s.map .string
  | .array items => (c.items? items).map .array
  | .object members => (c.members? members).map .object

/-- The values of the items of an array. -/
def items? (c : Codec) : List Syntax → Option (List Json)
  | [] => some []
  | item :: rest => do
    let item ← c.value? item
    let rest ← c.items? rest
    some (item :: rest)

/-- The values of the members of an object, in the order in which they are written. -/
def members? (c : Codec) : List (Option String × Syntax) → Option (List (String × Json))
  | [] => some []
  | (key, value) :: rest => do
    let key ← key
    let value ← c.value? value
    let rest ← c.members? rest
    some ((key, value) :: rest)

end

/-- A value is printed on one line, and reading that line gives the value again. -/
structure ReadsBack (c : Codec) (v : Json) : Prop where
  line : '\n' ∉ (c.print v).toList
  value : (c.parse? (c.print v)).bind c.value? = some v

variable {c : Codec} {s : Syntax}

/-! ## What a value is read from -/

/-- A member is written as its key and a text for its value. -/
def MemberOf (c : Codec) (written : Option String × Syntax) (member : String × Json) : Prop :=
  written.1 = some member.1 ∧ c.value? written.2 = some member.2

/-- The members of an object are read one by one. -/
theorem members?_eq_some_iff {written : List (Option String × Syntax)}
    {members : List (String × Json)} :
    c.members? written = some members ↔ List.Forall₂ c.MemberOf written members := by
  induction written generalizing members with
  | nil =>
    rw [members?, List.forall₂_nil_left_iff, Option.some.injEq, eq_comm]
  | cons first rest ih =>
    obtain ⟨key, value⟩ := first
    cases members with
    | nil => simp [members?, Option.bind_eq_some_iff]
    | cons member members =>
      rw [List.forall₂_cons, ← ih, MemberOf, members?]
      obtain ⟨key', value'⟩ := member
      simp only [Option.bind_eq_bind, Option.bind_eq_some_iff, Option.some.injEq, List.cons.injEq,
        Prod.mk.injEq]
      constructor
      · rintro ⟨_, hkey, _, hvalue, _, hrest, ⟨rfl, rfl⟩, rfl⟩
        exact ⟨⟨hkey, hvalue⟩, hrest⟩
      · rintro ⟨⟨hkey, hvalue⟩, hrest⟩
        exact ⟨_, hkey, _, hvalue, _, hrest, ⟨rfl, rfl⟩, rfl⟩

/-- A truth value is read from its word. -/
theorem eq_bool_of_value? {b : Bool} (h : c.value? s = some (.bool b)) : s = .bool b := by
  cases s <;> simp_all [value?, Option.map_eq_some_iff]

/-- A number is read from digits. -/
theorem eq_number_of_value? {n : Number} (h : c.value? s = some (.number n)) :
    ∃ t, s = .number t ∧ c.number? t = some n := by
  cases s <;> simp_all [value?, Option.map_eq_some_iff]

/-- A string is read from a string. -/
theorem eq_string_of_value? {t : String} (h : c.value? s = some (.string t)) :
    s = .string (some t) := by
  cases s <;> simp_all [value?, Option.map_eq_some_iff]

/-- An object is read from an object, member by member. -/
theorem eq_object_of_value? {members : List (String × Json)}
    (h : c.value? s = some (.object members)) :
    ∃ written, s = .object written ∧ List.Forall₂ c.MemberOf written members := by
  cases s <;> simp_all [value?, Option.map_eq_some_iff, members?_eq_some_iff]

/-! ## The library of the program -/

/-- A number is made up again if its text denotes it. -/
theorem standard_value?_number {n : Number} (h : n.written?.bind Number.ofText? = some n) :
    standard.value? (number n).toSyntax = some (number n) := by
  obtain ⟨t, hwritten, ht⟩ := Option.bind_eq_some_iff.mp h
  have hnumber : standard.number? t = some n := ht
  rw [toSyntax, hwritten, Option.elim_some, value?, hnumber]
  rfl

/-- An object is made up again if the values of its members are. -/
theorem standard_value?_object {members : List (String × Json)}
    (h : ∀ member ∈ members, standard.value? member.2.toSyntax = some member.2) :
    standard.value? (object members).toSyntax = some (object members) := by
  have hmembers : standard.members? (memberSyntaxes members) = some members := by
    rw [members?_eq_some_iff, memberSyntaxes_eq_map, List.forall₂_map_left_iff, List.forall₂_same]
    exact fun member hmember => ⟨rfl, h member hmember⟩
  rw [toSyntax, value?, hmembers]
  rfl

/-- A value is read back if it is made up again from what its parts are read as. -/
theorem readsBack_standard {v : Json} (h : standard.value? v.toSyntax = some v) :
    standard.ReadsBack v where
  line hfeed := absurd (isPrintable_compact v '\n' hfeed) (by decide)
  value := by
    have hparse : standard.parse? (standard.print v) = some v.toSyntax := read?_compact v
    rw [hparse]
    exact h

end Codec

end Telemetry.Json
