import Telemetry.Condition.Environment

/-!
# Constants by name

To add a constant is to change what one name stands for: a scalar replaces what was there, a map is
taken if there was nothing, and a name of a part of the message or a value that is no constant
changes nothing.
-/

namespace Telemetry.Condition.Environment

/-- What a name stands for after a constant of this name was to be added, by what it stood for. -/
def valueAfter (name : String) (j : Json) (old : Option Value) : Option Value :=
  if (Variable.ofName? name).isSome then old
  else
    match constant? j with
    | some (.map entries) => old.or (some (.map entries))
    | some v => some v
    | none => old

/-- A constant changes nothing, or replaces what was there, or is taken if there was nothing. -/
theorem valueAfter_cases (name : String) (j : Json) :
    (∀ old, valueAfter name j old = old) ∨ (∃ v, ∀ old, valueAfter name j old = some v) ∨
      ∃ v, ∀ old, valueAfter name j old = old.or (some v) := by
  unfold valueAfter
  split
  · exact .inl fun _ => rfl
  · cases constant? j with
    | none => exact .inl fun _ => rfl
    | some v =>
      cases v with
      | map entries => exact .inr (.inr ⟨_, fun _ => rfl⟩)
      | _ => exact .inr (.inl ⟨_, fun _ => rfl⟩)

/-- The constants with one more, if it can be added. -/
def addOne (env : Environment) (entry : String × Json) : Environment :=
  (env.addOne? entry.1 entry.2).getD env

/-- With one engine, constants that stand for the same by every name are the same. -/
theorem ext_getElem? {env env' : Environment} (hpatterns : env.patterns = env'.patterns)
    (h : ∀ name : String, env.constants[name]? = env'.constants[name]?) : env = env' := by
  have hconstants : env.constants = env'.constants := Std.ExtTreeMap.ext_getElem? h
  cases env
  cases env'
  rw [mk.injEq]
  exact ⟨hconstants, hpatterns⟩

/-- A name is taken exactly if it stands for something. -/
theorem contains_eq (env : Environment) (name : String) :
    env.constants.contains name = env.constants[name]?.isSome :=
  Std.ExtTreeMap.contains_eq_isSome_getElem?

/-- A new constant leaves the engine alone. -/
@[simp] theorem patterns_addOne (env : Environment) (entry : String × Json) :
    (env.addOne entry).patterns = env.patterns := by
  rw [addOne, addOne?]
  split
  · rfl
  · split
    · split <;> rfl
    · rfl
    · rfl

/-- A new constant changes what its name stands for. -/
theorem getElem?_addOne (env : Environment) (entry : String × Json) (name : String) :
    (env.addOne entry).constants[name]? =
      if name = entry.1 then valueAfter entry.1 entry.2 env.constants[name]?
      else env.constants[name]? := by
  by_cases hname : name = entry.1
  · rw [if_pos hname, addOne, addOne?, valueAfter, contains_eq, ← hname]
    split
    · rfl
    · cases constant? entry.2 with
      | none => rfl
      | some v =>
        cases v with
        | map entries =>
          cases hold : env.constants[name]? with
          | none => simp
          | some old => simpa using hold
        | _ => simp
  · rw [if_neg hname, addOne, addOne?]
    split
    · rfl
    · cases constant? entry.2 with
      | none => rfl
      | some v =>
        cases v with
        | map entries =>
          dsimp only
          split
          · rfl
          · simp [KeyMap.getElem?_insert, hname]
        | _ => simp [KeyMap.getElem?_insert, hname]

/-- Constants are added one after the other. -/
theorem add_eq_foldl (env : Environment) (members : List (String × Json)) :
    (env.add members).1 = members.foldl addOne env := by
  induction members generalizing env with
  | nil => rfl
  | cons entry members ih =>
    rw [add, List.foldl_cons, addOne]
    cases env.addOne? entry.1 entry.2 with
    | none => exact ih env
    | some env' => exact ih env'

/-- New constants leave the engine alone. -/
@[simp] theorem patterns_add (env : Environment) (members : List (String × Json)) :
    (env.add members).1.patterns = env.patterns := by
  rw [add_eq_foldl]
  induction members generalizing env with
  | nil => rfl
  | cons entry members ih => rw [List.foldl_cons, ih, patterns_addOne]

/-- A name that no constant is added for stands for what it stood for. -/
theorem getElem?_add_of_notMem (env : Environment) {members : List (String × Json)} {name : String}
    (h : name ∉ members.map Prod.fst) :
    (env.add members).1.constants[name]? = env.constants[name]? := by
  rw [add_eq_foldl]
  induction members generalizing env with
  | nil => rfl
  | cons entry members ih =>
    obtain ⟨hentry, hmembers⟩ := not_or.mp (mt List.mem_cons.mpr h)
    rw [List.foldl_cons, ih _ hmembers, getElem?_addOne, if_neg hentry]

end Telemetry.Condition.Environment
