import Mathlib.Data.List.Basic
import Telemetry.Proofs.Fallible
import Telemetry.Settings.Document

/-!
# Which settings are loaded

The settings of a file are checked before variables of the environment replace them, and the result
is checked again. So the file must be right on its own and the variables on theirs: a wrong value in
the file is not made good by the variable that replaces it.
-/

namespace Telemetry.Settings

/-! ## Valid settings -/

/-- Each setting has one of the values that it can have. -/
structure IsValid (s : Settings) : Prop where
  logLevel : s.general.logLevel ∈ ["trace", "debug", "info", "warn", "error"]
  logFormat : s.general.logFormat ∈ ["json", "pretty"]
  onError : s.processor.onError ∈ ["forward", "drop"]
  metaAsTags : "" ∉ s.processor.metaAsTags

variable {s : Settings}

/-- A value passes exactly if it is one of those that are allowed. -/
theorem oneOfFault?_eq_none {field value : String} {allowed : List String} :
    oneOfFault? field allowed value = none ↔ value ∈ allowed := by
  rw [oneOfFault?, List.contains_eq_mem]
  by_cases h : value ∈ allowed
  · simp [h]
  · simp [h]

/-- Nothing is wrong with valid settings only. -/
theorem fault?_eq_none : s.fault? = none ↔ s.IsValid := by
  rw [fault?, Option.or_eq_none_iff, Option.or_eq_none_iff, Option.or_eq_none_iff,
    oneOfFault?_eq_none, oneOfFault?_eq_none, oneOfFault?_eq_none]
  constructor
  · rintro ⟨hlevel, hformat, honError, hkeys⟩
    exact ⟨hlevel, hformat, honError, by simpa using hkeys⟩
  · rintro ⟨hlevel, hformat, honError, hkeys⟩
    exact ⟨hlevel, hformat, honError, by simpa using hkeys⟩

/-- Settings that are valid pass as they are, and no others do. -/
theorem validate_eq_ok_iff {r : Settings} : s.validate = .ok r ↔ s.IsValid ∧ r = s := by
  rw [← fault?_eq_none, validate]
  cases s.fault? with
  | none => simp [eq_comm]
  | some fault => simp

/-- Settings with a fault are refused for it. -/
theorem validate_of_fault? {fault : SettingsFault} (h : s.fault? = some fault) :
    s.validate = .error fault := by
  rw [validate, h]

/-! ## Variables of the environment -/

variable {env : String → Option String}

/-- Each variable that replaces a setting has one of the values that the setting can have. -/
structure VariablesValid (env : String → Option String) : Prop where
  logLevel : ∀ v, env "IRONMETRIC_GENERAL_LOG_LEVEL" = some v →
    v ∈ ["trace", "debug", "info", "warn", "error"]
  logFormat : ∀ v, env "IRONMETRIC_GENERAL_LOG_FORMAT" = some v → v ∈ ["json", "pretty"]
  onError : ∀ v, env "IRONMETRIC_PROCESSOR_ON_ERROR" = some v → v ∈ ["forward", "drop"]

/-- A list that is read from a variable has no empty items. -/
theorem empty_notMem_listItems (v : String) : "" ∉ listItems v := by
  intro h
  have hkept := (List.mem_filter.mp h).2
  simp at hkept

/-- A setting that may be replaced is right if neither a value that replaces it nor, without one,
its own value is wrong. -/
theorem getD_mem_iff {given? : Option String} {own : String} {allowed : List String} :
    given?.getD own ∈ allowed ↔
      (∀ v, given? = some v → v ∈ allowed) ∧ (given? = none → own ∈ allowed) := by
  cases given? with
  | none => simp
  | some v => simp

/-- Where the settings of a file are valid, the variables alone decide whether they stay valid: a
list cannot be wrong, and what is no truth value is left out. -/
theorem IsValid.override_iff (h : s.IsValid) : (s.override env).IsValid ↔ VariablesValid env := by
  constructor
  · rintro ⟨hlevel, hformat, honError, -⟩
    exact ⟨(getD_mem_iff.mp hlevel).1, (getD_mem_iff.mp hformat).1, (getD_mem_iff.mp honError).1⟩
  · rintro ⟨hlevel, hformat, honError⟩
    refine ⟨getD_mem_iff.mpr ⟨hlevel, fun _ => h.logLevel⟩,
      getD_mem_iff.mpr ⟨hformat, fun _ => h.logFormat⟩,
      getD_mem_iff.mpr ⟨honError, fun _ => h.onError⟩, ?_⟩
    rw [override]
    cases env "IRONMETRIC_PROCESSOR_META_AS_TAGS" with
    | none => exact h.metaAsTags
    | some v => exact empty_notMem_listItems v

/-! ## Loading -/

/-- A document is checked, replaced where there are variables, and checked again. -/
theorem load_of_parse {text : String} (h : parse text = .ok s) (path : String) :
    load env path (.ok text) = s.validate >>= fun s => (s.override env).validate := by
  rw [load, ofFile, h]
  rfl

/-- The file and the variables are right or wrong each on their own: settings are loaded if and only
if those of the file are valid and so are the variables that replace them. Where the file is right,
only the settings in effect decide; where it is not, its own fault is the outcome, whatever replaces
the wrong value. So the settings in effect do not decide where they are valid and those of the file
are not, and in no other case. -/
theorem load_valid_layers {text : String} (h : parse text = .ok s)
    (env : String → Option String) (path : String) :
    (∀ r, load env path (.ok text) = .ok r ↔
      s.IsValid ∧ VariablesValid env ∧ r = s.override env) ∧
    (s.IsValid → load env path (.ok text) = (s.override env).validate) ∧
    (∀ fault, s.fault? = some fault → load env path (.ok text) = .error fault) ∧
    ((∀ r, load env path (.ok text) = .ok r ↔ (s.override env).validate = .ok r) ↔
      ¬ (¬ s.IsValid ∧ (s.override env).IsValid)) := by
  have hvalid (hs : s.IsValid) : load env path (.ok text) = (s.override env).validate := by
    rw [load_of_parse h, validate_eq_ok_iff.mpr ⟨hs, rfl⟩]
    rfl
  have hfault (fault : SettingsFault) (hs : s.fault? = some fault) :
      load env path (.ok text) = .error fault := by
    rw [load_of_parse h, validate_of_fault? hs]
    rfl
  have hloaded (r : Settings) : load env path (.ok text) = .ok r ↔
      s.IsValid ∧ VariablesValid env ∧ r = s.override env := by
    by_cases hs : s.IsValid
    · rw [hvalid hs, validate_eq_ok_iff, hs.override_iff]
      simp [hs]
    · obtain ⟨fault, hsome⟩ := Option.ne_none_iff_exists'.mp (mt fault?_eq_none.mp hs)
      rw [hfault fault hsome]
      simp [hs]
  refine ⟨hloaded, hvalid, hfault, ?_⟩
  constructor
  · rintro hsame ⟨hs, heffect⟩
    have hload := (hsame (s.override env)).mpr (validate_eq_ok_iff.mpr ⟨heffect, rfl⟩)
    exact hs ((hloaded _).mp hload).1
  · intro hlayers r
    by_cases hs : s.IsValid
    · rw [hvalid hs]
    · have heffect : ¬ (s.override env).IsValid := fun heffect => hlayers ⟨hs, heffect⟩
      rw [hloaded, validate_eq_ok_iff]
      simp [hs, heffect]

/-- An environment that sets the level for logging. -/
def informing : String → Option String
  | "IRONMETRIC_GENERAL_LOG_LEVEL" => some "info"
  | _ => none

/-- A file with another setting is right, and so is the level. -/
theorem load_valid_layers_dropping :
    let text := "[processor]\non_error = \"drop\"\n"
    let s : Settings := ⟨.default, ⟨"", [], "drop", false⟩⟩
    parse text = .ok s ∧ s.IsValid ∧ load informing "ironmetric.toml" (.ok text) = .ok s := by
  intro text s
  have hparse : parse text = .ok s := Except.toOption_eq_some_iff.mp (by decide +kernel)
  have hvalid : s.IsValid := fault?_eq_none.mp (by decide)
  have hloaded := (load_valid_layers hparse informing "ironmetric.toml").2.1 hvalid
  exact ⟨hparse, hvalid, hloaded.trans rfl⟩

/-- A file with a wrong level is refused, although the level is replaced and the settings in effect
are the default ones. -/
theorem load_wrong_level_replaced :
    let text := "[general]\nlog_level = \"verbose\"\n"
    ∃ s, parse text = .ok s ∧ (s.override informing).validate = .ok .default ∧
      load informing "ironmetric.toml" (.ok text) =
        .error (.notOneOf "general.log_level" ["trace", "debug", "info", "warn", "error"]
          "verbose") := by
  intro text
  have hparse : parse text = .ok ⟨⟨"verbose", "json"⟩, .default⟩ :=
    Except.toOption_eq_some_iff.mp (by decide +kernel)
  refine ⟨_, hparse, rfl, ?_⟩
  rw [load_of_parse hparse]
  rfl

end Telemetry.Settings
