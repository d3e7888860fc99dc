import Telemetry.Json.Writer
import Telemetry.Settings.Basic
import Telemetry.Toml.Reader
import Telemetry.Toml.Writer

/-!
# Settings documents

Settings are read from a TOML document, in which unknown keys are ignored, and written as TOML or
JSON. What a file says is checked before the environment replaces it, and the result is checked
again.
-/

namespace Telemetry

namespace Toml

/-- A text. -/
def text? : Toml → Option String
  | .string s => some s
  | _ => none

/-- A list of texts. -/
def texts? : Toml → Option (List String)
  | .array items => items.mapM text?
  | _ => none

/-- A truth value. -/
def flag? : Toml → Option Bool
  | .bool b => some b
  | _ => none

/-- The values of the given keys in a table. An array gives the values by their order. -/
def fieldsOf? (keys : List String) : Toml → Option (String → Option Toml)
  | .table entries => some fun key => entries.lookup key
  | .array items => some fun key => (keys.zip items).lookup key
  | _ => none

/-- The value of a field, or its default where it is missing. -/
def fieldOr? {α : Type} (fields : String → Option Toml) (key : String) (read : Toml → Option α)
    (default : α) : Option α :=
  match fields key with
  | none => some default
  | some v => read v

end Toml

/-- Reads the settings on logging. -/
def GeneralSettings.ofToml? (t : Toml) : Option GeneralSettings := do
  let fields ← t.fieldsOf? ["log_level", "log_format"]
  let logLevel ← Toml.fieldOr? fields "log_level" Toml.text? default.logLevel
  let logFormat ← Toml.fieldOr? fields "log_format" Toml.text? default.logFormat
  some ⟨logLevel, logFormat⟩

/-- Reads the settings on processing. -/
def ProcessorSettings.ofToml? (t : Toml) : Option ProcessorSettings := do
  let fields ← t.fieldsOf? ["rules_path", "meta_as_tags", "on_error", "normalize_units"]
  let rulesPath ← Toml.fieldOr? fields "rules_path" Toml.text? default.rulesPath
  let metaAsTags ← Toml.fieldOr? fields "meta_as_tags" Toml.texts? default.metaAsTags
  let onError ← Toml.fieldOr? fields "on_error" Toml.text? default.onError
  let normalizesUnits ←
    Toml.fieldOr? fields "normalize_units" Toml.flag? default.normalizesUnits
  some ⟨rulesPath, metaAsTags, onError, normalizesUnits⟩

namespace Settings

/-- Reads the entries of a settings document. -/
def ofEntries? (entries : List (String × Toml)) : Option Settings := do
  let fields (key : String) : Option Toml := entries.lookup key
  let general ← Toml.fieldOr? fields "general" GeneralSettings.ofToml? GeneralSettings.default
  let processor ←
    Toml.fieldOr? fields "processor" ProcessorSettings.ofToml? ProcessorSettings.default
  some ⟨general, processor⟩

/-- Reads a settings document. -/
def parse (s : String) : Except SettingsFault Settings :=
  match (Toml.read? s).bind ofEntries? with
  | some settings => .ok settings
  | none => .error .malformed

/-- The settings of a file, given what comes of reading it. -/
def ofFile (path : String) (content : FileResult) : Except SettingsFault Settings :=
  match content with
  | .error .notFound => .error (.fileNotFound path)
  | .error fault => .error (.unreadable fault)
  | .ok s => do (← parse s).validate

/-- The settings of a file, as the environment replaces them. -/
def load (env : String → Option String) (path : String) (content : FileResult) :
    Except SettingsFault Settings := do
  ((← ofFile path content).override env).validate

/-- The settings of a file, or the default ones if there is no file. -/
def loadOrDefault (env : String → Option String) (path : String) (content : FileResult) :
    Except SettingsFault Settings :=
  match load env path content with
  | .error (.fileNotFound _) => (default.override env).validate
  | result => result

end Settings

/-- The settings on logging as the entries of a table. -/
def GeneralSettings.toml (g : GeneralSettings) : String :=
  Toml.entry "log_level" (Toml.quote g.logLevel) ++ Toml.entry "log_format" (Toml.quote g.logFormat)

/-- The settings on logging as an object. -/
def GeneralSettings.json (g : GeneralSettings) : Json :=
  .object [("log_level", .string g.logLevel), ("log_format", .string g.logFormat)]

/-- The settings on processing as the entries of a table. -/
def ProcessorSettings.toml (p : ProcessorSettings) : String :=
  Toml.entry "rules_path" (Toml.quote p.rulesPath) ++
    Toml.entry "meta_as_tags" (Toml.quoteAll p.metaAsTags) ++
    Toml.entry "on_error" (Toml.quote p.onError) ++
    Toml.entry "normalize_units" (Toml.boolText p.normalizesUnits)

/-- The settings on processing as an object. -/
def ProcessorSettings.json (p : ProcessorSettings) : Json :=
  .object [("rules_path", .string p.rulesPath),
    ("meta_as_tags", .array (p.metaAsTags.map .string)), ("on_error", .string p.onError),
    ("normalize_units", .bool p.normalizesUnits)]

/-- The settings as a document. -/
def Settings.toml (s : Settings) : String :=
  "[general]\n" ++ s.general.toml ++ "\n[processor]\n" ++ s.processor.toml

/-- The settings as an object. -/
def Settings.json (s : Settings) : Json :=
  .object [("general", s.general.json), ("processor", s.processor.json)]

end Telemetry
