import Telemetry.Report.Basic
import Telemetry.Settings.Document

/-!
# Reports on settings

The settings in effect, whole or by section, and whether a settings file is right.
-/

namespace Telemetry

/-- A section of the settings. -/
inductive SettingsSection where
  | general | processor
  deriving DecidableEq, Repr

namespace SettingsSection

/-- All sections. -/
def all : List SettingsSection := [general, processor]

/-- The name of a section. -/
def name : SettingsSection → String
  | general => "general"
  | processor => "processor"

/-- The section of a name. -/
def ofName? (s : String) : Option SettingsSection := all.find? (·.name == s)

end SettingsSection

namespace Settings

/-- The settings from a file, or one section of them. -/
def display (s : Settings) (path : String) : Option SettingsSection → Report
  | none =>
    { text := s!"Configuration (source: {path})\n\n" ++ s.toml
      json := .object [("source", .string path), ("config", s.json)] }
  | some part =>
    let (toml, json) := match part with
      | .general => (s.general.toml, s.general.json)
      | .processor => (s.processor.toml, s.processor.json)
    { text := s!"Configuration [{part.name}] (source: {path})\n\n" ++ toml
      json := .object [("source", .string path), ("section", .string part.name),
        ("config", json)] }

/-- Whether a settings file is right, and what is wrong with it. -/
def check (path : String) (result : Except SettingsFault Settings) : Report :=
  match result with
  | .ok _ =>
    { text := Report.ofLines [s!"Config Validation: {path}", "  Result: VALID"]
      json := .object [("source", .string path), ("valid", .bool true), ("errors", .array [])] }
  | .error fault =>
    { text := Report.ofLines [s!"Config Validation: {path}", "  Result: INVALID",
        s!"  Error: {fault.message}"]
      json := .object [("source", .string path), ("valid", .bool false),
        ("errors", .array [.string fault.message])] }

end Settings

end Telemetry
