import Telemetry.Files.Basic
import Telemetry.Text.Blank
import Telemetry.Text.Quoted

/-!
# Settings

The settings of the program: how it logs, which rules it applies, and how it writes messages. A
setting that is not given has a default; a variable of the environment replaces one.
-/

namespace Telemetry

/-- How the program logs. -/
structure GeneralSettings where
  logLevel : String
  logFormat : String
  deriving DecidableEq, Repr

/-- How messages are processed and written. -/
structure ProcessorSettings where
  /-- The rule file; empty if there are no rules. -/
  rulesPath : String
  /-- The meta entries that are written as tags. -/
  metaAsTags : List String
  /-- What is done with a message that failed. -/
  onError : String
  /-- Whether units are normalised whatever the rules say. -/
  normalizesUnits : Bool
  deriving DecidableEq, Repr

/-- The settings of the program. -/
structure Settings where
  general : GeneralSettings
  processor : ProcessorSettings
  deriving DecidableEq, Repr

/-- Settings that nobody gave. -/
def GeneralSettings.default : GeneralSettings := ⟨"info", "json"⟩

/-- Settings that nobody gave. -/
def ProcessorSettings.default : ProcessorSettings := ⟨"", [], "forward", false⟩

/-- Whether a message that failed is written as far as it got. -/
def ProcessorSettings.forwardsOnError (p : ProcessorSettings) : Bool := p.onError == "forward"

/-- Why settings are refused. -/
inductive SettingsFault where
  | fileNotFound (path : String)
  | unreadable (fault : FileFault)
  | malformed
  /-- A value is none of those that a setting can have. -/
  | notOneOf (field : String) (allowed : List String) (value : String)
  | emptyMetaKey
  deriving DecidableEq, Repr

/-- The fault as a sentence. -/
def SettingsFault.message : SettingsFault → String
  | fileNotFound path => s!"config error: config file not found: {path}"
  | unreadable fault => s!"io error: {fault.message}"
  | malformed => "config error: failed to parse config: the document is malformed"
  | notOneOf field allowed value =>
    let allowed := ", ".intercalate allowed
    s!"config error: invalid config value for '{field}': must be one of: {allowed} (got " ++
      Text.quote value ++ ")"
  | emptyMetaKey =>
    "config error: invalid config value for 'processor.meta_as_tags': " ++
      "meta key must not be empty (got \"\")"

namespace Settings

/-- Settings that nobody gave. -/
def default : Settings := ⟨.default, .default⟩

/-- What is wrong with a setting that must have one of some values. -/
def oneOfFault? (field : String) (allowed : List String) (value : String) : Option SettingsFault :=
  if allowed.contains value then none else some (.notOneOf field allowed value)

/-- What is wrong with the settings; the first wrong one counts. -/
def fault? (s : Settings) : Option SettingsFault :=
  (oneOfFault? "general.log_level" ["trace", "debug", "info", "warn", "error"]
    s.general.logLevel).or <|
  (oneOfFault? "general.log_format" ["json", "pretty"] s.general.logFormat).or <|
  (oneOfFault? "processor.on_error" ["forward", "drop"] s.processor.onError).or <|
  if s.processor.metaAsTags.contains "" then some .emptyMetaKey else none

/-- The settings, if nothing is wrong with them. -/
def validate (s : Settings) : Except SettingsFault Settings :=
  match s.fault? with
  | none => .ok s
  | some fault => .error fault

/-- The settings with another level for logging. -/
def withLogLevel (s : Settings) (level : String) : Settings :=
  { s with general := { s.general with logLevel := level } }

/-- The items of a list with commas, without blanks around them and without empty ones. -/
def listItems (s : String) : List String :=
  ((s.splitOn ",").map Text.trim).filter (!·.isEmpty)

/-- The truth value that a text is, but for blanks around it. -/
def flag? (s : String) : Option Bool :=
  match Text.trim s with
  | "true" => some true
  | "false" => some false
  | _ => none

/-- The variables of the environment that replace settings. -/
def variableNames : List String :=
  ["IRONMETRIC_GENERAL_LOG_LEVEL", "IRONMETRIC_GENERAL_LOG_FORMAT",
    "IRONMETRIC_PROCESSOR_RULES_PATH", "IRONMETRIC_PROCESSOR_META_AS_TAGS",
    "IRONMETRIC_PROCESSOR_ON_ERROR", "IRONMETRIC_PROCESSOR_NORMALIZE_UNITS"]

/-- Replaces settings by variables of the environment. One that must be a truth value and is not is
left out. -/
def override (env : String → Option String) (s : Settings) : Settings where
  general :=
    { logLevel := (env "IRONMETRIC_GENERAL_LOG_LEVEL").getD s.general.logLevel
      logFormat := (env "IRONMETRIC_GENERAL_LOG_FORMAT").getD s.general.logFormat }
  processor :=
    { rulesPath := (env "IRONMETRIC_PROCESSOR_RULES_PATH").getD s.processor.rulesPath
      metaAsTags :=
        ((env "IRONMETRIC_PROCESSOR_META_AS_TAGS").map listItems).getD s.processor.metaAsTags
      onError := (env "IRONMETRIC_PROCESSOR_ON_ERROR").getD s.processor.onError
      normalizesUnits :=
        ((env "IRONMETRIC_PROCESSOR_NORMALIZE_UNITS").bind flag?).getD s.processor.normalizesUnits }

end Settings

end Telemetry
