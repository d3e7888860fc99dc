import Telemetry.Files.Basic
import Telemetry.Rules.Config
import Telemetry.Yaml.Reader

/-!
# Rule files

A rule file holds a rule document; the extension of its path tells in which format.
-/

namespace Telemetry

/-- A format of rule documents. -/
inductive RuleFormat where
  | json | yaml
  deriving DecidableEq, Repr

namespace RuleFormat

/-- The format of a file. -/
def ofPath? (path : String) : Option RuleFormat :=
  match Path.extension? path with
  | some "json" => some json
  | some "yaml" | some "yml" => some yaml
  | _ => none

/-- Reads a document. -/
def read (format : RuleFormat) (s : String) : Except ConfigFault RuleConfig :=
  match format with
  | json => RuleConfig.ofDocument (Json.read? s)
  | yaml => RuleConfig.ofDocument (Yaml.read? s)

end RuleFormat

/-- Why a rule file is refused. -/
inductive LoadFault where
  | unknownExtension
  | unreadable (fault : FileFault)
  | ofConfig (fault : ConfigFault)
  deriving DecidableEq, Repr

/-- The fault as a phrase. A file that cannot be looked at is told from one that cannot be read. -/
def LoadFault.message : LoadFault → String
  | unknownExtension => "unsupported file extension, expected .json, .yaml or .yml"
  | unreadable .isDirectory => s!"failed to read file: {FileFault.isDirectory.message}"
  | unreadable .notText => s!"failed to read file: {FileFault.notText.message}"
  | unreadable fault => s!"failed to read file metadata: {fault.message}"
  | ofConfig fault => fault.message

/-- What can be wrong with rules, wherever they come from. -/
inductive RuleError where
  | ofRule (fault : RuleFault)
  | ofConfig (fault : ConfigFault)
  | ofFile (path : String) (fault : LoadFault)
  deriving DecidableEq, Repr

namespace RuleError

/-- The error as a phrase. -/
def message : RuleError → String
  | ofRule fault => fault.message
  | ofConfig fault => fault.message
  | ofFile path fault => s!"rule load error: {path}: {fault.message}"

/-- The error as a sentence. -/
def report (e : RuleError) : String := s!"processor error: {e.message}"

end RuleError

namespace RuleConfig

/-- The rules of a file, given what comes of reading it. -/
def ofFile (path : String) (content : FileResult) : Except RuleError RuleConfig :=
  match RuleFormat.ofPath? path, content with
  | none, _ => .error (.ofFile path .unknownExtension)
  | some _, .error fault => .error (.ofFile path (.unreadable fault))
  | some format, .ok s =>
    match format.read s with
    | .ok c => .ok c
    | .error fault => .error (.ofFile path (.ofConfig fault))

end RuleConfig

end Telemetry
