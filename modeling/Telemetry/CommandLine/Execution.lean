import Telemetry.CommandLine.Given
import Telemetry.Report.Rules
import Telemetry.Report.Run
import Telemetry.Report.Settings
import Telemetry.Report.Units
import Telemetry.Text.Utf8

/-!
# Carrying out requests

What the program writes and the code it ends with. Files and the standard input are read through a
world, so that the same definitions run on a real system and on one that is given as data.
-/

namespace Telemetry.CommandLine

/-- What the program sees of its surroundings. -/
structure World (m : Type → Type) where
  /-- The bytes of a file. -/
  file : String → m (Except FileFault (List UInt8))
  /-- The bytes of the standard input. -/
  input : m (List UInt8)
  /-- The variables of the environment. -/
  env : String → Option String
  /-- The moment at which each line of the input is read. -/
  moments : Nat → Moment

/-- The text of a file, given what comes of reading its bytes. -/
def textOf (content : Except FileFault (List UInt8)) : FileResult := do
  match Text.decode (← content) with
  | .ok s => .ok s
  | .error _ => .error .notText

/-- A world of files that are known by their texts. -/
def World.ofFiles (tree : FileTree) (input : List UInt8) (env : String → Option String)
    (moments : Nat → Moment := fun _ => .epoch) : World Id where
  file path := (tree.read path).map fun s => s.toUTF8.toList
  input := input
  env
  moments

/-- Why a request fails. -/
inductive Fault where
  | ofSettings (fault : SettingsFault)
  | invalidSettings
  | unknownSection (name : String)
  | ofRules (e : RuleError)
  | invalidRules (path : String)
  | ofUnits (e : UnitError)
  /-- The input cannot be opened. -/
  | unreadable (fault : FileFault)
  /-- The input is no text. -/
  | notText (fault : Text.Utf8Fault)
  /-- Some lines were no messages, or messages failed. -/
  | incomplete (summary : RunSummary)
  deriving DecidableEq, Repr

namespace Fault

/-- The fault as a sentence. -/
def message : Fault → String
  | ofSettings fault => fault.message
  | invalidSettings => "configuration error: configuration is invalid"
  | unknownSection name =>
    let names := ", ".intercalate (SettingsSection.all.map (·.name))
    s!"unknown section: {name} (expected: {names})"
  | ofRules e => s!"rule error: {e.message}"
  | invalidRules path => s!"rule error: {path} is invalid"
  | ofUnits e => e.report
  | unreadable fault => s!"io error: {fault.message}"
  | notText fault => s!"io error: {fault.message}"
  | incomplete s => s!"processing error: {s.errors} failed, {s.malformed} malformed, " ++
      s!"{s.skipped} not encodable out of {s.read} lines"

/-- The code that the program ends with. -/
def exitCode : Fault → Nat
  | ofSettings (.unreadable _) => 10
  | ofSettings _ | invalidSettings | ofRules _ | invalidRules _ => 2
  | unknownSection _ | ofUnits _ => 1
  | unreadable _ | notText _ => 10
  | incomplete _ => 3

end Fault

/-- What the program writes to its two outputs, and why it fails if it does. -/
structure Outcome where
  out : String
  err : String
  fault? : Option Fault

namespace Outcome

/-- Only a fault. -/
def failure (fault : Fault) : Outcome := ⟨"", "", some fault⟩

/-- The code that the program ends with. -/
def exitCode (o : Outcome) : Nat := (o.fault?.map (·.exitCode)).getD 0

/-- All that is written to the error output. -/
def errors (o : Outcome) : String :=
  o.err ++ (o.fault?.map fun fault => s!"error: {fault.message}\n").getD ""

end Outcome

/-- The settings that the program starts with. A level for logging that is given in the arguments
replaces the one of the settings; the command on settings tells itself what is wrong with them. -/
def Invocation.settings (inv : Invocation) (loaded : Except SettingsFault Settings) :
    Except SettingsFault Settings := do
  let settings ← match inv.request, loaded with
    | .checkSettings, .error _ | .showSettings _, .error _ => .ok Settings.default
    | _, loaded => loaded
  match inv.logLevel? with
  | none => .ok settings
  | some level => (settings.withLogLevel level).validate

/-- Checks the settings of a file. -/
def checkSettings (path : String) (loaded : Except SettingsFault Settings) (o : OutputFormat) :
    Outcome :=
  let fault? := match loaded with
    | .ok _ => none
    | .error _ => some .invalidSettings
  ⟨(Settings.check path loaded).render o, "", fault?⟩

/-- Shows the settings of a file, or a section of them. -/
def showSettings (path : String) (loaded : Except SettingsFault Settings)
    (sectionName? : Option String) (o : OutputFormat) : Outcome :=
  match loaded, sectionName? with
  | .error fault, _ => .failure (.ofSettings fault)
  | .ok settings, none => ⟨(settings.display path none).render o, "", none⟩
  | .ok settings, some name =>
    match SettingsSection.ofName? name with
    | some part => ⟨(settings.display path (some part)).render o, "", none⟩
    | none => .failure (.unknownSection name)

/-- Reports on a unit. -/
def reportUnit (unit : String) (target? : Option String) (value? : Option Float)
    (o : OutputFormat) : Outcome :=
  match UnitReport.of unit target? value? with
  | .ok r => ⟨r.report.render o, "", none⟩
  | .error e => .failure (.ofUnits e)

/-- Reports on a rule file. -/
def validateRules (path : String) (content : FileResult) (o : OutputFormat) : Outcome :=
  let r := RuleReport.ofFile path content
  ⟨r.report.render o, "", if r.isValid then none else some (.invalidRules path)⟩

/-- The processor of a rule file. Units are normalised if the settings say so, too. -/
def buildProcessor (rules? : Option (String × FileResult)) (normalizesUnits : Bool) :
    Except RuleError Processor := do
  let p ← match rules? with
    | none => .ok (Processor.empty .standard)
    | some (path, content) => do
      let config ← RuleConfig.ofFile path content
      (Processor.ofConfig .standard config).mapError .ofConfig
  .ok (if normalizesUnits then (p.perform (.normalizeUnits true)).1 else p)

/-- Processes messages. The summary goes to the error output; a run that ends early has none. -/
def processMessages (p : Processor) (options : RunOptions) (bytes : List UInt8)
    (moments : Nat → Moment) (o : OutputFormat) : Outcome :=
  let r := p.runBytes options bytes moments
  let out := Report.ofLines r.output
  match r.fault? with
  | some fault => ⟨out, "", some (.notText fault)⟩
  | none =>
    ⟨out, r.summary.report.render o,
      if r.summary.isComplete then none else some (.incomplete r.summary)⟩

/-- How the settings want messages to be written. -/
def runOptions (s : Settings) (format : MessageFormat) : RunOptions :=
  ⟨format, s.processor.metaAsTags, s.processor.forwardsOnError, .standard⟩

/-- The rule file of a request; without one, that of the settings. -/
def rulesPath? (given? : Option String) (s : Settings) : Option String :=
  given?.or (if s.processor.rulesPath.isEmpty then none else some s.processor.rulesPath)

/-- Carries out an invocation. The settings are read first, then the rules, then the input. -/
def execute {m : Type → Type} [Monad m] (w : World m) (inv : Invocation) : m Outcome := do
  let path := inv.settingsPath
  let content := textOf (← w.file path)
  match inv.settings (Settings.loadOrDefault w.env path content) with
  | .error fault => return .failure (.ofSettings fault)
  | .ok settings =>
    match inv.request with
    | .checkSettings => return checkSettings path (Settings.load w.env path content) inv.output
    | .showSettings name? =>
      return showSettings path (Settings.load w.env path content) name? inv.output
    | .units unit target? value? => return reportUnit unit target? value? inv.output
    | .validate file => return validateRules file (textOf (← w.file file)) inv.output
    | .process given? source format =>
      let rules? ← match rulesPath? given? settings with
        | none => pure none
        | some file => do pure (some (file, textOf (← w.file file)))
      match buildProcessor rules? settings.processor.normalizesUnits with
      | .error e => return .failure (.ofRules e)
      | .ok p =>
        let bytes ← if source == "-" then (do return .ok (← w.input)) else w.file source
        match bytes with
        | .error fault => return .failure (.unreadable fault)
        | .ok bytes =>
          return processMessages p (runOptions settings format) bytes w.moments inv.output

end Telemetry.CommandLine
