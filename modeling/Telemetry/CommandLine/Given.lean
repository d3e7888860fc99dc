import Telemetry.CommandLine.Parameter
import Telemetry.Decimal.Reader
import Telemetry.Report.Basic
import Telemetry.Run.Basic

/-!
# What a command is given

The values of the parameters of a command, each given at most once, and what the command is thereby
asked to do.
-/

namespace Telemetry.CommandLine

/-- Why arguments are not carried out. The program explaining itself is one reason. -/
inductive UsageFault where
  | help
  | version
  /-- No arguments at all where a command is missing. -/
  | helpForNothing
  | missingCommand
  | unknownCommand
  | unknownArgument
  | missingArgument
  /-- A value is missing, is empty where it must not be, or is none of the choices. -/
  | invalidValue
  | malformedNumber
  | repeatedOption
  /-- A switch without a value is given one. -/
  | unwantedValue
  deriving DecidableEq, Repr

/-- The values of parameters. -/
structure Given where
  settingsPath? : Option String
  logLevel? : Option String
  output? : Option OutputFormat
  rules? : Option String
  input? : Option String
  format? : Option MessageFormat
  ruleFile? : Option String
  unit? : Option String
  target? : Option String
  value? : Option Float
  sectionName? : Option String

namespace Given

/-- Nothing given. -/
def nothing : Given :=
  ⟨none, none, none, none, none, none, none, none, none, none, none⟩

/-- Whether an option that belongs to every command is given. -/
def hasShared (g : Given) : Bool :=
  g.settingsPath?.isSome || g.logLevel?.isSome || g.output?.isSome

/-- What is given to a command below one that was given `g`: of the options that belong to every
command, the innermost value counts. -/
def inherit (g inner : Given) : Given :=
  { inner with
    settingsPath? := inner.settingsPath?.or g.settingsPath?
    logLevel? := inner.logLevel?.or g.logLevel?
    output? := inner.output?.or g.output? }

/-- Fills a place that has been empty. -/
def once {α : Type} (old : Option α) (new : Except UsageFault α) : Except UsageFault (Option α) :=
  match old with
  | some _ => .error .repeatedOption
  | none => new.map some

/-- A path is not empty. -/
def path (s : String) : Except UsageFault String :=
  if s.isEmpty then .error .invalidValue else .ok s

/-- One of several names. -/
def choice {α : Type} (choices : List (String × α)) (s : String) : Except UsageFault α :=
  match choices.lookup s with
  | some a => .ok a
  | none => .error .invalidValue

/-- A number. -/
def number (s : String) : Except UsageFault Float :=
  match Decimal.readFloat? s.toList with
  | some x => .ok x
  | none => .error .malformedNumber

/-- Gives a parameter a value. -/
def set (g : Given) (p : Parameter) (s : String) : Except UsageFault Given :=
  match p with
  | .settingsPath => do .ok { g with settingsPath? := ← once g.settingsPath? (path s) }
  | .logLevel => do .ok { g with logLevel? := ← once g.logLevel? (.ok s) }
  | .output => do
    let format := choice [("text", OutputFormat.text), ("json", .json)] s
    .ok { g with output? := ← once g.output? format }
  | .rules => do .ok { g with rules? := ← once g.rules? (path s) }
  | .input => do .ok { g with input? := ← once g.input? (.ok s) }
  | .format => do
    let format := choice [("json", MessageFormat.json), ("line", .line)] s
    .ok { g with format? := ← once g.format? format }
  | .ruleFile => do .ok { g with ruleFile? := ← once g.ruleFile? (path s) }
  | .unit => do .ok { g with unit? := ← once g.unit? (.ok s) }
  | .target => do .ok { g with target? := ← once g.target? (.ok s) }
  | .value => do .ok { g with value? := ← once g.value? (number s) }
  | .sectionName => do .ok { g with sectionName? := ← once g.sectionName? (.ok s) }

end Given

/-- What the program is asked to do. -/
inductive Request where
  /-- Process the messages of a file, or of the standard input if its name is a hyphen. -/
  | process (rules? : Option String) (input : String) (format : MessageFormat)
  | validate (path : String)
  | units (unit : String) (target? : Option String) (value? : Option Float)
  | checkSettings
  | showSettings (sectionName? : Option String)

/-- What a command is asked to do by what it is given. A value is converted only if the unit to
convert it to is given. -/
def Verb.request (v : Verb) (g : Given) : Except UsageFault Request :=
  match v with
  | program | config => .error (if g.hasShared then .missingCommand else .helpForNothing)
  | process => .ok (.process g.rules? (g.input?.getD "-") (g.format?.getD .json))
  | validate =>
    match g.ruleFile? with
    | some path => .ok (.validate path)
    | none => .error .missingArgument
  | units =>
    match g.unit?, g.target?, g.value? with
    | none, _, _ | some _, none, some _ => .error .missingArgument
    | some unit, target?, value? => .ok (.units unit target? value?)
  | checkSettings => .ok .checkSettings
  | showSettings => .ok (.showSettings g.sectionName?)

/-- A request with the options that belong to every command. -/
structure Invocation where
  settingsPath : String
  logLevel? : Option String
  output : OutputFormat
  request : Request

/-- The invocation of a request; the options that are not given have defaults. -/
def Invocation.of (g : Given) (request : Request) : Invocation where
  settingsPath := g.settingsPath?.getD "ironmetric.toml"
  logLevel? := g.logLevel?
  output := g.output?.getD .text
  request

end Telemetry.CommandLine
