/-!
# Commands and their parameters

The commands of the program form a tree. A command has options, which are named in the arguments,
and at most one operand, which is not. Three options belong to every command.
-/

namespace Telemetry.CommandLine

/-- A command, by its place below the program. -/
inductive Verb where
  | program | process | validate | units | config | checkSettings | showSettings
  deriving DecidableEq, Repr

/-- An option or an operand of a command. -/
inductive Parameter where
  | settingsPath | logLevel | output
  | rules | input | format
  | ruleFile
  | unit | target | value
  | sectionName
  deriving DecidableEq, Repr

namespace Parameter

/-- The name behind two hyphens; operands have none. -/
def longName? : Parameter → Option String
  | settingsPath => some "config"
  | logLevel => some "log-level"
  | output => some "output"
  | rules => some "rules"
  | input => some "input"
  | format => some "format"
  | target => some "to"
  | value => some "value"
  | sectionName => some "section"
  | ruleFile | unit => none

/-- The letter behind one hyphen. -/
def letter? : Parameter → Option Char
  | settingsPath => some 'c'
  | rules => some 'r'
  | input => some 'i'
  | format => some 'f'
  | _ => none

/-- Whether the value can be a negative number. -/
def allowsNegative : Parameter → Bool
  | value => true
  | _ => false

/-- The options of every command. -/
def shared : List Parameter := [settingsPath, logLevel, output]

end Parameter

namespace Verb

/-- The commands below a command, by name. -/
def commands : Verb → List (String × Verb)
  | program => [("process", process), ("validate", validate), ("units", units), ("config", config)]
  | config => [("validate", checkSettings), ("show", showSettings)]
  | _ => []

/-- The command of a name below a command. -/
def command? (v : Verb) (name : String) : Option Verb := v.commands.lookup name

/-- Whether there are commands below a command. -/
def hasCommands (v : Verb) : Bool := !v.commands.isEmpty

/-- The name of the command that explains the others; it stands wherever there are commands. -/
def helpName : String := "help"

/-- Whether a name is one of a command below this one. -/
def knows (v : Verb) (name : String) : Bool :=
  v.hasCommands && (name == helpName || (v.command? name).isSome)

/-- The options of a command that others do not have. -/
def ownOptions : Verb → List Parameter
  | process => [.rules, .input, .format]
  | units => [.target, .value]
  | showSettings => [.sectionName]
  | _ => []

/-- The options of a command. -/
def options (v : Verb) : List Parameter := Parameter.shared ++ v.ownOptions

/-- The operand of a command. -/
def operand? : Verb → Option Parameter
  | validate => some .ruleFile
  | units => some .unit
  | _ => none

end Verb

/-- What a hyphenated name stands for. -/
inductive Switch where
  /-- An option with a value. -/
  | takes (p : Parameter)
  | help
  | version
  deriving DecidableEq, Repr

namespace Verb

/-- The switch of a name behind two hyphens. Only the program itself tells its version. -/
def long? (v : Verb) (name : String) : Option Switch :=
  if name == "help" then some .help
  else if name == "version" && v == program then some .version
  else (v.options.find? (·.longName? == some name)).map .takes

/-- The switch of a letter behind a hyphen. -/
def short? (v : Verb) (letter : Char) : Option Switch :=
  if letter == 'h' then some .help
  else if letter == 'V' && v == program then some .version
  else (v.options.find? (·.letter? == some letter)).map .takes

end Verb

end Telemetry.CommandLine
