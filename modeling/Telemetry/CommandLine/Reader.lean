import Telemetry.CommandLine.Given

/-!
# Reading arguments

Arguments are read one after the other. A value is set only when something else comes up, or at the
end: what is wrong with it is found no sooner. Below a command, the arguments are those of that
command, and what is wrong with them counts before what is left to do for the command above.
-/

namespace Telemetry.CommandLine

/-- The shape of an argument. -/
inductive Shape where
  /-- Two hyphens; all arguments behind them are operands. -/
  | separator
  /-- A name behind two hyphens, and a value behind an equals sign. -/
  | long (name : String) (value? : Option String)
  /-- Letters behind a hyphen. -/
  | short (letters : List Char)
  | word
  deriving DecidableEq, Repr

/-- The shape of an argument; a hyphen alone is a word. -/
def shapeOf (arg : String) : Shape :=
  match arg.toList with
  | ['-', '-'] => .separator
  | '-' :: '-' :: cs =>
    let name := String.ofList (cs.takeWhile (· != '='))
    match cs.dropWhile (· != '=') with
    | [] => .long name none
    | _ :: value => .long name (some (String.ofList value))
  | '-' :: c :: cs => .short (c :: cs)
  | _ => .word

/-- Whether letters read as a number, given whether there has been a letter, a point or an `e` among
them. The exponent has no sign. -/
def looksNumeric (started point exponent : Bool) : List Char → Bool
  | [] => true
  | '.' :: cs => started && !point && !exponent && looksNumeric true true exponent cs
  | 'e' :: cs => started && !exponent && !cs.isEmpty && looksNumeric true point true cs
  | c :: cs => c.isDigit && looksNumeric true point exponent cs

/-- How far the arguments of a command are read. -/
structure Progress where
  given : Given
  /-- The parameter that comes next, and its value if it is known. -/
  pending? : Option (Parameter × Option String)
  hasOperand : Bool
  /-- Whether all arguments that follow are operands. -/
  operandsOnly : Bool

namespace Progress

/-- Nothing read. -/
def start : Progress := ⟨.nothing, none, false, false⟩

/-- What is given, with the parameter that came last. -/
def settle (p : Progress) : Except UsageFault Given :=
  match p.pending? with
  | none => .ok p.given
  | some (_, none) => .error .invalidValue
  | some (q, some s) => p.given.set q s

/-- The option that waits for its value. -/
def awaiting? (p : Progress) : Option Parameter :=
  match p.pending? with
  | some (q, none) => some q
  | _ => none

/-- Reads an option, with its value if it is attached. -/
def takeOption (p : Progress) (q : Parameter) (value? : Option String) :
    Except UsageFault Progress := do
  let g ← p.settle
  match value? with
  | none => .ok { p with given := g, pending? := some (q, none) }
  | some s => do .ok { p with given := ← g.set q s, pending? := none }

/-- Reads a switch behind which nothing else counts. -/
def stop (p : Progress) (fault : UsageFault) : Except UsageFault Progress := do
  let _ ← p.settle
  .error fault

/-- Reads a name behind two hyphens. -/
def takeLong (v : Verb) (p : Progress) (name : String) (value? : Option String) :
    Except UsageFault Progress :=
  match v.long? name, value? with
  | none, _ => .error .unknownArgument
  | some (.takes q), _ => p.takeOption q value?
  | some _, some _ => .error .unwantedValue
  | some .help, none => p.stop .help
  | some .version, none => p.stop .version

/-- Reads letters behind a hyphen. What follows the letter of an option is its value. -/
def takeShort (v : Verb) (p : Progress) : List Char → Except UsageFault Progress
  | [] => .error .unknownArgument
  | c :: cs =>
    match v.short? c with
    | none => .error .unknownArgument
    | some .help => p.stop .help
    | some .version => p.stop .version
    | some (.takes q) =>
      match cs with
      | [] => p.takeOption q none
      | '=' :: value | value => p.takeOption q (some (String.ofList value))

/-- Reads an operand. -/
def takeOperand (v : Verb) (p : Progress) (arg : String) : Except UsageFault Progress :=
  match v.operand?, p.hasOperand with
  | some q, false => do
    .ok { p with given := ← p.settle, pending? := some (q, some arg), hasOperand := true }
  | _, _ =>
    .error (if v.hasCommands && !(p.operandsOnly && v.knows arg) then .unknownCommand
      else .unknownArgument)

/-- Reads a word as the value of an option that waits for it, or as an operand. -/
def takeWord (v : Verb) (p : Progress) (arg : String) : Except UsageFault Progress :=
  match p.awaiting? with
  | some q => .ok { p with pending? := some (q, some arg) }
  | none => p.takeOperand v arg

/-- Reads an argument that is no command. -/
def take (v : Verb) (p : Progress) (arg : String) : Except UsageFault Progress :=
  if p.operandsOnly then p.takeOperand v arg
  else match shapeOf arg with
    | .separator => .ok { p with operandsOnly := true }
    | .long name value? => p.takeLong v name value?
    | .short letters =>
      if p.awaiting?.any (·.allowsNegative) && looksNumeric false false false letters then
        p.takeWord v arg
      else p.takeShort v letters
    | .word => p.takeWord v arg

/-- Whether an argument can be the name of a command. -/
def seesCommands (p : Progress) : Bool := !p.operandsOnly && p.awaiting?.isNone

end Progress

/-- What comes of asking for the explanation of a command below this one. -/
def explain (v : Verb) : List String → UsageFault
  | [] => .help
  | name :: rest =>
    match v.command? name with
    | some w => explain w rest
    | none => if v.knows name && rest.isEmpty then .help else .unknownCommand

/-- Reads the arguments of a command. -/
def readFrom (v : Verb) (p : Progress) : List String → Except UsageFault (Given × Request)
  | [] => do
    let g ← p.settle
    .ok (g, ← v.request g)
  | arg :: rest =>
    if p.seesCommands && v.hasCommands && arg == Verb.helpName then .error (explain v rest)
    else match if p.seesCommands then v.command? arg else none with
      | some w => do
        let (inner, request) ← readFrom w .start rest
        let g ← p.settle
        .ok (g.inherit inner, request)
      | none => do readFrom v (← p.take v arg) rest

/-- Reads the arguments of the program. -/
def parse (args : List String) : Except UsageFault Invocation := do
  let (g, request) ← readFrom .program .start args
  .ok (.of g request)

end Telemetry.CommandLine
