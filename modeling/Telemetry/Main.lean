import Telemetry.CommandLine.Execution
import Telemetry.CommandLine.Reader

/-!
# The program

Reads the arguments, carries them out and writes what comes of it. This is the only place that
touches files, the environment and the standard streams.
-/

namespace Telemetry.CommandLine

/-- A fault of the system in the terms of file faults. -/
def faultOf (e : IO.Error) : FileFault :=
  match e with
  | .noFileOrDirectory .. => .notFound
  | .inappropriateType _ 20 _ => .notDirectory
  | .inappropriateType _ 21 _ => .isDirectory
  | e => .other (toString e)

/-- Reads the bytes of a file. -/
def readFile (path : String) : IO (Except FileFault (List UInt8)) := do
  try
    let bytes ← IO.FS.readBinFile path
    return .ok bytes.toList
  catch e => return .error (faultOf e)

/-- The time, as the system stamps a new file. -/
def now : IO Timestamp :=
  IO.FS.withTempFile fun _ path => do
    let t := (← path.metadata).modified
    return ⟨t.sec, t.nsec.toNat⟩

/-- The system that the program runs on. The input is read at once, when the program starts, and all
maps are visited by ascending key. -/
def system : IO (World IO) := do
  let found ← Settings.variableNames.filterMapM fun name => do
    return (← IO.getEnv name).map fun value => (name, value)
  let t ← now
  return {
    file := readFile
    input := do return (← (← IO.getStdin).readBinToEnd).toList
    env := fun name => found.lookup name
    moments := fun _ => { Moment.epoch with time := t } }

/-- What is said to arguments that are not carried out. -/
def UsageFault.notice : UsageFault → String
  | .version => "ironmetric 0.1.0"
  | .help | .helpForNothing => "Usage: ironmetric [OPTIONS] <COMMAND>"
  | .missingCommand => "error: 'ironmetric' requires a subcommand but one was not provided"
  | .unknownCommand => "error: unrecognized subcommand"
  | .unknownArgument => "error: unexpected argument found"
  | .missingArgument => "error: the following required arguments were not provided"
  | .invalidValue | .malformedNumber => "error: invalid value"
  | .repeatedOption => "error: the argument cannot be used multiple times"
  | .unwantedValue => "error: unexpected value found"

/-- Whether the program was asked to explain itself. -/
def UsageFault.isAnswer : UsageFault → Bool
  | .help | .version => true
  | _ => false

end Telemetry.CommandLine

open Telemetry.CommandLine in
/-- Runs the program. -/
def main (args : List String) : IO UInt32 := do
  let out ← IO.getStdout
  let err ← IO.getStderr
  match parse args with
  | .error fault =>
    (if fault.isAnswer then out else err).putStr (fault.notice ++ "\n")
    return if fault.isAnswer then 0 else 2
  | .ok inv =>
    let o ← execute (← system) inv
    out.putStr o.out
    out.flush
    err.putStr o.errors
    return UInt32.ofNat o.exitCode
