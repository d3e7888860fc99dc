import Telemetry.Condition.Evaluation
import Telemetry.Condition.Parser
import Telemetry.Text.Blank

/-!
# Conditions that are ready to run

A condition is compiled once and then run on every message. A star alone is always true.
-/

namespace Telemetry.Condition

/-- Why a text is no condition. -/
inductive CompileError where
  | ofSyntax (e : SyntaxError)
  | ofType (fault : TypeFault)
  deriving DecidableEq, Repr

/-- The error as a sentence. -/
def CompileError.message : CompileError → String
  | ofSyntax e => e.message
  | ofType fault => s!"type error: {fault.message}"

/-- The fault as a sentence. -/
def RuntimeFault.report (fault : RuntimeFault) : String := s!"runtime error: {fault.message}"

/-- A condition and what it was compiled from. -/
structure Program where
  /-- The text of the condition. -/
  source : String
  root : Node
  /-- The engine for the patterns that are not known before. -/
  patterns : Pattern.Engine

namespace Program

/-- Whether the text is the condition that is always true. -/
def matchesAll (source : String) : Bool := Text.trim source == "*"

/-- The node of a condition. -/
def compileNode (env : Environment) (source : String) : Except CompileError Node :=
  if matchesAll source then .ok (.constant (.bool true))
  else
    match parse source with
    | .error e => .error (.ofSyntax e)
    | .ok e =>
      match Node.ofCondition env e with
      | .error fault => .error (.ofType fault)
      | .ok node => .ok node

/-- Compiles a condition. -/
def compile (env : Environment) (source : String) : Except CompileError Program :=
  (compileNode env source).map fun root => ⟨source, root, env.patterns⟩

/-- The value of the condition. -/
def run (p : Program) (scope : Scope) : Except RuntimeFault Value := p.root.eval p.patterns scope

/-- Whether the condition holds. -/
def holds (p : Program) (scope : Scope) : Except RuntimeFault Bool :=
  match p.run scope with
  | .ok (.bool b) => .ok b
  | .ok v => .error (.result v.kind)
  | .error fault => .error fault

end Program

end Telemetry.Condition
