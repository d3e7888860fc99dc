import Telemetry.Proofs.Rules.Reachability
import Telemetry.Rules.File

/-!
# Calls of a processor

A processor is called with changes of its rules, with rule documents and with messages, in any
order. A call with a message is the only one that is answered with a verdict; a document that cannot
be read is turned away before the rules are looked at.
-/

namespace Telemetry

/-- A call of a processor. -/
inductive Call where
  /-- A change of the rules. -/
  | command (c : Command)
  /-- A rule document. -/
  | document (format : RuleFormat) (text : String)
  /-- A rule file, given what comes of reading it. -/
  | file (path : String) (content : FileResult)
  /-- A message to process, its entries visited in the given orders. -/
  | message (order : Message.Order) (m : Message)

namespace Call

/-- The command that a call comes down to. There is none for a message, nor for a document that
cannot be read. -/
def command? : Call → Option Command
  | command c => some c
  | document format text => (format.read text).toOption.map .configure
  | file path content => (RuleConfig.ofFile path content).toOption.map .configure
  | message .. => none

/-- The message that a call brings, with the orders in which its entries are visited. -/
def message? : Call → Option (Message.Order × Message)
  | message order m => some (order, m)
  | _ => none

/-- Whether the number of rules is seen in a call. -/
def seesRules (call : Call) : Bool := call.command?.any Command.touchesRules

/-- A call brings a message or changes rules, but not both. -/
theorem command?_of_message? {call : Call} {brought : Message.Order × Message}
    (h : call.message? = some brought) : call.command? = none := by
  cases call with
  | message => rfl
  | command | document | file => exact absurd h (by simp [message?])

end Call

namespace Processor

/-- Does what a command asks for, if there is one. -/
def obey (p : Processor) (c? : Option Command) : Processor :=
  c?.elim p fun c => (p.perform c).1

/-- The processor after a call, and what became of the message that the call brought. -/
def serve (p : Processor) (call : Call) : Processor × Option Verdict :=
  match call.message? with
  | some (order, m) => ((p.process order m).1, some (p.process order m).2)
  | none => (p.obey call.command?, none)

/-- The processor after calls, one after the other, and what became of the messages. -/
def serveAll (p : Processor) : List Call → Processor × List Verdict
  | [] => (p, [])
  | call :: calls =>
    let first := p.serve call
    let rest := first.1.serveAll calls
    (rest.1, first.2.toList ++ rest.2)

/-- Calls are served in two parts as they are served in one. -/
theorem serveAll_append (p : Processor) (calls calls' : List Call) :
    p.serveAll (calls ++ calls') =
      (((p.serveAll calls).1.serveAll calls').1,
        (p.serveAll calls).2 ++ ((p.serveAll calls).1.serveAll calls').2) := by
  induction calls generalizing p with
  | nil => rfl
  | cons call calls ih =>
    have hrest := ih (p.serve call).1
    simp only [List.cons_append, serveAll, hrest, List.append_assoc]

/-- Every message gets one verdict. -/
theorem length_serveAll (p : Processor) (calls : List Call) :
    (p.serveAll calls).2.length = (calls.filterMap Call.message?).length := by
  induction calls generalizing p with
  | nil => rfl
  | cons call calls ih =>
    have hrest := ih (p.serve call).1
    rw [serveAll, List.length_append, hrest, List.filterMap_cons, serve]
    cases call.message? with
    | none => exact Nat.zero_add _
    | some brought => exact Nat.add_comm 1 _

section Messages

variable {α : Type} (order : α → Message.Order) (message : α → Message)

/-- Calls with messages alone are answered with one verdict each. -/
theorem length_serveAll_messages (p : Processor) (xs : List α) :
    (p.serveAll (xs.map fun x => .message (order x) (message x))).2.length = xs.length := by
  have hmessages : (xs.map fun x => Call.message (order x) (message x)).filterMap Call.message? =
      xs.map fun x => (order x, message x) := by
    simp [List.filterMap_map, Function.comp_def, Call.message?]
  rw [length_serveAll, hmessages, List.length_map]

/-- Where maps are given back empty, messages that come one after the other are judged each on its
own. -/
theorem Reachable.serveAll_messages {p : Processor} (h : p.Reachable) (xs : List α) :
    (p.serveAll (xs.map fun x => .message (order x) (message x))).2 =
      xs.map fun x => p.rulebook.process (order x) (message x) := by
  induction xs generalizing p with
  | nil => rfl
  | cons x xs ih =>
    have hfirst : (p.process (order x) (message x)).2 =
        p.rulebook.process (order x) (message x) := by
      rw [process_verdict, h.judge_eq]
      rfl
    have hlater := ih (h.process (order x) (message x))
    rw [List.map_cons, List.map_cons, ← hfirst]
    exact congrArg ((p.process (order x) (message x)).2 :: ·) hlater

end Messages

end Processor

end Telemetry
