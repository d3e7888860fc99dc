import Telemetry.Condition.Program

/-!
# Rules

A rule is an action under a condition. A list of rules is in the order in which the conditions were
registered, with each condition once.
-/

namespace Telemetry

/-- An action that is taken where a condition holds. -/
structure Rule (α : Type) where
  condition : Condition.Program
  action : α

namespace Rule

/-- The text of the condition. -/
def source {α : Type} (r : Rule α) : String := r.condition.source

end Rule

namespace Rules

/-- Puts a rule in the place of the one with the same condition, else behind all others. -/
def upsert {α : Type} (r : Rule α) : List (Rule α) → List (Rule α)
  | [] => [r]
  | first :: rest => if first.source == r.source then r :: rest else first :: upsert r rest

/-- The rules without that of a condition. -/
def remove {α : Type} (source : String) (rules : List (Rule α)) : List (Rule α) :=
  rules.filter fun r => r.source != source

/-- Whether there is a rule of a condition. -/
def has {α : Type} (source : String) (rules : List (Rule α)) : Bool :=
  rules.any fun r => r.source == source

end Rules

end Telemetry
