import Telemetry.Json.Writer

/-!
# Reports

A report is shown as text for people, or as a JSON document.
-/

namespace Telemetry

/-- How reports are shown. -/
inductive OutputFormat where
  | text | json
  deriving DecidableEq, Repr

/-- A report in both of its forms. -/
structure Report where
  /-- The lines, each with its line feed. -/
  text : String
  json : Json

/-- The report as it is shown. -/
def Report.render (r : Report) : OutputFormat → String
  | .text => r.text
  | .json => r.json.pretty ++ "\n"

namespace Report

/-- Lines with their line feeds. -/
def ofLines (lines : List String) : String := String.join (lines.map (· ++ "\n"))

/-- A member that is left out where there is no value. -/
def member? (key : String) (value : Option Json) : List (String × Json) :=
  (value.map fun v => (key, v)).toList

end Report

end Telemetry
