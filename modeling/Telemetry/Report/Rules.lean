import Telemetry.Processor.Basic
import Telemetry.Report.Basic
import Telemetry.Rules.File

/-!
# Reports on rule files

How many rules a rule file has for each stage, or why it is refused.
-/

namespace Telemetry

/-- What is said of a rule file. -/
structure RuleReport where
  path : String
  /-- The rules, if there is nothing wrong with them. -/
  result : Except RuleError Rulebook

namespace RuleReport

/-- The report on a rule file, given what comes of reading it. -/
def ofFile (path : String) (content : FileResult) : RuleReport where
  path
  result := do
    let config ← RuleConfig.ofFile path content
    let p ← (Processor.ofConfig .standard config).mapError .ofConfig
    .ok p.rulebook

/-- Whether there is nothing wrong with the file. -/
def isValid (r : RuleReport) : Bool := r.result.isOk

/-- The stages and how many rules they have. -/
def counts (b : Rulebook) : List (Stage × Nat) := Stage.all.map fun s => (s, b.ruleCount s)

/-- A text with blanks behind it, so many characters long. -/
def padRight (width : Nat) (s : String) : String :=
  s ++ String.ofList (List.replicate (width - s.length) ' ')

/-- A text with blanks before it, so many characters long. -/
def padLeft (width : Nat) (s : String) : String :=
  String.ofList (List.replicate (width - s.length) ' ') ++ s

/-- A line of the table of stages. -/
def row (stage rules : String) : String := padRight 28 stage ++ " " ++ padLeft 6 rules

/-- The report in both of its forms. -/
def report (r : RuleReport) : Report :=
  match r.result with
  | .error e =>
    { text := Report.ofLines [s!"Rule Validation: {r.path}", "  Status: INVALID",
        s!"  Error: {e.message}"]
      json := .object [("source", .string r.path), ("valid", .bool false),
        ("total", .number (.integer 0)), ("order", .array []), ("stages", .array []),
        ("error", .string e.message)] }
  | .ok b =>
    let rows := (counts b).filterMap fun (s, n) =>
      if n = 0 then none else some (row s.name (toString n))
    let objects := (counts b).map fun (s, n) =>
      Json.object [("stage", .string s.name), ("rules", .number (.integer n))]
    { text := Report.ofLines ([s!"Rule Validation: {r.path}", "  Status: VALID",
        s!"  Total rules: {b.totalRules}", "", row "Stage" "Rules",
        String.ofList (List.replicate 35 '-')] ++ rows)
      json := .object [("source", .string r.path), ("valid", .bool true),
        ("total", .number (.integer b.totalRules)),
        ("order", .array (b.stages.map fun s => .string s.name)), ("stages", .array objects)] }

end RuleReport

end Telemetry
