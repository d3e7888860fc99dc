import Telemetry.Text.Blank
import Telemetry.Units.Prefix
import Telemetry.Units.Measure

/-!
# Units

A unit is a measure with a prefix, possibly per a second measure. A unit text is a prefix symbol,
a measure and, after a slash, another measure; a leading letter that can be read as a prefix or as
the first letter of a measure is tried as a prefix first.
-/

namespace Telemetry

/-- How a measure treats the prefix in front of it. -/
inductive PrefixPolicy where
  /-- The prefix stays. -/
  | keep
  /-- The measure has no thousandths, so their symbol is a lower-case mega. -/
  | milliMeansMega
  /-- The prefix is dropped. -/
  | none
  deriving DecidableEq, Repr

namespace PrefixPolicy

/-- Counts of whole things have no thousandths, and a percentage has no prefix. -/
def of : Measure → PrefixPolicy
  | .bytes | .flops | .packets | .events | .cycles | .requests => milliMeansMega
  | .percent => none
  | _ => keep

/-- The prefix that is meant. -/
def correct : PrefixPolicy → Prefix → Prefix
  | milliMeansMega, .milli => .mega
  | none, _ => .base
  | _, p => p

end PrefixPolicy

/-- A measure with its prefix, possibly per another measure. -/
structure UnitOfMeasure where
  /-- The prefix of the measure. -/
  scale : Prefix
  /-- What is counted. -/
  measure : Measure
  /-- What it is counted per. -/
  per : Option Measure
  deriving DecidableEq, Repr

/-- What can be wrong with units. -/
inductive UnitError where
  /-- No conversion leads from the first unit to the second; both are given by their long names. -/
  | incompatible (source target : String)
  /-- The text is no unit. -/
  | invalidUnit (raw : String)
  deriving DecidableEq, Repr

namespace UnitError

/-- The error as a sentence. -/
def message : UnitError → String
  | incompatible source target =>
    s!"invalid measures in in and out unit: '{source}' -> '{target}'"
  | invalidUnit raw => s!"invalid unit '{raw}'"

/-- The error as the library reports it. -/
def report (e : UnitError) : String := "unit error: " ++ e.message

end UnitError

namespace UnitOfMeasure

/-- The unit of a text that names none. -/
def unknown : UnitOfMeasure := ⟨.base, .unknown, none⟩

/-- Whether the unit has a known measure. -/
def isKnown (u : UnitOfMeasure) : Bool := u.measure.isKnown

/-- The text before the first slash, and the text after it if there is one. -/
def splitSlash (cs : List Char) : List Char × Option (List Char) :=
  match cs.dropWhile (· != '/') with
  | [] => (cs, none)
  | _ :: rest => (cs.takeWhile (· != '/'), some rest)

/-- Reads a measure or a measure per measure, and gives it the prefix. -/
def resolve (p : Prefix) (cs : List Char) : UnitOfMeasure :=
  let (counted, per) := splitSlash cs
  let measure := Measure.parse (String.ofList counted)
  let divisor := per.map fun d => Measure.parse (String.ofList d)
  if measure.isKnown && divisor.all (·.isKnown) then
    ⟨(PrefixPolicy.of measure).correct p, measure, divisor⟩
  else
    unknown

/-- Splits off the longest run that can be a prefix symbol: one letter of a prefix, one `i`. -/
def splitPrefix (cs : List Char) : List Char × List Char :=
  let (letter, rest) := match cs with
    | c :: rest => if "kKmMgGtTpPeEun".toList.contains c then ([c], rest) else ([], cs)
    | [] => ([], [])
  match rest with
  | 'i' :: rest => (letter ++ ['i'], rest)
  | _ => (letter, rest)

/-- Reads a unit text; blanks around it do not count. -/
def parse (raw : String) : UnitOfMeasure :=
  let cs := Text.trimChars raw.toList
  let (symbol, rest) := splitPrefix cs
  match Prefix.ofSymbol? (String.ofList symbol) with
  | some p =>
    let u := resolve p rest
    if u.isKnown || p == .base then u else resolve .base cs
  | none => resolve .base cs

/-- Reads a unit text and refuses one that names no unit. -/
def parse? (raw : String) : Except UnitError UnitOfMeasure :=
  let u := parse raw
  if u.isKnown then .ok u else .error (.invalidUnit raw)

/-- The unit with another prefix; a measure without prefixes keeps none. -/
def withPrefix (u : UnitOfMeasure) (p : Prefix) : UnitOfMeasure :=
  { u with scale := if PrefixPolicy.of u.measure = .none then .base else p }

/-- The normal text of a known unit, empty for an unknown one. -/
def short (u : UnitOfMeasure) : String :=
  if u.isKnown then
    u.scale.symbol ++ u.measure.short ++
      match u.per with
      | some d => "/" ++ d.short
      | none => ""
  else ""

/-- The name for readers. -/
def long (u : UnitOfMeasure) : String :=
  u.scale.name ++ u.measure.long ++
    match u.per with
    | some d => "/" ++ d.long
    | none => ""

end UnitOfMeasure

end Telemetry
