/-!
# Measures and their spellings

A measure is what a unit counts. A spelling is a row of letter slots, some of which may be left
out; `Measure.parse` finds the first measure one of whose spellings covers the whole text, and
`unknown` if there is none.
-/

namespace Telemetry

/-- One place of a spelling: the letters allowed there, and whether the place may stay empty. -/
structure LetterSlot where
  letters : List Char
  optional : Bool
  deriving DecidableEq, Repr

namespace LetterSlot

/-- Exactly this character. -/
def only (c : Char) : LetterSlot := ⟨[c], false⟩

/-- The letter in either case. -/
def required (c : Char) : LetterSlot := ⟨[c, c.toUpper], false⟩

/-- The letter in either case, or nothing. -/
def possible (c : Char) : LetterSlot := ⟨[c, c.toUpper], true⟩

/-- Whether the slots, from left to right, cover the whole text. -/
def cover : List LetterSlot → List Char → Bool
  | [], cs => cs.isEmpty
  | slot :: slots, cs =>
    (slot.optional && cover slots cs) ||
      match cs with
      | [] => false
      | c :: rest => slot.letters.contains c && cover slots rest

end LetterSlot

/-- What a unit counts; `unknown` is the measure of a text that names none. -/
inductive Measure where
  | unknown | bytes | flops | percent | celsius | fahrenheit | rotation | hertz | seconds
  | watts | joules | cycles | requests | packets | events
  deriving DecidableEq, Repr, Inhabited

namespace Measure

open LetterSlot

/-- The known measures, in the order in which a text is compared with them. -/
def known : List Measure :=
  [bytes, flops, percent, celsius, fahrenheit, rotation, hertz, seconds, cycles, watts, joules,
    requests, packets, events]

/-- A letter that must be there, then letters that may be left out. -/
private def abbreviated (first : Char) (others : List Char) : List LetterSlot :=
  required first :: others.map possible

/-- The spellings of each measure. -/
def spellings : Measure → List (List LetterSlot)
  | unknown => []
  | bytes => [abbreviated 'b' ['y', 't', 'e', 's']]
  | flops => [abbreviated 'f' ['l', 'o', 'p', 's']]
  | percent => [[only '%'], required 'p' :: "ercent".toList.map only]
  | celsius => ["deg", "°"].map fun lead => lead.toList.map only ++ [required 'c']
  | fahrenheit => ["deg", "°"].map fun lead => lead.toList.map only ++ [required 'f']
  | rotation => ["rpm".toList.map required]
  | hertz => [[required 'h', possible 'e', possible 'r', possible 't', required 'z']]
  | seconds => [abbreviated 's' ['e', 'c', 'o', 'n', 'd', 's']]
  | cycles => [required 'c' :: abbreviated 'y' ['c', 'l', 'e', 's']]
  | watts => [abbreviated 'w' ['a', 't', 't', 's']]
  | joules => [abbreviated 'j' ['o', 'u', 'l', 'e', 's']]
  | requests =>
    [required 'r' :: required 'e' :: abbreviated 'q' ['u', 'e', 's', 't', 's']]
  | packets =>
    [[required 'p', possible 'a', possible 'c', required 'k', possible 'e', required 't',
      possible 's']]
  | events =>
    [[required 'e', possible 'v', possible 'e', possible 'n', required 't', possible 's']]

/-- Whether the text spells the measure. -/
def spelled (m : Measure) (raw : String) : Bool :=
  m.spellings.any fun slots => cover slots raw.toList

/-- The first known measure that the whole text spells. -/
def parse (raw : String) : Measure :=
  (known.find? (·.spelled raw)).getD unknown

/-- Whether the text named a measure. -/
def isKnown (m : Measure) : Bool := m != unknown

/-- The normal spelling, empty for `unknown`. -/
def short : Measure → String
  | unknown => ""
  | bytes => "B"
  | flops => "F"
  | percent => "%"
  | celsius => "degC"
  | fahrenheit => "degF"
  | rotation => "RPM"
  | hertz => "Hz"
  | seconds => "s"
  | watts => "W"
  | joules => "J"
  | cycles => "cyc"
  | requests => "requests"
  | packets => "packets"
  | events => "events"

/-- The name for readers. -/
def long : Measure → String
  | unknown => "Unknown"
  | bytes => "Bytes"
  | flops => "Flops"
  | percent => "Percent"
  | celsius => "DegreeC"
  | fahrenheit => "DegreeF"
  | rotation => "RPM"
  | hertz => "Hertz"
  | seconds => "Seconds"
  | watts => "Watts"
  | joules => "Joules"
  | cycles => "Cycles"
  | requests => "Requests"
  | packets => "Packets"
  | events => "Events"

/-- The normal spelling is read as the measure it was written for. -/
@[simp] theorem parse_short (m : Measure) : parse m.short = m := by
  cases m <;> decide

end Measure

end Telemetry
