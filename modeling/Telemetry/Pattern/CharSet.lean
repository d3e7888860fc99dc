import Telemetry.Text.Blank
import Telemetry.Text.CaseTable
import Telemetry.Text.Category
import Telemetry.Text.Digits
import Telemetry.Text.Script

/-!
# Sets of characters in patterns

A set is built from ranges and classes by the operations on sets. `anyCase` adds to a set the
characters that differ from one of its own only in case.
-/

namespace Telemetry

namespace Pattern

/-- The named classes of characters. -/
inductive CharClass where
  | digit | blank | word
  | alphabetic | lowercase | uppercase
  | assigned
  | categories (gs : List Text.Category)
  | script (s : Text.Script)
  deriving DecidableEq, Repr

/-- Whether a class holds a character. -/
def CharClass.contains (c : Char) : CharClass → Bool
  | digit => Text.Category.contains .nd c
  | blank => Text.isBlank c
  | word => Text.isWordChar c
  | alphabetic => Text.isAlphabetic c
  | lowercase => Text.isLowercase c
  | uppercase => Text.isUppercase c
  | assigned => Text.hasCategory Text.Category.all c
  | categories gs => Text.hasCategory gs c
  | script s => s.ranges.contains c

/-- A set of characters. -/
inductive CharSet where
  | ranges (rs : Text.CharRanges)
  | named (k : CharClass)
  | union (s t : CharSet)
  | inter (s t : CharSet)
  | diff (s t : CharSet)
  | symmDiff (s t : CharSet)
  | compl (s : CharSet)
  /-- The characters that equal one of the set when case does not count. -/
  | anyCase (s : CharSet)
  /-- The same, where case counts beyond the ASCII letters. -/
  | anyAsciiCase (s : CharSet)
  deriving DecidableEq, Repr

/-- The characters that equal `c` when case does not count. -/
def caseOrbit (c : Char) : List Char :=
  let folded := Text.CaseRun.apply Text.foldRuns c
  folded :: Text.CaseRun.sources Text.foldRuns folded

/-- The ASCII characters that equal `c` when the case of ASCII letters does not count. -/
def asciiOrbit (c : Char) : List Char := [c, c.toLower, c.toUpper]

namespace CharSet

/-- Whether a set holds a character. -/
def contains : CharSet → Char → Bool
  | ranges rs, c => rs.contains c
  | named k, c => k.contains c
  | union s t, c => s.contains c || t.contains c
  | inter s t, c => s.contains c && t.contains c
  | diff s t, c => s.contains c && !t.contains c
  | symmDiff s t, c => s.contains c != t.contains c
  | compl s, c => !s.contains c
  | anyCase s, c => (caseOrbit c).any s.contains
  | anyAsciiCase s, c => (asciiOrbit c).any s.contains

/-- The set without characters. -/
def empty : CharSet := ranges []

/-- The set of the characters from `first` to `last`. -/
def range (first last : Char) : CharSet := ranges [(first.toNat, last.toNat)]

/-- The set of one character. -/
def single (c : Char) : CharSet := range c c

/-- The ASCII characters. -/
def ascii : CharSet := ranges [(0, 0x7F)]

end CharSet

/-- The characters of words among the ASCII characters. -/
def isAsciiWordChar (c : Char) : Bool := c.isAlphanum || c == '_'

end Pattern

end Telemetry
