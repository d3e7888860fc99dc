import Telemetry.Text.CategoryTable

/-!
# General categories of characters

Every assigned character has one general category; characters without one are unassigned.
-/

namespace Telemetry.Text

/-- The general categories, by their two-letter names. -/
inductive Category where
  | lu | ll | lt | lm | lo | mn | mc | me | nd | nl | no | pc | pd | ps | pe | pi | pf | po
  | sm | sc | sk | so | zs | zl | zp | cc | cf | co
  deriving DecidableEq, Repr

namespace Category

/-- All categories. -/
def all : List Category :=
  [lu, ll, lt, lm, lo, mn, mc, me, nd, nl, no, pc, pd, ps, pe, pi, pf, po, sm, sc, sk, so,
    zs, zl, zp, cc, cf, co]

/-- The ranges that lie in the category as a whole. -/
def ranges : Category → CharRanges
  | lu => CategoryTable.uppercaseLetter
  | ll => CategoryTable.lowercaseLetter
  | lt => CategoryTable.titlecaseLetter
  | lm => CategoryTable.modifierLetter
  | lo => CategoryTable.otherLetter
  | mn => CategoryTable.nonspacingMark
  | mc => CategoryTable.spacingMark
  | me => CategoryTable.enclosingMark
  | nd => CategoryTable.decimalNumber
  | nl => CategoryTable.letterNumber
  | no => CategoryTable.otherNumber
  | pc => CategoryTable.connectorPunctuation
  | pd => CategoryTable.dashPunctuation
  | ps => CategoryTable.openPunctuation
  | pe => CategoryTable.closePunctuation
  | pi => CategoryTable.initialPunctuation
  | pf => CategoryTable.finalPunctuation
  | po => CategoryTable.otherPunctuation
  | sm => CategoryTable.mathSymbol
  | sc => CategoryTable.currencySymbol
  | sk => CategoryTable.modifierSymbol
  | so => CategoryTable.otherSymbol
  | zs => CategoryTable.spaceSeparator
  | zl => CategoryTable.lineSeparator
  | zp => CategoryTable.paragraphSeparator
  | cc => CategoryTable.control
  | cf => CategoryTable.format
  | co => CategoryTable.privateUse

/-- The ranges of which every second code point lies in the category. -/
def alternatingRanges : Category → CharRanges
  | lu => CategoryTable.alternatingUppercase
  | ll => CategoryTable.alternatingLowercase
  | _ => []

/-- Whether a character has the category. -/
def contains (g : Category) (c : Char) : Bool :=
  g.ranges.contains c || g.alternatingRanges.any fun (first, last) =>
    first ≤ c.toNat && c.toNat ≤ last && (c.toNat - first) % 2 == 0

/-- The letters. -/
def letters : List Category := [lu, ll, lt, lm, lo]

/-- The marks. -/
def marks : List Category := [mn, mc, me]

/-- The numbers. -/
def numbers : List Category := [nd, nl, no]

end Category

/-- Whether a character has one of the categories. -/
def hasCategory (gs : List Category) (c : Char) : Bool := gs.any (·.contains c)

/-- A letter, a letter number, or a mark or symbol that counts as a letter. -/
def isAlphabetic (c : Char) : Bool :=
  hasCategory (.nl :: Category.letters) c || CategoryTable.otherAlphabetic.contains c

/-- A small letter, or a character that counts as one. -/
def isLowercase (c : Char) : Bool :=
  Category.contains .ll c || CategoryTable.otherLowercase.contains c

/-- A capital letter, or a character that counts as one. -/
def isUppercase (c : Char) : Bool :=
  Category.contains .lu c || CategoryTable.otherUppercase.contains c

/-- A number of any kind. -/
def isNumeric (c : Char) : Bool := hasCategory Category.numbers c

/-- The two characters that join or separate letters without a shape of their own. -/
def isJoinControl (c : Char) : Bool := c.toNat == 0x200C || c.toNat == 0x200D

/-- The characters of words: letters, marks, decimal digits, connecting punctuation and the join
controls. -/
def isWordChar (c : Char) : Bool :=
  isAlphabetic c || hasCategory (.nd :: .pc :: Category.marks) c || isJoinControl c

end Telemetry.Text
