import Telemetry.Text.Blank
import Telemetry.Text.Digits
import Telemetry.Timestamp.Basic

/-!
# Reading points in time

A timestamp text is a date, a `T` or one space, a time and an offset from UTC. Blanks may stand in
front of every number, sign and separator but not around the `T`; numbers may be shorter than they
are written, and the offset may be `Z` or `UTC`. Second sixty is a leap second.
-/

namespace Telemetry

namespace Timestamp

/-- Drops the blanks in front. -/
def skipBlanks (cs : List Char) : List Char := cs.dropWhile Text.isBlank

/-- Reads one to `most` digits. -/
def readDigits (most : Nat) (cs : List Char) : Option (Nat × List Char) :=
  let ds := (cs.take most).takeWhile Text.isDigit
  if ds.isEmpty then none else some (Text.digitsValue ds, cs.drop ds.length)

/-- Reads a number of one or two digits behind blanks. -/
def readPart (cs : List Char) : Option (Nat × List Char) := readDigits 2 (skipBlanks cs)

/-- Reads one character behind blanks. -/
def readMark (mark : Char) (cs : List Char) : Option (List Char) :=
  match skipBlanks cs with
  | c :: rest => if c == mark then some rest else none
  | [] => none

/-- Reads a year behind blanks: up to four digits, or any number of digits behind a sign. -/
def readYear (cs : List Char) : Option (Int × List Char) :=
  match skipBlanks cs with
  | '-' :: rest => (readDigits rest.length rest).map fun (n, rest) => (-(n : Int), rest)
  | '+' :: rest => (readDigits rest.length rest).map fun (n, rest) => ((n : Int), rest)
  | cs => (readDigits 4 cs).map fun (n, rest) => ((n : Int), rest)

/-- Reads a date. -/
def readDate (cs : List Char) : Option (Date × List Char) := do
  let (year, cs) ← readYear cs
  let cs ← readMark '-' cs
  let (month, cs) ← readPart cs
  let cs ← readMark '-' cs
  let (day, cs) ← readPart cs
  let date : Date := ⟨year, month, day⟩
  if date.isValid then some (date, cs) else none

/-- Reads a fraction of a second if there is one; digits behind the ninth do not count. -/
def readFraction : List Char → Option (Nat × List Char)
  | '.' :: cs =>
    let ds := cs.takeWhile Text.isDigit
    let counted := ds.take 9
    if ds.isEmpty then none
    else some (Text.digitsValue counted * Nat.pow 10 (9 - counted.length), cs.drop ds.length)
  | cs => some (0, cs)

/-- Reads a time of day as seconds and nanoseconds. -/
def readTime (cs : List Char) : Option ((Nat × Nat) × List Char) := do
  let (hour, cs) ← readPart cs
  let cs ← readMark ':' cs
  let (minute, cs) ← readPart cs
  let cs ← readMark ':' cs
  let (second, cs) ← readPart cs
  let (nanos, cs) ← readFraction cs
  if hour < 24 && minute < 60 && second < 60 then
    some ((hour * 3600 + minute * 60 + second, nanos), cs)
  else if hour < 24 && minute < 60 && second == 60 then
    some ((hour * 3600 + minute * 60 + 59, nanos + 1000000000), cs)
  else none

/-- Reads exactly two digits. -/
def readPair : List Char → Option (Nat × List Char)
  | a :: b :: rest =>
    if Text.isDigit a && Text.isDigit b then
      some (10 * Text.digitValue a + Text.digitValue b, rest)
    else none
  | _ => none

/-- Reads an offset from UTC in seconds: a sign, hours and minutes with colons or blanks between,
`Z`, or `UTC` in any case. -/
def readOffset (cs : List Char) : Option (Int × List Char) := do
  let signed (negative : Bool) (cs : List Char) : Option (Int × List Char) := do
    let (hours, cs) ← readPair cs
    let (minutes, cs) ← readPair (cs.dropWhile fun c => c == ':' || Text.isBlank c)
    let seconds : Int := hours * 3600 + minutes * 60
    if hours < 24 && minutes < 60 then some (if negative then -seconds else seconds, cs) else none
  if (cs.take 3).map Char.toUpper == ['U', 'T', 'C'] then some (0, cs.drop 3)
  else match cs with
    | 'Z' :: rest | 'z' :: rest => some (0, rest)
    | '+' :: rest => signed false rest
    | '-' :: rest | '−' :: rest => signed true rest
    | _ => none

/-- Reads a whole timestamp text. -/
def read? (s : String) : Option Timestamp := do
  let (date, cs) ← readDate s.toList
  let cs ← match cs with
    | 't' :: rest | 'T' :: rest | ' ' :: rest => some rest
    | _ => none
  let ((seconds, nanos), cs) ← readTime cs
  let (offset, cs) ← readOffset (skipBlanks cs)
  let total := date.toDays * 86400 + seconds - offset
  if cs.all Text.isBlank && (Date.ofDays (total / 86400)).isValid then some ⟨total, nanos⟩
  else none

end Timestamp

end Telemetry
