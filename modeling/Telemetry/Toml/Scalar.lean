import Telemetry.Decimal.Reader
import Telemetry.Text.Hex
import Telemetry.Timestamp.Calendar
import Telemetry.Toml.Value
import Telemetry.Word

/-!
# Scalars of a TOML document

How strings, numbers, dates and times are read. A text in three quotes may have line breaks, and
drops one at its start. Line breaks are line feeds here.
-/

namespace Telemetry.Toml

/-- What a one-letter escape stands for. -/
def escape? : Char → Option Char
  | 'b' => some '\x08'
  | 't' => some '\t'
  | 'n' => some '\n'
  | 'f' => some '\x0c'
  | 'r' => some '\r'
  | 'e' => some '\x1b'
  | '"' => some '"'
  | '\\' => some '\\'
  | _ => none

/-- How many digits follow an escape that is a number. -/
def escapeWidth? : Char → Option Nat
  | 'x' => some 2
  | 'u' => some 4
  | 'U' => some 8
  | _ => none

/-- Blanks within a line. -/
def isSpace (c : Char) : Bool := c == ' ' || c == '\t'

/-- The rest behind a backslash at the end of a line: all blanks and line breaks are skipped. -/
def skipContinuation? (cs : List Char) : Option (List Char) :=
  match cs.dropWhile isSpace with
  | '\n' :: rest => some (rest.dropWhile fun c => isSpace c || c == '\n')
  | _ => none

/-- The quotes that end a text in three quotes: two more may belong to the text. -/
def closing? (quote : Char) (cs : List Char) : Option (List Char × List Char) :=
  let run := (cs.takeWhile (· == quote)).length
  if run < 3 then none
  else
    let inner := min (run - 3) 2
    some (List.replicate inner quote, cs.drop (3 + inner))

/-- Reads a text with escapes up to its closing quotes. -/
def readBasic? (long : Bool) : Nat → List Char → Option (List Char × List Char)
  | 0, _ => none
  | fuel + 1, cs =>
    match cs with
    | [] => none
    | '"' :: rest =>
      if long then
        match closing? '"' cs with
        | some (inner, rest) => some (inner, rest)
        | none => (readBasic? long fuel rest).map fun (s, rest) => ('"' :: s, rest)
      else some ([], rest)
    | '\\' :: rest =>
      match if long then skipContinuation? rest else none with
      | some rest => readBasic? long fuel rest
      | none =>
        match rest with
        | [] => none
        | c :: rest =>
          match escape? c, escapeWidth? c with
          | some c, _ => (readBasic? long fuel rest).map fun (s, rest) => (c :: s, rest)
          | none, some width =>
            if rest.length < width then none
            else
              match Text.charOfHex? (rest.take width) with
              | some c =>
                (readBasic? long fuel (rest.drop width)).map fun (s, rest) => (c :: s, rest)
              | none => none
          | none, none => none
    | c :: rest =>
      if c == '\n' && !long then none
      else (readBasic? long fuel rest).map fun (s, rest) => (c :: s, rest)

/-- Reads a text without escapes up to its closing quotes. -/
def readLiteral? (long : Bool) : List Char → Option (List Char × List Char)
  | [] => none
  | c :: rest =>
    if c == '\'' then
      if long then
        match closing? '\'' (c :: rest) with
        | some (inner, rest) => some (inner, rest)
        | none => (readLiteral? long rest).map fun (s, rest) => (c :: s, rest)
      else some ([], rest)
    else if c == '\n' && !long then none
    else (readLiteral? long rest).map fun (s, rest) => (c :: s, rest)

/-- Drops the line break at the start of a text in three quotes. -/
def dropFirstBreak : List Char → List Char
  | '\n' :: rest => rest
  | cs => cs

/-- Reads a text, from its opening quotes on. -/
def readString? (cs : List Char) : Option (String × List Char) :=
  let text := match cs with
    | '"' :: '"' :: '"' :: rest => readBasic? true (rest.length + 1) (dropFirstBreak rest)
    | '"' :: rest => readBasic? false (rest.length + 1) rest
    | '\'' :: '\'' :: '\'' :: rest => readLiteral? true (dropFirstBreak rest)
    | '\'' :: rest => readLiteral? false rest
    | _ => none
  text.map fun (s, rest) => (String.ofList s, rest)

/-- Drops underscores, each of which must stand between two digits. -/
def dropUnderscores? (isDigit : Char → Bool) : List Char → Option (List Char)
  | [] => none
  | [c] => if isDigit c then some [c] else none
  | c :: '_' :: rest =>
    if isDigit c then (dropUnderscores? isDigit rest).map (c :: ·) else none
  | c :: rest => if isDigit c then (dropUnderscores? isDigit rest).map (c :: ·) else none

/-- The number of digits in a base. -/
def natOf? (base : Nat) (cs : List Char) : Option Nat := do
  Text.natOfBase? base (← dropUnderscores? (Text.isDigitOf base) cs)

/-- Decimal digits that have no leading zero. -/
def decimalDigits? (cs : List Char) : Option (List Char) := do
  let ds ← dropUnderscores? Text.isDigit cs
  if ds.head? == some '0' && ds.length != 1 then none else some ds

/-- Splits off a sign. -/
def splitSign : List Char → Bool × List Char
  | '-' :: rest => (true, rest)
  | '+' :: rest => (false, rest)
  | cs => (false, cs)

/-- Reads an integer of at most 128 bits. -/
def readInteger? (cs : List Char) : Option Int :=
  let n : Option Int := match cs with
    | '0' :: 'x' :: rest => (natOf? 16 rest).map fun n => (n : Int)
    | '0' :: 'o' :: rest => (natOf? 8 rest).map fun n => (n : Int)
    | '0' :: 'b' :: rest => (natOf? 2 rest).map fun n => (n : Int)
    | cs =>
      let (negative, cs) := splitSign cs
      (decimalDigits? cs).map fun ds =>
        let n : Int := Text.digitsValue ds
        if negative then -n else n
  n.filter fits128

/-- Reads a number with a point or an exponent; it must not be too large. -/
def readReal? (cs : List Char) : Option Float :=
  let (negative, bare) := splitSign cs
  let sign (x : Float) : Float := if negative then -x else x
  if bare == "inf".toList then some (sign (1.0 / 0.0))
  else if bare == "nan".toList then some (sign (0.0 / 0.0))
  else do
    let isE (c : Char) : Bool := c == 'e' || c == 'E'
    let mantissa := bare.takeWhile (!isE ·)
    let exponent := (bare.dropWhile (!isE ·)).drop 1
    let whole ← decimalDigits? (mantissa.takeWhile (· != '.'))
    let hasPoint := mantissa.contains '.'
    let hasExponent := bare.any isE
    let places ← if hasPoint then
        dropUnderscores? Text.isDigit ((mantissa.dropWhile (· != '.')).drop 1)
      else some []
    let (below, digits) := splitSign exponent
    let power ← if hasExponent then dropUnderscores? Text.isDigit digits else some []
    if !hasPoint && !hasExponent then none
    else
      let n : Int := Text.digitsValue power
      let x := (Decimal.ofPlaces whole places (if below then -n else n)).toFloat
      if x.isFinite then some (sign x) else none

/-- Reads so many digits. -/
def fixedDigits? (n : Nat) (cs : List Char) : Option (Nat × List Char) :=
  let ds := cs.take n
  if ds.length == n && ds.all Text.isDigit then some (Text.digitsValue ds, cs.drop n) else none

/-- Skips a character that must be next. -/
def skipChar? (c : Char) : List Char → Option (List Char)
  | d :: rest => if d == c then some rest else none
  | [] => none

/-- Skips a date. -/
def skipDate? (cs : List Char) : Option (List Char) := do
  let (year, cs) ← fixedDigits? 4 cs
  let (month, cs) ← fixedDigits? 2 (← skipChar? '-' cs)
  let (day, cs) ← fixedDigits? 2 (← skipChar? '-' cs)
  if 1 ≤ month && month ≤ 12 && 1 ≤ day && day ≤ Date.monthLength year month then some cs
  else none

/-- Skips a time of day; the seconds may be left out. -/
def skipTime? (cs : List Char) : Option (List Char) := do
  let (hour, cs) ← fixedDigits? 2 cs
  let (minute, cs) ← fixedDigits? 2 (← skipChar? ':' cs)
  if 23 < hour || 59 < minute then none
  else
    match cs with
    | ':' :: rest => do
      let (second, cs) ← fixedDigits? 2 rest
      if 60 < second then none
      else
        match cs with
        | '.' :: rest =>
          if rest.head?.any Text.isDigit then some (rest.dropWhile Text.isDigit) else none
        | cs => some cs
    | cs => some cs

/-- Skips the offset of a time. -/
def skipOffset? : List Char → Option (List Char)
  | 'Z' :: rest | 'z' :: rest => some rest
  | sign :: rest =>
    if sign == '+' || sign == '-' then do
      let (hour, cs) ← fixedDigits? 2 rest
      let (minute, cs) ← fixedDigits? 2 (← skipChar? ':' cs)
      if hour ≤ 23 && minute ≤ 59 then some cs else none
    else none
  | [] => none

/-- Whether a text is a date, a time or both, perhaps with an offset. -/
def isDatetime (cs : List Char) : Bool :=
  match skipDate? cs with
  | some [] => true
  | some (c :: rest) =>
    (c == 'T' || c == 't' || c == ' ') &&
      match skipTime? rest with
      | some [] => true
      | some rest => skipOffset? rest == some []
      | none => false
  | none => skipTime? cs == some []

/-- The characters of words that are not in quotes. -/
def isWordChar (c : Char) : Bool :=
  Text.isDigit c || c.isAlpha || c == '_' || c == '-' || c == '+' || c == '.' || c == ':'

/-- Splits off a word; one blank may stand between a date and a time. -/
def splitWord (cs : List Char) : List Char × List Char :=
  let word := cs.takeWhile isWordChar
  match cs.dropWhile isWordChar with
  | ' ' :: rest =>
    if (skipDate? word) == some [] && rest.head?.any Text.isDigit then
      (word ++ ' ' :: rest.takeWhile isWordChar, rest.dropWhile isWordChar)
    else (word, ' ' :: rest)
  | rest => (word, rest)

/-- The value of a word. -/
def ofWord? (word : List Char) : Option Toml :=
  if word == "true".toList then some (.bool true)
  else if word == "false".toList then some (.bool false)
  else
    match readInteger? word, readReal? word with
    | some n, _ => some (.integer n)
    | none, some x => some (.real x)
    | none, none => if isDatetime word then some (.datetime (String.ofList word)) else none

end Telemetry.Toml
