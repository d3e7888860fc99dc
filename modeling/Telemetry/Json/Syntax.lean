import Telemetry.Text.Hex

/-!
# The grammar of JSON texts

`Json.Syntax` is a JSON text as it is written: numbers as their digits, strings with their escapes
resolved where that is possible, members in order and with repetitions. `read?` accepts exactly the
texts of the grammar, nested to any depth; what the texts mean is decided elsewhere.
-/

namespace Telemetry.Json

/-- A number as it is written. -/
structure NumberText where
  negative : Bool
  /-- The digits before the point, without leading zeros. -/
  whole : List Char
  /-- The digits behind the point, if there is a point. -/
  places : Option (List Char)
  /-- The sign and the digits of the exponent, if there is one. -/
  exponent : Option (Bool × List Char)
  deriving DecidableEq, Repr

/-- A JSON text as it is written; a string is `none` if half of a surrogate pair is missing. -/
inductive Syntax where
  | null
  | bool (b : Bool)
  | number (text : NumberText)
  | string (text : Option String)
  | array (items : List Syntax)
  | object (members : List (Option String × Syntax))
  deriving Repr

/-- The blanks of a JSON text. -/
def isBlank (c : Char) : Bool := c == ' ' || c == '\n' || c == '\t' || c == '\r'

/-- Drops the blanks in front. -/
def skipBlanks (cs : List Char) : List Char := cs.dropWhile isBlank

/-- One or more digits and the rest. -/
def digits? (cs : List Char) : Option (List Char × List Char) :=
  let ds := cs.takeWhile Text.isDigit
  if ds.isEmpty then none else some (ds, cs.dropWhile Text.isDigit)

/-- The digits before the point: a zero alone, or digits that do not start with one. -/
def whole? (cs : List Char) : Option (List Char × List Char) := do
  let (ds, rest) ← digits? cs
  if ds.head? == some '0' && ds.length != 1 then none else some (ds, rest)

/-- A number text, from its sign on. -/
def readNumber? (cs : List Char) : Option (NumberText × List Char) := do
  let (negative, cs) := match cs with
    | '-' :: rest => (true, rest)
    | cs => (false, cs)
  let (whole, cs) ← whole? cs
  let (places, cs) ← match cs with
    | '.' :: rest => (digits? rest).map fun (ds, rest) => (some ds, rest)
    | cs => some (none, cs)
  let exponentOf (cs : List Char) : Option (Option (Bool × List Char) × List Char) :=
    let (negative, cs) := match cs with
      | '-' :: rest => (true, rest)
      | '+' :: rest => (false, rest)
      | cs => (false, cs)
    (digits? cs).map fun (ds, rest) => (some (negative, ds), rest)
  let (exponent, cs) ← match cs with
    | 'e' :: rest | 'E' :: rest => exponentOf rest
    | cs => some (none, cs)
  some (⟨negative, whole, places, exponent⟩, cs)

/-- Four hexadecimal digits. -/
def hexCode? : List Char → Option (Nat × List Char)
  | a :: b :: c :: d :: rest => do
    let a ← Text.hexDigit? a
    let b ← Text.hexDigit? b
    let c ← Text.hexDigit? c
    let d ← Text.hexDigit? d
    some (((a * 16 + b) * 16 + c) * 16 + d, rest)
  | _ => none

/-- What a one-letter escape stands for. -/
def shortEscape? : Char → Option Char
  | '"' => some '"'
  | '\\' => some '\\'
  | '/' => some '/'
  | 'b' => some '\x08'
  | 'f' => some '\x0c'
  | 'n' => some '\n'
  | 'r' => some '\r'
  | 't' => some '\t'
  | _ => none

/-- One piece of a string: a character, or a 16-bit code. -/
abbrev StringPiece := Char ⊕ Nat

/-- Reads the pieces of a string up to its closing quote; the first argument bounds their number.
Controls must be escaped. -/
def readPieces? : Nat → List Char → Option (List StringPiece × List Char)
  | 0, _ => none
  | fuel + 1, cs =>
    match cs with
    | [] => none
    | '"' :: rest => some ([], rest)
    | '\\' :: 'u' :: rest => do
      let (code, rest) ← hexCode? rest
      let (pieces, rest) ← readPieces? fuel rest
      some (.inr code :: pieces, rest)
    | '\\' :: c :: rest => do
      let c ← shortEscape? c
      let (pieces, rest) ← readPieces? fuel rest
      some (.inl c :: pieces, rest)
    | c :: rest =>
      if c == '\\' || c.toNat < 0x20 then none
      else do
        let (pieces, rest) ← readPieces? fuel rest
        some (.inl c :: pieces, rest)

/-- Joins the two halves of each surrogate pair. -/
def joinPieces? : List StringPiece → Option (List Char)
  | [] => some []
  | .inl c :: rest => (joinPieces? rest).map (c :: ·)
  | .inr high :: rest =>
    if 0xD800 ≤ high && high < 0xDC00 then
      match rest with
      | .inr low :: rest =>
        if 0xDC00 ≤ low && low < 0xE000 then
          let code := 0x10000 + (high - 0xD800) * 0x400 + (low - 0xDC00)
          (joinPieces? rest).map (Char.ofNat code :: ·)
        else none
      | _ => none
    else if 0xDC00 ≤ high && high < 0xE000 then none
    else (joinPieces? rest).map (Char.ofNat high :: ·)

/-- Reads a string behind its opening quote. -/
def readString? (cs : List Char) : Option (Option String × List Char) := do
  let (pieces, rest) ← readPieces? (cs.length + 1) cs
  some ((joinPieces? pieces).map String.ofList, rest)

/-- The text behind a word that must stand in front. -/
def dropWord? : List Char → List Char → Option (List Char)
  | [], cs => some cs
  | w :: word, c :: cs => if w == c then dropWord? word cs else none
  | _ :: _, [] => none

mutual

/-- Reads a value behind blanks; the first argument bounds the steps. -/
def readValue? : Nat → List Char → Option (Syntax × List Char)
  | 0, _ => none
  | fuel + 1, cs =>
    match skipBlanks cs with
    | [] => none
    | 'n' :: rest => (dropWord? "ull".toList rest).map fun rest => (.null, rest)
    | 't' :: rest => (dropWord? "rue".toList rest).map fun rest => (.bool true, rest)
    | 'f' :: rest => (dropWord? "alse".toList rest).map fun rest => (.bool false, rest)
    | '"' :: rest => (readString? rest).map fun (s, rest) => (.string s, rest)
    | '[' :: rest =>
      match skipBlanks rest with
      | ']' :: rest => some (.array [], rest)
      | rest => (readItems? fuel rest).map fun (items, rest) => (.array items, rest)
    | '\x7b' :: rest =>
      match skipBlanks rest with
      | '\x7d' :: rest => some (.object [], rest)
      | rest => (readMembers? fuel rest).map fun (members, rest) => (.object members, rest)
    | cs => (readNumber? cs).map fun (n, rest) => (.number n, rest)

/-- Reads one or more items up to the closing bracket. -/
def readItems? : Nat → List Char → Option (List Syntax × List Char)
  | 0, _ => none
  | fuel + 1, cs => do
    let (item, cs) ← readValue? fuel cs
    match skipBlanks cs with
    | ',' :: rest =>
      let (items, rest) ← readItems? fuel rest
      some (item :: items, rest)
    | ']' :: rest => some ([item], rest)
    | _ => none

/-- Reads one or more members up to the closing brace. -/
def readMembers? : Nat → List Char → Option (List (Option String × Syntax) × List Char)
  | 0, _ => none
  | fuel + 1, cs => do
    let key ← match skipBlanks cs with
      | '"' :: rest => some rest
      | _ => none
    let (key, cs) ← readString? key
    let value ← match skipBlanks cs with
      | ':' :: rest => some rest
      | _ => none
    let (value, cs) ← readValue? fuel value
    match skipBlanks cs with
    | ',' :: rest =>
      let (members, rest) ← readMembers? fuel rest
      some ((key, value) :: members, rest)
    | '\x7d' :: rest => some ([(key, value)], rest)
    | _ => none

end

/-- Reads a whole text. Every step of the reader takes at most two levels of its bound and at least
one character, so the bound is never what makes it fail. -/
def Syntax.read? (cs : List Char) : Option Syntax := do
  let (value, rest) ← readValue? (2 * cs.length + 2) cs
  if rest.all isBlank then some value else none

end Telemetry.Json
