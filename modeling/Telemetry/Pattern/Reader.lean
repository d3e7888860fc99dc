import Telemetry.Pattern.Syntax
import Telemetry.Text.Infix

/-!
# Reading patterns

A pattern is read from left to right. Where blanks do not count, they and the comments from `#` to
the end of a line may stand between any two characters that are read.
-/

namespace Telemetry

namespace Pattern

/-- The characters of the given kind in front, and what is behind them. Where blanks do not count,
those in front and between are skipped; the flag before the text tells that a comment is open. -/
def spanSpaced (spacious : Bool) (p : Char → Bool) : Bool → List Char → List Char × List Char
  | _, [] => ([], [])
  | true, c :: cs => spanSpaced spacious p (c != '\n') cs
  | false, c :: cs =>
    if spacious && Text.isBlank c then spanSpaced spacious p false cs
    else if spacious && c == '#' then spanSpaced spacious p true cs
    else if p c then
      let (taken, rest) := spanSpaced spacious p false cs
      (c :: taken, rest)
    else ([], c :: cs)

/-- What is behind the blanks that do not count. -/
def skip (spacious : Bool) (cs : List Char) : List Char :=
  (spanSpaced spacious (fun _ => false) false cs).2

/-- A part of a pattern that stands for one character or position. -/
inductive Atom where
  | literal (l : Literal)
  | dot
  | anchor (a : Anchor)
  | named (negated : Bool) (k : NamedClass)
  deriving Repr

/-- The atom as a pattern. -/
def Atom.tree : Atom → Tree
  | literal l => .literal l
  | dot => .dot
  | anchor a => .anchor a
  | named negated k => .named negated k

/-- The atom as a part of a bracketed class. -/
def Atom.setTree? : Atom → Option SetTree
  | literal l => some (.literal l)
  | named negated k => some (.named negated k)
  | dot | anchor _ => none

/-- A character that stands for itself. -/
def plain (c : Char) : Atom := .literal ⟨c, false⟩

/-- The value of a hexadecimal digit. -/
def hexValue? (c : Char) : Option Nat :=
  if Text.isDigit c then some (Text.digitValue c)
  else if 'a' ≤ c && c ≤ 'f' then some (c.toNat - 'a'.toNat + 10)
  else if 'A' ≤ c && c ≤ 'F' then some (c.toNat - 'A'.toNat + 10)
  else none

/-- The character whose code point the hexadecimal digits denote. -/
def hexChar? (digits : List Char) : Option Char := do
  let values ← digits.mapM hexValue?
  let n := values.foldl (fun n d => 16 * n + d) 0
  if values.isEmpty || !n.isValidChar then none else some (Char.ofNat n)

/-- So many characters in front, and what is behind them. -/
def takeSpaced (spacious : Bool) : Nat → List Char → Option (List Char × List Char)
  | 0, cs => some ([], cs)
  | _, [] => none
  | n + 1, c :: cs => do
    let (taken, rest) ← takeSpaced spacious n (skip spacious cs)
    some (c :: taken, rest)

/-- Reads the characters up to a closing brace. -/
def readBraced (spacious : Bool) (cs : List Char) : Option (List Char × List Char) :=
  match spanSpaced spacious (· != '\x7d') false cs with
  | (taken, _ :: rest) => some (taken, rest)
  | (_, []) => none

/-- Reads a code point in hexadecimal digits: so many of them, or any number in braces. -/
def readHex (spacious : Bool) (count : Nat) (cs : List Char) : Option (Atom × List Char) :=
  match skip spacious cs with
  | '\x7b' :: cs => do
    let (digits, rest) ← readBraced spacious cs
    let c ← hexChar? digits
    some (plain c, rest)
  | cs => do
    let (digits, rest) ← takeSpaced spacious count cs
    let c ← hexChar? digits
    some (.literal ⟨c, count == 2⟩, rest)

/-- A property by what stands between its braces: a name, or a name and a value. The first part
tells whether the mark between them negates. -/
def propertyOf (cs : List Char) : Bool × NamedClass :=
  let valued := fun (name, value) =>
    NamedClass.property (String.ofList name) (some (String.ofList value))
  match Text.splitAt? ['!', '='] cs with
  | some parts => (true, valued parts)
  | none =>
    match Text.splitAt? [':'] cs with
    | some parts => (false, valued parts)
    | none =>
      match Text.splitAt? ['='] cs with
      | some parts => (false, valued parts)
      | none => (false, .property (String.ofList cs) none)

/-- Reads a property: one letter, or what stands between braces. -/
def readProperty (spacious negated : Bool) (cs : List Char) : Option (Atom × List Char) :=
  match skip spacious cs with
  | [] => none
  | '\x7b' :: cs => do
    let (name, rest) ← readBraced spacious cs
    let (opposite, k) := propertyOf name
    some (.named (negated != opposite) k, rest)
  | c :: cs =>
    if c == '\\' then none
    else some (.named negated (.property (String.ofList [c]) none), cs)

/-- A character of the name of a word boundary. -/
def isBoundaryChar (c : Char) : Bool := c.isAlpha || c == '-'

/-- Reads what may follow the letter of a word boundary: the name of its kind in braces. Braces
that start otherwise belong to a repetition. -/
def readBoundary (spacious : Bool) : List Char → Option (Atom × List Char)
  | '\x7b' :: cs =>
    match skip spacious cs with
    | [] => none
    | c :: rest =>
      if !isBoundaryChar c then some (.anchor .wordBoundary, '\x7b' :: cs)
      else
        match spanSpaced spacious isBoundaryChar false (c :: rest) with
        | (name, '\x7d' :: rest) =>
          match String.ofList name with
          | "start" => some (.anchor .wordStart, rest)
          | "end" => some (.anchor .wordEnd, rest)
          | "start-half" => some (.anchor .halfWordStart, rest)
          | "end-half" => some (.anchor .halfWordEnd, rest)
          | _ => none
        | _ => none
  | cs => some (.anchor .wordBoundary, cs)

/-- Whether the character stands for itself behind a backslash. -/
def isEscapable (c : Char) : Bool :=
  c.toNat < 0x80 && !c.isAlphanum && c != '<' && c != '>'

/-- Reads an escape behind its backslash. -/
def readEscape (spacious : Bool) : List Char → Option (Atom × List Char)
  | [] => none
  | c :: cs =>
    match c with
    | 'x' => readHex spacious 2 cs
    | 'u' => readHex spacious 4 cs
    | 'U' => readHex spacious 8 cs
    | 'p' => readProperty spacious false cs
    | 'P' => readProperty spacious true cs
    | 'd' => some (.named false .digit, cs)
    | 'D' => some (.named true .digit, cs)
    | 's' => some (.named false .blank, cs)
    | 'S' => some (.named true .blank, cs)
    | 'w' => some (.named false .word, cs)
    | 'W' => some (.named true .word, cs)
    | 'a' => some (plain '\x07', cs)
    | 'f' => some (plain '\x0c', cs)
    | 't' => some (plain '\t', cs)
    | 'n' => some (plain '\n', cs)
    | 'r' => some (plain '\r', cs)
    | 'v' => some (plain '\x0b', cs)
    | 'A' => some (.anchor .textStart, cs)
    | 'z' => some (.anchor .textEnd, cs)
    | 'b' => readBoundary spacious cs
    | 'B' => some (.anchor .noWordBoundary, cs)
    | '<' => some (.anchor .wordStart, cs)
    | '>' => some (.anchor .wordEnd, cs)
    | c => if isEscapable c then some (plain c, cs) else none

/-- The ASCII sets that have a name. -/
def asciiSet? : String → Option Text.CharRanges
  | "alnum" => some [(0x30, 0x39), (0x41, 0x5A), (0x61, 0x7A)]
  | "alpha" => some [(0x41, 0x5A), (0x61, 0x7A)]
  | "ascii" => some [(0x00, 0x7F)]
  | "blank" => some [(0x09, 0x09), (0x20, 0x20)]
  | "cntrl" => some [(0x00, 0x1F), (0x7F, 0x7F)]
  | "digit" => some [(0x30, 0x39)]
  | "graph" => some [(0x21, 0x7E)]
  | "lower" => some [(0x61, 0x7A)]
  | "print" => some [(0x20, 0x7E)]
  | "punct" => some [(0x21, 0x2F), (0x3A, 0x40), (0x5B, 0x60), (0x7B, 0x7E)]
  | "space" => some [(0x09, 0x0D), (0x20, 0x20)]
  | "upper" => some [(0x41, 0x5A)]
  | "word" => some [(0x30, 0x39), (0x41, 0x5A), (0x5F, 0x5F), (0x61, 0x7A)]
  | "xdigit" => some [(0x30, 0x39), (0x41, 0x46), (0x61, 0x66)]
  | _ => none

/-- Reads the name of an ASCII set between colons, behind an opening bracket. -/
def readAsciiSet? : List Char → Option (SetTree × List Char)
  | ':' :: cs =>
    let (negated, cs) := match cs with
      | '^' :: cs => (true, cs)
      | cs => (false, cs)
    match cs.dropWhile (· != ':') with
    | ':' :: ']' :: rest =>
      (asciiSet? (String.ofList (cs.takeWhile (· != ':')))).map fun rs => (.ascii negated rs, rest)
    | _ => none
  | _ => none

/-- Reads what stands behind the opening bracket of a class: whether it is negated, and the dashes
or the closing bracket in front that stand for themselves. -/
def readSetOpening (spacious : Bool) (cs : List Char) : Option (Bool × List SetTree × List Char) :=
  let (negated, cs) := match skip spacious cs with
    | '^' :: cs => (true, skip spacious cs)
    | cs => (false, cs)
  match spanSpaced spacious (· == '-') false cs with
  | (_, []) => none
  | ([], ']' :: rest) => some (negated, [.literal ⟨']', false⟩], rest)
  | (dashes, rest) => some (negated, dashes.map fun c => .literal ⟨c, false⟩, rest)

/-- Reads one character or class within brackets. -/
def readSetAtom (spacious : Bool) : List Char → Option (Atom × List Char)
  | [] => none
  | '\\' :: cs => readEscape spacious cs
  | c :: cs => some (plain c, cs)

/-- The character that decides whether a dash is part of a range. -/
def behindDash (spacious : Bool) (cs : List Char) : Option Char :=
  if spacious then
    match cs.dropWhile Text.isBlank with
    | '#' :: cs => (cs.dropWhile Text.isBlank).head?
    | cs => cs.head?
  else cs.head?

/-- Reads a character, a class or a range within brackets. A dash in front of a bracket or another
dash makes no range. -/
def readSetItem (spacious : Bool) (cs : List Char) : Option (SetTree × List Char) := do
  let (first, cs) ← readSetAtom spacious cs
  match skip spacious cs with
  | [] => none
  | '-' :: behind =>
    let next := behindDash spacious behind
    if next = some ']' || next = some '-' then
      let item ← first.setTree?
      some (item, '-' :: behind)
    else
      let (last, cs) ← readSetAtom spacious (skip spacious behind)
      match first, last with
      | .literal first, .literal last =>
        if first.char ≤ last.char then some (.range first last, cs) else none
      | _, _ => none
  | cs =>
    let item ← first.setTree?
    some (item, cs)

/-- Reads a class up to its closing bracket. `left` joins what was read before the last operator to
the items behind it, of which those read so far are given in reverse. The first argument bounds the
number of items. -/
def readSet (spacious : Bool) :
    Nat → (SetTree → SetTree) → List SetTree → List Char → Option (SetTree × List Char)
  | 0, _, _, _ => none
  | fuel + 1, left, items, cs =>
    match skip spacious cs with
    | [] => none
    | ']' :: cs => some (left (.ofItems items.reverse), cs)
    | '[' :: cs =>
      match readAsciiSet? cs with
      | some (item, cs) => readSet spacious fuel left (item :: items) cs
      | none => do
        let (negated, inside, cs) ← readSetOpening spacious cs
        let (inner, cs) ← readSet spacious fuel id inside cs
        readSet spacious fuel left (.bracketed negated inner :: items) cs
    | '&' :: '&' :: cs =>
      readSet spacious fuel (.combine .inter (left (.ofItems items.reverse))) [] cs
    | '-' :: '-' :: cs =>
      readSet spacious fuel (.combine .diff (left (.ofItems items.reverse))) [] cs
    | '~' :: '~' :: cs =>
      readSet spacious fuel (.combine .symmDiff (left (.ofItems items.reverse))) [] cs
    | cs => do
      let (item, cs) ← readSetItem spacious cs
      readSet spacious fuel left (item :: items) cs

/-- Reads a class behind its opening bracket. Every item takes a character. -/
def readBracketed (spacious : Bool) (cs : List Char) : Option (Tree × List Char) := do
  let (negated, inside, rest) ← readSetOpening spacious cs
  let (inner, rest) ← readSet spacious (rest.length + 1) id inside rest
  some (.bracketed negated inner, rest)

/-- Reads a count; blanks around it never count. -/
def readCount (spacious : Bool) (cs : List Char) : Option Nat × List Char :=
  let (digits, rest) := spanSpaced spacious Text.isDigit false (cs.dropWhile Text.isBlank)
  let n := Text.digitsValue digits
  (if digits.isEmpty || UInt32.size ≤ n then none else some n, rest.dropWhile Text.isBlank)

/-- Reads the counts of a repetition behind its opening brace. -/
def readCounts (spacious : Bool) (cs : List Char) : Option (Nat × Option Nat × List Char) :=
  match readCount spacious (skip spacious cs) with
  | (some n, '\x7d' :: rest) => some (n, some n, rest)
  | (some least, ',' :: cs) =>
    match skip spacious cs with
    | '\x7d' :: rest => some (least, none, rest)
    | cs =>
      match readCount spacious cs with
      | (some most, '\x7d' :: rest) => if least ≤ most then some (least, some most, rest) else none
      | _ => none
  | _ => none

/-- Drops the mark of a lazy repetition. -/
def dropLazy : List Char → List Char
  | '?' :: cs => cs
  | cs => cs

/-- Repeats the last part; a switch of flags cannot be repeated. -/
def repeatLast (least : Nat) (most : Option Nat) : List Tree → Option (List Tree)
  | [] => none
  | .empty :: _ => none
  | .flags _ :: _ => none
  | part :: parts => some (.repetition least most part :: parts)

/-- Reads flags up to the character behind them, a colon or a closing parenthesis. The arguments
are the changes so far in reverse, whether flags are switched on, and whether a minus sign is in
front. -/
def readFlags : FlagChanges → Bool → Bool → List Char → Option (FlagChanges × Char × List Char)
  | _, _, _, [] => none
  | changes, on, dangling, c :: cs =>
    if c == ':' || c == ')' then
      if dangling then none else some (changes.reverse, c, cs)
    else if c == '-' then
      if on then readFlags changes false true cs else none
    else do
      let flag ← Flag.ofChar? c
      if changes.any (·.1 = flag) then none
      else readFlags ((flag, on) :: changes) on false cs

/-- A first character of a group name. -/
def isNameStart (c : Char) : Bool := c == '_' || Text.isAlphabetic c

/-- A further character of a group name. -/
def isNameChar (c : Char) : Bool :=
  isNameStart c || Text.isNumeric c || c == '.' || c == '[' || c == ']'

/-- Reads a group name up to its closing angle. -/
def readName (cs : List Char) : Option (String × List Char) :=
  match cs.takeWhile (· != '>'), cs.dropWhile (· != '>') with
  | c :: name, '>' :: rest =>
    if isNameStart c && name.all isNameChar then some (String.ofList (c :: name), rest) else none
  | _, _ => none

/-- What an opening parenthesis starts. -/
inductive Opening where
  /-- A switch of flags, which is complete. -/
  | switch (changes : FlagChanges)
  /-- A group in which the changes hold. -/
  | group (changes : FlagChanges) (name : Option String)

/-- Reads what stands behind an opening parenthesis. There are no groups that look around. -/
def readOpening (spacious : Bool) (cs : List Char) : Option (Opening × List Char) :=
  let named := fun cs => do
    let (name, rest) ← readName cs
    some (.group [] (some name), rest)
  match skip spacious cs with
  | '?' :: '=' :: _ => none
  | '?' :: '!' :: _ => none
  | '?' :: '<' :: '=' :: _ => none
  | '?' :: '<' :: '!' :: _ => none
  | '?' :: 'P' :: '<' :: cs => named cs
  | '?' :: '<' :: cs => named cs
  | '?' :: cs => do
    let (changes, behind, rest) ← readFlags [] true false cs
    if behind == ':' then some (.group changes none, rest)
    else if changes.isEmpty then none
    else some (.switch changes, rest)
  | cs => some (.group [] none, cs)

/-- Whether blanks do not count after the changes. -/
def spaciousAfter (changes : FlagChanges) (spacious : Bool) : Bool :=
  (changes.lookup .spacious).getD spacious

/-- Reads the alternatives of a group up to its closing parenthesis or the end of the pattern. The
arguments bound the number of parts, tell whether blanks do not count, and are the group names so
far, the complete alternatives and the parts of the last one, both in reverse. -/
def readParts : Nat → Bool → List String → List Tree → List Tree → List Char →
    Option (Tree × List String × List Char)
  | 0, _, _, _, _, _ => none
  | fuel + 1, spacious, names, branches, parts, cs =>
    let done := Tree.ofBranches (Tree.ofParts parts.reverse :: branches).reverse
    match skip spacious cs with
    | [] => some (done, names, [])
    | ')' :: cs => some (done, names, ')' :: cs)
    | '|' :: cs =>
      readParts fuel spacious names (Tree.ofParts parts.reverse :: branches) [] cs
    | '(' :: cs => do
      let (opening, cs) ← readOpening spacious cs
      match opening with
      | .switch changes =>
        readParts fuel (spaciousAfter changes spacious) names branches (.flags changes :: parts) cs
      | .group changes name =>
        if name.any names.contains then none
        else
          let (body, names, cs) ←
            readParts fuel (spaciousAfter changes spacious) (name.toList ++ names) [] [] cs
          match cs with
          | ')' :: cs =>
            readParts fuel spacious names branches (.group changes body :: parts) cs
          | _ => none
    | '[' :: cs => do
      let (part, cs) ← readBracketed spacious cs
      readParts fuel spacious names branches (part :: parts) cs
    | '?' :: cs => do
      let parts ← repeatLast 0 (some 1) parts
      readParts fuel spacious names branches parts (dropLazy cs)
    | '*' :: cs => do
      let parts ← repeatLast 0 none parts
      readParts fuel spacious names branches parts (dropLazy cs)
    | '+' :: cs => do
      let parts ← repeatLast 1 none parts
      readParts fuel spacious names branches parts (dropLazy cs)
    | '\x7b' :: cs => do
      let (least, most, cs) ← readCounts spacious cs
      let parts ← repeatLast least most parts
      readParts fuel spacious names branches parts (dropLazy (skip spacious cs))
    | '\\' :: cs => do
      let (atom, cs) ← readEscape spacious cs
      readParts fuel spacious names branches (atom.tree :: parts) cs
    | '.' :: cs => readParts fuel spacious names branches (.dot :: parts) cs
    | '^' :: cs => readParts fuel spacious names branches (.anchor .lineStart :: parts) cs
    | '$' :: cs => readParts fuel spacious names branches (.anchor .lineEnd :: parts) cs
    | c :: cs => readParts fuel spacious names branches (.literal ⟨c, false⟩ :: parts) cs

/-- How deep the parts of a pattern may be nested. -/
def depthLimit : Nat := 250

/-- Reads a whole pattern. Every part takes a character. -/
def readTree? (source : String) : Option Tree :=
  match readParts (source.toList.length + 1) false [] [] [] source.toList with
  | some (tree, _, []) => if tree.depth ≤ depthLimit then some tree else none
  | _ => none

end Pattern

end Telemetry
