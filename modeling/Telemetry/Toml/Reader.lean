import Telemetry.Toml.Scalar

/-!
# The grammar of TOML documents

A document is a list of statements, one a line: a value for a dotted key, or the header of a table
or of a further table of an array. Tables in braces hold statements of the first kind.
-/

namespace Telemetry.Toml

/-- Whether a character may stand in a document; a carriage return only stands before a line
feed. -/
def isAllowed (c : Char) : Bool := c == '\t' || c == '\n' || (' ' ≤ c && c != '\x7f')

/-- Writes every line break as a line feed. -/
def unifyBreaks : List Char → List Char
  | '\r' :: '\n' :: rest => '\n' :: unifyBreaks rest
  | c :: rest => c :: unifyBreaks rest
  | [] => []

/-- The characters of a text behind its byte order mark, if all of them are allowed. -/
def charsOf? (s : String) : Option (List Char) :=
  let cs := unifyBreaks (match s.toList with
    | '\uFEFF' :: rest => rest
    | cs => cs)
  if cs.all isAllowed then some cs else none

/-- Skips blanks within a line. -/
def skipSpaces (cs : List Char) : List Char := cs.dropWhile isSpace

/-- Skips a comment. -/
def skipComment (cs : List Char) : List Char :=
  match cs with
  | '#' :: rest => rest.dropWhile (· != '\n')
  | cs => cs

/-- Skips blanks, comments and line breaks. -/
def skipLines : Nat → List Char → List Char
  | 0, cs => cs
  | fuel + 1, cs =>
    match skipComment (skipSpaces cs) with
    | '\n' :: rest => skipLines fuel rest
    | cs => cs

/-- The characters of keys without quotes. -/
def isKeyChar (c : Char) : Bool := Text.isDigit c || c.isAlpha || c == '_' || c == '-'

/-- Reads one part of a key. -/
def readKeyPart? (cs : List Char) : Option (String × List Char) :=
  match cs with
  | '"' :: rest =>
    (readBasic? false (rest.length + 1) rest).map fun (s, rest) => (String.ofList s, rest)
  | '\'' :: rest => (readLiteral? false rest).map fun (s, rest) => (String.ofList s, rest)
  | cs =>
    let name := cs.takeWhile isKeyChar
    if name.isEmpty then none else some (String.ofList name, cs.dropWhile isKeyChar)

/-- Reads a key: one or more parts with points between them. -/
def readKey? : Nat → List Char → Option (List String × List Char)
  | 0, _ => none
  | fuel + 1, cs => do
    let (part, cs) ← readKeyPart? (skipSpaces cs)
    match skipSpaces cs with
    | '.' :: rest =>
      let (parts, rest) ← readKey? fuel rest
      some (part :: parts, rest)
    | cs => some ([part], cs)

/-- How a table came about. -/
inductive Origin where
  /-- By the header of a table within it. -/
  | within
  /-- By a dotted key. -/
  | dotted
  /-- By its own header. -/
  | header
  deriving DecidableEq, Repr

/-- What a key stands for while a document is read. -/
inductive Slot where
  | value (v : Toml)
  | table (origin : Origin) (entries : List (String × Slot))
  /-- The tables of an array, the last one first. -/
  | tables (items : List (List (String × Slot)))

/-- The slots of a table. -/
abbrev Slots := List (String × Slot)

/-- Sets a slot: in its place if the key is there, else behind all others. -/
def Slots.put (key : String) (slot : Slot) : Slots → Slots
  | [] => [(key, slot)]
  | (k, s) :: rest => if k == key then (k, slot) :: rest else (k, s) :: Slots.put key slot rest

/-- Gives a value to a dotted key. What has a header or is an array is not changed. -/
def Slots.assign? (v : Toml) : List String → Slots → Option Slots
  | [], _ => none
  | [key], slots => if (slots.lookup key).isSome then none else some (slots.put key (.value v))
  | key :: part :: parts, slots =>
    match slots.lookup key with
    | none => (Slots.assign? v (part :: parts) []).map fun inner =>
      slots.put key (.table .dotted inner)
    | some (.table origin inner) =>
      if origin == .header || (origin == .within && parts.isEmpty) then none
      else (Slots.assign? v (part :: parts) inner).map fun inner =>
        slots.put key (.table origin inner)
    | some _ => none

/-- Changes the slots of a table that is given by its path; in an array this is the last table. -/
def Slots.change? (f : Slots → Option Slots) : List String → Slots → Option Slots
  | [], slots => f slots
  | key :: keys, slots =>
    match slots.lookup key with
    | none => (Slots.change? f keys []).map fun inner => slots.put key (.table .within inner)
    | some (.table origin inner) =>
      (Slots.change? f keys inner).map fun inner => slots.put key (.table origin inner)
    | some (.tables (last :: before)) =>
      (Slots.change? f keys last).map fun last => slots.put key (.tables (last :: before))
    | some _ => none

/-- Opens a table. -/
def Slots.openTable? (key : String) (slots : Slots) : Option Slots :=
  match slots.lookup key with
  | none => some (slots.put key (.table .header []))
  | some (.table .within inner) => some (slots.put key (.table .header inner))
  | some _ => none

/-- Opens a further table of an array. -/
def Slots.openNext? (key : String) (slots : Slots) : Option Slots :=
  match slots.lookup key with
  | none => some (slots.put key (.tables [[]]))
  | some (.tables items) => some (slots.put key (.tables ([] :: items)))
  | some _ => none

mutual

/-- The value of a slot. -/
def Slot.toToml : Slot → Toml
  | .value v => v
  | .table _ entries => .table (entriesOf entries)
  | .tables items => .array (tablesOf items).reverse

/-- The values of the slots of a table. -/
def entriesOf : List (String × Slot) → List (String × Toml)
  | [] => []
  | (key, slot) :: rest => (key, slot.toToml) :: entriesOf rest

/-- The values of tables. -/
def tablesOf : List (List (String × Slot)) → List Toml
  | [] => []
  | entries :: rest => .table (entriesOf entries) :: tablesOf rest

end

mutual

/-- Reads a value; arrays and tables are nested at most so many levels. -/
def readValue? (levels : Nat) : Nat → List Char → Option (Toml × List Char)
  | 0, _ => none
  | fuel + 1, cs =>
    match cs with
    | '"' :: _ | '\'' :: _ => (readString? cs).map fun (s, rest) => (.string s, rest)
    | '[' :: rest =>
      match levels with
      | 0 => none
      | levels + 1 => do
        let (items, rest) ← readItems? levels fuel rest
        some (.array items, rest)
    | '\x7b' :: rest =>
      match levels with
      | 0 => none
      | levels + 1 => do
        let (slots, rest) ← readEntries? levels fuel [] rest
        some (.table (entriesOf slots), rest)
    | cs =>
      let (word, rest) := splitWord cs
      (ofWord? word).map fun v => (v, rest)

/-- Reads the items of an array up to its bracket. -/
def readItems? (levels : Nat) : Nat → List Char → Option (List Toml × List Char)
  | 0, _ => none
  | fuel + 1, cs =>
    match skipLines (fuel + 1) cs with
    | ']' :: rest => some ([], rest)
    | cs => do
      let (item, cs) ← readValue? levels fuel cs
      match skipLines (fuel + 1) cs with
      | ']' :: rest => some ([item], rest)
      | ',' :: rest =>
        let (items, rest) ← readItems? levels fuel rest
        some (item :: items, rest)
      | _ => none

/-- Reads the entries of a table up to its brace. -/
def readEntries? (levels : Nat) : Nat → Slots → List Char → Option (Slots × List Char)
  | 0, _, _ => none
  | fuel + 1, slots, cs =>
    match skipLines (fuel + 1) cs with
    | '\x7d' :: rest => some (slots, rest)
    | cs => do
      let (key, cs) ← readKey? (fuel + 1) cs
      let cs ← skipChar? '=' cs
      let (v, cs) ← readValue? levels fuel (skipSpaces cs)
      let slots ← slots.assign? v key
      match skipLines (fuel + 1) cs with
      | '\x7d' :: rest => some (slots, rest)
      | ',' :: rest => readEntries? levels fuel slots rest
      | _ => none

end

/-- A line of a document that says something. -/
inductive Statement where
  | assign (key : List String) (v : Toml)
  | table (key : List String)
  | nextTable (key : List String)

/-- The levels that arrays and tables in braces may be nested. -/
def depthLimit : Nat := 80

/-- Reads a statement. -/
def readStatement? (fuel : Nat) (cs : List Char) : Option (Statement × List Char) :=
  match cs with
  | '[' :: '[' :: rest => do
    let (key, cs) ← readKey? fuel rest
    let cs ← skipChar? ']' cs
    let cs ← skipChar? ']' cs
    some (.nextTable key, cs)
  | '[' :: rest => do
    let (key, cs) ← readKey? fuel rest
    let cs ← skipChar? ']' cs
    some (.table key, cs)
  | cs => do
    let (key, cs) ← readKey? fuel cs
    let cs ← skipChar? '=' cs
    let (v, cs) ← readValue? depthLimit fuel (skipSpaces cs)
    some (.assign key v, cs)

/-- Reads all statements. -/
def readStatements? : Nat → List Char → Option (List Statement)
  | 0, _ => none
  | fuel + 1, cs =>
    match skipSpaces (skipLines (fuel + 1) cs) with
    | [] => some []
    | cs => do
      let (statement, cs) ← readStatement? (2 * fuel + 2) cs
      match skipComment (skipSpaces cs) with
      | [] => some [statement]
      | '\n' :: rest =>
        let statements ← readStatements? fuel rest
        some (statement :: statements)
      | _ => none

/-- Follows the statements, from a table that was opened last. -/
def follow? : List String → Slots → List Statement → Option Slots
  | _, slots, [] => some slots
  | here, slots, .assign key v :: rest => do
    let slots ← slots.change? (Slots.assign? v key) here
    follow? here slots rest
  | _, slots, .table key :: rest => do
    let slots ← slots.change? (Slots.openTable? (key.getLastD "")) key.dropLast
    follow? key slots rest
  | _, slots, .nextTable key :: rest => do
    let slots ← slots.change? (Slots.openNext? (key.getLastD "")) key.dropLast
    follow? key slots rest

/-- Reads a whole document: the entries of its outermost table. -/
def read? (s : String) : Option (List (String × Toml)) := do
  let cs ← charsOf? s
  let statements ← readStatements? (cs.length + 1) cs
  let slots ← follow? [] [] statements
  some (entriesOf slots)

end Telemetry.Toml
