import Telemetry.Yaml.Scalar

/-!
# Tokens of a YAML text

The indentation of a text is turned into tokens that open and close collections. A key is known as
such only by the colon behind it, so the places where a key may have started are kept, and its
tokens are put in afterwards.
-/

namespace Telemetry.Yaml

/-- A token. -/
inductive Token where
  | blockSequence | blockMapping | blockEnd
  | flowSequence | flowSequenceEnd | flowMapping | flowMappingEnd
  | blockEntry | flowEntry | key | value
  | alias (name : String)
  | anchor (name : String)
  | tag (handle suffix : String)
  | scalar (plain : Bool) (text : String)
  | documentStart | documentEnd
  | versionDirective
  | tagDirective (handle start : String)
  deriving DecidableEq, Repr

/-- A place where a key may have started: how many tokens were before it, whether a key must have
started there, and where that is. -/
structure KeyPlace where
  tokens : Nat
  isRequired : Bool
  place : Cursor

/-- What is known while tokens are read. -/
structure Scan where
  cursor : Cursor
  /-- The tokens so far, the last one first. -/
  tokens : List Token
  count : Nat
  /-- The place of a key for each level of brackets, the innermost first, and last the one outside
  of brackets. -/
  keys : List (Option KeyPlace)
  /-- The column of the innermost collection without brackets. -/
  indent : Int
  /-- The columns of those around it. -/
  outer : List Int
  /-- Whether a key may start here. -/
  allowsKey : Bool

namespace Scan

/-- The start of a text. -/
def start (cs : List Char) : Scan := ⟨.start cs, [], 0, [none], -1, [], true⟩

/-- Whether the place is within brackets. -/
def inFlow (s : Scan) : Bool := 1 < s.keys.length

/-- Adds a token. -/
def push (s : Scan) (t : Token) : Scan := { s with tokens := t :: s.tokens, count := s.count + 1 }

/-- Puts a token behind the first so many tokens. -/
def insert (s : Scan) (n : Nat) (t : Token) : Scan :=
  let later := s.count - n
  { s with
    tokens := s.tokens.take later ++ t :: s.tokens.drop later
    count := s.count + 1 }

/-- Closes the collections that start behind a column. -/
def closeTo (column : Int) : List Int → Scan → Scan
  | [], s => s
  | around :: outer, s =>
    if column < s.indent then closeTo column outer { s.push .blockEnd with indent := around, outer }
    else s

/-- Closes the collections that start behind a column, but within brackets none. -/
def unindent (s : Scan) (column : Int) : Scan :=
  if s.inFlow then s else closeTo column s.outer s

/-- Opens a collection behind the first so many tokens, unless one is open at that column. -/
def indentTo (s : Scan) (column : Int) (n : Nat) (t : Token) : Scan :=
  if s.inFlow || column ≤ s.indent then s
  else { s.insert n t with indent := column, outer := s.indent :: s.outer }

/-- Forgets the place of a key; a key that must be there is missed. -/
def dropKey? (s : Scan) : Option Scan :=
  match s.keys with
  | some k :: keys => if k.isRequired then none else some { s with keys := none :: keys }
  | _ => some s

/-- Notes that a key may start here. -/
def saveKey? (s : Scan) : Option Scan :=
  if s.allowsKey then do
    let isRequired := !s.inFlow && s.indent == s.cursor.column
    let s ← s.dropKey?
    some { s with keys := some ⟨s.count, isRequired, s.cursor⟩ :: s.keys.tail }
  else some s

/-- A key ends on the line where it starts, and soon. -/
def KeyPlace.isStale (here : Cursor) (k : KeyPlace) : Bool :=
  k.place.line < here.line || k.place.index + 1024 < here.index

/-- Forgets the places where no key can have started any more. -/
def dropStale (here : Cursor) : List (Option KeyPlace) → Option (List (Option KeyPlace))
  | [] => some []
  | none :: keys => (dropStale here keys).map (none :: ·)
  | some k :: keys => do
    let keys ← dropStale here keys
    if KeyPlace.isStale here k then (if k.isRequired then none else some (none :: keys))
    else some (some k :: keys)

/-- Skips blanks, comments and line breaks. Outside of brackets a key may start a line, and a tab
must not indent one. -/
def skipBlanks (inFlow : Bool) : Nat → Bool → Cursor → Bool × Cursor
  | 0, allowsKey, c => (allowsKey, c)
  | fuel + 1, allowsKey, c =>
    let c := c.skipWhile fun x => x == ' ' || (x == '\t' && (inFlow || !allowsKey))
    let c := if c.head? == some '#' then c.skipWhile (!isBreak ·) else c
    if c.head?.any isBreak then skipBlanks inFlow fuel (allowsKey || !inFlow) c.next
    else (allowsKey, c)

/-- The characters of names. -/
def isNameChar (c : Char) : Bool := Text.isDigit c || c.isAlpha || c == '_' || c == '-'

/-- Reads the name of an anchor or alias. -/
def readName? (c : Cursor) : Option (String × Cursor) :=
  let name := c.rest.takeWhile isNameChar
  let c := c.skip name.length
  if name.isEmpty || !(endsWord c.head? || "?:,]\x7d%@`".toList.any (c.head? == some ·)) then none
  else some (String.ofList name, c)

/-- The characters of a tag; some stand only in whole tags. -/
def isTagChar (whole : Bool) (c : Char) : Bool :=
  isNameChar c || ";/?:@&=+$.%!~*'()".toList.contains c || (whole && ",[]".toList.contains c)

/-- Resolves the characters that are written as percent signs with two digits. -/
def unescapeTag? : Nat → List Char → Option (List Char)
  | 0, _ => none
  | _, [] => some []
  | fuel + 1, '%' :: a :: b :: rest => do
    let c ← Text.charOfHex? [a, b]
    let rest ← unescapeTag? fuel rest
    some (c :: rest)
  | fuel + 1, c :: rest => if c == '%' then none else (unescapeTag? fuel rest).map (c :: ·)

/-- Reads the characters of a tag. -/
def readTagText? (whole : Bool) (c : Cursor) : Option (List Char × Cursor) := do
  let raw := c.rest.takeWhile (isTagChar whole)
  let text ← unescapeTag? (raw.length + 1) raw
  some (text, c.skip raw.length)

/-- Reads a tag: its handle and what follows the handle. -/
def readTag? (flow : Bool) (c : Cursor) : Option (Token × Cursor) := do
  let (t, c) ←
    if c.peek 1 == some '<' then do
      let (text, c) ← readTagText? true (c.skip 2)
      if text.isEmpty || c.head? != some '>' then none
      else some (Token.tag "" (String.ofList text), c.next)
    else
      let name := c.next.rest.takeWhile isNameChar
      let behind := c.skip (1 + name.length)
      if behind.head? == some '!' then do
        let (text, c) ← readTagText? false behind.next
        if text.isEmpty then none
        else some (Token.tag (String.ofList ('!' :: name ++ ['!'])) (String.ofList text), c)
      else do
        let (text, c) ← readTagText? false c.next
        if text.isEmpty then some (Token.tag "" "!", c)
        else some (Token.tag "!" (String.ofList text), c)
  if endsWord c.head? || (flow && c.head? == some ',') then some (t, c) else none

/-- Reads a directive: the version of the format, or a tag handle. -/
def readDirective? (c : Cursor) : Option (Token × Cursor) := do
  let name := c.next.rest.takeWhile isNameChar
  let c := c.skip (1 + name.length)
  if !endsWord c.head? then none
  let c := c.skipWhile isSpace
  let (t, c) ←
    if name == "YAML".toList then
      let version := c.rest.takeWhile fun x => !endsWord (some x)
      if version == "1.1".toList || version == "1.2".toList then
        some (Token.versionDirective, c.skip version.length)
      else none
    else if name == "TAG".toList then do
      let handle := c.rest.takeWhile fun x => !endsWord (some x)
      let inner := (handle.drop 1).dropLast
      if handle.head? != some '!' || handle.getLast? != some '!' || !inner.all isNameChar then none
      let (text, c) ← readTagText? true ((c.skip handle.length).skipWhile isSpace)
      if text.isEmpty then none
      else some (Token.tagDirective (String.ofList handle) (String.ofList text), c)
    else none
  if !endsWord c.head? then none
  let c := c.skipComment
  if c.rest.isEmpty || c.head?.any isBreak then some (t, c.next) else none

/-- Adds the token of a mark that closes everything without brackets. -/
def pushMark? (s : Scan) (t : Token) (c : Cursor) : Option Scan := do
  let s ← (s.unindent (-1)).dropKey?
  some { s.push t with allowsKey := false, cursor := c }

/-- Opens a level of brackets. -/
def openFlow? (s : Scan) (t : Token) : Option Scan := do
  let s ← s.saveKey?
  some { s.push t with keys := none :: s.keys, allowsKey := true, cursor := s.cursor.next }

/-- Closes a level of brackets. -/
def closeFlow? (s : Scan) (t : Token) : Option Scan := do
  let s ← s.dropKey?
  let keys := match s.keys with
    | _ :: outer :: keys => outer :: keys
    | keys => keys
  some { s.push t with keys, allowsKey := false, cursor := s.cursor.next }

/-- Adds the token of a mark that starts an entry or a key outside of brackets. -/
def pushEntry? (s : Scan) (opener t : Token) (allowsKey : Bool) : Option Scan := do
  if !s.inFlow && !s.allowsKey then none
  let s ← (s.indentTo s.cursor.column s.count opener).dropKey?
  some { s.push t with allowsKey, cursor := s.cursor.next }

/-- Adds the token of a colon, and those of the key before it. -/
def pushValue? (s : Scan) : Option Scan :=
  match s.keys with
  | some k :: keys =>
    let s := s.insert k.tokens .key
    let s := s.indentTo k.place.column k.tokens .blockMapping
    some { s.push .value with keys := none :: keys, allowsKey := false, cursor := s.cursor.next }
  | _ =>
    if !s.inFlow && !s.allowsKey then none
    else
      let s := s.indentTo s.cursor.column s.count .blockMapping
      some { s.push .value with allowsKey := !s.inFlow, cursor := s.cursor.next }

/-- Adds a token that can start a key. -/
def pushNode? (s : Scan) (read : Cursor → Option (Token × Cursor)) : Option Scan := do
  let s ← s.saveKey?
  let (t, c) ← read s.cursor
  some { s.push t with allowsKey := false, cursor := c }

/-- Whether a plain scalar starts with these characters. -/
def startsPlain (flow : Bool) (x : Char) (after : Option Char) : Bool :=
  !(isSpace x || "-?:,[]\x7b\x7d#&*!|>'\"%@`".toList.contains x) ||
    (x == '-' && !after.any isSpace) || (!flow && (x == '?' || x == ':') && !endsWord after)

/-- Adds the token that starts with the given character. -/
def readToken? (fuel : Nat) (s : Scan) (x : Char) : Option Scan :=
  let c := s.cursor
  let after := c.peek 1
  if c.column == 0 && x == '%' then do
    let (t, c) ← readDirective? c
    s.pushMark? t c
  else if c.atMark "---" then s.pushMark? .documentStart (c.skip 3)
  else if c.atMark "..." then s.pushMark? .documentEnd (c.skip 3)
  else if x == '[' then s.openFlow? .flowSequence
  else if x == '\x7b' then s.openFlow? .flowMapping
  else if x == ']' then s.closeFlow? .flowSequenceEnd
  else if x == '\x7d' then s.closeFlow? .flowMappingEnd
  else if x == ',' then do
    let s ← s.dropKey?
    some { s.push .flowEntry with allowsKey := true, cursor := c.next }
  else if x == '-' && endsWord after then s.pushEntry? .blockSequence .blockEntry true
  else if x == '?' && (s.inFlow || endsWord after) then
    s.pushEntry? .blockMapping .key (!s.inFlow)
  else if x == ':' && (s.inFlow || endsWord after) then s.pushValue?
  else if x == '*' then
    s.pushNode? fun c => (readName? c.next).map fun (name, c) => (.alias name, c)
  else if x == '&' then
    s.pushNode? fun c => (readName? c.next).map fun (name, c) => (.anchor name, c)
  else if x == '!' then s.pushNode? (readTag? s.inFlow)
  else if (x == '|' || x == '>') && !s.inFlow then do
    let s ← s.dropKey?
    let (text, c) ← readBlock? (x == '|') s.indent fuel c.next
    some { s.push (.scalar false (String.ofList text)) with allowsKey := true, cursor := c }
  else if x == '\'' || x == '"' then
    s.pushNode? fun c =>
      (readQuoted? x fuel [] c.next).map fun (text, c) => (.scalar false (String.ofList text), c)
  else if startsPlain s.inFlow x after then do
    let s ← s.saveKey?
    let (text, newLine, c) ← readPlain? s.inFlow (s.indent + 1) fuel [] .none c
    some { s.push (.scalar true (String.ofList text)) with allowsKey := newLine, cursor := c }
  else none

/-- Reads all tokens; every step takes at least one character. -/
def readAll? : Nat → Scan → Option (List Token)
  | 0, _ => none
  | fuel + 1, s => do
    let (allowsKey, cursor) := skipBlanks s.inFlow (fuel + 1) s.allowsKey s.cursor
    let keys ← dropStale cursor s.keys
    let s := { s with allowsKey, cursor, keys }
    match cursor.head? with
    | none =>
      let s ← (s.unindent (-1)).dropKey?
      some s.tokens.reverse
    | some x =>
      let s := s.unindent cursor.column
      let s ← s.readToken? (fuel + 2) x
      readAll? fuel s

end Scan

/-- The tokens of a text. -/
def tokens? (cs : List Char) : Option (List Token) := Scan.readAll? (cs.length + 1) (.start cs)

end Telemetry.Yaml
