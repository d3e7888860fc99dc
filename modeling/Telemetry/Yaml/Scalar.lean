import Telemetry.Text.Hex
import Telemetry.Yaml.Cursor

/-!
# Scalars of a YAML text

How the text of a scalar is read: plain, in quotes or as a block. A line break within a plain or
quoted scalar is read as a space, further ones as they are.
-/

namespace Telemetry.Yaml

/-- What stands between two words of a scalar: blanks, or line breaks. -/
structure Gap where
  blanks : List Char
  /-- Whether there is a line break, perhaps an escaped one. -/
  broken : Bool
  first : List Char
  more : List Char

namespace Gap

/-- Nothing between two words. -/
def none : Gap := ⟨[], false, [], []⟩

/-- An escaped line break. -/
def escaped : Gap := ⟨[], true, [], []⟩

/-- The gap with one more blank; blanks at the start of a line do not count. -/
def addBlank (g : Gap) (c : Char) : Gap :=
  if g.broken then g else { g with blanks := g.blanks ++ [c] }

/-- The gap with one more line break. -/
def addBreak (g : Gap) (c : Char) : Gap :=
  if g.broken then { g with more := g.more ++ [c] } else ⟨[], true, [c], []⟩

/-- The text that the gap stands for. -/
def text (g : Gap) : List Char :=
  if g.broken then
    if g.first == ['\n'] then (if g.more.isEmpty then [' '] else g.more) else g.first ++ g.more
  else g.blanks

end Gap

/-- Reads blanks and line breaks. A tab at the start of a line must not stand before the given
column. -/
def readGap? (column : Int) : Nat → Gap → Cursor → Option (Gap × Cursor)
  | 0, _, _ => none
  | fuel + 1, g, c =>
    match c.rest with
    | x :: _ =>
      if isSpace x then
        if x == '\t' && g.broken && (c.column : Int) < column then none
        else readGap? column fuel (g.addBlank x) c.next
      else if isBreak x then readGap? column fuel (g.addBreak x) c.next
      else some (g, c)
    | [] => some (g, c)

/-- The characters that end a plain scalar within brackets. -/
def isFlowMark (c : Char) : Bool :=
  c == ',' || c == '[' || c == ']' || c == '\x7b' || c == '\x7d'

/-- Reads a word of a plain scalar, in reverse. -/
def readWord? (flow : Bool) : Nat → List Char → Cursor → Option (List Char × Cursor)
  | 0, _, _ => none
  | fuel + 1, done, c =>
    match c.rest with
    | [] => some (done, c)
    | x :: rest =>
      if isSpace x || isBreak x then some (done, c)
      else if flow && x == ':' && rest.head?.any (fun y => isFlowMark y || y == '?') then none
      else if (x == ':' && endsWord rest.head?) || (flow && isFlowMark x) then some (done, c)
      else readWord? flow fuel (x :: done) c.next

/-- Reads a plain scalar whose lines must not stand before the given column; `done` is what was
read, in reverse. Also tells whether a new line was started. -/
def readPlain? (flow : Bool) (column : Int) :
    Nat → List Char → Gap → Cursor → Option (List Char × Bool × Cursor)
  | 0, _, _, _ => none
  | fuel + 1, done, g, c =>
    if c.atDocumentMark || c.head? == some '#' then some (done.reverse, g.broken, c)
    else do
      let (word, c) ← readWord? flow (fuel + 1) [] c
      let (done, g) := if word.isEmpty then (done, g)
        else (word ++ (g.text.reverse ++ done), Gap.none)
      if c.rest.isEmpty || !endsWord c.head? then some (done.reverse, g.broken, c)
      else
        let (g, c) ← readGap? column (fuel + 1) g c
        if !flow && (c.column : Int) < column then some (done.reverse, g.broken, c)
        else readPlain? flow column fuel done g c

/-- What a one-letter escape stands for. -/
def escape? : Char → Option Char
  | '0' => some '\x00'
  | 'a' => some '\x07'
  | 'b' => some '\x08'
  | 't' | '\t' => some '\t'
  | 'n' => some '\n'
  | 'v' => some '\x0b'
  | 'f' => some '\x0c'
  | 'r' => some '\r'
  | 'e' => some '\x1b'
  | ' ' => some ' '
  | '"' => some '"'
  | '/' => some '/'
  | '\\' => some '\\'
  | 'N' => some '\u0085'
  | '_' => some '\u00A0'
  | 'L' => some '\u2028'
  | 'P' => some '\u2029'
  | _ => none

/-- How many digits follow an escape that is a number. -/
def escapeWidth? : Char → Option Nat
  | 'x' => some 2
  | 'u' => some 4
  | 'U' => some 8
  | _ => none

/-- Reads a word of a quoted scalar, in reverse; also tells whether it ends with an escaped line
break. -/
def readQuotedWord? (quote : Char) : Nat → List Char → Cursor → Option (List Char × Bool × Cursor)
  | 0, _, _ => none
  | fuel + 1, done, c =>
    match c.rest with
    | [] => some (done, false, c)
    | x :: rest =>
      if isSpace x || isBreak x then some (done, false, c)
      else if x == quote then
        if quote == '\'' && rest.head? == some '\'' then
          readQuotedWord? quote fuel ('\'' :: done) (c.skip 2)
        else some (done, false, c)
      else if quote == '"' && x == '\\' then
        match rest with
        | [] => none
        | y :: digits =>
          if isBreak y then some (done, true, c.skip 2)
          else
            match escape? y, escapeWidth? y with
            | some z, _ => readQuotedWord? quote fuel (z :: done) (c.skip 2)
            | none, some width =>
              if digits.length < width then none
              else
                match Text.charOfHex? (digits.take width) with
                | some z => readQuotedWord? quote fuel (z :: done) (c.skip (2 + width))
                | none => none
            | none, none => none
      else readQuotedWord? quote fuel (x :: done) c.next

/-- Reads a quoted scalar behind its opening quote; `done` is what was read, in reverse. -/
def readQuoted? (quote : Char) : Nat → List Char → Cursor → Option (List Char × Cursor)
  | 0, _, _ => none
  | fuel + 1, done, c =>
    if c.atDocumentMark || c.rest.isEmpty then none
    else do
      let (done, escaped, c) ← readQuotedWord? quote (fuel + 1) done c
      if c.head? == some quote then some (done.reverse, c.next)
      else
        let (g, c) ← readGap? 0 (fuel + 1) (if escaped then .escaped else .none) c
        readQuoted? quote fuel (g.text.reverse ++ done) c

/-- What becomes of the line breaks at the end of a block scalar. -/
inductive Chomping where
  /-- None is kept. -/
  | strip
  /-- One is kept. -/
  | clip
  /-- All are kept. -/
  | keep
  deriving DecidableEq, Repr

/-- The chomping that a character asks for. -/
def Chomping.ofChar? : Char → Option Chomping
  | '+' => some keep
  | '-' => some strip
  | _ => none

/-- The indentation that a digit asks for; zero is none. -/
def indentation? (c : Char) : Option Nat :=
  if '1' ≤ c && c ≤ '9' then some (c.toNat - '0'.toNat) else none

/-- Reads the marks behind the indicator of a block scalar: chomping and indentation, in either
order. -/
def readBlockMarks (c : Cursor) : Chomping × Option Nat × Cursor :=
  match c.head?.bind Chomping.ofChar? with
  | some chomping =>
    match c.next.head?.bind indentation? with
    | some n => (chomping, some n, c.skip 2)
    | none => (chomping, none, c.next)
  | none =>
    match c.head?.bind indentation? with
    | some n =>
      match c.next.head?.bind Chomping.ofChar? with
      | some chomping => (chomping, some n, c.skip 2)
      | none => (.clip, some n, c.next)
    | none => (.clip, none, c)

/-- Behind the spaces before a column; without a column behind all spaces. -/
def skipIndent (column : Option Nat) (c : Cursor) : Cursor :=
  let spaces := (c.rest.takeWhile (· == ' ')).length
  match column with
  | none => c.skip spaces
  | some n => c.skip (min spaces (n - c.column))

/-- Reads empty lines of a block scalar; also tells the largest column where one of them or the line
behind them starts. -/
def readEmptyLines? (column : Option Nat) :
    Nat → Nat → List Char → Cursor → Option (Nat × List Char × Cursor)
  | 0, _, _, _ => none
  | fuel + 1, widest, breaks, c =>
    let c := skipIndent column c
    let widest := max widest c.column
    if c.head? == some '\t' && column.all (c.column < ·) then none
    else
      match c.rest with
      | x :: _ =>
        if isBreak x then readEmptyLines? column fuel widest (breaks ++ [x]) c.next
        else some (widest, breaks, c)
      | [] => some (widest, breaks, c)

/-- Reads the lines of a block scalar, which start at a column. `first` is the line break before the
next line and `more` the empty lines behind it; `spaced` tells whether the last line started with a
blank. Returns what was read, in reverse, and the line breaks behind it. -/
def readBlockLines? (literal : Bool) (column : Nat) : Nat → List Char → List Char → List Char →
    Bool → Cursor → Option (List Char × List Char × List Char × Cursor)
  | 0, _, _, _, _, _ => none
  | fuel + 1, done, first, more, spaced, c =>
    if c.column == column && !c.rest.isEmpty then do
      let starts := c.head?.any isSpace
      let joint :=
        if !literal && first == ['\n'] && !spaced && !starts then
          (if more.isEmpty then [' '] else [])
        else first
      let line := c.rest.takeWhile (!isBreak ·)
      let c := c.skip line.length
      let done := line.reverse ++ (more.reverse ++ (joint.reverse ++ done))
      let first := (c.rest.take 1)
      let (_, more, c) ← readEmptyLines? (some column) (fuel + 1) 0 [] c.next
      readBlockLines? literal column fuel done first more starts c
    else some (done, first, more, c)

/-- Reads a block scalar behind its indicator; its lines stand further in than the given indent. -/
def readBlock? (literal : Bool) (indent : Int) (fuel : Nat) (c : Cursor) :
    Option (List Char × Cursor) := do
  let (chomping, asked, c) := readBlockMarks c
  let c := c.skipComment
  if !c.rest.isEmpty && !c.head?.any isBreak then none
  else
    let c := c.next
    let column := asked.map fun n => (max indent 0).toNat + n
    let (widest, more, c) ← readEmptyLines? column fuel 0 [] c
    let column := column.getD (max widest (max (indent + 1).toNat 1))
    let (done, first, more, c) ← readBlockLines? literal column fuel [] [] more false c
    let ending := match chomping with
      | .strip => []
      | .clip => first
      | .keep => first ++ more
    some (done.reverse ++ ending, c)

end Telemetry.Yaml
