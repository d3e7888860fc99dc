import Telemetry.Pattern.CharSet

/-!
# Syntax trees of patterns

A tree keeps what was written. What it stands for depends on the flags in force, which a part of a
pattern may change for what follows it in its group.
-/

namespace Telemetry

namespace Pattern

/-- What a pattern may switch on and off. -/
inductive Flag where
  /-- Case does not count. -/
  | anyCase
  /-- `^` and `$` match at every line. -/
  | multiLine
  /-- `.` matches line ends. -/
  | dotAll
  /-- Lazy and greedy repetitions change places. -/
  | swapGreed
  /-- Classes reach beyond ASCII. -/
  | unicode
  /-- Carriage returns end lines too. -/
  | anyLineEnd
  /-- Blanks and comments in the pattern do not count. -/
  | spacious
  deriving DecidableEq, Repr

/-- The flag of a letter. -/
def Flag.ofChar? : Char → Option Flag
  | 'i' => some anyCase
  | 'm' => some multiLine
  | 's' => some dotAll
  | 'U' => some swapGreed
  | 'u' => some unicode
  | 'R' => some anyLineEnd
  | 'x' => some spacious
  | _ => none

/-- Flags that are switched, each with its new state. -/
abbrev FlagChanges := List (Flag × Bool)

/-- A written character; `byte` if it was written as the two digits of a byte. -/
structure Literal where
  char : Char
  byte : Bool
  deriving DecidableEq, Repr

/-- A position that an anchor asks for. -/
inductive Anchor where
  | lineStart | lineEnd | textStart | textEnd
  | wordBoundary | noWordBoundary | wordStart | wordEnd | halfWordStart | halfWordEnd
  deriving DecidableEq, Repr

/-- A class by its escape letter or its property name. -/
inductive NamedClass where
  | digit | blank | word
  /-- The property, and its value where one is given. -/
  | property (name : String) (value : Option String)
  deriving DecidableEq, Repr

/-- Operations between the sets of a bracketed class. -/
inductive SetOp where
  | inter | diff | symmDiff
  deriving DecidableEq, Repr

/-- A part of a bracketed class. -/
inductive SetTree where
  | literal (l : Literal)
  | range (first last : Literal)
  | named (negated : Bool) (k : NamedClass)
  /-- A set of ASCII characters by its name between colons. -/
  | ascii (negated : Bool) (rs : Text.CharRanges)
  | union (items : List SetTree)
  | combine (op : SetOp) (left right : SetTree)
  | bracketed (negated : Bool) (inner : SetTree)
  deriving Repr

/-- A pattern, or a part of one. -/
inductive Tree where
  | empty
  /-- Switches flags up to the end of the group. -/
  | flags (changes : FlagChanges)
  | literal (l : Literal)
  | dot
  | anchor (a : Anchor)
  | named (negated : Bool) (k : NamedClass)
  | bracketed (negated : Bool) (inner : SetTree)
  /-- At least `least` times, and at most `most` times where that is given. -/
  | repetition (least : Nat) (most : Option Nat) (body : Tree)
  | group (changes : FlagChanges) (body : Tree)
  | concat (parts : List Tree)
  | alternation (branches : List Tree)
  deriving Repr

/-- The union of the items. -/
def SetTree.ofItems : List SetTree → SetTree
  | [item] => item
  | items => union items

/-- The concatenation of the parts. -/
def Tree.ofParts : List Tree → Tree
  | [] => empty
  | [part] => part
  | parts => concat parts

/-- The alternation of the branches. -/
def Tree.ofBranches : List Tree → Tree
  | [branch] => branch
  | branches => alternation branches

mutual

/-- How deep the parts of a class are nested. -/
def SetTree.depth : SetTree → Nat
  | literal _ | range .. | named .. | ascii .. => 0
  | union items => if items.isEmpty then 0 else SetTree.greatestDepth items + 1
  | combine _ left right => max left.depth right.depth + 1
  | bracketed _ inner => inner.depth + 1

/-- How deep the deepest of the parts is nested. -/
def SetTree.greatestDepth : List SetTree → Nat
  | [] => 0
  | t :: ts => max t.depth (SetTree.greatestDepth ts)

end

mutual

/-- How deep the parts of a pattern are nested. -/
def Tree.depth : Tree → Nat
  | empty | flags _ | literal _ | dot | anchor _ | named .. => 0
  | bracketed _ inner => inner.depth + 1
  | repetition _ _ body => body.depth + 1
  | group _ body => body.depth + 1
  | concat parts => Tree.greatestDepth parts + 1
  | alternation branches => Tree.greatestDepth branches + 1

/-- How deep the deepest of the parts is nested. -/
def Tree.greatestDepth : List Tree → Nat
  | [] => 0
  | t :: ts => max t.depth (Tree.greatestDepth ts)

end

end Pattern

end Telemetry
