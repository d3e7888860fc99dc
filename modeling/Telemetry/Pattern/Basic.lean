import Telemetry.Pattern.CharSet

/-!
# Patterns and where they occur

A pattern is built from sets of characters and conditions on positions. What is left of it behind
one character is a finite set of sequences of patterns, so a text is searched in one pass: at every
position the sequences that are left from earlier starts are kept beside a new start.
-/

namespace Telemetry

namespace Pattern

/-- A position in a text: the characters before and behind it. -/
structure Place where
  before : Option Char
  behind : Option Char
  deriving DecidableEq, Repr

/-- The conditions on words at a position. -/
inductive WordEdge where
  | boundary | noBoundary | start | ending | halfStart | halfEnding
  deriving DecidableEq, Repr

/-- A condition on a position. -/
inductive Look where
  | textStart
  | textEnd
  /-- The start of a line; the flag tells whether carriage returns end lines too. -/
  | lineStart (anyEnd : Bool)
  /-- The end of a line. -/
  | lineEnd (anyEnd : Bool)
  /-- The edge of a word; the flag tells whether words reach beyond ASCII. -/
  | word (edge : WordEdge) (unicode : Bool)
  deriving DecidableEq, Repr

/-- Whether a condition holds at a position. A carriage return and a line feed end a line
together. -/
def Look.holds (place : Place) : Look → Bool
  | textStart => place.before.isNone
  | textEnd => place.behind.isNone
  | lineStart anyEnd =>
    place.before.isNone || place.before = some '\n' ||
      (anyEnd && place.before = some '\r' && place.behind != some '\n')
  | lineEnd anyEnd =>
    place.behind.isNone ||
      (if anyEnd then
        place.behind = some '\r' || (place.behind = some '\n' && place.before != some '\r')
      else place.behind = some '\n')
  | word edge unicode =>
    let isWord := if unicode then Text.isWordChar else isAsciiWordChar
    let before := place.before.any isWord
    let behind := place.behind.any isWord
    match edge with
    | .boundary => before != behind
    | .noBoundary => before == behind
    | .start => !before && behind
    | .ending => before && !behind
    | .halfStart => !before
    | .halfEnding => !behind

end Pattern

/-- A pattern. -/
inductive Pattern where
  /-- The empty text. -/
  | empty
  /-- The empty text where a condition holds. -/
  | look (l : Pattern.Look)
  /-- One character of a set. -/
  | chars (s : Pattern.CharSet)
  | seq (p q : Pattern)
  | alt (p q : Pattern)
  | star (p : Pattern)
  deriving DecidableEq, Repr

namespace Pattern

/-- `n` times `p`, and `rest` behind it. -/
def times : Nat → Pattern → Pattern → Pattern
  | 0, _, rest => rest
  | n + 1, p, rest => seq p (times n p rest)

/-- At most `n` times `p`. -/
def upTo : Nat → Pattern → Pattern
  | 0, _ => empty
  | n + 1, p => alt empty (seq p (upTo n p))

/-- At least `least` times `p`, and at most `most` times where that is given. -/
def repeated (least : Nat) (most : Option Nat) (p : Pattern) : Pattern :=
  times least p (match most with
    | none => star p
    | some n => upTo (n - least) p)

/-- Whether the empty text at a position matches. -/
def nullable (place : Place) : Pattern → Bool
  | empty => true
  | look l => l.holds place
  | chars _ => false
  | seq p q => p.nullable place && q.nullable place
  | alt p q => p.nullable place || q.nullable place
  | star _ => true

/-- What is left of a pattern behind the character `c` at a position: alternatives, each a sequence
of patterns. -/
def behindChar (place : Place) (c : Char) : Pattern → List (List Pattern)
  | empty => []
  | look _ => []
  | chars s => if s.contains c then [[]] else []
  | seq p q =>
    let later := if p.nullable place then q.behindChar place c else []
    (p.behindChar place c).map (· ++ [q]) ++ later
  | alt p q => p.behindChar place c ++ q.behindChar place c
  | star p => (p.behindChar place c).map (· ++ [star p])

/-- Whether a sequence of patterns matches the empty text at a position. -/
def allNullable (place : Place) (ps : List Pattern) : Bool := ps.all (·.nullable place)

/-- What is left of a sequence of patterns behind a character. -/
def sequenceBehindChar (place : Place) (c : Char) : List Pattern → List (List Pattern)
  | [] => []
  | p :: ps =>
    let later := if p.nullable place then sequenceBehindChar place c ps else []
    (p.behindChar place c).map (· ++ ps) ++ later

/-- Whether a match ends in the text that follows the character `before`. The second argument holds
what is left from the starts in front of the text. -/
def endsWithin (p : Pattern) : Option Char → List (List Pattern) → List Char → Bool
  | before, left, [] => ([p] :: left).any (allNullable ⟨before, none⟩)
  | before, left, c :: cs =>
    let place := ⟨before, some c⟩
    let left := [p] :: left
    left.any (allNullable place) ||
      endsWithin p (some c) (left.flatMap (sequenceBehindChar place c)).eraseDups cs

/-- Whether the pattern matches somewhere in the text. -/
def occursIn (p : Pattern) (s : String) : Bool := endsWithin p none [] s.toList

end Pattern

end Telemetry
