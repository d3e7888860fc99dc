import Telemetry.Proofs.Condition.Slices
import Telemetry.Proofs.Text.Integers

/-!
# Scanning a text by bytes

The scanner keeps a position in the bytes of a text. It looks at single bytes, moves on and cuts out
what it has passed. A cut behind the end or inside a character is a breach, and so is a number text
that is no number. The scanner is the reader of tokens: it finds the same tokens and faults, and
never comes to a breach.
-/

namespace Telemetry.Condition

/-- Why a reader that keeps positions stops without a result. -/
inductive Stop where
  /-- The text is refused. -/
  | refused (e : SyntaxError)
  /-- The reader does what it must not do. -/
  | breach
  /-- The reader may not take as many steps as it needs. -/
  | unfinished
  deriving DecidableEq, Repr

namespace Scanner

variable (source : List Char)

/-- The end of a fraction that starts at a position, if one does. -/
def fractionEnd? (pos : Nat) : Option Nat :=
  if look source pos = some '.' && (look source (pos + 1)).any Text.isDigit then
    some (scan isNumberChar source (pos + 1))
  else none

/-- How many signs stand at a position. -/
def signCount (pos : Nat) : Nat :=
  if (look source pos).any fun c => c == '+' || c == '-' then 1 else 0

/-- The end of an exponent that starts at a position, if one does. -/
def exponentEnd? (pos : Nat) : Option Nat :=
  let digits := pos + 1 + signCount source (pos + 1)
  if ((look source pos).any fun c => c == 'e' || c == 'E') &&
      (look source digits).any Text.isDigit then
    some (scan Text.isDigit source digits)
  else none

/-- The token of a number text, with or without a fraction or an exponent. -/
def numberToken (start : Nat) (real : Bool) (text : List Char) : Except Stop Token :=
  if real then
    match Decimal.readFloat? text with
    | some x => .ok (.float x)
    | none => .error .breach
  else
    match Text.readInt? text with
    | none => .error .breach
    | some n =>
      match exactInt64? n with
      | some w => .ok (.int w)
      | none => .error (.refused ⟨start, .integerTooLarge (String.ofList text)⟩)

/-- The number at a position, and the position behind it. -/
def number (start : Nat) : Except Stop (Token × Nat) :=
  let whole := scan isNumberChar source start
  let fraction? := fractionEnd? source whole
  let exponent? := exponentEnd? source (fraction?.getD whole)
  let stop := exponent?.getD (fraction?.getD whole)
  match slice? source start stop with
  | none => .error .breach
  | some text => do
    let token ← numberToken start (fraction?.isSome || exponent?.isSome) (text.filter (· != '_'))
    .ok (token, stop)

/-- What characters up to a closing quote stand for, and where the quote is; the first of them is at
the given place. -/
def quotedFrom (quote : Char) :
    Nat → List Char → Except LexFault (Option (List Char × Nat))
  | _, [] => .ok none
  | _, '\\' :: [] => .ok none
  | place, '\\' :: c :: cs =>
    match escaped? c with
    | none => .error (place, .unknownEscape c)
    | some d => do
      let found ← quotedFrom quote (place + width ['\\', c]) cs
      .ok (found.map fun (value, closing) => (d :: value, closing))
  | place, c :: cs =>
    if c == quote then .ok (some ([], place))
    else do
      let found ← quotedFrom quote (place + c.utf8Size) cs
      .ok (found.map fun (value, closing) => (c :: value, closing))

/-- The text in quotes at a position, and the position behind it. -/
def quoted (quote : Char) (start : Nat) : Except Stop (Token × Nat) :=
  match from? source (start + 1) with
  | none => .error .breach
  | some cs =>
    match quotedFrom quote 0 cs with
    | .error (place, fault) => .error (.refused ⟨start + 1 + place, fault⟩)
    | .ok none => .error (.refused ⟨start, .unterminatedText⟩)
    | .ok (some (value, closing)) => .ok (.text (String.ofList value), start + 1 + (closing + 1))

/-- The word at a position, and the position behind it. -/
def word (start : Nat) : Except Stop (Token × Nat) :=
  let stop := scan isWordChar source start
  match slice? source start stop with
  | none => .error .breach
  | some text => .ok (.word (String.ofList text), stop)

/-- The mark that a byte and the one behind it make, and how many bytes it takes. -/
def mark? : Char → Option Char → Option (Token × Nat)
  | '=', some '=' => some (.equal, 2)
  | '!', some '=' => some (.notEqual, 2)
  | '<', some '=' => some (.lessEqual, 2)
  | '>', some '=' => some (.greaterEqual, 2)
  | '&', some '&' => some (.andAnd, 2)
  | '|', some '|' => some (.orOr, 2)
  | '?', some '?' => some (.doubleQuestion, 2)
  | '?', some '.' => some (.questionDot, 2)
  | '?', _ => some (.question, 1)
  | '<', _ => some (.less, 1)
  | '>', _ => some (.greater, 1)
  | '!', _ => some (.bang, 1)
  | '(', _ => some (.leftParen, 1)
  | ')', _ => some (.rightParen, 1)
  | '[', _ => some (.leftBracket, 1)
  | ']', _ => some (.rightBracket, 1)
  | ',', _ => some (.comma, 1)
  | '.', _ => some (.dot, 1)
  | ':', _ => some (.colon, 1)
  | '+', _ => some (.plus, 1)
  | '-', _ => some (.minus, 1)
  | '*', _ => some (.star, 1)
  | '/', _ => some (.slash, 1)
  | '%', _ => some (.percent, 1)
  | _, _ => none

/-- The mark at a position, and the position behind it. A question mark in front of a point and a
digit stands alone. -/
def mark (start : Nat) : Except Stop (Token × Nat) :=
  match look source start with
  | none => .error .breach
  | some c =>
    match mark? c (look source (start + 1)) with
    | some (found, size) =>
      if found = .questionDot && (look source (start + 2)).any Text.isDigit then
        .ok (.question, start + 1)
      else .ok (found, start + size)
    | none =>
      match from? source start with
      | none => .error .breach
      | some cs => .error (.refused ⟨start, .unexpectedCharacter (cs.headD '?')⟩)

/-- The token at a position where there is the given byte, and the position behind it. -/
def token (start : Nat) (c : Char) : Except Stop (Token × Nat) :=
  if Text.isDigit c then number source start
  else if c == '.' && (look source (start + 1)).any Text.isDigit then number source start
  else if c == '\'' || c == '"' then quoted source c start
  else if isWordStart c then word source start
  else mark source start

/-- The tokens from a position on, and the end behind them; the first argument bounds their
number. -/
def tokensAt : Nat → Nat → Except Stop (List Located)
  | fuel, pos =>
    let start := scan Text.isAsciiBlank source pos
    match look source start, fuel with
    | none, _ => .ok [⟨.ending, start⟩]
    | some _, 0 => .error .unfinished
    | some c, fuel + 1 => do
      let (found, stop) ← token source start c
      let later ← tokensAt fuel stop
      .ok (⟨found, start⟩ :: later)

/-- All tokens of a condition, and the end behind them. Every token has a byte. -/
def tokens : Except Stop (List Located) := tokensAt source (utf8 source).length 0

end Scanner

end Telemetry.Condition
