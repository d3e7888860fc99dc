import Telemetry.Text.Blank
import Telemetry.Decimal.Reader
import Telemetry.Condition.Token

/-!
# From characters to tokens

Tokens are the longest that can be read from left to right; ASCII blanks between them do not
count. Every reader returns the token, its own characters and the characters behind it, so that the
offsets are sums of widths.
-/

namespace Telemetry.Condition

/-- The bytes that the characters take. -/
def width (cs : List Char) : Nat := cs.foldl (fun n c => n + c.utf8Size) 0

/-- A token, its characters and the characters behind it. -/
structure Lexeme where
  token : Token
  text : List Char
  rest : List Char
  deriving Repr

/-- A fault so many bytes behind the start of a token. -/
abbrev LexFault := Nat × SyntaxFault

/-- A digit, or the underscore that may separate digits. -/
def isNumberChar (c : Char) : Bool := Text.isDigit c || c == '_'

/-- The first character of a word. -/
def isWordStart (c : Char) : Bool := c == '_' || c == '$' || c.isAlpha

/-- A further character of a word. -/
def isWordChar (c : Char) : Bool := isWordStart c || Text.isDigit c

/-- Whether the first character is a digit. -/
def startsWithDigit : List Char → Bool
  | c :: _ => Text.isDigit c
  | [] => false

/-- The fraction in front: a point and the digits behind it, at least one of them. -/
def fractionText : List Char → List Char
  | '.' :: cs => if startsWithDigit cs then '.' :: cs.takeWhile isNumberChar else []
  | _ => []

/-- The exponent in front: its mark, a sign perhaps, and at least one digit. -/
def exponentText : List Char → List Char
  | e :: cs =>
    if e == 'e' || e == 'E' then
      match cs with
      | s :: ds =>
        if (s == '+' || s == '-') && startsWithDigit ds then e :: s :: ds.takeWhile Text.isDigit
        else if startsWithDigit cs then e :: cs.takeWhile Text.isDigit
        else []
      | [] => []
    else []
  | [] => []

/-- The digits of a number text without the underscores. -/
def plainDigits (cs : List Char) : List Char := cs.filter Text.isDigit

/-- The power of ten that an exponent text names. -/
def exponentValue : List Char → Int
  | _ :: '-' :: ds => -(Text.digitsValue ds : Int)
  | _ :: '+' :: ds => Text.digitsValue ds
  | _ :: ds => Text.digitsValue ds
  | [] => 0

/-- Reads a number. It is an integer if it has neither point nor exponent. -/
def readNumber (cs : List Char) : Except LexFault Lexeme :=
  let whole := cs.takeWhile isNumberChar
  let afterWhole := cs.drop whole.length
  let fraction := fractionText afterWhole
  let afterFraction := afterWhole.drop fraction.length
  let exponent := exponentText afterFraction
  let rest := afterFraction.drop exponent.length
  let text := whole ++ fraction ++ exponent
  if fraction.isEmpty && exponent.isEmpty then
    match exactInt64? (Text.digitsValue (plainDigits whole)) with
    | some n => .ok ⟨.int n, text, rest⟩
    | none => .error (0, .integerTooLarge (String.ofList (plainDigits whole)))
  else
    let power := exponentValue exponent
    let value := Decimal.ofPlaces (plainDigits whole) (plainDigits fraction) power
    .ok ⟨.float value.toFloat, text, rest⟩

/-- What a character behind a backslash stands for. -/
def escaped? : Char → Option Char
  | 'n' => some '\n'
  | 't' => some '\t'
  | 'r' => some '\r'
  | '0' => some '\x00'
  | '\\' => some '\\'
  | '\'' => some '\''
  | '"' => some '"'
  | _ => none

/-- The characters of a text behind its opening quote: what they stand for, the characters up to
the closing quote, and the characters behind it. `none` if there is no closing quote; a fault lies
at the backslash. -/
def readQuoted (quote : Char) :
    List Char → Except LexFault (Option (List Char × List Char × List Char))
  | [] => .ok none
  | '\\' :: [] => .ok none
  | '\\' :: c :: cs =>
    match escaped? c with
    | none => .error (0, .unknownEscape c)
    | some d =>
      match readQuoted quote cs with
      | .error (at_, fault) => .error (at_ + width ['\\', c], fault)
      | .ok found =>
        .ok (found.map fun (value, text, rest) => (d :: value, '\\' :: c :: text, rest))
  | c :: cs =>
    if c == quote then .ok (some ([], [c], cs))
    else
      match readQuoted quote cs with
      | .error (at_, fault) => .error (at_ + width [c], fault)
      | .ok found => .ok (found.map fun (value, text, rest) => (c :: value, c :: text, rest))

/-- Reads a text in quotes, behind its opening quote. -/
def readText (quote : Char) (cs : List Char) : Except LexFault Lexeme :=
  match readQuoted quote cs with
  | .error (at_, fault) => .error (at_ + width [quote], fault)
  | .ok none => .error (0, .unterminatedText)
  | .ok (some (value, text, rest)) => .ok ⟨.text (String.ofList value), quote :: text, rest⟩

/-- Reads a word. -/
def readWord (cs : List Char) : Lexeme :=
  let text := cs.takeWhile isWordChar
  ⟨.word (String.ofList text), text, cs.drop text.length⟩

/-- Reads an operator or a punctuation mark. A question mark and a point in front of a digit are
two tokens. -/
def readMark : List Char → Option Lexeme
  | '=' :: '=' :: rest => some ⟨.equal, ['=', '='], rest⟩
  | '!' :: '=' :: rest => some ⟨.notEqual, ['!', '='], rest⟩
  | '<' :: '=' :: rest => some ⟨.lessEqual, ['<', '='], rest⟩
  | '>' :: '=' :: rest => some ⟨.greaterEqual, ['>', '='], rest⟩
  | '&' :: '&' :: rest => some ⟨.andAnd, ['&', '&'], rest⟩
  | '|' :: '|' :: rest => some ⟨.orOr, ['|', '|'], rest⟩
  | '?' :: '?' :: rest => some ⟨.doubleQuestion, ['?', '?'], rest⟩
  | '?' :: '.' :: rest =>
    if startsWithDigit rest then some ⟨.question, ['?'], '.' :: rest⟩
    else some ⟨.questionDot, ['?', '.'], rest⟩
  | '?' :: rest => some ⟨.question, ['?'], rest⟩
  | '<' :: rest => some ⟨.less, ['<'], rest⟩
  | '>' :: rest => some ⟨.greater, ['>'], rest⟩
  | '!' :: rest => some ⟨.bang, ['!'], rest⟩
  | '(' :: rest => some ⟨.leftParen, ['('], rest⟩
  | ')' :: rest => some ⟨.rightParen, [')'], rest⟩
  | '[' :: rest => some ⟨.leftBracket, ['['], rest⟩
  | ']' :: rest => some ⟨.rightBracket, [']'], rest⟩
  | ',' :: rest => some ⟨.comma, [','], rest⟩
  | '.' :: rest => some ⟨.dot, ['.'], rest⟩
  | ':' :: rest => some ⟨.colon, [':'], rest⟩
  | '+' :: rest => some ⟨.plus, ['+'], rest⟩
  | '-' :: rest => some ⟨.minus, ['-'], rest⟩
  | '*' :: rest => some ⟨.star, ['*'], rest⟩
  | '/' :: rest => some ⟨.slash, ['/'], rest⟩
  | '%' :: rest => some ⟨.percent, ['%'], rest⟩
  | _ => none

/-- Reads the token that starts with `c`. -/
def readLexeme (c : Char) (cs : List Char) : Except LexFault Lexeme :=
  if Text.isDigit c || (c == '.' && startsWithDigit cs) then readNumber (c :: cs)
  else if c == '\'' || c == '"' then readText c cs
  else if isWordStart c then .ok (readWord (c :: cs))
  else match readMark (c :: cs) with
    | some lexeme => .ok lexeme
    | none => .error (0, .unexpectedCharacter c)

/-- Reads all tokens of a text that starts at the given offset, and the end behind them; the first
argument bounds their number. -/
def tokensFrom : Nat → Nat → List Char → Except SyntaxError (List Located)
  | fuel, start, cs =>
    let offset := start + width (cs.takeWhile Text.isAsciiBlank)
    match cs.dropWhile Text.isAsciiBlank, fuel with
    | [], _ => .ok [⟨.ending, offset⟩]
    | _ :: _, 0 => .ok []
    | c :: rest, fuel + 1 =>
      match readLexeme c rest with
      | .error (at_, fault) => .error ⟨offset + at_, fault⟩
      | .ok lexeme => do
        let later ← tokensFrom fuel (offset + width lexeme.text) lexeme.rest
        .ok (⟨lexeme.token, offset⟩ :: later)

/-- All tokens of a condition, and the end behind them. Every token has a character, so there are
at most as many tokens as characters. -/
def tokenize (source : String) : Except SyntaxError (List Located) :=
  tokensFrom source.toList.length 0 source.toList

end Telemetry.Condition
