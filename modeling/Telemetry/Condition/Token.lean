import Telemetry.Word
import Telemetry.Decimal.Layout
import Telemetry.Text.Quoted

/-!
# Tokens of the condition language

A condition is a sequence of tokens, each at the byte offset of its first character. A text that is
no sequence of tokens, or no condition, has a fault at an offset.
-/

namespace Telemetry.Condition

/-- A token; words that are operators or constants elsewhere are words here. -/
inductive Token where
  | int (n : Int64)
  | float (x : Float)
  | text (s : String)
  | word (s : String)
  | leftParen | rightParen | leftBracket | rightBracket
  | comma | dot | questionDot | question | doubleQuestion | colon
  | equal | notEqual | less | lessEqual | greater | greaterEqual
  | andAnd | orOr | bang | plus | minus | star | slash | percent
  /-- The end of the condition. -/
  | ending
  deriving DecidableEq, Repr

namespace Token

/-- The name of the kind of token. -/
def kind : Token → String
  | int _ => "Int"
  | float _ => "Float"
  | text _ => "Str"
  | word _ => "Ident"
  | leftParen => "LParen"
  | rightParen => "RParen"
  | leftBracket => "LBracket"
  | rightBracket => "RBracket"
  | comma => "Comma"
  | dot => "Dot"
  | questionDot => "QuestionDot"
  | question => "Question"
  | doubleQuestion => "DoubleQuestion"
  | colon => "Colon"
  | equal => "EqEq"
  | notEqual => "NotEq"
  | less => "Lt"
  | lessEqual => "Le"
  | greater => "Gt"
  | greaterEqual => "Ge"
  | andAnd => "AndAnd"
  | orOr => "OrOr"
  | bang => "Bang"
  | plus => "Plus"
  | minus => "Minus"
  | star => "Star"
  | slash => "Slash"
  | percent => "Percent"
  | ending => "Eof"

/-- The token as faults show it: its kind, and what it holds in parentheses. -/
def shown (t : Token) : String :=
  match t with
  | int n => s!"{t.kind}({n.toInt})"
  | float x => s!"{t.kind}({Decimal.Layout.listing.render x})"
  | text s | word s => s!"{t.kind}({Text.quote s})"
  | _ => t.kind

end Token

/-- A token and the byte offset at which it starts. -/
structure Located where
  token : Token
  offset : Nat
  deriving DecidableEq, Repr

/-- What can be wrong with the text of a condition. -/
inductive SyntaxFault where
  /-- The digits denote an integer of more than 64 bits. -/
  | integerTooLarge (digits : String)
  | unknownEscape (c : Char)
  | unterminatedText
  | unexpectedCharacter (c : Char)
  /-- The condition opens more levels than it may. -/
  | tooDeep
  /-- A token behind a complete condition. -/
  | trailingToken (found : Token)
  | unexpectedToken (found : Token)
  | unexpectedEnd
  /-- An operator word where an operand must stand. -/
  | unexpectedKeyword (word : String)
  /-- Something else stands where one thing only may stand. -/
  | expected (what : String) (found : Token)
  deriving DecidableEq, Repr

namespace SyntaxFault

/-- The fault as a phrase. -/
def message : SyntaxFault → String
  | integerTooLarge digits =>
    s!"invalid integer literal '{digits}': number too large to fit in target type"
  | unknownEscape c => s!"unknown escape sequence '\\" ++ String.ofList [c] ++ "'"
  | unterminatedText => "unterminated string literal"
  | unexpectedCharacter c => "unexpected character '" ++ String.ofList [c] ++ "'"
  | tooDeep => "expression nested too deeply"
  | trailingToken found => s!"unexpected token {found.shown} after expression"
  | unexpectedToken found => s!"unexpected token {found.shown}"
  | unexpectedEnd => "unexpected end of input"
  | unexpectedKeyword word => s!"unexpected keyword '{word}'"
  | expected what found => s!"expected {what}, found {found.shown}"

end SyntaxFault

/-- A fault and the byte offset at which it lies. -/
structure SyntaxError where
  offset : Nat
  fault : SyntaxFault
  deriving DecidableEq, Repr

/-- The error as a sentence. -/
def SyntaxError.message (e : SyntaxError) : String :=
  s!"syntax error at offset {e.offset}: {e.fault.message}"

end Telemetry.Condition
