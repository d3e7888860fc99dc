import Telemetry.Text.Hidden

/-!
# Quoted texts

A quotation stands between double quotes. Tab, carriage return, line feed, the character zero,
backslash and double quote are written with a backslash, hidden characters by their code point.
-/

namespace Telemetry.Text

/-- A code point in braces, as a quotation writes it. -/
def codePoint (c : Char) : List Char :=
  '\\' :: 'u' :: '\x7b' :: (Nat.toDigits 16 c.toNat ++ ['\x7d'])

/-- One character of a quotation. -/
def quoteChar (c : Char) : List Char :=
  match c with
  | '\x00' => ['\\', '0']
  | '\t' => ['\\', 't']
  | '\r' => ['\\', 'r']
  | '\n' => ['\\', 'n']
  | '\\' => ['\\', '\\']
  | '"' => ['\\', '"']
  | c => if isHidden c then codePoint c else [c]

/-- The text as a quotation. -/
def quote (s : String) : String :=
  String.ofList ('"' :: (s.toList.flatMap quoteChar ++ ['"']))

end Telemetry.Text
