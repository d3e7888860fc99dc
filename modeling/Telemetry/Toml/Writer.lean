import Telemetry.Toml.Value

/-!
# Writing TOML

A text is written in the plainest form that can hold it: in double quotes without escapes, in single
quotes, in three quotes of either kind, or with escapes. Arrays of two or more items have a line for
each item.
-/

namespace Telemetry.Toml

/-- The longest run of a character. -/
def longestRun (c : Char) : List Char → Nat → Nat → Nat
  | [], _, longest => longest
  | d :: rest, run, longest =>
    if d == c then longestRun c rest (run + 1) (max longest (run + 1))
    else longestRun c rest 0 longest

/-- Whether a character is written by an escape in any quotes. -/
def isControl (c : Char) : Bool := c != '\t' && c != '\n' && (c.toNat ≤ 0x1F || c == '\x7f')

/-- The escape of a character, if it has one in double quotes. -/
def escapeOf? (long : Bool) (c : Char) : Option (List Char) :=
  match c with
  | '\\' => some ['\\', '\\']
  | '\t' => some ['\\', 't']
  | '\x08' => some ['\\', 'b']
  | '\x0c' => some ['\\', 'f']
  | '\r' => some ['\\', 'r']
  | '\n' => if long then none else some ['\\', 'n']
  | c =>
    if isControl c then
      some ['\\', 'u', '0', '0', (Nat.digitChar (c.toNat / 16)).toUpper,
        (Nat.digitChar (c.toNat % 16)).toUpper]
    else none

/-- A text between double quotes. At most so many quotes in a row stand as they are. -/
def escaped (long : Bool) (free : Nat) : Nat → List Char → List Char
  | _, [] => []
  | run, c :: rest =>
    if c == '"' then
      if run < free then '"' :: escaped long free (run + 1) rest
      else '\\' :: '"' :: escaped long free 0 rest
    else
      match escapeOf? long c with
      | some cs => cs ++ escaped long free 0 rest
      | none => c :: escaped long free 0 rest

/-- A text in quotes. -/
def quote (s : String) : String :=
  let cs := s.toList
  let controls := cs.any isControl
  let backslash := cs.contains '\\'
  let lines := cs.contains '\n'
  let double := longestRun '"' cs 0 0
  let single := longestRun '\'' cs 0 0
  let break_ := if lines then ['\n'] else []
  let basic := "\"".toList ++ escaped false 0 0 cs ++ "\"".toList
  let longBasic := "\"\"\"".toList ++ break_ ++ escaped true 2 0 cs ++ "\"\"\"".toList
  String.ofList <|
    if !controls && !backslash && double == 0 && !lines then basic
    else if !controls && single == 0 && !lines then '\'' :: cs ++ ['\'']
    else if !controls && !backslash && double ≤ 2 then longBasic
    else if !controls && single ≤ 2 then "'''".toList ++ break_ ++ cs ++ "'''".toList
    else if lines then longBasic
    else basic

/-- An array of texts. -/
def quoteAll : List String → String
  | [] => "[]"
  | [s] => "[" ++ quote s ++ "]"
  | ss => "[\n" ++ String.join (ss.map fun s => "    " ++ quote s ++ ",\n") ++ "]"

/-- A truth value. -/
def boolText (b : Bool) : String := if b then "true" else "false"

/-- An entry of a table. -/
def entry (key value : String) : String := key ++ " = " ++ value ++ "\n"

end Telemetry.Toml
