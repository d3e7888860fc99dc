import Telemetry.Decimal.Layout
import Telemetry.Json.Value

/-!
# Writing JSON

The compact form has no blanks. The indented form puts every item and member on a line of its own,
two spaces further in than what holds it.
-/

namespace Telemetry.Json

/-- A point always shows, and the exponent is left out from `1e-5` to below `1e16`; a positive
exponent has its sign. -/
def numberLayout : Decimal.Layout := ⟨.even, some (-5, 15), true, true⟩

/-- A binary64 number; one that is not finite is written as `null`. -/
def realText (x : Float) : String :=
  if x.isFinite then numberLayout.render x else "null"

/-- A number. -/
def Number.text : Number → String
  | integer n => toString n
  | real x => realText x

/-- One character of a string: quote, backslash and controls are escaped. -/
def stringChar (c : Char) : List Char :=
  match c with
  | '"' => ['\\', '"']
  | '\\' => ['\\', '\\']
  | '\n' => ['\\', 'n']
  | '\r' => ['\\', 'r']
  | '\t' => ['\\', 't']
  | '\x08' => ['\\', 'b']
  | '\x0c' => ['\\', 'f']
  | c =>
    if c.toNat < 0x20 then
      '\\' :: 'u' :: '0' :: '0' :: Nat.digitChar (c.toNat / 16) :: [Nat.digitChar (c.toNat % 16)]
    else [c]

/-- A string in quotes. -/
def stringText (s : String) : String :=
  String.ofList ('"' :: (s.toList.flatMap stringChar ++ ['"']))

mutual

/-- The compact form. -/
def compact : Json → String
  | .null => "null"
  | .bool b => if b then "true" else "false"
  | .number n => n.text
  | .string s => stringText s
  | .array items => "[" ++ ",".intercalate (compactItems items) ++ "]"
  | .object members => "\x7b" ++ ",".intercalate (compactMembers members) ++ "\x7d"

/-- The compact forms of the items of an array. -/
def compactItems : List Json → List String
  | [] => []
  | item :: rest => item.compact :: compactItems rest

/-- The compact forms of the members of an object. -/
def compactMembers : List (String × Json) → List String
  | [] => []
  | (key, value) :: rest => (stringText key ++ ":" ++ value.compact) :: compactMembers rest

end

/-- The start of a line so many levels in. -/
def lineStart (level : Nat) : String := "\n" ++ String.ofList (List.replicate (2 * level) ' ')

mutual

/-- The indented form, for a value that stands so many levels in. -/
def indented (level : Nat) : Json → String
  | .null => "null"
  | .bool b => if b then "true" else "false"
  | .number n => n.text
  | .string s => stringText s
  | .array [] => "[]"
  | .array (item :: rest) =>
    "[" ++ ",".intercalate (indentedItems (level + 1) (item :: rest)) ++ lineStart level ++ "]"
  | .object [] => "\x7b\x7d"
  | .object (member :: rest) =>
    "\x7b" ++ ",".intercalate (indentedMembers (level + 1) (member :: rest)) ++
      lineStart level ++ "\x7d"

/-- The lines of the items of an array. -/
def indentedItems (level : Nat) : List Json → List String
  | [] => []
  | item :: rest => (lineStart level ++ indented level item) :: indentedItems level rest

/-- The lines of the members of an object. -/
def indentedMembers (level : Nat) : List (String × Json) → List String
  | [] => []
  | (key, value) :: rest =>
    (lineStart level ++ stringText key ++ ": " ++ indented level value) ::
      indentedMembers level rest

end

/-- The indented form of a whole document. -/
def pretty (j : Json) : String := indented 0 j

end Telemetry.Json
