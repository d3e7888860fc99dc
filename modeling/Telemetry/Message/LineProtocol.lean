import Telemetry.Message.Basic

/-!
# Line protocol

A message becomes one line: its name and tags, its fields, and its time in nanoseconds. Characters
that would end a name, a key or a text have a backslash in front, and so has the backslash.
Entries are written by ascending key, fields that are not finite are left out, and a message
without fields to write has no line.
-/

namespace Telemetry.Message

/-- Puts a backslash in front of backslashes and of the given characters. -/
def escapeChars (specials : List Char) (cs : List Char) : List Char :=
  cs.flatMap fun c => if c == '\\' || specials.contains c then ['\\', c] else [c]

/-- The name at the start of a line. -/
def lineName (name : String) : List Char := escapeChars [',', ' '] name.toList

/-- A key, or the value of a tag. -/
def lineWord (word : String) : List Char := escapeChars [',', '=', ' '] word.toList

/-- The value of a field, with a letter behind whole numbers. -/
def lineValue : FieldValue → List Char
  | .int n => (toString n.toInt).toList ++ ['i']
  | .uint n => (toString n.toNat).toList ++ ['u']
  | .float x => (Decimal.Layout.plain.render x).toList
  | .bool b => (if b then "true" else "false").toList
  | .string s => '"' :: (escapeChars ['"'] s.toList ++ ['"'])

/-- The tags together with the listed meta entries, which replace tags of the same key. -/
def promoted (m : Message) (metaAsTags : List String) : KeyMap String :=
  metaAsTags.foldl (fun tags key =>
    match m.metadata[key]? with
    | some value => tags.insert key value
    | none => tags) m.tags

/-- One tag with the comma in front of it. -/
def lineTag (entry : String × String) : List Char :=
  ',' :: (lineWord entry.1 ++ '=' :: lineWord entry.2)

/-- One field. -/
def lineField (entry : String × FieldValue) : List Char :=
  lineWord entry.1 ++ '=' :: lineValue entry.2

/-- The fields, separated by commas. -/
def lineFields : List (String × FieldValue) → List Char
  | [] => []
  | [field] => lineField field
  | field :: rest => lineField field ++ ',' :: lineFields rest

/-- The line of a message, unless it has no field to write. -/
def lineChars? (m : Message) (metaAsTags : List String) : Option (List Char) :=
  match m.fields.toList.filter fun entry => entry.2.isFinite with
  | [] => none
  | fields =>
    some (lineName m.name ++ (m.promoted metaAsTags).toList.flatMap lineTag ++
      ' ' :: lineFields fields ++
      ' ' :: (toString m.timestamp.nanosecondsOrZero.toInt).toList)

/-- The line of a message, unless it has no field to write. -/
def line? (m : Message) (metaAsTags : List String) : Option String :=
  (m.lineChars? metaAsTags).map String.ofList

end Telemetry.Message
