import Telemetry.Message.Basic
import Telemetry.Text.Quoted

/-!
# Listings of messages

The form in which a message is shown to a reader: every part with its label, entries by ascending
key, texts quoted and field values with the name of their kind.
-/

namespace Telemetry.Message

/-- A field value with the name of its kind. -/
def listValue : FieldValue → String
  | .int n => s!"Int({n.toInt})"
  | .uint n => s!"UInt({n.toNat})"
  | .float x => s!"Float({Decimal.Layout.listing.render x})"
  | .bool b => s!"Bool({b})"
  | .string s => s!"String({Text.quote s})"

/-- Entries in braces. -/
def listEntries (entries : List (String × String)) : String :=
  "\x7b" ++ ", ".intercalate (entries.map fun entry => Text.quote entry.1 ++ ": " ++ entry.2) ++
    "\x7d"

/-- The whole message. -/
def listing (m : Message) : String :=
  let quoted (entries : KeyMap String) :=
    listEntries (entries.toList.map fun entry => (entry.1, Text.quote entry.2))
  let fields := listEntries (m.fields.toList.map fun entry => (entry.1, listValue entry.2))
  "Name: " ++ m.name ++ ", Tags: " ++ quoted m.tags ++ ", Meta: " ++ quoted m.metadata ++
    ", Fields: " ++ fields ++ ", Timestamp: " ++ toString m.timestamp.nanosecondsOrZero.toInt

end Telemetry.Message
