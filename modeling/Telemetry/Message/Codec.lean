import Telemetry.Json.Writer
import Telemetry.Timestamp.Reader
import Telemetry.Timestamp.Writer

/-!
# Libraries for texts

Messages are made of values and of a point in time. How these are texts is up to libraries, one for
JSON and one for points in time, and messages are written and read by whatever libraries they are
given.
-/

namespace Telemetry

/-- A library for JSON texts. -/
structure Json.Codec where
  /-- The text of a value. -/
  print : Json → String
  /-- What a text holds, if it is a text of the grammar. -/
  parse? : String → Option Json.Syntax
  /-- The number that digits stand for, if there is one. -/
  number? : Json.NumberText → Option Json.Number

/-- The library that prints compact texts and reads them by the grammar. -/
def Json.Codec.standard : Json.Codec :=
  ⟨Json.compact, fun s => Json.Syntax.read? s.toList, Json.Number.ofText?⟩

/-- A library for the texts of points in time. -/
structure Timestamp.Codec where
  print : Timestamp → String
  read? : String → Option Timestamp

/-- The library that prints and reads as it is defined here. -/
def Timestamp.Codec.standard : Timestamp.Codec := ⟨Timestamp.text, Timestamp.read?⟩

/-- The libraries with which messages are written and read. -/
structure Message.Codec where
  json : Json.Codec
  time : Timestamp.Codec

/-- The libraries of the program. -/
def Message.Codec.standard : Message.Codec := ⟨.standard, .standard⟩

end Telemetry
