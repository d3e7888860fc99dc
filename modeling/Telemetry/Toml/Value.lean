/-!
# TOML values

A value of a TOML document. Dates and times are kept as they are written.
-/

namespace Telemetry

/-- A TOML value. -/
inductive Toml where
  | string (s : String)
  | integer (n : Int)
  | real (x : Float)
  | bool (b : Bool)
  | datetime (text : String)
  | array (items : List Toml)
  | table (entries : List (String × Toml))
  deriving Repr

end Telemetry
