import Telemetry.Decimal.Reader
import Telemetry.Json.Value
import Telemetry.Word
import Telemetry.Yaml.Node

/-!
# YAML documents as values

A document is read as a value of the JSON kind. A plain scalar that looks like null, a truth value
or a number is one; any scalar may be a key, and is then a text.
-/

namespace Telemetry.Yaml

/-- The truth value that a text looks like. -/
def readBool? : String → Option Bool
  | "true" | "True" | "TRUE" => some true
  | "false" | "False" | "FALSE" => some false
  | _ => none

/-- Whether a text looks like null. -/
def isNull (s : String) : Bool := s == "null" || s == "Null" || s == "NULL" || s == "~"

/-- A text of digits with a leading zero is no number. -/
def isPaddedDigits (cs : List Char) : Bool :=
  let cs := match cs with
    | '-' :: rest | '+' :: rest => rest
    | cs => cs
  match cs with
  | '0' :: c :: rest => (c :: rest).all Text.isDigit
  | _ => false

/-- The number of digits behind the mark of a base. -/
def basedNat? : List Char → Option Nat
  | '0' :: 'x' :: rest => Text.natOfBase? 16 rest
  | '0' :: 'o' :: rest => Text.natOfBase? 8 rest
  | '0' :: 'b' :: rest => Text.natOfBase? 2 rest
  | _ => none

/-- The integer that a text looks like. It has at most 128 bits. -/
def readInt? (cs : List Char) : Option Int :=
  let bare := match cs with
    | '+' :: rest => rest
    | cs => cs
  let plain : Option Int :=
    match cs with
    | '-' :: rest =>
      match basedNat? rest with
      | some n => some (-(n : Int))
      | none =>
        if isPaddedDigits cs then none else (Text.natOfBase? 10 rest).map fun n => -(n : Int)
    | _ =>
      match basedNat? bare with
      | some n => some n
      | none =>
        if isPaddedDigits cs then none else (Text.natOfBase? 10 bare).map fun n => (n : Int)
  plain.filter fits128

/-- A number of a value: an integer that fits no word is refused. -/
def integer? (n : Int) : Option Json :=
  if Int64.minValue.toInt ≤ n && n < UInt64.size then some (.number (.integer n)) else none

/-- The number that a text looks like, if it is finite. -/
def readFinite? (s : String) : Option Float :=
  match s.toList with
  | '+' :: '+' :: _ | '+' :: '-' :: _ => none
  | cs => (Decimal.readFloat? cs).filter (·.isFinite)

/-- Whether a text stands for a number that is not finite. -/
def isNonFinite (s : String) : Bool :=
  [".inf", ".Inf", ".INF", "+.inf", "+.Inf", "+.INF", "-.inf", "-.Inf", "-.INF", ".nan", ".NaN",
    ".NAN"].contains s

/-- The number that a text looks like; one that is not finite is null. -/
def real? (s : String) : Option Json :=
  if isNonFinite s then some .null else (readFinite? s).map fun x => .number (.real x)

/-- The value of a plain scalar; an integer that is too large is refused. -/
def plainValue? (s : String) : Option Json :=
  if s.isEmpty || isNull s then some .null
  else
    match readBool? s, readInt? s.toList with
    | some b, _ => some (.bool b)
    | none, some n => integer? n
    | none, none =>
      if isPaddedDigits s.toList then some (.string s) else some ((real? s).getD (.string s))

/-- The value of a scalar. A tag of one's own is refused. -/
def scalarValue? (tag : Option String) (plain : Bool) (s : String) : Option Json :=
  match tag with
  | none => if plain then plainValue? s else some (.string s)
  | some "tag:yaml.org,2002:bool" => (readBool? s).map .bool
  | some "tag:yaml.org,2002:int" => (readInt? s.toList).bind integer?
  | some "tag:yaml.org,2002:float" => real? s
  | some "tag:yaml.org,2002:null" => if isNull s then some .null else none
  | some tag => if tag.startsWith "!" then none else some (.string s)

/-- Whether a collection may have a tag; one of one's own is refused. -/
def allowsTag (tag : Option String) : Bool := !tag.any (·.startsWith "!")

/-- Follows an alias. So many may be followed at most. -/
def follow (d : Document) : Node → StateT Nat Option Node
  | .alias number => do
    match ← get with
    | 0 => failure
    | left + 1 =>
      set left
      match d.anchor? number with
      | some n => return n
      | none => failure
  | n => return n

/-- The text of a key. -/
def keyText (d : Document) (key : Node) : StateT Nat Option String := do
  match ← follow d key with
  | .scalar _ _ s => return s
  | _ => failure

/-- The value of a node; collections are nested at most so deeply. -/
def valueOf (d : Document) : Nat → Node → StateT Nat Option Json
  | 0, n => do
    match ← follow d n with
    | .scalar tag plain s => StateT.lift (scalarValue? tag plain s)
    | _ => failure
  | levels + 1, n => do
    match ← follow d n with
    | .scalar tag plain s => StateT.lift (scalarValue? tag plain s)
    | .sequence tag items =>
      if !allowsTag tag then failure
      return .array (← items.mapM (valueOf d levels))
    | .mapping tag entries =>
      if !allowsTag tag then failure
      let members ← entries.mapM fun (key, value) => do
        let key ← keyText d key
        let value ← valueOf d levels value
        return (key, value)
      return .object (Json.ofMembers members)
    | .alias _ => failure

/-- The levels of collections that a value may be nested. -/
def depthLimit : Nat := 128

/-- Reads a whole text as a value; an empty text is null. -/
def read? (s : String) : Option Json := do
  let cs ← charsOf? s
  let tokens ← tokens? cs
  let d ← Document.ofTokens? tokens
  match d.root with
  | none => some .null
  | some root => ((valueOf d depthLimit root).run (100 * d.places)).map (·.1)

end Telemetry.Yaml
