/-!
# File paths

A path is a text whose parts are separated by slashes. A dot stands for the place itself, two dots
for what holds it.
-/

namespace Telemetry.Path

/-- The pieces between the slashes. -/
def pieces : List Char → List (List Char)
  | [] => [[]]
  | '/' :: rest => [] :: pieces rest
  | c :: rest =>
    match pieces rest with
    | [] => [[c]]
    | piece :: more => (c :: piece) :: more

/-- The parts of a path, without empty ones and dots. -/
def parts (path : String) : List (List Char) :=
  (pieces path.toList).filter fun piece => piece != [] && piece != ['.']

/-- The text behind the last dot of a name, unless the dot is its first character. -/
def extensionOf? (name : List Char) : Option String :=
  let ending := (name.reverse.takeWhile (· != '.')).reverse
  let stem := name.take (name.length - ending.length - 1)
  if ending.length < name.length && stem != [] then some (String.ofList ending) else none

/-- The extension of the last part of a path. -/
def extension? (path : String) : Option String :=
  match (parts path).getLast? with
  | some name => if name == ['.', '.'] then none else extensionOf? name
  | none => none

end Telemetry.Path
