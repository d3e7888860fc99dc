import Telemetry.Files.Path

/-!
# Files

The result of reading a file, and trees of files that are known by their texts.
-/

namespace Telemetry

/-- Why a file cannot be read. -/
inductive FileFault where
  | notFound | notDirectory | isDirectory | notText
  /-- Another reason, in the words of the system. -/
  | other (reason : String)
  deriving DecidableEq, Repr

/-- The fault as a phrase. -/
def FileFault.message : FileFault → String
  | notFound => "No such file or directory (os error 2)"
  | notDirectory => "Not a directory (os error 20)"
  | isDirectory => "Is a directory (os error 21)"
  | notText => "stream did not contain valid UTF-8"
  | other reason => reason

/-- What comes of reading a text file. -/
abbrev FileResult := Except FileFault String

/-- Files by their paths below one directory. -/
structure FileTree where
  files : List (String × String)

namespace FileTree

/-- Follows the parts of a path; two dots undo the part before. -/
def walk : List (List Char) → List (List Char) → Option (List (List Char))
  | done, [] => some done.reverse
  | [], ['.', '.'] :: _ => none
  | _ :: done, ['.', '.'] :: rest => walk done rest
  | done, part :: rest => walk (part :: done) rest

/-- Reads a file. -/
def read (tree : FileTree) (path : String) : FileResult :=
  match path.toList, walk [] (Path.parts path) with
  | '/' :: _, _ | [], _ | _, none => .error .notFound
  | cs, some parts =>
    let ofTree := tree.files.map fun (name, text) => (Path.parts name, text)
    match ofTree.find? (·.1 == parts) with
    | some (_, text) =>
      match (Path.pieces cs).getLast? with
      | some [] | some ['.'] => .error .notDirectory
      | _ => .ok text
    | none =>
      if ofTree.any fun (name, _) => name.isPrefixOf parts then .error .notDirectory
      else if ofTree.any (fun (name, _) => parts.isPrefixOf name) || parts.isEmpty then
        .error .isDirectory
      else .error .notFound

end FileTree

end Telemetry
