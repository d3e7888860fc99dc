import Telemetry.Text.CaseTable

/-!
# Upper and lower case of texts

A character may have an upper case of several characters. A capital sigma at the end of a word has
a lower case of its own.
-/

namespace Telemetry.Text

/-- The upper case of a character. -/
def upperChars (c : Char) : List Char :=
  match upperSequences.lookup c.toNat with
  | some codes => codes.map Char.ofNat
  | none => [CaseRun.apply upperRuns c]

/-- The upper case of a text. -/
def upper (s : String) : String := String.ofList (s.toList.flatMap upperChars)

/-- Whether the first character that does not count for case has a case. -/
def startsCased (cs : List Char) : Bool :=
  match cs.dropWhile caseIgnorableRanges.contains with
  | [] => false
  | c :: _ => casedRanges.contains c

/-- The lower case of a character that is no capital sigma; the dot of a capital I stays. -/
def lowerChars (c : Char) : List Char :=
  if c == 'İ' then ['i', Char.ofNat 0x307] else [CaseRun.apply lowerRuns c]

/-- Lowers the characters of a text; the first argument is what stands before them, reversed. -/
def lowerFrom : List Char → List Char → List Char
  | _, [] => []
  | before, c :: rest =>
    let cs := if c == 'Σ' then
        [if startsCased before && !startsCased rest then 'ς' else 'σ']
      else lowerChars c
    cs ++ lowerFrom (c :: before) rest

/-- The lower case of a text. -/
def lower (s : String) : String := String.ofList (lowerFrom [] s.toList)

end Telemetry.Text
