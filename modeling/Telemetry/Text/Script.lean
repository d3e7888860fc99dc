import Telemetry.Text.ScriptTable

/-!
# Scripts

The scripts that patterns can name.
-/

namespace Telemetry.Text

/-- A script. -/
inductive Script where
  | arabic | armenian | common | cyrillic | devanagari | georgian | greek | han | hangul | hebrew
  | hiragana | inherited | katakana | latin | thai
  deriving DecidableEq, Repr

namespace Script

/-- The code points of the script. -/
def ranges : Script → CharRanges
  | arabic => ScriptTable.arabic
  | armenian => ScriptTable.armenian
  | common => ScriptTable.common
  | cyrillic => ScriptTable.cyrillic
  | devanagari => ScriptTable.devanagari
  | georgian => ScriptTable.georgian
  | greek => ScriptTable.greek
  | han => ScriptTable.han
  | hangul => ScriptTable.hangul
  | hebrew => ScriptTable.hebrew
  | hiragana => ScriptTable.hiragana
  | inherited => ScriptTable.inherited
  | katakana => ScriptTable.katakana
  | latin => ScriptTable.latin
  | thai => ScriptTable.thai

/-- The script of a name in small letters, in full or as its four-letter code. -/
def ofName? : String → Option Script
  | "arabic" | "arab" => some arabic
  | "armenian" | "armn" => some armenian
  | "common" | "zyyy" => some common
  | "cyrillic" | "cyrl" => some cyrillic
  | "devanagari" | "deva" => some devanagari
  | "georgian" | "geor" => some georgian
  | "greek" | "grek" => some greek
  | "han" | "hani" => some han
  | "hangul" | "hang" => some hangul
  | "hebrew" | "hebr" => some hebrew
  | "hiragana" | "hira" => some hiragana
  | "inherited" | "zinh" | "qaai" => some inherited
  | "katakana" | "kana" => some katakana
  | "latin" | "latn" => some latin
  | "thai" => some thai
  | _ => none

end Script

end Telemetry.Text
