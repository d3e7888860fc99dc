import Telemetry.Pattern.Basic
import Telemetry.Pattern.Reader

/-!
# What a syntax tree stands for

The flags in force decide what characters, classes and anchors stand for. A tree stands for nothing
if it names an unknown property, asks for bytes that are no characters, or is too large when its
repetitions are written out.
-/

namespace Telemetry

namespace Pattern

/-- The flags in force. -/
structure Mode where
  anyCase : Bool := false
  multiLine : Bool := false
  dotAll : Bool := false
  anyLineEnd : Bool := false
  unicode : Bool := true
  deriving Repr

namespace Mode

/-- Switches one flag. Greed and blanks have no meaning once a pattern is read. -/
def switch (m : Mode) : Flag × Bool → Mode
  | (.anyCase, on) => { m with anyCase := on }
  | (.multiLine, on) => { m with multiLine := on }
  | (.dotAll, on) => { m with dotAll := on }
  | (.anyLineEnd, on) => { m with anyLineEnd := on }
  | (.unicode, on) => { m with unicode := on }
  | (.swapGreed, _) => m
  | (.spacious, _) => m

/-- Switches flags. -/
def apply (m : Mode) (changes : FlagChanges) : Mode := changes.foldl switch m

/-- The set, extended where case does not count. -/
def fold (m : Mode) (s : CharSet) : CharSet :=
  if !m.anyCase then s else if m.unicode then .anyCase s else .anyAsciiCase s

/-- The set or its complement. A complement needs characters beyond ASCII. -/
def negate? (m : Mode) (negated : Bool) (s : CharSet) : Option CharSet :=
  if !negated then some s else if m.unicode then some s.compl else none

end Mode

/-- A property name without blanks, dashes, underscores, a leading `is` and the case of letters. -/
def plainName (name : String) : String :=
  let cs := name.toList.map Char.toLower
  let (isPrefixed, cs) := match cs with
    | 'i' :: 's' :: cs => (true, cs)
    | cs => (false, cs)
  let cs := cs.filter fun c => c.toNat < 0x80 && c != ' ' && c != '_' && c != '-'
  if isPrefixed && cs = ['c'] then "isc" else String.ofList cs

/-- The characters of a general category, by its plain name. -/
def categorySet? : String → Option CharSet
  | "any" => some (.compl .empty)
  | "assigned" => some (.named .assigned)
  | "ascii" => some .ascii
  | "l" | "letter" => some (.named (.categories Text.Category.letters))
  | "lc" | "casedletter" => some (.named (.categories [.lu, .ll, .lt]))
  | "lu" | "uppercaseletter" => some (.named (.categories [.lu]))
  | "ll" | "lowercaseletter" => some (.named (.categories [.ll]))
  | "lt" | "titlecaseletter" => some (.named (.categories [.lt]))
  | "lm" | "modifierletter" => some (.named (.categories [.lm]))
  | "lo" | "otherletter" => some (.named (.categories [.lo]))
  | "m" | "mark" | "combiningmark" => some (.named (.categories Text.Category.marks))
  | "mn" | "nonspacingmark" => some (.named (.categories [.mn]))
  | "mc" | "spacingmark" => some (.named (.categories [.mc]))
  | "me" | "enclosingmark" => some (.named (.categories [.me]))
  | "n" | "number" => some (.named (.categories Text.Category.numbers))
  | "nd" | "decimalnumber" | "digit" => some (.named (.categories [.nd]))
  | "nl" | "letternumber" => some (.named (.categories [.nl]))
  | "no" | "othernumber" => some (.named (.categories [.no]))
  | "p" | "punctuation" | "punct" =>
    some (.named (.categories [.pc, .pd, .ps, .pe, .pi, .pf, .po]))
  | "pc" | "connectorpunctuation" => some (.named (.categories [.pc]))
  | "pd" | "dashpunctuation" => some (.named (.categories [.pd]))
  | "ps" | "openpunctuation" => some (.named (.categories [.ps]))
  | "pe" | "closepunctuation" => some (.named (.categories [.pe]))
  | "pi" | "initialpunctuation" => some (.named (.categories [.pi]))
  | "pf" | "finalpunctuation" => some (.named (.categories [.pf]))
  | "po" | "otherpunctuation" => some (.named (.categories [.po]))
  | "s" | "symbol" => some (.named (.categories [.sm, .sc, .sk, .so]))
  | "sm" | "mathsymbol" => some (.named (.categories [.sm]))
  | "sc" | "currencysymbol" => some (.named (.categories [.sc]))
  | "sk" | "modifiersymbol" => some (.named (.categories [.sk]))
  | "so" | "othersymbol" => some (.named (.categories [.so]))
  | "z" | "separator" => some (.named (.categories [.zs, .zl, .zp]))
  | "zs" | "spaceseparator" => some (.named (.categories [.zs]))
  | "zl" | "lineseparator" => some (.named (.categories [.zl]))
  | "zp" | "paragraphseparator" => some (.named (.categories [.zp]))
  | "c" | "other" =>
    some (.union (.compl (.named .assigned)) (.named (.categories [.cc, .cf, .co])))
  | "cc" | "control" | "cntrl" => some (.named (.categories [.cc]))
  | "cf" | "format" => some (.named (.categories [.cf]))
  | "cn" | "unassigned" => some (.compl (.named .assigned))
  | "co" | "privateuse" => some (.named (.categories [.co]))
  | _ => none

/-- The characters of a script, by its plain name. -/
def scriptSet? (name : String) : Option CharSet :=
  (Text.Script.ofName? name).map fun s => .named (.script s)

/-- The characters of a property that has no values, by its plain name. -/
def binarySet? : String → Option CharSet
  | "alphabetic" | "alpha" => some (.named .alphabetic)
  | "lowercase" | "lower" => some (.named .lowercase)
  | "uppercase" | "upper" => some (.named .uppercase)
  | "whitespace" | "wspace" | "space" => some (.named .blank)
  | "asciihexdigit" | "ahex" => some (.ranges [(0x30, 0x39), (0x41, 0x46), (0x61, 0x66)])
  | "joincontrol" | "joinc" => some (.ranges [(0x200C, 0x200D)])
  | _ => none

/-- The characters of a property. -/
def propertySet? (name : String) : Option String → Option CharSet
  | none =>
    let name := plainName name
    (binarySet? name).orElse fun _ => (categorySet? name).orElse fun _ => scriptSet? name
  | some value =>
    let value := plainName value
    match plainName name with
    | "gc" | "generalcategory" => categorySet? value
    | "sc" | "script" | "scx" | "scriptextensions" => scriptSet? value
    | _ => none

/-- The characters of a named class. -/
def NamedClass.set? (m : Mode) : NamedClass → Option CharSet
  | digit => some (if m.unicode then .named .digit else .ranges [(0x30, 0x39)])
  | blank => some (if m.unicode then .named .blank else .ranges [(0x09, 0x0D), (0x20, 0x20)])
  | word => some (if m.unicode then .named .word else
      .ranges [(0x30, 0x39), (0x41, 0x5A), (0x5F, 0x5F), (0x61, 0x7A)])
  | property name value =>
    if m.unicode then (propertySet? name value).map m.fold else none

/-- Whether a written character may stand in a class. -/
def Literal.allowedInSet (m : Mode) (l : Literal) : Bool := m.unicode || l.char.toNat < 0x80

/-- Whether a written character may stand outside of classes. -/
def Literal.allowed (m : Mode) (l : Literal) : Bool :=
  m.unicode || !l.byte || l.char.toNat < 0x80

/-- An operation on two sets. -/
def SetOp.apply : SetOp → CharSet → CharSet → CharSet
  | inter, s, t => .inter s t
  | diff, s, t => .diff s t
  | symmDiff, s, t => .symmDiff s t

mutual

/-- The characters of a part of a bracketed class. -/
def SetTree.set? (m : Mode) : SetTree → Option CharSet
  | literal l => if l.allowedInSet m then some (.single l.char) else none
  | range first last =>
    if first.allowedInSet m && last.allowedInSet m then some (.range first.char last.char)
    else none
  | named negated k => (k.set? m).bind (m.negate? negated)
  | ascii negated rs => m.negate? negated (m.fold (.ranges rs))
  | union items => SetTree.unionSet? m items
  | combine op left right => do
    let s ← left.set? m
    let t ← right.set? m
    some (op.apply (m.fold s) (m.fold t))
  | bracketed negated inner => (inner.set? m).bind fun s => m.negate? negated (m.fold s)

/-- The characters of any of the parts. -/
def SetTree.unionSet? (m : Mode) : List SetTree → Option CharSet
  | [] => some .empty
  | t :: ts => do
    let s ← t.set? m
    let others ← SetTree.unionSet? m ts
    some (.union s others)

end

/-- The condition that an anchor states. -/
def Anchor.look (m : Mode) : Anchor → Look
  | lineStart => if m.multiLine then .lineStart m.anyLineEnd else .textStart
  | lineEnd => if m.multiLine then .lineEnd m.anyLineEnd else .textEnd
  | textStart => .textStart
  | textEnd => .textEnd
  | wordBoundary => .word .boundary m.unicode
  | noWordBoundary => .word .noBoundary m.unicode
  | wordStart => .word .start m.unicode
  | wordEnd => .word .ending m.unicode
  | halfWordStart => .word .halfStart m.unicode
  | halfWordEnd => .word .halfEnding m.unicode

/-- The characters that a dot stands for. -/
def dotSet? (m : Mode) : Option CharSet :=
  if !m.unicode then none
  else if m.dotAll then some (.compl .empty)
  else if m.anyLineEnd then some (.compl (.ranges [(0x0A, 0x0A), (0x0D, 0x0D)]))
  else some (.compl (.single '\n'))

/-- Roughly how many bytes and classes of bytes a class of characters is made of. -/
def NamedClass.weight : NamedClass → Nat
  | digit => 80
  | blank => 20
  | word => 640
  | property .. => 300

mutual

/-- Roughly how many bytes and classes of bytes a pattern holds when its repetitions are written
out; zero if it matches no character. -/
def Tree.weight : Tree → Nat
  | empty | flags _ | anchor _ => 0
  | literal l => l.char.utf8Size
  | dot => 12
  | named _ k => k.weight
  | bracketed .. => 20
  | repetition least most body => (most.getD (max least 1)) * body.weight
  | group _ body => body.weight
  | concat parts => Tree.totalWeight parts
  | alternation branches => Tree.totalWeight branches

/-- The weights of the parts together. -/
def Tree.totalWeight : List Tree → Nat
  | [] => 0
  | t :: ts => t.weight + Tree.totalWeight ts

end

/-- The weight that a pattern may have. -/
def weightLimit : Nat := 327680

mutual

/-- What a tree stands for, and the flags in force behind it. -/
def Tree.meaning? (m : Mode) : Tree → Option (Pattern × Mode)
  | empty => some (.empty, m)
  | flags changes => some (.empty, m.apply changes)
  | literal l => if l.allowed m then some (.chars (m.fold (.single l.char)), m) else none
  | dot => (dotSet? m).map fun s => (.chars s, m)
  | anchor a => some (.look (a.look m), m)
  | named negated k => ((k.set? m).bind (m.negate? negated)).map fun s => (.chars s, m)
  | bracketed negated inner =>
    ((inner.set? m).bind fun s => m.negate? negated (m.fold s)).map fun s => (.chars s, m)
  | repetition least most body => do
    let (p, m) ← body.meaning? m
    if body.weight = 0 then some (.repeated (min least 1) (some (min (most.getD 1) 1)) p, m)
    else some (.repeated least most p, m)
  | group changes body => do
    let (p, _) ← body.meaning? (m.apply changes)
    some (p, m)
  | concat parts => Tree.concatMeaning? m parts
  | alternation branches => Tree.alternationMeaning? m branches

/-- What the parts stand for one behind the other. -/
def Tree.concatMeaning? (m : Mode) : List Tree → Option (Pattern × Mode)
  | [] => some (.empty, m)
  | t :: ts => do
    let (p, m) ← t.meaning? m
    let (q, m) ← Tree.concatMeaning? m ts
    some (.seq p q, m)

/-- What the branches stand for beside each other; flags reach into the branches behind. -/
def Tree.alternationMeaning? (m : Mode) : List Tree → Option (Pattern × Mode)
  | [] => some (.chars .empty, m)
  | t :: ts => do
    let (p, m) ← t.meaning? m
    let (q, m) ← Tree.alternationMeaning? m ts
    some (.alt p q, m)

end

/-- Reads a pattern, if the text is one. -/
def read? (source : String) : Option Pattern := do
  let tree ← readTree? source
  if tree.weight ≤ weightLimit then
    let (p, _) ← tree.meaning? {}
    some p
  else none

end Pattern

end Telemetry
