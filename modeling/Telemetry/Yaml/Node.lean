import Telemetry.Yaml.Token

/-!
# Nodes of a YAML document

The tokens of a text make up a tree of scalars, sequences and mappings. An anchored node is noted by
the place of its first token among the places of all nodes, so that aliases can stand for it.
-/

namespace Telemetry.Yaml

/-- A node; its tag is kept where it has a meaning. -/
inductive Node where
  | scalar (tag : Option String) (plain : Bool) (text : String)
  /-- A copy of the node with an anchor of this number. -/
  | alias (anchor : Nat)
  | sequence (tag : Option String) (items : List Node)
  | mapping (tag : Option String) (entries : List (Node × Node))
  deriving Repr

namespace Node

/-- Nothing where a node could be. -/
def empty : Node := scalar none true ""

end Node

/-- What is known while nodes are read. -/
structure Parse where
  tokens : List Token
  /-- How many nodes were started and how many collections were ended. -/
  places : Nat
  /-- The numbers of the anchors. -/
  anchors : List (String × Nat)
  /-- The places of the anchored nodes by their numbers. -/
  anchored : List (Nat × Nat)
  /-- The nodes by their places. -/
  nodes : List (Nat × Node)
  /-- The meanings of tag handles. -/
  handles : List (String × String)

/-- Reading nodes; it may fail. -/
abbrev Parser := StateT Parse Option

namespace Parser

/-- The next token. -/
def head? : Parser (Option Token) := do return (← get).tokens.head?

/-- Whether the next token is one of these. -/
def nextIn (ts : List Token) : Parser Bool := do
  return (← head?).any ts.contains

/-- Skips a token. -/
def drop : Parser PUnit := modify fun s => { s with tokens := s.tokens.tail }

/-- Skips a token that must be next. -/
def expect (t : Token) : Parser PUnit := do
  if ← nextIn [t] then drop else failure

/-- Skips a token if it is next. -/
def accept (t : Token) : Parser Bool := do
  if ← nextIn [t] then
    drop
    return true
  return false

/-- Counts a place. -/
def countPlace : Parser PUnit := modify fun s => { s with places := s.places + 1 }

/-- What stands before a node. -/
structure Properties where
  anchor : Option String
  tag : Option String

/-- The tag of a handle and what follows it. -/
def resolveTag (handle suffix : String) : Parser String := do
  if handle.isEmpty then
    return suffix
  match (← get).handles.lookup handle with
  | some start => return start ++ suffix
  | none => failure

/-- Reads an anchor and a tag, in either order. -/
def properties : Parser Properties := do
  match (← get).tokens with
  | .anchor a :: .tag h s :: _ =>
    drop
    drop
    return ⟨some a, some (← resolveTag h s)⟩
  | .tag h s :: .anchor a :: _ =>
    drop
    drop
    return ⟨some a, some (← resolveTag h s)⟩
  | .anchor a :: _ =>
    drop
    return ⟨some a, none⟩
  | .tag h s :: _ =>
    drop
    return ⟨none, some (← resolveTag h s)⟩
  | _ => return ⟨none, none⟩

/-- Starts a node, and returns its place. An anchor gets the number of names that were given
before. -/
def startNode (anchor : Option String) : Parser Nat := do
  let place := (← get).places
  match anchor with
  | none => pure ()
  | some name =>
    modify fun s =>
      let number := s.anchors.length
      { s with
        anchors := (name, number) :: s.anchors.filter (·.1 != name)
        anchored := (number, place) :: s.anchored }
  countPlace
  return place

/-- Notes the node of a place. -/
def finishNode (anchor : Option String) (place : Nat) (n : Node) : Parser Node := do
  if anchor.isSome then
    modify fun s => { s with nodes := (place, n) :: s.nodes }
  return n

/-- Reads a collection, given what reads its parts. -/
def collection {α : Type} (anchor : Option String) (parts : Parser α) (make : α → Node) :
    Parser Node := do
  let place ← startNode anchor
  let found ← parts
  countPlace
  finishNode anchor place (make found)

/-- A scalar that is not there. -/
def absent : Parser Node := do
  countPlace
  return .empty

mutual

/-- Reads a node. `block` allows collections without brackets, `indentless` a sequence at the column
of the mapping that it is in. -/
def node : Nat → Bool → Bool → Parser Node
  | 0, _, _ => failure
  | fuel + 1, block, indentless => do
    if let some (.alias name) ← head? then
      drop
      countPlace
      match (← get).anchors.lookup name with
      | some number => return .alias number
      | none => failure
    let p ← properties
    match ← head? with
    | some .blockEntry =>
      if indentless then
        collection p.anchor (indentlessItems fuel) (Node.sequence p.tag)
      else bare p
    | some (.scalar plain text) =>
      drop
      let place ← startNode p.anchor
      let tag := if p.tag == some "!" then none else p.tag
      finishNode p.anchor place (.scalar tag plain text)
    | some .flowSequence =>
      drop
      collection p.anchor (flowItems fuel true) (Node.sequence p.tag)
    | some .flowMapping =>
      drop
      collection p.anchor (flowEntries fuel true) (Node.mapping p.tag)
    | some .blockSequence =>
      if block then
        drop
        collection p.anchor (blockItems fuel) (Node.sequence p.tag)
      else bare p
    | some .blockMapping =>
      if block then
        drop
        collection p.anchor (blockEntries fuel) (Node.mapping p.tag)
      else bare p
    | _ => bare p

/-- Reads a node that has nothing but an anchor or a tag. -/
def bare (p : Properties) : Parser Node := do
  if p.anchor.isSome || p.tag.isSome then
    let place ← startNode p.anchor
    finishNode p.anchor place (.scalar (if p.tag == some "!" then none else p.tag) true "")
  else failure

/-- Reads a node, unless one of the given tokens is next. -/
def nodeUnless (fuel : Nat) (block indentless : Bool) (ends : List Token) : Parser Node := do
  match fuel with
  | 0 => failure
  | fuel + 1 => if ← nextIn ends then absent else node fuel block indentless

/-- Reads the items of a sequence. -/
def blockItems : Nat → Parser (List Node)
  | 0 => failure
  | fuel + 1 => do
    if ← accept .blockEntry then
      let item ← nodeUnless fuel true false [.blockEntry, .blockEnd]
      return item :: (← blockItems fuel)
    expect .blockEnd
    return []

/-- Reads the items of a sequence at the column of the mapping that it is in. -/
def indentlessItems : Nat → Parser (List Node)
  | 0 => failure
  | fuel + 1 => do
    if ← accept .blockEntry then
      let item ← nodeUnless fuel true false [.blockEntry, .key, .value, .blockEnd]
      return item :: (← indentlessItems fuel)
    return []

/-- Reads the entries of a mapping. -/
def blockEntries : Nat → Parser (List (Node × Node))
  | 0 => failure
  | fuel + 1 => do
    if ← accept .key then
      let key ← nodeUnless fuel true true [.key, .value, .blockEnd]
      let value ←
        if ← accept .value then nodeUnless fuel true true [.key, .value, .blockEnd]
        else absent
      return (key, value) :: (← blockEntries fuel)
    expect .blockEnd
    return []

/-- Reads the items of a sequence in brackets; an entry of a mapping may be an item. -/
def flowItems : Nat → Bool → Parser (List Node)
  | 0, _ => failure
  | fuel + 1, isFirst => do
    if ← accept .flowSequenceEnd then
      return []
    if !isFirst then
      expect .flowEntry
      if ← accept .flowSequenceEnd then
        return []
    if ← accept .key then
      countPlace
      let key ←
        if ← nextIn [.value, .flowEntry, .flowSequenceEnd] then do
          drop
          absent
        else node fuel false false
      let value ←
        if ← accept .value then nodeUnless fuel false false [.flowEntry, .flowSequenceEnd]
        else absent
      countPlace
      return .mapping none [(key, value)] :: (← flowItems fuel false)
    let item ← node fuel false false
    return item :: (← flowItems fuel false)

/-- Reads the entries of a mapping in braces; a key may stand alone. -/
def flowEntries : Nat → Bool → Parser (List (Node × Node))
  | 0, _ => failure
  | fuel + 1, isFirst => do
    if ← accept .flowMappingEnd then
      return []
    if !isFirst then
      expect .flowEntry
      if ← accept .flowMappingEnd then
        return []
    if ← accept .key then
      let key ← nodeUnless fuel false false [.value, .flowEntry, .flowMappingEnd]
      let value ←
        if ← accept .value then nodeUnless fuel false false [.flowEntry, .flowMappingEnd]
        else absent
      return (key, value) :: (← flowEntries fuel false)
    let key ← node fuel false false
    let value ← absent
    return (key, value) :: (← flowEntries fuel false)

end

/-- Reads the directives of a document, and tells whether there are any. -/
def directives : Nat → Bool → Bool → Parser Bool
  | 0, _, _ => failure
  | fuel + 1, isFirst, hasVersion => do
    match ← head? with
    | some .versionDirective =>
      if hasVersion then failure
      drop
      directives fuel false true
    | some (.tagDirective handle start) =>
      drop
      let s ← get
      if s.handles.any fun h => h.1 == handle && h.2 != defaultStart handle then failure
      set { s with handles := (handle, start) :: s.handles }
      directives fuel false hasVersion
    | _ => return !isFirst
where
  /-- What a handle stands for without a directive. -/
  defaultStart (handle : String) : String :=
    if handle == "!!" then "tag:yaml.org,2002:" else handle

/-- Skips the marks behind a document. -/
def skipEnds : Nat → Parser PUnit
  | 0 => failure
  | fuel + 1 => do
    if ← accept .documentEnd then skipEnds fuel else pure ()

/-- Reads the only document of a text; no tokens at all are no document. -/
def document (fuel : Nat) : Parser (Option Node) := do
  if (← head?).isNone then
    return none
  let isExplicit ← directives fuel true false
  let isStarted ← accept .documentStart
  if isExplicit && !isStarted then failure
  let n ←
    if isStarted && ((← head?).isNone || (← nextIn [.documentStart, .documentEnd])) then absent
    else node fuel true false
  skipEnds fuel
  if (← head?).isSome then failure
  return some n

end Parser

/-- A document: its node, and the anchored nodes. -/
structure Document where
  root : Option Node
  /-- How many nodes were started and how many collections were ended. -/
  places : Nat
  anchored : List (Nat × Nat)
  nodes : List (Nat × Node)

namespace Document

/-- The document of a list of tokens. -/
def ofTokens? (ts : List Token) : Option Document := do
  let handles := [("!", "!"), ("!!", "tag:yaml.org,2002:")]
  let fuel := 4 * ts.length + 8
  let (root, s) ← (Parser.document fuel).run ⟨ts, 0, [], [], [], handles⟩
  some ⟨root, s.places, s.anchored, s.nodes⟩

/-- The node with an anchor of a number. -/
def anchor? (d : Document) (number : Nat) : Option Node := do
  let place ← d.anchored.lookup number
  d.nodes.lookup place

end Document

end Telemetry.Yaml
