import Screening.Yaml.Layout

/-!
# Nodes of a document

A document is a tree of scalars, sequences and mappings. `Node.ofTokens` builds it; where an alias
stands, the node with that anchor takes its place. The recursion is bounded by the number of tokens.
-/

namespace Screening.Yaml

/-- What a node is said to be. -/
inductive Tag where
  /-- One of the common kinds, by its name. -/
  | standard (name : List Char)
  | other
  deriving DecidableEq

inductive Node where
  /-- A plain scalar without a tag is what its form says. -/
  | scalar (tag : Option Tag) (text : List CodePoint) (plain : Bool)
  | sequence (tag : Option Tag) (items : List Node)
  | mapping (tag : Option Tag) (entries : List (Node × Node))

namespace Node

def empty : Node := .scalar none [] true

/-- What is left to read, the nodes with anchors so far, and the handles that were declared. -/
structure Progress where
  rest : List Token
  fault : Option Fault
  anchors : List (List Char × Node) := []
  /-- All anchors so far, also those of nodes that are being read. -/
  given : List (List Char) := []
  handles : List (List Char × List Char) := []

abbrev Reader := StateT Progress (Except Fault)

def fail {α : Type} (fault : Fault) : Reader α := fun _ => .error fault

/-- The next token. -/
def peek : Reader Token := fun p =>
  match p.rest, p.fault with
  | t :: _, _ => .ok (t, p)
  | [], some fault => .error fault
  | [], none => .ok (.streamEnd, p)

def drop : Reader Unit := modify fun p => { p with rest := p.rest.drop 1 }

/-- Whether the next token is one of these; if so, a node is left out here. -/
def atOneOf (ts : List Token) : Reader Bool := return ts.contains (← peek)

/-! ### Properties of a node -/

/-- The anchor and the tag in front of a node. -/
structure Properties where
  anchor : Option (List Char) := none
  tag : Option (Option (List Char) × List Char) := none

def readTag (p : Properties) : Reader Properties := do
  match ← peek with
  | .tag handle suffix => do
    drop
    return { p with tag := some (handle, suffix) }
  | _ => return p

def readAnchor (p : Properties) : Reader Properties := do
  match ← peek with
  | .anchor name => do
    drop
    return { p with anchor := some name }
  | _ => return p

/-- Anchor and tag in any order, each once. -/
def properties : Reader Properties := do
  match ← peek with
  | .anchor _ => readTag (← readAnchor {})
  | .tag .. => readAnchor (← readTag {})
  | _ => return {}

/-- What the tags of the common kinds start with. -/
def standardHandle : List Char := "tag:yaml.org,2002:".toList

/-- The handles that need not be declared. -/
def knownHandles : List (List Char × List Char) := [(['!'], ['!']), (['!', '!'], standardHandle)]

/-- A mark by itself says nothing. -/
def tagOf? (tag : List Char) : Option Tag :=
  if tag = ['!'] then none
  else if standardHandle.isPrefixOf tag then some (.standard (tag.drop standardHandle.length))
  else some .other

/-- What a tag says. Its handle must be known. -/
def resolveTag (p : Properties) : Reader (Option Tag) := do
  match p.tag with
  | none => return none
  | some (none, suffix) => return tagOf? suffix
  | some (some handle, suffix) =>
    match ((← get).handles ++ knownHandles).lookup handle with
    | some meaning => return tagOf? (meaning ++ suffix)
    | none => fail .noTree

/-- An anchor can be given once. -/
def checkAnchor (p : Properties) : Reader Unit := do
  match p.anchor with
  | some name =>
    if (← get).given.contains name then fail .badLink
    else modify fun s => { s with given := name :: s.given }
  | none => return

/-- The node of an alias. One that it is itself a part of counts as null. -/
def aliased (name : List Char) : Reader Node := do
  match (← get).anchors.lookup name with
  | some n => return n
  | none => if (← get).given.contains name then return empty else fail .badLink

def remember (p : Properties) (n : Node) : Reader Node := do
  match p.anchor with
  | some name => do
    modify fun s => { s with anchors := (name, n) :: s.anchors }
    return n
  | none => return n

/-- A node that is left out is null, unless it has properties. -/
def leftOut (p : Properties) (tag : Option Tag) : Reader Node := do
  if p.anchor.isNone && p.tag.isNone then fail .noTree
  else do
    checkAnchor p
    remember p (.scalar tag [] true)

/-! ### Nodes -/

mutual

/-- A node; in `block` it may be laid out by indentation, and then with `dashes` the items of a
sequence need no deeper column. -/
def read : Nat → (block dashes : Bool) → Reader Node
  | 0, _, _ => fail .noTree
  | fuel + 1, block, dashes => do
    match ← peek with
    | .alias name => do
      drop
      aliased name
    | _ => do
      let p ← properties
      let tag ← resolveTag p
      match ← peek with
      | .blockEntry =>
        if dashes then do
          checkAnchor p
          remember p (.sequence tag (← dashedItems fuel))
        else leftOut p tag
      | .scalar text plain => do
        drop
        checkAnchor p
        remember p (.scalar tag text (plain && p.tag.isNone || (p.tag.isSome && tag.isNone)))
      | .flowSequenceStart => do
        checkAnchor p
        drop
        remember p (.sequence tag (← flowItems fuel true))
      | .flowMappingStart => do
        checkAnchor p
        drop
        remember p (.mapping tag (← flowEntries fuel true))
      | .blockSequenceStart =>
        if block then do
          checkAnchor p
          drop
          remember p (.sequence tag (← blockItems fuel))
        else leftOut p tag
      | .blockMappingStart =>
        if block then do
          checkAnchor p
          drop
          remember p (.mapping tag (← blockEntries fuel))
        else leftOut p tag
      | _ => leftOut p tag

/-- A node, or null before one of these tokens. -/
def readUnless : Nat → (block dashes : Bool) → List Token → Reader Node
  | 0, _, _, _ => fail .noTree
  | fuel + 1, block, dashes, ends => do
    if ← atOneOf ends then return empty else read fuel block dashes

/-- The items of a sequence, up to and with its end. -/
def blockItems : Nat → Reader (List Node)
  | 0 => fail .noTree
  | fuel + 1 => do
    match ← peek with
    | .blockEntry => do
      drop
      let item ← readUnless fuel true false [.blockEntry, .blockEnd]
      return item :: (← blockItems fuel)
    | .blockEnd => do
      drop
      return []
    | _ => fail .noTree

/-- The items of a sequence that ends with its last dash. -/
def dashedItems : Nat → Reader (List Node)
  | 0 => fail .noTree
  | fuel + 1 => do
    match ← peek with
    | .blockEntry => do
      drop
      let item ← readUnless fuel true false [.blockEntry, .key, .value, .blockEnd]
      return item :: (← dashedItems fuel)
    | _ => return []

/-- What follows a colon, or null when there is none. -/
def valueUnless : Nat → (block : Bool) → List Token → Reader Node
  | 0, _, _ => fail .noTree
  | fuel + 1, block, ends => do
    match ← peek with
    | .value => do
      drop
      readUnless fuel block block ends
    | _ => return empty

/-- The entries of a mapping, up to and with its end. -/
def blockEntries : Nat → Reader (List (Node × Node))
  | 0 => fail .noTree
  | fuel + 1 => do
    match ← peek with
    | .key => do
      drop
      let name ← readUnless fuel true true [.key, .value, .blockEnd]
      let value ← valueUnless fuel true [.key, .value, .blockEnd]
      return (name, value) :: (← blockEntries fuel)
    | .blockEnd => do
      drop
      return []
    | _ => fail .noTree

/-- The items of a sequence in brackets, up to and with its end. An item with a key is a mapping of
one entry. -/
def flowItems : Nat → (first : Bool) → Reader (List Node)
  | 0, _ => fail .noTree
  | fuel + 1, first => do
    if ← atOneOf [.flowSequenceEnd] then do
      drop
      return []
    else do
      if !first then
        if ← atOneOf [.flowEntry] then drop else fail .noTree
      match ← peek with
      | .flowSequenceEnd => do
        drop
        return []
      | .key => do
        drop
        let name ← readUnless fuel false false [.value, .flowEntry, .flowSequenceEnd]
        let value ← valueUnless fuel false [.flowEntry, .flowSequenceEnd]
        return .mapping none [(name, value)] :: (← flowItems fuel false)
      | _ => do
        let item ← read fuel false false
        return item :: (← flowItems fuel false)

/-- The entries of a mapping in braces, up to and with its end. -/
def flowEntries : Nat → (first : Bool) → Reader (List (Node × Node))
  | 0, _ => fail .noTree
  | fuel + 1, first => do
    if ← atOneOf [.flowMappingEnd] then do
      drop
      return []
    else do
      if !first then
        if ← atOneOf [.flowEntry] then drop else fail .noTree
      match ← peek with
      | .flowMappingEnd => do
        drop
        return []
      | .key => do
        drop
        let name ← readUnless fuel false false [.value, .flowEntry, .flowMappingEnd]
        let value ← valueUnless fuel false [.flowEntry, .flowMappingEnd]
        return (name, value) :: (← flowEntries fuel false)
      | _ => do
        let name ← read fuel false false
        return (name, empty) :: (← flowEntries fuel false)

end

/-! ### Documents -/

def isDirective : Token → Bool
  | .directive _ => true
  | _ => false

/-- Directives in front of a document: its version, once, and handles, each once. -/
def directives : Nat → (versioned : Bool) → Reader Unit
  | 0, _ => fail .noTree
  | fuel + 1, versioned => do
    match ← peek with
    | .directive (.version major _) =>
      if versioned || major != 1 then fail .noTree
      else do
        drop
        directives fuel true
    | .directive (.handle name meaning) => do
      if ((← get).handles.lookup name).isSome then fail .noTree
      else do
        drop
        modify fun p => { p with handles := (name, meaning) :: p.handles }
        directives fuel versioned
    | .directive .other => do
      drop
      directives fuel versioned
    | _ => return

def skipEnds : Nat → Reader Unit
  | 0 => fail .noTree
  | fuel + 1 => do
    if ← atOneOf [.documentEnd] then do
      drop
      skipEnds fuel

/-- The start of a document that is marked as such; false at the end of all documents. -/
def marked (fuel : Nat) : Reader Bool := do
  skipEnds fuel
  if ← atOneOf [.streamEnd] then return false
  else do
    directives fuel false
    if ← atOneOf [.documentStart] then do
      drop
      return true
    else fail .noTree

/-- The node of a document after its mark, if it has one. -/
def content (fuel : Nat) : Reader Node := do
  let t ← peek
  if isDirective t || [Token.documentStart, .documentEnd, .streamEnd].contains t then return empty
  else read fuel true false

/-- The only document, if there is one. -/
def document (fuel : Nat) : Reader (Option Node) := do
  let t ← peek
  let node ←
    if isDirective t || [Token.documentStart, .streamEnd].contains t then
      if ← marked fuel then some <$> content fuel else pure none
    else some <$> read fuel true false
  if node.isNone then return none
  else do
    if ← atOneOf [.documentEnd] then drop
    if ← marked fuel then fail .badLink else return node

def ofTokens (ts : Tokens) : Except Fault (Option Node) :=
  (fun r => r.1) <$> document (4 * ts.list.length + 8) { rest := ts.list, fault := ts.fault }

end Node

end Screening.Yaml
