import Screening.Yaml.Lexeme

/-!
# The tokens of a document

`Layout.tokens` splits a document into tokens. Indentation starts and ends collections, and a scalar
turns out to be a key only when its colon comes, on the same line. A reader gets a token as soon as
it cannot be a key any more, so a fault is met by those who need a token that depends on what comes
after it.
-/

namespace Screening.Yaml

/-- The tokens that can be had, and what comes after the last of them. -/
structure Tokens where
  list : List Token
  fault : Option Fault

/-- A token that may turn out to start a key. -/
structure PossibleKey where
  /-- How many tokens come before it. -/
  place : Nat
  /-- Nothing but a key can stand here. -/
  required : Bool
  index : Nat
  line : Nat
  column : Nat

structure Layout where
  cursor : Cursor
  made : Array Token := #[]
  /-- The number of brackets that are open; less than none, when too many were closed. -/
  depth : Int := 0
  /-- The column of the innermost collection outside brackets, and those of the ones around it. -/
  indent : Int := -1
  outer : List Int := []
  keyAllowed : Bool := true
  /-- The possible keys by the number of brackets around them. -/
  keys : List (Int × PossibleKey) := []
  done : Bool := false

namespace Layout

def push (l : Layout) (t : Token) : Layout := { l with made := l.made.push t }

/-- The longest key. -/
def keyLimit : Nat := 1024

/-- A key ends on its line. -/
def isStale (l : Layout) (k : PossibleKey) : Bool :=
  k.line != l.cursor.line || keyLimit < l.cursor.index - k.index

/-- Give up the keys that did not end in time. -/
def dropStale (l : Layout) : Except Fault Layout :=
  if l.keys.any fun k => l.isStale k.2 && k.2.required then .error .noToken
  else .ok { l with keys := l.keys.filter fun k => !l.isStale k.2 }

/-- Give up the possible key within the innermost brackets. -/
def dropKey (l : Layout) : Except Fault Layout :=
  match l.keys.lookup l.depth with
  | some k =>
    if k.required then .error .noToken
    else .ok { l with keys := l.keys.filter fun other => other.1 != l.depth }
  | none => .ok l

/-- What comes next may be a key. -/
def noteKey (l : Layout) : Except Fault Layout := do
  if !l.keyAllowed then return l
  let l ← l.dropKey
  let c := l.cursor
  let required := l.depth == 0 && l.indent == c.column
  return { l with keys := (l.depth, ⟨l.made.size, required, c.index, c.line, c.column⟩) :: l.keys }

/-- End the collections that are indented deeper than `column`. -/
def unwindFrom (made : Array Token) (column indent : Int) :
    List Int → Array Token × Int × List Int
  | [] => (made, indent, [])
  | i :: outer =>
    if column < indent then unwindFrom (made.push .blockEnd) column i outer
    else (made, indent, i :: outer)

def unwind (l : Layout) (column : Int) : Layout :=
  if l.depth = 0 then
    let (made, indent, outer) := unwindFrom l.made column l.indent l.outer
    { l with made, indent, outer }
  else l

/-- Start a collection at a column, unless one is open there. -/
def openAt (l : Layout) (column : Nat) (place : Nat) (start : Token) : Layout :=
  if l.indent < column then
    { l with
      indent := column
      outer := l.indent :: l.outer
      made := l.made.insertIdxIfInBounds place start }
  else l

/-- The tokens that do not depend on what comes after them. -/
def ready (l : Layout) : Nat :=
  l.keys.foldl (fun n k => Nat.min n k.2.place) l.made.size

/-! ### Single tokens -/

/-- A token that is a mark of `width` characters. -/
def mark (l : Layout) (t : Token) (width : Nat) : Layout :=
  { l.push t with cursor := l.cursor.advance width }

/-- A token that ends all collections. -/
def ending (l : Layout) : Except Fault Layout := do
  let l ← (l.unwind (-1)).dropKey
  return { l with keyAllowed := false }

def streamEnd (l : Layout) : Except Fault Layout := do
  let l ← l.ending
  return { l.push .streamEnd with keys := [], done := true }

def documentMarker (l : Layout) (t : Token) : Except Fault Layout := do
  return (← l.ending).mark t 3

def directive (l : Layout) : Except Fault Layout := do
  let l ← l.ending
  let (d, cursor) ← Yaml.directive l.cursor.next
  return { l.push (.directive d) with cursor }

def openBracket (l : Layout) (t : Token) : Except Fault Layout := do
  let l ← l.noteKey
  return { l.mark t 1 with depth := l.depth + 1, keyAllowed := true }

def closeBracket (l : Layout) (t : Token) : Except Fault Layout := do
  let l ← l.dropKey
  return { l.mark t 1 with depth := l.depth - 1, keyAllowed := false }

def flowEntry (l : Layout) : Except Fault Layout := do
  let l ← l.dropKey
  return { l.mark .flowEntry 1 with keyAllowed := true }

/-- Outside brackets an entry or a key must come where a key may. -/
def entryAllowed (l : Layout) (start : Token) : Except Fault Layout :=
  if l.depth ≠ 0 then .ok l
  else if !l.keyAllowed then .error .noToken
  else .ok (l.openAt l.cursor.column l.made.size start)

def blockEntry (l : Layout) : Except Fault Layout := do
  let l ← (← l.entryAllowed .blockSequenceStart).dropKey
  return { l.mark .blockEntry 1 with keyAllowed := true }

def key (l : Layout) : Except Fault Layout := do
  let l ← (← l.entryAllowed .blockMappingStart).dropKey
  return { l.mark .key 1 with keyAllowed := l.depth == 0 }

/-- The colon after a key. The key's own tokens are put in front of it only now. -/
def value (l : Layout) : Except Fault Layout :=
  match l.keys.lookup l.depth with
  | some k =>
    let keyed : Layout := { l with
      keys := l.keys.filter fun other => other.1 != l.depth
      made := l.made.insertIdxIfInBounds k.place .key }
    let opened :=
      if l.depth = 0 then keyed.openAt k.column k.place .blockMappingStart else keyed
    .ok { opened.mark .value 1 with keyAllowed := false }
  | none => do
    let l ← (← l.entryAllowed .blockMappingStart).dropKey
    return { l.mark .value 1 with keyAllowed := l.depth == 0 }

/-- A token that may be a key, and after which none may follow on its line. -/
def item (l : Layout) (read : Cursor → Except Fault (Token × Cursor)) : Except Fault Layout := do
  let l ← l.noteKey
  let (t, cursor) ← read l.cursor
  return { l.push t with cursor, keyAllowed := false }

def plain (l : Layout) : Except Fault Layout := do
  let l ← l.noteKey
  let (text, crossed, cursor) := Yaml.plain (l.depth != 0) (l.indent + 1) l.cursor
  return { l.push (.scalar (text.map .char) true) with cursor, keyAllowed := crossed }

def block (l : Layout) (fold : Bool) : Except Fault Layout := do
  let l ← l.dropKey
  let (text, cursor) ← blockScalar fold l.indent l.cursor.next
  return { l.push (.scalar (text.map .char) false) with cursor, keyAllowed := true }

def quotedItem (quote : Char) (c : Cursor) : Except Fault (Token × Cursor) := do
  let (text, after) ← quoted quote c.rest.length c.next
  return (.scalar text false, after)

def aliasItem (c : Cursor) : Except Fault (Token × Cursor) := do
  let (name, after) ← anchorName c.next
  return (.alias name, after)

def anchorItem (c : Cursor) : Except Fault (Token × Cursor) := do
  let (name, after) ← anchorName c.next
  return (.anchor name, after)

def tagItem (c : Cursor) : Except Fault (Token × Cursor) := do
  let (handle, suffix, after) ← tag c
  return (.tag handle suffix, after)

/-! ### All tokens -/

/-- Marks that no plain scalar starts with, unless some go on as a word. -/
def startsPlain (l : Layout) (ch : Char) : Bool :=
  !"-?:,[]\x7b\x7d#&*!|>'\"%@\x60".toList.contains ch && !endsWord (some ch) ||
    !endsWord (l.cursor.peek? 1) && (ch == '-' || (l.depth == 0 && (ch == '?' || ch == ':')))

/-- The token that starts here. -/
def fetch (l : Layout) : Except Fault Layout :=
  let c := l.cursor
  let alone : Bool := endsWord (c.peek? 1)
  let inFlow : Bool := l.depth != 0
  match c.head? with
  | none => l.streamEnd
  | some ch =>
    if ch = '%' ∧ c.column = 0 then l.directive
    else if c.column = 0 ∧ c.atMarker ∧ ch = '-' then l.documentMarker .documentStart
    else if c.column = 0 ∧ c.atMarker then l.documentMarker .documentEnd
    else if ch = '[' then l.openBracket .flowSequenceStart
    else if ch = '\x7b' then l.openBracket .flowMappingStart
    else if ch = ']' then l.closeBracket .flowSequenceEnd
    else if ch = '\x7d' then l.closeBracket .flowMappingEnd
    else if ch = ',' then l.flowEntry
    else if ch = '-' ∧ alone then l.blockEntry
    else if ch = '?' ∧ (inFlow ∨ alone) then l.key
    else if ch = ':' ∧ (inFlow ∨ alone) then l.value
    else if ch = '*' then l.item aliasItem
    else if ch = '&' then l.item anchorItem
    else if ch = '!' then l.item tagItem
    else if ch = '|' ∧ !inFlow then l.block false
    else if ch = '>' ∧ !inFlow then l.block true
    else if ch = '\'' ∨ ch = '"' then l.item (quotedItem ch)
    else if l.startsPlain ch then l.plain
    else .error .noToken

/-- Go on to the next token and take it. -/
def step (l : Layout) : Except Fault Layout := do
  let (crossed, cursor) := l.cursor.toToken (l.cursor.rest.length + 1)
  let l := { l with cursor, keyAllowed := l.keyAllowed || (crossed && l.depth == 0) }
  let l ← l.dropStale
  let l ← (l.unwind l.cursor.column).fetch
  l.dropStale

/-- Every step takes a character, apart from the one at the end. -/
def run : Nat → Layout → Tokens
  | 0, l => ⟨l.made.toList, none⟩
  | fuel + 1, l =>
    match l.step with
    | .error fault => ⟨l.made.toList.take l.ready, some fault⟩
    | .ok next => if next.done then ⟨next.made.toList, none⟩ else run fuel next

/-- The tokens of a document, which may start with a byte order mark. -/
def tokens (cs : List Char) : Tokens :=
  let start : Cursor := ⟨cs, 0, 0, 0⟩
  run (cs.length + 2) { cursor := if cs.head? = some '\ufeff' then start.next else start }

end Layout

end Screening.Yaml
