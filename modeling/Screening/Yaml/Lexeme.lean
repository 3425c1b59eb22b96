import Screening.Text.Encoding
import Screening.Yaml.Cursor

/-!
# Scalars, tags and directives

How the single parts of a document are read: plain, quoted and block scalars, names of anchors,
tags and directives. Within a scalar one line end counts as a space, and of several the first is
left out.
-/

namespace Screening.Yaml

/-- What a single line end before `breaks` further ones counts as. -/
def folded (first : List Char) (breaks : List Char) : List Char :=
  (if first ≠ ['\n'] then first else if breaks.isEmpty then [' '] else []) ++ breaks

/-! ### Plain scalars -/

/-- The characters up to a blank or to a mark that ends a plain scalar. -/
def plainWord (inFlow : Bool) : List Char → List Char
  | [] => []
  | ch :: rest =>
    if endsWord (some ch) ||
        (ch == ':' &&
          (endsWord rest.head? || (inFlow && (rest.head?.map isFlowMark).getD false))) ||
        (inFlow && (isFlowMark ch || ch == '?')) then []
    else ch :: plainWord inFlow rest

/-- Further line ends between the lines of a plain scalar; nothing when a marker follows. -/
def plainBreaks : Nat → Cursor → Option (List Char) × Cursor
  | 0, c => (some [], c)
  | fuel + 1, c =>
    let c := c.skipSpaces
    match c.lineBreak with
    | ([], _) => (some [], c)
    | (ch, after) =>
      if after.atMarker then (none, after)
      else
        let (more, last) := plainBreaks fuel after
        (more.map (ch ++ ·), last)

/-- What stands between two words of a plain scalar, whether a line ended there, and what follows.
Nothing stands there when the scalar must end. -/
def plainGap (c : Cursor) : List Char × Bool × Cursor :=
  let spaces := c.span (· == ' ')
  let c := c.skipSpaces
  match c.lineBreak with
  | ([], _) => (spaces, false, c)
  | (first, after) =>
    if after.atMarker then ([], true, after)
    else
      match plainBreaks after.rest.length after with
      | (some breaks, last) => (folded first breaks, true, last)
      | (none, last) => ([], true, last)

/-- The words of a plain scalar from here on, `gap` standing in front of them. A line after the
first must be indented by `indent`. Tells also whether a line ended last. -/
def plainWords (inFlow : Bool) (indent : Int) :
    Nat → List Char → Bool → Cursor → List Char × Bool × Cursor
  | 0, _, crossed, c => ([], crossed, c)
  | fuel + 1, gap, crossed, c =>
    let word := if c.head? = some '#' then [] else plainWord inFlow c.rest
    if word.isEmpty then ([], crossed, c)
    else
      let (next, crossed, after) := plainGap (c.advance word.length)
      if next.isEmpty || after.head? == some '#' || (!inFlow && (after.column : Int) < indent) then
        (gap ++ word, crossed, after)
      else
        let (more, crossed, last) := plainWords inFlow indent fuel next crossed after
        (gap ++ word ++ more, crossed, last)

def plain (inFlow : Bool) (indent : Int) (c : Cursor) : List Char × Bool × Cursor :=
  plainWords inFlow indent c.rest.length [] false c

/-! ### Quoted scalars -/

/-- The characters that stand for themselves or another after a backslash. -/
def escapes : List (Char × Char) := [
  ('0', '\x00'), ('a', '\x07'), ('b', '\x08'), ('t', '\t'), ('\t', '\t'), ('n', '\n'),
  ('v', '\x0b'), ('f', '\x0c'), ('r', '\r'), ('e', '\x1b'), (' ', ' '), ('"', '"'), ('\\', '\\'),
  ('/', '/'), ('N', '\x85'), ('_', '\xa0'), ('L', '\u2028'), ('P', '\u2029')]

/-- The number of hexadecimal digits after an escape by number. -/
def escapeWidth? : Char → Option Nat
  | 'x' => some 2
  | 'u' => some 4
  | 'U' => some 8
  | _ => none

/-- The number that exactly `width` hexadecimal digits spell. -/
def hexNumber? (width : Nat) (cs : List Char) : Option Nat := do
  let ds ← (cs.take width).mapM Text.hexDigit?
  if ds.length = width then return ds.foldl (fun n d => 16 * n + d) 0 else none

/-- Line ends and the blanks at both sides of them. No marker may stand at the start of a line. -/
def quotedBreaks : Nat → Cursor → Except Fault (List Char × Cursor)
  | 0, c => .ok ([], c)
  | fuel + 1, c =>
    if c.atMarker then .error .noToken
    else
      let c := c.skipWhile fun ch => ch == ' ' || ch == '\t'
      match c.lineBreak with
      | ([], _) => .ok ([], c)
      | (ch, after) => do
        let (more, last) ← quotedBreaks fuel after
        return (ch ++ more, last)

/-- What an escape stands for, after its backslash. -/
def escape (c : Cursor) : Except Fault (List CodePoint × Cursor) :=
  match c.head? with
  | none => .error .noToken
  | some ch =>
    match escapes.lookup ch, escapeWidth? ch with
    | some e, _ => .ok ([e], c.next)
    | none, some width =>
      match hexNumber? width (c.rest.drop 1) with
      | none => .error .noToken
      | some code =>
        if 0x10FFFF < code then .error (.codePoint code)
        else .ok ([.ofValue code], c.advance (width + 1))
    | none, none =>
      if isBreak ch then do
        let (breaks, after) ← quotedBreaks c.rest.length c.next
        return (breaks.map .char, after)
      else .error .noToken

/-- Blanks inside quotes; a line end among them takes the place of all others. -/
def quotedBlanks (c : Cursor) : Except Fault (List CodePoint × Cursor) :=
  let isBlank (ch : Char) : Bool := ch == ' ' || ch == '\t'
  let blanks := c.span isBlank
  let c := c.skipWhile isBlank
  match c.lineBreak with
  | ([], _) => if c.rest.isEmpty then .error .noToken else .ok (blanks.map .char, c)
  | (first, after) => do
    let (breaks, last) ← quotedBreaks after.rest.length after
    return ((folded first breaks).map .char, last)

/-- A quoted text after its opening quote. In single quotes two quotes stand for one, and there are
no escapes. -/
def quoted (quote : Char) : Nat → Cursor → Except Fault (List CodePoint × Cursor)
  | 0, _ => .error .noToken
  | fuel + 1, c =>
    match c.head? with
    | none => .error .noToken
    | some ch =>
      if ch = quote then
        if quote = '\'' ∧ c.peek? 1 = some '\'' then do
          let (more, last) ← quoted quote fuel (c.advance 2)
          return (.char ch :: more, last)
        else .ok ([], c.next)
      else do
        let (part, after) ←
          if ch = '\\' ∧ quote = '"' then escape c.next
          else if endsWord (some ch) then quotedBlanks c
          else .ok ([.char ch], c.next)
        let (more, last) ← quoted quote fuel after
        return (part ++ more, last)

/-! ### Block scalars -/

/-- What becomes of the line ends after a block scalar. -/
inductive Chomping where
  | strip
  | clip
  | keep
  deriving DecidableEq

def chomping? : Option Char → Option Chomping
  | some '+' => some .keep
  | some '-' => some .strip
  | _ => none

/-- The digit of an indentation, which is not zero. -/
def increment? (c : Cursor) : Except Fault (Option Nat × Cursor) :=
  match c.head? with
  | some ch =>
    if ch = '0' then .error .noToken
    else if '1' ≤ ch ∧ ch ≤ '9' then .ok (some (ch.toNat - '0'.toNat), c.next)
    else .ok (none, c)
  | none => .ok (none, c)

/-- Chomping and indentation after the mark of a block scalar, in any order. -/
def blockHeader (c : Cursor) : Except Fault (Chomping × Option Nat × Cursor) := do
  let (chomping, increment, c) ←
    match chomping? c.head? with
    | some chomping => do
      let (increment, c) ← increment? c.next
      pure (chomping, increment, c)
    | none => do
      let (increment, c) ← increment? c
      match increment.bind fun _ => chomping? c.head? with
      | some chomping => pure (chomping, increment, c.next)
      | none => pure (Chomping.clip, increment, c)
  if endsPart c.head? then return (chomping, increment, c) else .error .noToken

/-- The rest of a line that may hold nothing but a comment. -/
def restOfLine (c : Cursor) : Except Fault Cursor :=
  let c := c.skipSpaces.skipComment
  if endsLine c.head? then .ok c.lineBreak.2 else .error .noToken

/-- Empty lines at the start of a block scalar, and the deepest indentation there. -/
def leadingBreaks : Nat → Nat → Cursor → List Char × Nat × Cursor
  | 0, deepest, c => ([], deepest, c)
  | fuel + 1, deepest, c =>
    let spaced := c.skipSpaces
    let deepest := if spaced.index = c.index then deepest else Nat.max deepest spaced.column
    match spaced.lineBreak with
    | ([], _) => ([], deepest, spaced)
    | (ch, after) =>
      let (more, deepest, last) := leadingBreaks fuel deepest after
      (ch ++ more, deepest, last)

/-- Empty lines between the lines of a block scalar. -/
def blockBreaks (indent : Nat) : Nat → Cursor → List Char × Cursor
  | 0, c => ([], c)
  | fuel + 1, c =>
    let c := c.skipSpacesBelow indent
    match c.lineBreak with
    | ([], _) => ([], c)
    | (ch, after) =>
      let (more, last) := blockBreaks indent fuel after
      (ch ++ more, last)

/-- Blanks at the start of a line keep the line ends beside it. -/
def startsBlank (c : Cursor) : Bool :=
  c.head? == some ' ' || c.head? == some '\t'

/-- The lines of a block scalar, `breaks` standing before them, with the line ends after the last
line by themselves. -/
def blockLines (fold : Bool) (indent : Nat) :
    Nat → List Char → Cursor → List Char × List Char × List Char × Cursor
  | 0, breaks, c => ([], [], breaks, c)
  | fuel + 1, breaks, c =>
    let line := c.span (!isBreak ·)
    let (lineEnd, after) := (c.advance line.length).lineBreak
    let (next, after) := blockBreaks indent after.rest.length after
    if after.column = indent ∧ !after.rest.isEmpty then
      let joint :=
        if fold && lineEnd == ['\n'] && !startsBlank c && !startsBlank after then
          if next.isEmpty then [' '] else []
        else lineEnd
      let (more, lastEnd, last, rest) := blockLines fold indent fuel next after
      (breaks ++ line ++ joint ++ more, lastEnd, last, rest)
    else (breaks ++ line, lineEnd, next, after)

/-- A block scalar after its mark, inside a node at `indent`. -/
def blockScalar (fold : Bool) (indent : Int) (c : Cursor) :
    Except Fault (List Char × Cursor) := do
  let (chomping, increment, c) ← blockHeader c
  let c ← restOfLine c
  let least := Nat.max 1 (indent + 1).toNat
  let (depth, breaks, c) := match increment with
    | some n =>
      let (breaks, c) := blockBreaks (least + n - 1) c.rest.length c
      (least + n - 1, breaks, c)
    | none =>
      let (breaks, deepest, c) := leadingBreaks c.rest.length 0 c
      (Nat.max least deepest, breaks, c)
  let (text, lineEnd, breaks, c) :=
    if c.column = depth ∧ !c.rest.isEmpty then blockLines fold depth c.rest.length breaks c
    else ([], [], breaks, c)
  return (match chomping with
    | .strip => text
    | .clip => text ++ lineEnd
    | .keep => text ++ lineEnd ++ breaks, c)

/-! ### Names, tags and directives -/

/-- The name of an anchor after its mark. -/
def anchorName (c : Cursor) : Except Fault (List Char × Cursor) :=
  let name := c.span isNameChar
  let after := c.advance name.length
  let ends := match after.head? with
    | some ch => endsWord (some ch) || ['?', ':', ',', ']', '\x7d', '%', '@', '\x60'].contains ch
    | none => true
  if name.isEmpty || !ends then .error .noToken else .ok (name, after)

def isTagChar (c : Char) : Bool :=
  isNameChar c || ";/?:@&=+$,.!~*'()[]".toList.contains c

/-- Bytes, each a percent sign and two hexadecimal digits. -/
def tagBytes : Nat → Cursor → Except Fault (List UInt8 × Cursor)
  | 0, c => .ok ([], c)
  | fuel + 1, c =>
    if c.head? = some '%' then
      match hexNumber? 2 (c.rest.drop 1) with
      | none => .error .noToken
      | some b => do
        let (more, last) ← tagBytes fuel (c.advance 3)
        return (UInt8.ofNat b :: more, last)
    else .ok ([], c)

/-- The characters of a tag; bytes among them are the UTF-8 form of further ones. -/
def tagChars : Nat → Cursor → Except Fault (List Char × Cursor)
  | 0, c => .ok ([], c)
  | fuel + 1, c => do
    let plain := c.span isTagChar
    let (bytes, after) ← tagBytes c.rest.length (c.advance plain.length)
    match Text.utf8? bytes with
    | none => .error .noToken
    | some [] => return (plain, after)
    | some cs => do
      let (more, last) ← tagChars fuel after
      return (plain ++ cs ++ more, last)

/-- The part of a tag after its handle. -/
def tagSuffix (c : Cursor) : Except Fault (List Char × Cursor) := do
  let (suffix, after) ← tagChars c.rest.length c
  if suffix.isEmpty then .error .noToken else return (suffix, after)

/-- A handle: a mark by itself, or a name between two. -/
def tagHandle (c : Cursor) : Except Fault (List Char × Cursor) :=
  let name := c.next.span isNameChar
  let after := c.advance (name.length + 1)
  if c.head? ≠ some '!' then .error .noToken
  else if c.peek? 1 = some ' ' then .ok (['!'], c.next)
  else if after.head? = some '!' then .ok ('!' :: name ++ ['!'], after.next)
  else .error .noToken

/-- A tag with its mark. -/
def tag (c : Cursor) : Except Fault (Option (List Char) × List Char × Cursor) := do
  let (handle, suffix, c) ←
    if c.peek? 1 = some '<' then do
      let (suffix, c) ← tagSuffix (c.advance 2)
      if c.head? = some '>' then pure (none, suffix, c.next) else .error .noToken
    else if endsWord (c.peek? 1) then pure (none, ['!'], c.next)
    else
      let word := c.next.span fun ch => !endsPart (some ch)
      let (handle, c) ← if word.contains '!' then tagHandle c else pure (['!'], c.next)
      let (suffix, c) ← tagSuffix c
      pure (some handle, suffix, c)
  if endsPart c.head? then return (handle, suffix, c) else .error .noToken

def directiveNumber (c : Cursor) : Except Fault (Nat × Cursor) :=
  let ds := c.span Char.isDigit
  if ds.isEmpty then .error .noToken
  else .ok (ds.foldl (fun n d => 10 * n + (d.toNat - '0'.toNat)) 0, c.advance ds.length)

/-- A directive after its mark, with its line. -/
def directive (c : Cursor) : Except Fault (Directive × Cursor) := do
  let name := c.span isNameChar
  let c := c.advance name.length
  if name.isEmpty || !endsPart c.head? then .error .noToken
  else
    let (d, c) ←
      if name = "YAML".toList then do
        let (major, c) ← directiveNumber c.skipSpaces
        if c.head? ≠ some '.' then .error .noToken
        else
          let (minor, c) ← directiveNumber c.next
          if endsPart c.head? then pure (Directive.version major minor, c) else .error .noToken
      else if name = "TAG".toList then do
        let (handle, c) ← tagHandle c.skipSpaces
        if c.head? ≠ some ' ' then .error .noToken
        else
          let (meaning, c) ← tagSuffix c.skipSpaces
          if endsPart c.head? then pure (Directive.handle handle meaning, c) else .error .noToken
      else pure (Directive.other, c.skipWhile (!isBreak ·))
    return (d, ← restOfLine c)

end Screening.Yaml
