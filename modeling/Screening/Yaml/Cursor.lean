import Screening.Yaml.Token

/-!
# Places in a document

A cursor is what is left to read of a document together with the place where it starts. Four
characters end a line; the end of the document counts as a line end too.
-/

namespace Screening.Yaml

def isBreak (c : Char) : Bool :=
  c == '\n' || c == '\x85' || c == '\u2028' || c == '\u2029'

/-- The end of a line. -/
def endsLine : Option Char → Bool
  | none => true
  | some c => isBreak c

/-- The end of a line, or a space. -/
def endsPart (c : Option Char) : Bool :=
  endsLine c || c == some ' '

/-- The end of a line, a space or a tab. -/
def endsWord (c : Option Char) : Bool :=
  endsPart c || c == some '\t'

/-- Brackets and commas end a scalar between brackets. -/
def isFlowMark (c : Char) : Bool :=
  c == ',' || c == '[' || c == ']' || c == '\x7b' || c == '\x7d'

/-- Letters, digits, dashes and underscores. -/
def isNameChar (c : Char) : Bool :=
  c.isAlphanum || c == '-' || c == '_'

structure Cursor where
  rest : List Char
  /-- The number of characters, lines and columns passed. -/
  index : Nat := 0
  line : Nat := 0
  column : Nat := 0

namespace Cursor

def peek? (c : Cursor) (n : Nat) : Option Char := c.rest[n]?

/-- The next character. -/
def head? (c : Cursor) : Option Char := c.rest.head?

/-- Go on by one character. A byte order mark takes no column. -/
def next (c : Cursor) : Cursor :=
  match c.rest with
  | [] => c
  | ch :: rest =>
    if isBreak ch then ⟨rest, c.index + 1, c.line + 1, 0⟩
    else ⟨rest, c.index + 1, c.line, if ch = '\ufeff' then c.column else c.column + 1⟩

def advance (c : Cursor) : Nat → Cursor
  | 0 => c
  | n + 1 => c.next.advance n

/-- The characters up to the first that fails a test. -/
def span (c : Cursor) (test : Char → Bool) : List Char := c.rest.takeWhile test

def skipWhile (c : Cursor) (test : Char → Bool) : Cursor := c.advance (c.span test).length

def skipSpaces (c : Cursor) : Cursor := c.skipWhile (· == ' ')

/-- Skip spaces while the column is below `column`. -/
def skipSpacesBelow (c : Cursor) (column : Nat) : Cursor :=
  c.advance (Nat.min (column - c.column) (c.span (· == ' ')).length)

/-- Skip a comment, up to the end of its line. -/
def skipComment (c : Cursor) : Cursor :=
  if c.head? = some '#' then c.skipWhile (!isBreak ·) else c

/-- What a line end counts as, if there is one here: the ends of a line and of a paragraph count as
themselves, the others as a line feed. -/
def lineBreak (c : Cursor) : List Char × Cursor :=
  match c.head? with
  | some ch =>
    if ch = '\n' ∨ ch = '\x85' then (['\n'], c.next)
    else if isBreak ch then ([ch], c.next)
    else ([], c)
  | none => ([], c)

/-- Three dashes or dots that are a word of their own. -/
def atMarker (c : Cursor) : Bool :=
  (c.rest.take 3 == ['-', '-', '-'] || c.rest.take 3 == ['.', '.', '.']) && endsWord (c.peek? 3)

/-- Skip spaces and comment lines up to the next token, and tell whether a line ended. -/
def toToken : Nat → Cursor → Bool × Cursor
  | 0, c => (false, c)
  | fuel + 1, c =>
    let c := c.skipSpaces.skipComment
    if (c.head?.map isBreak).getD false then (true, (toToken fuel c.lineBreak.2).2) else (false, c)

end Cursor

end Screening.Yaml
