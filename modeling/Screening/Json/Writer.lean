import Screening.Binary64.Decimal
import Screening.Data
import Screening.Text.Quoted

/-!
# Writing JSON text

`write` writes data as JSON in one of two styles: `spaced` has a space after each separator and
ASCII only, `compact` has no spaces and leaves other characters as they are. `encode` first looks
for a value that JSON has no form for.

Integers are written whatever their length. Those of more than `digitLimit` digits have no text that
is read again, and where they may be met what is stated of the text is stated of short ones.
-/

namespace Screening.Json

structure Style where
  asciiOnly : Bool
  floats : FloatStyle
  comma : List CodePoint
  colon : List CodePoint

def spaced : Style := ⟨true, .json, [',', ' '], [':', ' ']⟩

def compact : Style := ⟨false, .compact, [','], [':']⟩

/-- `\u` and four hexadecimal digits. -/
def unicodeEscape (n : Nat) : List Char :=
  '\\' :: 'u' :: Text.hex 4 n

/-- A code that is escaped by number, as a pair of surrogates if it is above `U+FFFF`. -/
def numberEscape (n : Nat) : List Char :=
  if n < 0x10000 then unicodeEscape n
  else unicodeEscape (0xD800 + (n - 0x10000) / 0x400) ++
    unicodeEscape (0xDC00 + (n - 0x10000) % 0x400)

def writePoint (style : Style) (p : CodePoint) : List CodePoint :=
  if p = '"' then ['\\', '"']
  else if p = '\\' then ['\\', '\\']
  else if p = '\n' then ['\\', 'n']
  else if p = '\r' then ['\\', 'r']
  else if p = '\t' then ['\\', 't']
  else if p = '\x08' then ['\\', 'b']
  else if p = '\x0c' then ['\\', 'f']
  else if p.value < 0x20 || (style.asciiOnly && 0x7E < p.value) then
    (numberEscape p.value).map .char
  else [p]

def writeText (style : Style) (t : Text) : List CodePoint :=
  .char '"' :: t.points.flatMap (writePoint style) ++ [.char '"']

def writeInt (n : Int) : List Char :=
  if n < 0 then '-' :: Nat.toDigits 10 n.natAbs else Nat.toDigits 10 n.natAbs

def writeScalar (style : Style) : Scalar → List CodePoint
  | .bool b => (if b then "true" else "false").toList.map .char
  | .int n => (writeInt n).map .char
  | .float x => (style.floats.renderChars x).map .char
  | .text t => writeText style t

/-- An atom as a value; what JSON has no form for is written as `null`. -/
def writeAtom (style : Style) : Atom → List CodePoint
  | .scalar s => writeScalar style s
  | _ => ['n', 'u', 'l', 'l']

/-- An atom as the name of a member. -/
def writeKey (style : Style) : Atom → List CodePoint
  | .scalar (.text t) => writeText style t
  | a => .char '"' :: writeAtom style a ++ [.char '"']

mutual

def write (style : Style) : Data → List CodePoint
  | .atom a => writeAtom style a
  | .list items => .char '[' :: style.comma.intercalate (writeItems style items) ++ [.char ']']
  | .map entries =>
    .char '\x7b' :: style.comma.intercalate (writeMembers style entries) ++ [.char '\x7d']

def writeItems (style : Style) : List Data → List (List CodePoint)
  | [] => []
  | d :: ds => write style d :: writeItems style ds

def writeMembers (style : Style) : List (Atom × Data) → List (List CodePoint)
  | [] => []
  | (k, d) :: rest => (writeKey style k ++ style.colon ++ write style d) :: writeMembers style rest

end

mutual

/-- The kind of the first value that JSON has no form for. -/
def unwritable? : Data → Option String
  | .atom (.date d) => some (Data.date d).kindName
  | .atom (.bytes bs) => some (Data.atom (.bytes bs)).kindName
  | .atom (.moment t) => some (Data.atom (.moment t)).kindName
  | .atom _ => none
  | .list items => unwritableItem? items
  | .map entries => unwritableMember? entries

def unwritableItem? : List Data → Option String
  | [] => none
  | d :: ds => (unwritable? d).or (unwritableItem? ds)

def unwritableMember? : List (Atom × Data) → Option String
  | [] => none
  | (_, d) :: rest => (unwritable? d).or (unwritableMember? rest)

end

/-- Data as JSON text in ASCII, or the kind of a value that has no form. -/
def encode (d : Data) : Except String Text :=
  match unwritable? d with
  | some kind => .error kind
  | none => .ok ⟨write spaced d⟩

end Screening.Json
