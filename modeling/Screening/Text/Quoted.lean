import Screening.Text
import Screening.Text.Printable

/-!
# Quoted text

`quote` writes a text between single quotes, or between double quotes when it holds a single quote
and no double one. The quote in use, the backslash and all that is unprintable are escaped.
-/

namespace Screening.Text

/-- `n` in lower-case hexadecimal with at least `width` digits. -/
def hex (width n : Nat) : List Char :=
  let ds := Nat.toDigits 16 n
  List.replicate (width - ds.length) '0' ++ ds

/-- The escape of a character or code by number, of the shortest kind that holds it. -/
def escapeCode (n : Nat) : List Char :=
  if n < 0x100 then '\\' :: 'x' :: hex 2 n
  else if n < 0x10000 then '\\' :: 'u' :: hex 4 n
  else '\\' :: 'U' :: hex 8 n

def quotePoint (mark : Char) (p : CodePoint) : List CodePoint :=
  match p with
  | .char c =>
    if c = mark || c = '\\' then ['\\', c]
    else if c = '\n' then ['\\', 'n']
    else if c = '\r' then ['\\', 'r']
    else if c = '\t' then ['\\', 't']
    else if isPrintable c then [c]
    else (escapeCode c.toNat).map .char
  | p => (escapeCode p.value).map .char

def quoteMark (points : List CodePoint) : Char :=
  if points.contains '\'' && !points.contains '"' then '"' else '\''

def quote (t : Text) : Text :=
  let mark := quoteMark t.points
  ⟨.char mark :: t.points.flatMap (quotePoint mark) ++ [.char mark]⟩

/-- Bytes are quoted like text in which only ASCII is printable, after a `b`. -/
def quoteBytes (bytes : List UInt8) : Text :=
  let points := bytes.map fun b => CodePoint.ofValue b.toNat
  let mark := quoteMark points
  let quoted (p : CodePoint) : List CodePoint :=
    if p.value < 128 then quotePoint mark p else (escapeCode p.value).map .char
  ⟨.char 'b' :: .char mark :: points.flatMap quoted ++ [.char mark]⟩

end Screening.Text
