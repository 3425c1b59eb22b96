import Screening.Binary64.Decimal
import Screening.Data
import Screening.Text.Quoted

/-!
# Values in messages

`literal` writes a value so that its kind can be seen: text is quoted, lists stand in brackets and
maps in braces. `display` writes a text or a day by itself as it is, and all else as a literal.

Both write an integer of any length. The limit to how long an integer may be in a text is not theirs:
where a message breaks off for it, `Scalar.isShort` is asked before the message is written.
-/

namespace Screening

namespace Scalar

def literal : Scalar → Text
  | .bool b => if b then "True" else "False"
  | .int n => toString n
  | .float x => FloatStyle.display.render x
  | .text t => t.quote

def display : Scalar → Text
  | .text t => t
  | s => s.literal

end Scalar

def Date.literal (d : Date) : String :=
  let (y, m, day) := d.civil
  s!"datetime.date({y}, {m}, {day})"

def Atom.literal : Atom → Text
  | .null => "None"
  | .scalar s => s.literal
  | .date d => d.literal
  | .bytes bs => Text.quoteBytes bs
  | .moment t => t.spaced

namespace Data

mutual

def literal : Data → Text
  | .atom a => a.literal
  | .list items => "[" ++ Text.intercalate ", " (literals items) ++ "]"
  | .map entries => "\x7b" ++ Text.intercalate ", " (entryLiterals entries) ++ "\x7d"

def literals : List Data → List Text
  | [] => []
  | d :: ds => d.literal :: literals ds

def entryLiterals : List (Atom × Data) → List Text
  | [] => []
  | (k, d) :: rest => (k.literal ++ ": " ++ d.literal) :: entryLiterals rest

end

def display : Data → Text
  | .atom (.scalar s) => s.display
  | .atom (.date d) => d.iso
  | d => d.literal

/-- As `display`, with truth values in lower case. -/
def label : Data → Text
  | .atom (.scalar (.bool b)) => if b then "true" else "false"
  | d => d.display

end Data

end Screening
