import Screening.Expr
import Screening.Text.Blank
import Screening.Text.Numeral

/-!
# Shorthand for simple rules

A comparison can be written as a name, an operator and a value, as in `CARBON >= 500`. The name is
put in capitals. A value in percent stands for the number before the sign, `true` and `false` for
truth values, text between equal quotes for itself; what is left is a number if it can be one and
else a bare text. `format` writes a comparison in this form.
-/

namespace Screening.Shorthand

open Text

/-- Letters of the names: those of ASCII, and those that differ from one of them in case only. -/
def isNameLetter (c : Char) : Bool :=
  ('A' ≤ c && c ≤ 'Z') || ('a' ≤ c && c ≤ 'z') ||
    c == '\u0130' || c == '\u0131' || c == '\u017f' || c == '\u212a'

def isNameStart (c : Char) : Bool :=
  isNameLetter c || c == '_'

def isNameChar (c : Char) : Bool :=
  isNameStart c || isAsciiDigit c

/-- The capital of a letter of a name. -/
def capital (c : Char) : Char :=
  if 'a' ≤ c ∧ c ≤ 'z' then Char.ofNat (c.toNat - 32)
  else if c = '\u0131' then 'I'
  else if c = '\u017f' then 'S'
  else c

/-- The operators a shorthand can have, the longer ones first. -/
def operators : List Operator := [.ge, .le, .eq, .ne, .gt, .lt]

/-- What follows `op` at the start of the text. -/
def afterOperator? (op : Operator) (cs : List CodePoint) : Option (List CodePoint) :=
  let token := (Text.ofString op.token).points
  if token.isPrefixOf cs then some (cs.drop token.length) else none

/-- The value after an operator: not empty, and on one line. -/
def valueAfter? (cs : List CodePoint) : Option (List CodePoint) :=
  let value := cs.dropWhile (·.isChar isBlank)
  if value.isEmpty || value.contains (.char '\n') then none else some value

/-- The first operator after which a value stands, and that value. -/
def splitOperator? (cs : List CodePoint) : Option (Operator × List CodePoint) :=
  operators.findSome? fun op => ((afterOperator? op cs).bind valueAfter?).map (op, ·)

def number? (cs : List CodePoint) : Option Scalar := do
  let trimmed ← Text.charsOf? (stripBy (·.isChar isBlank) cs)
  match Numeral.int? digitValue? trimmed with
  | some n => some (.int n)
  | none => (Numeral.float? digitValue? trimmed).map .float

def isQuote (c : CodePoint) : Bool :=
  c == .char '\'' || c == .char '"'

/-- The text between two equal quotes. -/
def unquoted? : List CodePoint → Option (List CodePoint)
  | first :: rest =>
    if isQuote first && rest.getLast? == some first then some rest.dropLast else none
  | [] => none

def truth? (cs : List CodePoint) : Option Bool :=
  match (Text.charsOf? cs).map fun word => String.ofList (word.map Numeral.lowerAscii) with
  | some "true" => some true
  | some "false" => some false
  | _ => none

/-- The value that a trimmed text stands for. Only what is before a percent sign may be nothing. -/
def value? (cs : List CodePoint) : Option Scalar :=
  if cs.getLast? = some (.char '%') then number? cs.dropLast
  else match truth? cs with
    | some b => some (.bool b)
    | none =>
      match unquoted? cs with
      | some quoted => some (.text ⟨quoted⟩)
      | none => some ((number? cs).getD (.text ⟨cs⟩))

/-- The name at the start in capitals, and what follows it. -/
def splitName? (cs : List CodePoint) : Option (Text × List CodePoint) :=
  let name := (cs.takeWhile (·.isChar isNameChar)).filterMap CodePoint.char?
  match name with
  | [] => none
  | first :: _ =>
    if isNameStart first then some (.ofChars (name.map capital), cs.drop name.length) else none

def parsePoints (cs : List CodePoint) : Option Comparison := do
  let (name, rest) ← splitName? cs
  let (op, value) ← splitOperator? (rest.dropWhile (·.isChar isBlank))
  let operand ← value? (stripBy (·.isChar isBlank) value)
  if named : name.IsName then return ⟨name, op, .scalar operand, named⟩ else none

def parse (t : Text) : Option Comparison :=
  parsePoints (stripBy (·.isChar isBlank) t.points)

def formatOperand : Operand → Text
  | .scalar (.bool b) => if b then "true" else "false"
  | .scalar (.text t) => "'" ++ t ++ "'"
  | .scalar s => s.display
  | .list items => ⟨Json.write Json.spaced (.list (items.map Data.scalar))⟩

def format (c : Comparison) : Text :=
  c.parameter ++ " " ++ c.operator.token ++ " " ++ formatOperand c.operand

end Screening.Shorthand
