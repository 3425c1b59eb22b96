import Screening.ErrorKind
import Screening.Expr.Problem
import Screening.Json.Reader
import Screening.Schema.Scalar

/-!
# Reading expressions

`check` turns data into an expression and gives all faults, operands included. `ofData` first looks
for a structural problem and then gives the first fault of `check`; `read` takes JSON text or bytes
as well.
-/

namespace Screening

namespace Expr

/-! ### Checking the form -/

def listName : String := "list[union[bool,int,float,str]]"

/-- A scalar or a flat list of scalars. -/
def checkOperand : Check Operand
  | .atom (.scalar s) => .ok (.scalar s)
  | .list items =>
    match Check.itemsFrom Check.scalar 0 items with
    | .ok ss => .ok (.list ss)
    | .faulty fs => .faulty (Check.scalarFaults (.list items) ++
        fs.map fun f => { f with path := .field listName :: f.path })
  | d => .faulty (Check.scalarFaults d ++ [⟨[.field listName], .listType, d⟩])

/-- One of several tags, as a text. -/
def checkTag (allowed : Tag → Bool) : Check Tag
  | .atom (.scalar (.text t)) =>
    match t.string? with
    | none => .fail .stringUnicode (.text t)
    | some s =>
      match (Tag.ofName? s).filter allowed with
      | some tag => .ok tag
      | none => .fail .literal (.text t)
  | d => .fail .literal d

/-- The fields of a comparison. -/
def checkComparison (entries : List (Atom × Data)) : Checked Comparison :=
  (fun _ ⟨name, named⟩ operator operand => ⟨name, operator, operand, named⟩)
    <$> Check.optional entries "type" .comparison (checkTag (· = .comparison))
    <*> Check.required entries "parameter" Check.name
    <*> Check.required entries "operator" (Check.oneOf Operator.ofToken?)
    <*> Check.required entries "value" checkOperand

/-- A node of a kind with these conditions. A negation takes just one. -/
def combine (kind : Kind) (conditions : List Expr) (d : Data) : Checked Expr :=
  match kind, conditions with
  | .all, cs => .ok (.all cs)
  | .any, cs => .ok (.any cs)
  | .not, [e] => .ok (.not e)
  | .not, cs => .fail (.rule s!"NOT requires exactly one condition, got {cs.length}") d

mutual

def check : Data → Checked Expr
  | .map entries =>
    match Data.field? entries "type" with
    | none => .fail .tagNotFound (.map entries)
    | some type =>
      match Tag.ofData? type with
      | none => .fail .tagInvalid (.map entries)
      | some .comparison =>
        Checked.under (.field "comparison") (.map .comparison (checkComparison entries))
      | some (.combined kind) =>
        Checked.under (.field kind.name)
          ((checkEntries entries).andThen fun cs => combine kind cs (.map entries))
  | d => .fail .recordOrAttributes d

/-- The conditions under the first entry of that name; without one, none. -/
def checkEntries : List (Atom × Data) → Checked (List Expr)
  | [] => .ok []
  | (name, d) :: rest =>
    if name = .scalar (.text "conditions") then (checkList d).under (.field "conditions")
    else checkEntries rest

def checkList : Data → Checked (List Expr)
  | .list cs => checkFrom 0 cs
  | d => .fail .listType d

def checkFrom (n : Nat) : List Data → Checked (List Expr)
  | [] => .ok []
  | d :: ds => .cons <$> (check d).under (.index n) <*> checkFrom (n + 1) ds

end

/-- A node that combines others, its kind being a field among the others. -/
def checkCombined : Check Expr :=
  Check.record fun entries =>
    ((·, ·) <$> Check.required entries "type" (checkTag (· ≠ .comparison))
      <*> checkEntries entries).andThen fun
        | (.combined kind, cs) => combine kind cs (.map entries)
        | (.comparison, _) => .fail .literal (.map entries)

/-! ### Reading a document -/

/-- Why a document is no expression. -/
inductive Invalid where
  /-- The text is no JSON. -/
  | format (reason : Json.Reason)
  | malformed (problem : Problem)
  /-- The structure is right, but not what stands at this place. -/
  | misplaced (path : List Step) (cause : Cause)

inductive ReadError where
  | invalid (why : Invalid)
  /-- An integer with more digits than are read. -/
  | oversized (digits : Nat)
  /-- JSON text that is nested too deep, which is none when it is read without a limit. -/
  | nested (bracket : Json.Bracket)
  /-- Bytes that are no text. -/
  | undecodable (fault : Text.DecodeFault)
  /-- A problem whose message cannot be written. -/
  | untellable

namespace Invalid

def pathText (path : List Step) : String :=
  ".".intercalate (path.map Step.text)

def message : Invalid → Text
  | format reason => "Invalid expression format: " ++ reason.text
  | malformed problem => problem.message
  | misplaced path cause =>
    "Invalid expression at " ++ (if path.isEmpty then "root" else pathText path) ++ ": " ++
      cause.message

/-- The place of the first fault, when the structure is right. -/
def field? : Invalid → Option String
  | misplaced path _ => if path.isEmpty then none else some (pathText path)
  | _ => none

end Invalid

def ReadError.kind : ReadError → ErrorKind
  | invalid _ => .badExpression
  | oversized _ | untellable => .value
  | nested _ => .recursion
  | undecodable _ => .decoding

def ReadError.message : ReadError → Text
  | invalid why => why.message
  | oversized digits => Text.Numeral.oversizedMessage digits
  | nested bracket => bracket.nestedMessage
  | undecodable fault => fault.message
  | untellable => Text.Numeral.unwrittenMessage

def ofData (d : Data) : Except ReadError Expr :=
  match Problem.find? d with
  | some problem =>
    .error (if problem.isTellable then .invalid (.malformed problem) else .untellable)
  | none =>
    match check d with
    | .ok e => .ok e
    | .faulty [] => .error (.invalid (.misplaced [] .recordType))
    | .faulty (f :: _) => .error (.invalid (.misplaced f.path f.cause))

def ofJson : Except Json.Fault Data → Except ReadError Expr
  | .ok d => ofData d
  | .error (.malformed reason) => .error (.invalid (.format reason))
  | .error (.oversized digits) => .error (.oversized digits)
  | .error (.nested bracket) => .error (.nested bracket)

/-- An expression from JSON text, from bytes that encode such text, or from data. -/
def read : Data → Except ReadError Expr
  | .atom (.scalar (.text t)) => ofJson (Json.read t)
  | .atom (.bytes bs) =>
    match Text.decode bs with
    | .ok ps => ofJson (Json.readPoints ps)
    | .error fault => .error (.undecodable fault)
  | d => ofData d

end Expr

end Screening
