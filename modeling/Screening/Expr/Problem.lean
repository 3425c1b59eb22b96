import Screening.Data.Short
import Screening.Expr

/-!
# Structural problems of an expression

`Problem.find?` looks at data that is meant for an expression and gives the first thing that is
wrong with its structure: a node's own problem before those of its conditions, and these from left
to right. It does not look into operands.
-/

namespace Screening.Expr

inductive Problem where
  | notObject
  | untyped
  | unnamed
  | operator
  | noValue
  | noConditions
  /-- A negation needs one condition and has `count` of them. -/
  | arity (count : Nat)
  | unknown (type : Data)

/-- What combines conditions. -/
inductive Kind where
  | all
  | any
  | not
  deriving DecidableEq

def Kind.name : Kind → String
  | .all => "AND"
  | .any => "OR"
  | .not => "NOT"

def Kind.ofName? (s : String) : Option Kind :=
  [Kind.all, .any, .not].find? fun k => k.name == s

/-- The kind of a node by the value under `type`. -/
inductive Tag where
  | comparison
  | combined (kind : Kind)
  deriving DecidableEq

def Tag.name : Tag → String
  | .comparison => "comparison"
  | .combined kind => kind.name

def Tag.ofName? (s : String) : Option Tag :=
  if s = "comparison" then some .comparison else (Kind.ofName? s).map .combined

def Tag.ofData? : Data → Option Tag
  | .atom (.scalar (.text t)) => t.string?.bind Tag.ofName?
  | _ => none

namespace Problem

def message : Problem → Text
  | notObject => "Expression must be an object"
  | untyped => "Expression must have a type"
  | unnamed => "Comparison must have a parameter name"
  | operator => "Comparison must have a valid operator"
  | noValue => "Comparison must have a value"
  | noConditions => "Logical expression must have conditions array"
  | arity count => s!"NOT expression must have exactly one condition, got {count}"
  | unknown type => "Unknown expression type: " ++ type.display

/-- Whether its message can be written: no integer that it shows is too long. -/
def isTellable : Problem → Bool
  | unknown type => type.isShort
  | _ => true

/-- A text that is not empty. -/
def isName : Data → Bool
  | .atom (.scalar (.text t)) => !t.isEmpty
  | _ => false

def isOperator : Data → Bool
  | .atom (.scalar (.text t)) => (t.string?.bind Operator.ofToken?).isSome
  | _ => false

/-- Whether a field is there and passes a test. -/
def has (entries : List (Atom × Data)) (name : Text) (test : Data → Bool) : Bool :=
  ((Data.field? entries name).map test).getD false

def ofComparison? (entries : List (Atom × Data)) : Option Problem :=
  if !has entries "parameter" isName then some unnamed
  else if !has entries "operator" isOperator then some operator
  else if !has entries "value" (!·.isNull) then some noValue
  else none

mutual

def find? : Data → Option Problem
  | .map entries =>
    match Data.field? entries "type" with
    | none => some untyped
    | some type =>
      if !type.isTruthy then some untyped
      else match Tag.ofData? type with
        | none => some (unknown type)
        | some .comparison => ofComparison? entries
        | some (.combined kind) => ofEntries? kind entries
  | _ => some notObject

/-- The problem of the first entry under `conditions`. -/
def ofEntries? (kind : Kind) : List (Atom × Data) → Option Problem
  | [] => some noConditions
  | (name, d) :: rest =>
    if name = .scalar (.text "conditions") then ofConditions? kind d else ofEntries? kind rest

def ofConditions? (kind : Kind) : Data → Option Problem
  | .list cs => if kind = .not ∧ cs.length ≠ 1 then some (arity cs.length) else firstOf? cs
  | _ => some noConditions

def firstOf? : List Data → Option Problem
  | [] => none
  | d :: ds => (find? d).or (firstOf? ds)

end

end Problem

end Screening.Expr
