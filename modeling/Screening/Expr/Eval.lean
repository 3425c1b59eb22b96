import Screening.Expr

/-!
# Evaluating expressions

`holds` evaluates an expression to a truth value, a comparison with a missing value being false.
`assess` tells a missing value apart: its answer is none when the known values do not decide.
-/

namespace Screening

/-- Parameter values by the names of the parameters. -/
abbrev Values := List (Text × Data)

def Comparison.assess (c : Comparison) (values : Values) : Option Bool :=
  (lookup values c.parameter).map fun actual => c.operator.compare actual c.operand.toData

/-- Whether all are true; a false one decides, and without one a missing answer leaves it open. -/
def allKnown (answers : List (Option Bool)) : Option Bool :=
  if some false ∈ answers then some false
  else if none ∈ answers then none
  else some true

/-- Whether one is true; a true one decides, and without one a missing answer leaves it open. -/
def anyKnown (answers : List (Option Bool)) : Option Bool :=
  if some true ∈ answers then some true
  else if none ∈ answers then none
  else some false

namespace Expr

mutual

def holds (values : Values) : Expr → Bool
  | .comparison c => (c.assess values).getD false
  | .all cs => holdAll values cs
  | .any cs => holdAny values cs
  | .not e => !e.holds values

def holdAll (values : Values) : List Expr → Bool
  | [] => true
  | e :: es => e.holds values && holdAll values es

def holdAny (values : Values) : List Expr → Bool
  | [] => false
  | e :: es => e.holds values || holdAny values es

end

mutual

def assess (values : Values) : Expr → Option Bool
  | .comparison c => c.assess values
  | .all cs => allKnown (assessEach values cs)
  | .any cs => anyKnown (assessEach values cs)
  | .not e => (e.assess values).map Bool.not

def assessEach (values : Values) : List Expr → List (Option Bool)
  | [] => []
  | e :: es => e.assess values :: assessEach values es

end

/-- The parameters an expression refers to for which there is no value. -/
def missing (e : Expr) (values : Values) : List Text :=
  e.required.filter fun name => (lookup values name).isNone

/-- The value that a comparison looks at. Other expressions look at no single one. -/
def actual? (values : Values) : Expr → Option Data
  | .comparison c => lookup values c.parameter
  | _ => none

end Expr

end Screening
