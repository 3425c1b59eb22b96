import Screening.Expr.Eval

/-!
# Telling why a rule failed

`threshold` shows what a comparison asks for, and `failure` gives the reason why an expression that
describes an undesired condition was not ruled out. A reason that was written for the rule comes
first, and an undecided rule names the parameters that are missing.
-/

namespace Screening

/-- Operator and expected value, the items of a list as labels. -/
def Operator.threshold (op : Operator) (expected : Data) : Text :=
  let shown := match expected with
    | .list items => "[" ++ Text.intercalate ", " (items.map Data.label) ++ "]"
    | d => d.label
  op.symbol ++ " " ++ shown

namespace Expr

def threshold? : Expr → Option Text
  | .comparison c => some (c.operator.threshold c.operand.toData)
  | _ => none

def defaultFailure : Text := "Rule condition not met"

theorem defaultFailure_isName : defaultFailure.IsName := by decide

/-- What is said of a comparison with this actual value. -/
def violation (c : Comparison) (actual : Data) : Text :=
  c.parameter ++ " (" ++ actual.label ++ ") " ++ c.operator.phrase ++ " " ++
    ⟨Json.write Json.spaced c.operand.toData⟩

/-- The missing parameters of an undecided expression. -/
def open? (e : Expr) (values : Values) : Option (List Text) :=
  if e.assess values = none then
    match e.missing values with
    | [] => none
    | names => some names
  else none

/-- The reason when no other was written for the rule. -/
def explain (e : Expr) (values : Values) (default : Text) : Text :=
  match e with
  | .comparison c =>
    match lookup values c.parameter with
    | none => "Missing value for parameter: " ++ c.parameter
    | some actual => violation c actual
  | e =>
    match e.open? values with
    | some names => "Missing value for parameter(s): " ++ Text.intercalate ", " names
    | none => default

/-- An empty written reason counts as none. -/
def failure (e : Expr) (values : Values) (written : Option Text) (default : Text) : Text :=
  match written.filter (!·.isEmpty) with
  | none => e.explain values default
  | some reason =>
    match e.open? values with
    | some names =>
      reason ++ " (missing value for parameter: " ++ Text.intercalate ", " names ++ ")"
    | none => reason

end Expr

end Screening
