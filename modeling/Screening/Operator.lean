import Screening.Data

/-!
# Comparison operators

`Operator.compare` applies one of nine operators to an actual and an expected value. Equality never
crosses kinds, except that integers and floats are both numbers; the order operators hold of numbers
only, the membership operators of a list on the right, and `contains` of two texts.
-/

namespace Screening

inductive Operator where
  | eq
  | ne
  | lt
  | le
  | gt
  | ge
  | oneOf
  | noneOf
  | contains
  deriving DecidableEq

namespace Operator

def all : List Operator := [eq, ne, lt, le, gt, ge, oneOf, noneOf, contains]

/-- How an operator is written in an expression. -/
def token : Operator → String
  | eq => "=="
  | ne => "!="
  | lt => "<"
  | le => "<="
  | gt => ">"
  | ge => ">="
  | oneOf => "in"
  | noneOf => "not_in"
  | contains => "contains"

def ofToken? (s : String) : Option Operator :=
  all.find? fun op => op.token == s

/-- How an operator is shown in front of a threshold. -/
def symbol : Operator → String
  | eq => "="
  | ne => "≠"
  | lt => "<"
  | le => "≤"
  | gt => ">"
  | ge => "≥"
  | oneOf => "in"
  | noneOf => "not in"
  | contains => "contains"

/-- What is said of a value for which the operator holds. -/
def phrase : Operator → String
  | eq => "is equal to"
  | ne => "is not equal to"
  | lt => "is less than"
  | le => "is at most"
  | gt => "is greater than"
  | ge => "is at least"
  | oneOf => "is one of"
  | noneOf => "is not one of"
  | contains => "contains"

end Operator

namespace Data

/-- The number that a value is. Truth values are no numbers. -/
def number? : Data → Option Number
  | .atom (.scalar s) => s.number?
  | _ => none

def text? : Data → Option Text
  | .atom (.scalar (.text t)) => some t
  | _ => none

/-- Whether both are the same truth value, equal numbers, or the same text. -/
def same : Data → Data → Bool
  | .atom (.scalar (.bool a)), .atom (.scalar (.bool b)) => a == b
  | a, b =>
    match a.number?, b.number? with
    | some m, some n => m.equal n
    | _, _ =>
      match a.text?, b.text? with
      | some s, some t => s == t
      | _, _ => false

/-- Whether both are numbers that stand in the given order. -/
def ordered (order : Number → Number → Bool) (a b : Data) : Bool :=
  match a.number?, b.number? with
  | some m, some n => order m n
  | _, _ => false

/-- Whether the first list stands somewhere in the second without a gap. -/
def isPart (part : List CodePoint) : List CodePoint → Bool
  | [] => part.isEmpty
  | p :: ps => part.isPrefixOf (p :: ps) || isPart part ps

/-- Whether both are texts, the second a part of the first. -/
def containsText (a b : Data) : Bool :=
  match a.text?, b.text? with
  | some s, some t => isPart t.points s.points
  | _, _ => false

end Data

def Operator.compare (op : Operator) (actual expected : Data) : Bool :=
  match op with
  | eq => actual.same expected
  | ne => !actual.same expected
  | lt => actual.ordered Number.less expected
  | le => actual.ordered Number.lessOrEqual expected
  | gt => expected.ordered Number.less actual
  | ge => expected.ordered Number.lessOrEqual actual
  | oneOf => match expected with
    | .list items => items.any actual.same
    | _ => false
  | noneOf => match expected with
    | .list items => !items.any actual.same
    | _ => false
  | contains => actual.containsText expected

end Screening
