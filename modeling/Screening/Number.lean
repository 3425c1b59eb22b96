import Screening.Binary64

/-!
# The order of integers and binary64 numbers

Integers and binary64 numbers are compared by their exact values, on one line with the two
infinities at its ends. NaN has no place on the line, so no comparison with it holds.
-/

namespace Screening

inductive Number where
  | int (n : Int)
  | float (x : Binary64)
  deriving DecidableEq

/-- A place on the line, in units of `2 ^ -1074`. -/
inductive Place where
  | lowest
  | exactly (units : Int)
  | highest
  deriving DecidableEq

namespace Place

def lt : Place → Place → Bool
  | .lowest, .lowest => false
  | .lowest, _ => true
  | .exactly a, .exactly b => a < b
  | .exactly _, .highest => true
  | _, _ => false

end Place

namespace Number

def place? : Number → Option Place
  | .int n => some (.exactly (n * Binary64.unitsPerOne))
  | .float .nan => none
  | .float (.infinite negative) => some (if negative then .lowest else .highest)
  | .float (.finite negative m) => some (.exactly (Binary64.signedUnits negative m))

def equal (a b : Number) : Bool :=
  match a.place?, b.place? with
  | some p, some q => p = q
  | _, _ => false

def less (a b : Number) : Bool :=
  match a.place?, b.place? with
  | some p, some q => p.lt q
  | _, _ => false

def lessOrEqual (a b : Number) : Bool :=
  a.less b || a.equal b

end Number

end Screening
