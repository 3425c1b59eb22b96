/-!
# Binary64 numbers

A finite binary64 number is a whole number of units of `2 ^ -1074`, with at most 53 significant
bits. `ofRatio` rounds a quotient to the nearest such number, a tie going to the even significand;
reading decimal text, converting integers, adding and dividing all go through it.
-/

namespace Screening

/-- The unit every finite number is a multiple of is `2 ^ -scale`. -/
def Binary64.scale : Nat := 1074

/-- The number of units that make up the number one. -/
def Binary64.unitsPerOne : Nat := Nat.pow 2 scale

/-- The number of units that is too large to hold: those of `2 ^ 1024`. -/
def Binary64.bound : Nat := Nat.pow 2 (scale + 1024)

theorem Binary64.bound_pos : 0 < bound := by
  unfold bound
  generalize scale + 1024 = n
  exact Nat.two_pow_pos n

/-- A count of units that binary64 can hold: at most 53 significant bits, and below the bound. -/
def Binary64.Representable (units : Nat) : Prop :=
  Nat.pow 2 (units.log2 - 52) ∣ units ∧ units < bound

instance (units : Nat) : Decidable (Binary64.Representable units) :=
  inferInstanceAs (Decidable (_ ∧ _))

/-- The size of a finite number, in units. -/
structure Magnitude where
  units : Nat
  representable : Binary64.Representable units
  deriving DecidableEq

def Magnitude.zero : Magnitude :=
  ⟨0, Nat.dvd_zero _, Binary64.bound_pos⟩

inductive Binary64 where
  | nan
  | infinite (negative : Bool)
  | finite (negative : Bool) (magnitude : Magnitude)
  deriving DecidableEq

namespace Binary64

/-- `num / den` rounded to the nearest natural number, a tie to the even one. -/
def roundDiv (num den : Nat) : Nat :=
  let low := num / den
  let twice := 2 * (num % den)
  if twice < den then low else if den < twice then low + 1 else low + low % 2

/-- The count of units with at most 53 significant bits that is nearest to `num / den` units. -/
def roundUnits (num den : Nat) : Nat :=
  let shift := (num / den).log2 - 52
  roundDiv num (den * Nat.pow 2 shift) * Nat.pow 2 shift

/-- `num / den` units, rounded; what is too large to hold becomes an infinity. -/
def ofUnits (negative : Bool) (num den : Nat) : Binary64 :=
  let units := roundUnits num den
  if h : Representable units then .finite negative ⟨units, h⟩ else .infinite negative

/-- The number nearest to `num / den`. -/
def ofRatio (negative : Bool) (num den : Nat) : Binary64 :=
  ofUnits negative (num * unitsPerOne) den

def zero : Binary64 := .finite false .zero

/-- The number nearest to an integer, or nothing when the integer is beyond all of them. -/
def ofInt? (n : Int) : Option Binary64 :=
  match ofRatio (decide (n < 0)) n.natAbs 1 with
  | .finite s m => some (.finite s m)
  | _ => none

/-- The number nearest to `digits * 10 ^ exponent`. An exponent far outside the range decides the
answer before any power of ten is computed. -/
def ofDecimal (negative : Bool) (digits : Nat) (exponent : Int) : Binary64 :=
  if digits = 0 then .finite negative .zero
  else if 400 < exponent then .infinite negative
  else if digits.log2 + exponent < -400 then .finite negative .zero
  else if 0 ≤ exponent then ofRatio negative (digits * Nat.pow 10 exponent.toNat) 1
  else ofRatio negative digits (Nat.pow 10 (-exponent).toNat)

/-- The exact value in units, with its sign. -/
def signedUnits (negative : Bool) (m : Magnitude) : Int :=
  if negative then -(m.units : Int) else m.units

def isFinite : Binary64 → Bool
  | .finite .. => true
  | _ => false

/-- Both zeros. -/
def isZero : Binary64 → Bool
  | .finite _ m => m.units == 0
  | _ => false

/-- The integer the number is equal to, if there is one. -/
def toInt? : Binary64 → Option Int
  | .finite s m =>
    if m.units % unitsPerOne = 0 then
      let n : Int := m.units / unitsPerOne
      some (if s then -n else n)
    else none
  | _ => none

/-- The largest integer that is not above the number. -/
def floor? : Binary64 → Option Int
  | .finite s m => some ((signedUnits s m).fdiv unitsPerOne)
  | _ => none

def negate : Binary64 → Binary64
  | .nan => .nan
  | .infinite s => .infinite !s
  | .finite s m => .finite (!s) m

/-- The number times `num / den`, rounded. -/
def times (num den : Nat) : Binary64 → Binary64
  | .finite s m => ofUnits s (m.units * num) den
  | x => x

/-- The rounded sum. Two zeros of different signs add up to the positive one, as does a number and
its opposite. -/
def add : Binary64 → Binary64 → Binary64
  | .finite s m, .finite t n =>
    let sum := signedUnits s m + signedUnits t n
    if sum = 0 then .finite (m.units == 0 && s && t) .zero
    else ofUnits (decide (sum < 0)) sum.natAbs 1
  | .nan, _ => .nan
  | _, .nan => .nan
  | .infinite s, .infinite t => if s = t then .infinite s else .nan
  | .infinite s, .finite .. => .infinite s
  | .finite .., .infinite t => .infinite t

end Binary64

end Screening
