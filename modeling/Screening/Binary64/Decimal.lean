import Screening.Binary64

/-!
# Shortest decimal text

`shortest` gives the decimal number with the fewest digits that rounds back to a given magnitude,
and of two such the nearer. A `FloatStyle` says how its digits are set out.
-/

namespace Screening

/-- `digits * 10 ^ exponent`. -/
structure Decimal where
  digits : Nat
  exponent : Int
  deriving DecidableEq

namespace Binary64

/-- `units` as a quotient counted in steps of `10 ^ exponent`. -/
def onGrid (units : Nat) (exponent : Int) : Nat × Nat :=
  if 0 ≤ exponent then (units, unitsPerOne * Nat.pow 10 exponent.toNat)
  else (units * Nat.pow 10 (-exponent).toNat, unitsPerOne)

/-- The power of ten that the first significant digit counts. -/
def leadingExponent (units : Nat) : Int :=
  let scaled := units * Nat.pow 10 400 / unitsPerOne
  ((Nat.toDigits 10 scaled).length : Int) - 401

def readsBack (units : Nat) (d : Decimal) : Bool :=
  match ofDecimal false d.digits d.exponent with
  | .finite _ m => m.units == units
  | _ => false

/-- The neighbour on the grid of `10 ^ exponent` that reads back as `units`, the nearer one
first. -/
def neighbour? (units : Nat) (exponent : Int) : Option Decimal :=
  let (num, den) := onGrid units exponent
  let near := roundDiv num den
  let far := if near = num / den then near + 1 else num / den
  if readsBack units ⟨near, exponent⟩ then some ⟨near, exponent⟩
  else if readsBack units ⟨far, exponent⟩ then some ⟨far, exponent⟩
  else none

/-- The shortest decimal that reads back, or else the exact value. -/
def shortest (units : Nat) : Decimal :=
  let first := leadingExponent units
  ((List.range 17).findSome? fun (i : Nat) => neighbour? units (first - i)).getD
    ⟨units * Nat.pow 5 scale, -scale⟩

end Binary64

/-- How the digits of a binary64 number are set out. -/
structure FloatStyle where
  /-- The least power of ten whose numbers are written without an exponent. -/
  least : Int
  /-- Numbers from this power of ten on are written with an exponent. -/
  bound : Int
  /-- The least number of digits of an exponent. -/
  exponentDigits : Nat
  nan : String
  infinity : String
  negativeInfinity : String

namespace FloatStyle

/-- Positional from `10 ^ -4` up to `10 ^ 16`, at least two exponent digits. -/
def display : FloatStyle := ⟨-4, 16, 2, "nan", "inf", "-inf"⟩

/-- As `display`, with the names that JSON readers accept for what is not a finite number. -/
def json : FloatStyle := ⟨-4, 16, 2, "NaN", "Infinity", "-Infinity"⟩

/-- Positional from `10 ^ -5` up to `10 ^ 16`, exponents without leading zeros, and no name for what
is not a finite number. -/
def compact : FloatStyle := ⟨-5, 16, 1, "null", "null", "null"⟩

def padLeft (width : Nat) (ds : List Char) : List Char :=
  List.replicate (width - ds.length) '0' ++ ds

/-- Significant digits, without trailing zeros, of which the first counts `10 ^ first`. -/
def place (style : FloatStyle) (ds : List Char) (first : Int) : List Char :=
  if first < style.least ∨ style.bound ≤ first then
    let tail := match ds with
      | d :: e :: rest => d :: '.' :: e :: rest
      | ds => ds
    tail ++ 'e' :: (if first < 0 then '-' else '+') ::
      padLeft style.exponentDigits (Nat.toDigits 10 first.natAbs)
  else if first < 0 then
    '0' :: '.' :: List.replicate (first.natAbs - 1) '0' ++ ds
  else
    let whole := first.toNat + 1
    let padded := ds ++ List.replicate (whole - ds.length) '0'
    padded.take whole ++ '.' :: (if ds.length ≤ whole then ['0'] else ds.drop whole)

/-- The text of a magnitude. -/
def digits (style : FloatStyle) (units : Nat) : List Char :=
  if units = 0 then ['0', '.', '0']
  else
    let d := Binary64.shortest units
    let ds := Nat.toDigits 10 d.digits
    let trimmed := (ds.reverse.dropWhile (· == '0')).reverse
    style.place trimmed (d.exponent + ds.length - 1)

def renderChars (style : FloatStyle) : Binary64 → List Char
  | .nan => style.nan.toList
  | .infinite negative => (if negative then style.negativeInfinity else style.infinity).toList
  | .finite negative m => (if negative then ['-'] else []) ++ style.digits m.units

def render (style : FloatStyle) (x : Binary64) : String :=
  String.ofList (style.renderChars x)

end FloatStyle

/-- The number with `places` digits after the point, a tie going to the even digit. -/
def Binary64.toFixed (places : Nat) : Binary64 → String
  | .nan => "nan"
  | .infinite negative => if negative then "-inf" else "inf"
  | .finite negative m =>
    let scaled := Binary64.roundDiv (m.units * Nat.pow 10 places) Binary64.unitsPerOne
    let ds := FloatStyle.padLeft (places + 1) (Nat.toDigits 10 scaled)
    let whole := ds.take (ds.length - places)
    let fraction := ds.drop (ds.length - places)
    String.ofList ((if negative then ['-'] else []) ++ whole ++ '.' :: fraction)

end Screening
