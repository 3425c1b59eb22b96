import Screening.Binary64
import Screening.Text.Digit

/-!
# Numerals

Numbers as they are written by hand: digits in groups that single underscores may separate, after
an optional sign; a binary64 number may also have a fraction, an exponent, or be a word for infinity
or for no number. Which characters are digits is left open.
-/

namespace Screening.Text.Numeral

/-- The values of digits, between which single underscores may stand. -/
def groups? (value? : Char → Option Nat) : List Char → Option (List Nat)
  | [] => none
  | [c] => (value? c).map ([·])
  | c :: '_' :: rest => do
    let v ← value? c
    return v :: (← groups? value? rest)
  | c :: rest => do
    let v ← value? c
    return v :: (← groups? value? rest)

/-- A sign, if there is one, and what follows it. -/
def splitSign : List Char → Bool × List Char
  | '-' :: cs => (true, cs)
  | '+' :: cs => (false, cs)
  | cs => (false, cs)

def signed (negative : Bool) (n : Nat) : Int :=
  if negative then -(n : Int) else n

/-- The most digits of an integer that are read. -/
def intDigitLimit : Nat := 4300

/-- The message about an integer that is too long to be read. -/
def oversizedMessage (digits : Nat) : String :=
  s!"Exceeds the limit (4300 digits) for integer string conversion: value has {digits} digits; " ++
    "use sys.set_int_max_str_digits() to increase the limit"

/-- The message about an integer that is too long to be written. -/
def unwrittenMessage : String :=
  "Exceeds the limit (4300 digits) for integer string conversion; " ++
    "use sys.set_int_max_str_digits() to increase the limit"

/-- A sign and digits, however many. -/
def digits? (value? : Char → Option Nat) (cs : List Char) : Option (Bool × List Nat) :=
  let (negative, unsigned) := splitSign cs
  (groups? value? unsigned).map (negative, ·)

def int? (value? : Char → Option Nat) (cs : List Char) : Option Int :=
  match digits? value? cs with
  | some (negative, ds) =>
    if ds.length ≤ intDigitLimit then some (signed negative (ofDigits ds)) else none
  | none => none

def lowerAscii (c : Char) : Char :=
  if 'A' ≤ c ∧ c ≤ 'Z' then Char.ofNat (c.toNat + 32) else c

/-- A word for infinity or for what is no number, in any letter case. -/
def word? (negative : Bool) (cs : List Char) : Option Binary64 :=
  match String.ofList (cs.map lowerAscii) with
  | "inf" | "infinity" => some (.infinite negative)
  | "nan" => some .nan
  | _ => none

def isExponentMark (c : Char) : Bool :=
  c == 'e' || c == 'E'

/-- The digits on one side of a point, of which there may be none. -/
def side? (value? : Char → Option Nat) (cs : List Char) : Option (List Nat) :=
  if cs.isEmpty then some [] else groups? value? cs

/-- A number with an optional fraction and exponent, and digits on at least one side of the
point. -/
def unsignedFloat? (value? : Char → Option Nat) (negative : Bool) (cs : List Char) :
    Option Binary64 := do
  let mantissa := cs.takeWhile (!isExponentMark ·)
  let whole ← side? value? (mantissa.takeWhile (· != '.'))
  let fraction ← side? value? ((mantissa.dropWhile (· != '.')).drop 1)
  let number (e : Int) := Binary64.ofDecimal negative (ofDigits (whole ++ fraction))
    (e - fraction.length)
  if whole.isEmpty && fraction.isEmpty then none
  else match cs.dropWhile (!isExponentMark ·) with
    | [] => some (number 0)
    | _ :: rest => do
      let (below, ds) ← digits? value? rest
      return number (signed below (ofDigits ds))

def float? (value? : Char → Option Nat) (cs : List Char) : Option Binary64 :=
  let (negative, unsigned) := splitSign cs
  (word? negative unsigned).or (unsignedFloat? value? negative unsigned)

end Screening.Text.Numeral
