import Screening.Schema
import Screening.Text.Blank
import Screening.Text.Encoding
import Screening.Text.Numeral

/-!
# Checks of single values

A field takes what is plainly meant for its type: a number written as a text, an integral binary64
number for an integer, `yes` or `0` for a truth value. Operands and parameter values are checked
strictly instead, so that each scalar keeps its kind.
-/

namespace Screening

open Text

namespace Check

/-- The characters of a text, or of bytes that are one. A text must not hold surrogates; `garbled`
is the fault of bytes that spell no characters. -/
def writing? (garbled : Cause) : Data → Option (Except Cause (List Char))
  | .atom (.scalar (.text t)) =>
    match t.chars? with
    | some cs => some (.ok cs)
    | none => some (.error .stringUnicode)
  | .atom (.bytes bs) =>
    match utf8? bs with
    | some cs => some (.ok cs)
    | none => some (.error garbled)
  | _ => none

/-- Check what is written, or fail with `other` when nothing is. -/
def written {α : Type} (garbled other : Cause) (read : List Char → Except Cause α) : Check α :=
  fun d =>
    match writing? garbled d with
    | none => .fail other d
    | some (.error cause) => .fail cause d
    | some (.ok cs) =>
      match read cs with
      | .ok a => .ok a
      | .error cause => .fail cause d

def text : Check Text
  | .atom (.scalar (.text t)) => .ok t
  | .atom (.bytes bs) =>
    match utf8? bs with
    | some cs => .ok (.ofChars cs)
    | none => .fail .stringUnicode (.atom (.bytes bs))
  | d => .fail .stringType d

/-- A text of characters that is not empty. -/
def name : Check { t : Text // t.IsName } :=
  written .stringUnicode .stringType fun cs =>
    if h : (Text.ofChars cs).IsName then .ok ⟨.ofChars cs, h⟩ else .error .stringTooShort

/-- One of several values, by its exact name. -/
def oneOf {α : Type} (ofName? : String → Option α) : Check α :=
  written .choice .choice fun cs =>
    match ofName? (String.ofList cs) with
    | some a => .ok a
    | none => .error .choice

/-! ### Truth values -/

def trueWords : List String := ["1", "on", "t", "true", "y", "yes"]

def falseWords : List String := ["0", "off", "f", "false", "n", "no"]

def readBool (cs : List Char) : Except Cause Bool :=
  let word := String.ofList (cs.map Numeral.lowerAscii)
  if trueWords.contains word then .ok true
  else if falseWords.contains word then .ok false
  else .error .boolParsing

/-- What a signed machine word can hold lies below this in size. -/
def wordBound : Nat := 9223372036854775808

def fitsMachineWord (n : Int) : Bool :=
  -wordBound ≤ n && n < wordBound

/-- Zero and one stand for truth values. Other numbers might be meant for one when they are
small. -/
def boolOfInt (n : Int) (small : Bool) (d : Data) : Checked Bool :=
  if n = 0 then .ok false
  else if n = 1 then .ok true
  else .fail (if small then .boolParsing else .boolType) d

def bool : Check Bool
  | .atom (.scalar (.bool b)) => .ok b
  | .atom (.scalar (.int n)) => boolOfInt n (fitsMachineWord n) (.int n)
  | .atom (.scalar (.float x)) =>
    match x.toInt? with
    | some n => boolOfInt n (n.natAbs < wordBound) (.float x)
    | none => .fail .boolType (.float x)
  | d => written .boolParsing .boolType readBool d

/-! ### Numbers -/

/-- Leave out underscores, unless one stands at an end or two stand together. -/
def joinGroups (cs : List Char) : List Char :=
  if cs.head? = some '_' ∨ cs.getLast? = some '_' ∨ (cs.zip (cs.drop 1)).contains ('_', '_') then cs
  else cs.filter (· != '_')

/-- Drop further zeros, with underscores between them, after one that was `last`. What is left
starts with another digit or a sign; the last zero stays when no digit follows. -/
def dropZeros (last : Char) : List Char → Option (List Char)
  | [] => some [last]
  | c :: cs =>
    if c = '0' ∨ c = '_' then dropZeros c cs
    else if isAsciiDigit c || c == '-' then some (c :: cs)
    else if c = '.' then some (last :: c :: cs)
    else none

/-- Drop zeros at the start. A plus sign may stand before them, and a minus sign after them. -/
def dropLeadingZeros? (cs : List Char) : Option (List Char) :=
  let unsigned := match cs with
    | ['+'] => []
    | '+' :: c :: rest => if c = '-' then cs else c :: rest
    | cs => cs
  match unsigned with
  | [] => none
  | c :: rest =>
    if c = '0' then dropZeros c rest
    else if isAsciiDigit c || c == '-' then some (c :: rest)
    else none

/-- Drop a point with nothing but zeros behind it. -/
def dropZeroFraction (cs : List Char) : List Char :=
  match cs.dropWhile (· != '.') with
  | _ :: zero :: zeros => if (zero :: zeros).all (· == '0') then cs.takeWhile (· != '.') else cs
  | _ => cs

/-- A minus sign, perhaps, and digits: a zero alone, or digits that start with no zero. -/
def readWhole (cs : List Char) : Except Cause Int :=
  let (negative, unsigned) := match cs with
    | '-' :: rest => (true, rest)
    | cs => (false, cs)
  let ds := unsigned.takeWhile isAsciiDigit
  if ds.isEmpty || (ds.head? == some '0' && 1 < ds.length) then .error .intParsing
  else if Numeral.intDigitLimit < ds.length + (if negative then 1 else 0) then
    .error .intParsingSize
  else if ds.length < unsigned.length then .error .intParsing
  else .ok (Numeral.signed negative (ofDigits (ds.map asciiDigitValue)))

/-- An integer in decimal notation, with zeros in front of it and after a point behind it. -/
def readInt (cs : List Char) : Except Cause Int :=
  match dropLeadingZeros? (stripBy isFieldBlank cs) with
  | some rest => readWhole (joinGroups (dropZeroFraction rest))
  | none => .error .intParsing

/-- An integral number below `2 ^ 63` in size. -/
def intOfFloat (x : Binary64) : Checked Int :=
  match x.toInt? with
  | some n => if n.natAbs < wordBound then .ok n else .fail .intParsingSize (.float x)
  | none => .fail (if x.isFinite then .intFromFloat else .finiteNumber) (.float x)

def int : Check Int
  | .atom (.scalar (.bool b)) => .ok (if b then 1 else 0)
  | .atom (.scalar (.int n)) => .ok n
  | .atom (.scalar (.float x)) => intOfFloat x
  | d => written .intParsing .intType readInt d

/-- An integer within bounds. -/
def intFrom (least : Int) : Check Int :=
  int.satisfying (least ≤ ·) .atLeast

def intBetween (least greatest : Int) : Check Int :=
  ((int.satisfying (· ≤ greatest) .atMost).satisfying (least ≤ ·) .atLeast)

/-- A count of things. -/
def count : Check Nat := fun d => Int.toNat <$> intFrom 0 d

def readFloat (cs : List Char) : Except Cause Binary64 :=
  let joined := joinGroups cs
  match Numeral.float? asciiDigit? (stripBy isFieldBlank joined) with
  | some x => if joined.contains '_' then .error .floatParsing else .ok x
  | none => .error .floatParsing

def float : Check Binary64
  | .atom (.scalar (.bool b)) => .ok (if b then .ofRatio false 1 1 else .zero)
  | .atom (.scalar (.int n)) =>
    match Binary64.ofInt? n with
    | some x => .ok x
    | none => .fail .floatType (.int n)
  | .atom (.scalar (.float x)) => .ok x
  | d => written .floatParsing .floatType readFloat d

/-- A number that is not below zero. -/
def floatFromZero : Check Binary64 :=
  float.satisfying (fun x => (Number.int 0).lessOrEqual (.float x)) .atLeast

/-! ### Strict checks -/

/-- The faults of a value that is none of the kinds of scalar. -/
def scalarFaults (d : Data) : List Fault :=
  [⟨[.field "bool"], .boolType, d⟩, ⟨[.field "int"], .intType, d⟩,
    ⟨[.field "float"], .floatType, d⟩, ⟨[.field "str"], .stringType, d⟩]

/-- A scalar of any kind, kept as it is. -/
def scalar : Check Scalar
  | .atom (.scalar s) => .ok s
  | d => .faulty (scalarFaults d)

end Check

end Screening
