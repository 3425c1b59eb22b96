import Screening.Data
import Screening.Text.Blank
import Screening.Yaml.Token

/-!
# Scalars of YAML

A plain scalar is null, a truth value, an integer, a binary64 number, a day or a time if it has the
form of one, and else a text. The value of a scalar that is said to be of a kind is read in the same
way, whatever its form. Integers may be binary, octal, hexadecimal or in base sixty, and underscores
may stand between their digits. Two marks mean something as keys only.
-/

namespace Screening.Yaml

open Text

/-- What a plain scalar stands for. -/
inductive Plain where
  | atom (a : Atom)
  /-- As a key: the entries of the value belong to the mapping around it. -/
  | merge
  /-- As a key it is a text. -/
  | default
  | faulty (fault : Fault)

/-! ### Words -/

def nullWords : List String := ["", "~", "null", "Null", "NULL"]

/-- A truth value is written in lower case, in capitals, or with one capital. -/
def truthWords : List (List String × Bool) := [
  (["yes", "Yes", "YES", "true", "True", "TRUE", "on", "On", "ON"], true),
  (["no", "No", "NO", "false", "False", "FALSE", "off", "Off", "OFF"], false)]

def truth? (word : String) : Option Bool :=
  (truthWords.find? fun p => p.1.contains word).map Prod.snd

/-- The truth value of a word in any case. -/
def truthValue (cs : List Char) : Except Fault Bool :=
  let word := cs.map Numeral.lowerAscii
  match truth? (String.ofList word) with
  | some b => .ok b
  | none => .error (.noTruth (.ofChars word))

/-! ### Base sixty -/

def splitColons (cs : List Char) : List (List Char) :=
  cs.foldr (fun c parts =>
    if c = ':' then [] :: parts
    else match parts with
      | part :: rest => (c :: part) :: rest
      | [] => [[c]]) [[]]

/-- A part after the first. -/
def isSixtieth (cs : List Char) : Bool :=
  match cs with
  | [a] => isAsciiDigit a
  | [a, b] => '0' ≤ a && a ≤ '5' && isAsciiDigit b
  | _ => false

def isDigitOrGap (c : Char) : Bool := isAsciiDigit c || c == '_'

/-- Digits and underscores after a digit. -/
def isDecimal (cs : List Char) : Bool :=
  match cs with
  | c :: rest => isAsciiDigit c && rest.all isDigitOrGap
  | [] => false

/-- At least two parts. -/
def isSixtieths (cs : List Char) : Bool :=
  match splitColons cs with
  | first :: second :: rest => isDecimal first && (second :: rest).all isSixtieth
  | _ => false

/-! ### Integers -/

def isIntForm (cs : List Char) : Bool :=
  match (Numeral.splitSign cs).2 with
  | '0' :: 'b' :: c :: rest => (c :: rest).all fun d => d == '0' || d == '1' || d == '_'
  | '0' :: 'x' :: c :: rest => (c :: rest).all fun d => (hexDigit? d).isSome || d == '_'
  | '0' :: rest => rest.all fun d => ('0' ≤ d && d ≤ '7') || d == '_'
  | cs => isDecimal cs || isSixtieths cs

/-- The letter after a zero that may stand in front of digits of a base. -/
def baseMark : Nat → List Char
  | 2 => ['b', 'B']
  | 8 => ['o', 'O']
  | 16 => ['x', 'X']
  | _ => []

def afterBaseMark (base : Nat) : List Char → List Char
  | '0' :: c :: rest => if (baseMark base).contains c then rest else '0' :: c :: rest
  | cs => cs

def digitIn? (base : Nat) (c : Char) : Option Nat :=
  ((hexDigit? c).or (digitValue? c)).filter (· < base)

/-- The integer that digits of a base spell after an optional sign. In base ten there must not be
too many. -/
def integer (base : Nat) (cs : List Char) : Except Fault Int :=
  let (negative, unsigned) := Numeral.splitSign (stripBy isBlank cs)
  match (afterBaseMark base unsigned).mapM (digitIn? base) with
  | none | some [] => .error (.noInteger base (.ofChars cs))
  | some ds =>
    if base = 10 ∧ Numeral.intDigitLimit < ds.length then .error (.oversized ds.length)
    else .ok (Numeral.signed negative (ds.foldl (fun n d => base * n + d) 0))

def unsignedInt (cs : List Char) : Except Fault Int :=
  match cs with
  | [] => .error .empty
  | ['0'] => .ok 0
  | '0' :: 'b' :: rest => integer 2 rest
  | '0' :: 'x' :: rest => integer 16 rest
  | '0' :: rest => integer 8 ('0' :: rest)
  | cs =>
    if cs.contains ':' then
      ((splitColons cs).mapM (integer 10)).map fun ns => ns.foldl (fun n part => 60 * n + part) 0
    else integer 10 cs

def intValue (cs : List Char) : Except Fault Int :=
  let (negative, unsigned) := Numeral.splitSign (cs.filter (· != '_'))
  (unsignedInt unsigned).map fun n => if negative then -n else n

/-! ### Binary64 numbers -/

/-- An exponent, whose sign must be written. -/
def isExponent : List Char → Bool
  | [] => true
  | e :: sign :: c :: rest =>
    (e == 'e' || e == 'E') && (sign == '+' || sign == '-') && (c :: rest).all isAsciiDigit
  | _ => false

/-- Digits with a point among or behind them, and an exponent; or a point, digits and an exponent
without a sign in front. -/
def isPointed (cs : List Char) : Bool :=
  let unsigned := (Numeral.splitSign cs).2
  match unsigned.dropWhile isDigitOrGap with
  | '.' :: rest =>
    (match unsigned.takeWhile isDigitOrGap, rest with
      | w :: _, _ => isAsciiDigit w
      | [], f :: _ => isAsciiDigit f && unsigned.length == cs.length
      | [], [] => false) && isExponent (rest.dropWhile isDigitOrGap)
  | _ => false

/-- Parts in base sixty, the last with a point. -/
def isPointedSixtieths (cs : List Char) : Bool :=
  let unsigned := (Numeral.splitSign cs).2
  isSixtieths (unsigned.takeWhile (· != '.')) &&
    (match unsigned.dropWhile (· != '.') with
      | _ :: fraction => fraction.all isDigitOrGap
      | [] => false)

def isFloatForm (cs : List Char) : Bool :=
  isPointed cs || isPointedSixtieths cs ||
    [".inf", ".Inf", ".INF"].contains (String.ofList (Numeral.splitSign cs).2) ||
    [".nan", ".NaN", ".NAN"].contains (String.ofList cs)

def real (cs : List Char) : Except Fault Binary64 :=
  match Numeral.float? digitValue? (stripBy isBlank cs) with
  | some x => .ok x
  | none => .error (.noNumber (.ofChars cs))

/-- The sum of parts, each times its place, from the last one on. -/
def sumOfSixtieths (parts : List Binary64) : Binary64 :=
  (parts.reverse.foldl (fun (acc : Binary64 × Nat) part =>
    (acc.1.add (part.times acc.2 1), acc.2 * 60)) (.zero, 1)).1

def unsignedFloat (cs : List Char) : Except Fault Binary64 :=
  if cs = ['.', 'i', 'n', 'f'] then .ok (.infinite false)
  else if cs = ['.', 'n', 'a', 'n'] then .ok .nan
  else if cs.contains ':' then ((splitColons cs).mapM real).map sumOfSixtieths
  else real cs

def floatValue (cs : List Char) : Except Fault Binary64 :=
  match (cs.filter (· != '_')).map Numeral.lowerAscii with
  | [] => .error .empty
  | word =>
    let (negative, unsigned) := Numeral.splitSign word
    (unsignedFloat unsigned).map fun x => if negative then x.negate else x

/-! ### Days and times -/

/-- One or two digits, and what follows them. -/
def splitShort? (cs : List Char) : Option (List Char × List Char) :=
  match cs with
  | a :: b :: rest =>
    if isAsciiDigit a && isAsciiDigit b then some ([a, b], rest)
    else if isAsciiDigit a then some ([a], b :: rest)
    else none
  | [a] => if isAsciiDigit a then some ([a], []) else none
  | [] => none

/-- Two digits after a mark, and what follows them. -/
def splitPair? (mark : Char) : List Char → Option (List Char × List Char)
  | m :: a :: b :: rest =>
    if m = mark ∧ isAsciiDigit a ∧ isAsciiDigit b then some ([a, b], rest) else none
  | _ => none

def numeral (cs : List Char) : Nat := ofDigits (cs.map asciiDigitValue)

/-- A length of time in days, and seconds of a day. -/
def spanText (seconds : Int) : String :=
  let days := seconds.fdiv 86400
  let rest := seconds.fmod 86400
  let parts := (if days = 0 then [] else [s!"days={days}"]) ++
    (if rest = 0 then [] else [s!"seconds={rest}"])
  "datetime.timedelta(" ++ ", ".intercalate parts ++ ")"

/-- An offset from universal time is less than a day. -/
def checkOffset (seconds : Int) : Except Fault Unit :=
  if seconds.natAbs < 86400 then .ok ()
  else .error (.outOfRange ("offset must be a timedelta strictly between -timedelta(hours=24) " ++
    "and timedelta(hours=24), not " ++ spanText seconds ++ "."))

def checkDay (year month day : Nat) : Except Fault Date :=
  match Date.ofCivil? year month day with
  | some date => .ok date
  | none => .error (.outOfRange (
      if year = 0 then "year 0 is out of range"
      else if month = 0 ∨ 12 < month then "month must be in 1..12"
      else "day is out of range for month"))

/-- A time on a day; fraction and offset are in microseconds. -/
def checkTime (date : Date) (hour minute second fraction : Nat) (offset : Option Int) :
    Except Fault Atom :=
  let micros := ((hour * 60 + minute) * 60 + second) * microsPerSecond + fraction
  if 23 < hour then .error (.outOfRange "hour must be in 0..23")
  else if 59 < minute then .error (.outOfRange "minute must be in 0..59")
  else if 59 < second then .error (.outOfRange "second must be in 0..59")
  else if h : micros < microsPerDay then .ok (.moment ⟨date, micros, offset, h⟩)
  else .error (.outOfRange "time is out of range")

/-- The zone at the end of a time, in seconds. -/
def zone? (cs : List Char) : Option (Option Int) :=
  let isBlank (c : Char) : Bool := c == ' ' || c == '\t'
  match cs, cs.dropWhile isBlank with
  | [], _ => some none
  | _, ['Z'] => some (some 0)
  | _, sign :: rest =>
    if sign = '+' ∨ sign = '-' then do
      let (hours, rest) ← splitShort? rest
      let minutes ←
        if rest.isEmpty then some ['0']
        else match splitPair? ':' rest with
          | some (m, []) => some m
          | _ => none
      let seconds : Int := (numeral hours * 60 + numeral minutes) * 60
      return some (if sign = '-' then -seconds else seconds)
    else none
  | _, [] => none

/-- What follows the mark, or the blanks, between a day and a time. -/
def afterDay? : List Char → Option (List Char)
  | [] => none
  | c :: rest =>
    if c = 'T' ∨ c = 't' then some rest
    else if c = ' ' ∨ c = '\t' then some (rest.dropWhile fun d => d == ' ' || d == '\t')
    else none

/-- Digits after a point, and what follows them. -/
def splitFraction : List Char → List Char × List Char
  | '.' :: rest => (rest.takeWhile isAsciiDigit, rest.dropWhile isAsciiDigit)
  | rest => ([], rest)

/-- Hour, minute and second, the digits of a fraction and the offset in seconds. -/
structure Clock where
  hour : Nat
  minute : Nat
  second : Nat
  fraction : List Char
  offset : Option Int

def clock? (cs : List Char) : Option Clock := do
  let (hour, rest) ← splitShort? cs
  let (minute, rest) ← splitPair? ':' rest
  let (second, rest) ← splitPair? ':' rest
  let (fraction, rest) := splitFraction rest
  let offset ← zone? rest
  return ⟨numeral hour, numeral minute, numeral second, fraction, offset⟩

/-- A time on a day; of the fraction six digits count. -/
def checkMoment (year month day : Nat) (clock : Clock) : Except Fault Atom := do
  checkOffset (clock.offset.getD 0)
  let date ← checkDay year month day
  checkTime date clock.hour clock.minute clock.second
    (numeral (clock.fraction.take 6) * Nat.pow 10 (6 - clock.fraction.length))
    (clock.offset.map (· * microsPerSecond))

/-- What follows a dash. -/
def afterDash? : List Char → Option (List Char)
  | '-' :: rest => some rest
  | _ => none

/-- A day, or a day and a time. -/
def moment? (cs : List Char) : Option (Except Fault Atom) := do
  let year := cs.take 4
  let (month, rest) ← splitShort? (← afterDash? (cs.drop 4))
  let (day, rest) ← splitShort? (← afterDash? rest)
  if !year.all isAsciiDigit then none
  else if rest.isEmpty then
    some ((checkDay (numeral year) (numeral month) (numeral day)).map .date)
  else
    ((afterDay? rest).bind clock?).map (checkMoment (numeral year) (numeral month) (numeral day))

/-- Without a time the day and the month have two digits. -/
def isMomentForm (cs : List Char) : Bool :=
  10 ≤ cs.length && (moment? cs).isSome

def momentValue (cs : List Char) : Except Fault Atom :=
  (moment? cs).getD (.error .noTime)

/-! ### All forms -/

def ofResult {α : Type} (encode : α → Atom) : Except Fault α → Plain
  | .ok a => .atom (encode a)
  | .error fault => .faulty fault

def plainValue (cs : List Char) : Plain :=
  let s := String.ofList cs
  match truth? s with
  | some b => .atom (.scalar (.bool b))
  | none =>
    if nullWords.contains s then .atom .null
    else if s = "<<" then .merge
    else if s = "=" then .default
    else if isFloatForm cs then ofResult (fun x => .scalar (.float x)) (floatValue cs)
    else if isIntForm cs then ofResult (fun n => .scalar (.int n)) (intValue cs)
    else if isMomentForm cs then ofResult id (momentValue cs)
    else .atom (.scalar (.text (.ofChars cs)))

/-- The value of a scalar that is said to be of a kind. -/
def taggedValue (kind : String) (cs : List Char) : Except Fault Atom :=
  match kind with
  | "str" => .ok (.scalar (.text (.ofChars cs)))
  | "null" => .ok .null
  | "bool" => (truthValue cs).map fun b => .scalar (.bool b)
  | "int" => (intValue cs).map fun n => .scalar (.int n)
  | "float" => (floatValue cs).map fun x => .scalar (.float x)
  | "timestamp" => momentValue cs
  | _ => .error .noValue

end Screening.Yaml
