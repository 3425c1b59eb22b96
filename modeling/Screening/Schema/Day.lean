import Screening.Schema.Scalar
import Screening.Timestamp

/-!
# Checks of days and timestamps

A day is written as `YYYY-MM-DD`, as a timestamp at midnight, or as a number of seconds since the
epoch that comes to whole days; numbers above `2 * 10 ^ 10` count milliseconds. All of these can
name days of the year before the first, which are then out of range.
-/

namespace Screening

open Text

/-- A time of day on a day, which is not there in the year before the first. -/
structure Reading where
  day : Option Date
  micros : Nat
  offset : Option Int
  micros_lt : micros < microsPerDay

namespace Reading

def startOfDay (day : Option Date) : Reading := ⟨day, 0, none, Timestamp.midnight_lt⟩

def ofTimestamp (t : Timestamp) : Reading := ⟨some t.date, t.micros, t.offset, t.micros_lt⟩

def timestamp? (r : Reading) : Option Timestamp :=
  r.day.map fun date => ⟨date, r.micros, r.offset, r.micros_lt⟩

end Reading

namespace Check

/-! ### Written forms -/

def number (cs : List Char) : Nat :=
  ofDigits (cs.map asciiDigitValue)

/-- A day of the calendar, which goes on before its first year. -/
def civil? (year month day : Nat) : Option (Option Date) :=
  if year = 0 then (Date.ofCivil? 400 month day).map fun _ => none
  else (Date.ofCivil? year month day).map some

/-- A day at the start of the text, and what follows it. -/
def splitDay? : List Char → Option (Option Date × List Char)
  | y₁ :: y₂ :: y₃ :: y₄ :: '-' :: m₁ :: m₂ :: '-' :: d₁ :: d₂ :: rest =>
    if [y₁, y₂, y₃, y₄, m₁, m₂, d₁, d₂].all isAsciiDigit then
      (civil? (number [y₁, y₂, y₃, y₄]) (number [m₁, m₂]) (number [d₁, d₂])).map (·, rest)
    else none
  | _ => none

/-- Microseconds from the digits after the seconds; those after the sixth are dropped. -/
def fractionMicros (ds : List Char) : Nat :=
  number (ds.take 6) * Nat.pow 10 (6 - ds.length)

/-- Seconds and their fraction, when there are any, in microseconds, and what follows them. -/
def splitSeconds? : List Char → Option (Nat × List Char)
  | ':' :: a :: b :: rest =>
    if isAsciiDigit a && isAsciiDigit b && number [a, b] < 60 then
      match rest with
      | mark :: more =>
        if mark = '.' ∨ mark = ',' then
          let ds := more.takeWhile isAsciiDigit
          if ds.isEmpty then none
          else
            some (number [a, b] * microsPerSecond + fractionMicros ds,
              more.dropWhile isAsciiDigit)
        else some (number [a, b] * microsPerSecond, rest)
      | [] => some (number [a, b] * microsPerSecond, [])
    else none
  | ':' :: _ => none
  | cs => some (0, cs)

/-- A time of day in microseconds, and what follows it. -/
def splitTime? : List Char → Option (Nat × List Char)
  | a :: b :: ':' :: c :: d :: rest =>
    if [a, b, c, d].all isAsciiDigit && number [a, b] < 24 && number [c, d] < 60 then
      (splitSeconds? rest).map fun (s, after) =>
        ((number [a, b] * 60 + number [c, d]) * 60 * microsPerSecond + s, after)
    else none
  | _ => none

/-- Hours and minutes of an offset below a day, in microseconds. -/
def readOffset? : List Char → Option Nat
  | [a, b, ':', c, d] | [a, b, c, d] =>
    if [a, b, c, d].all isAsciiDigit && number [a, b] < 24 && number [c, d] < 60 then
      some ((number [a, b] * 60 + number [c, d]) * 60 * microsPerSecond)
    else none
  | _ => none

/-- The zone at the end of a timestamp, if there is one. -/
def readZone? : List Char → Option (Option Int)
  | [] => some none
  | ['Z'] | ['z'] => some (some 0)
  | '+' :: cs => (readOffset? cs).map fun n => some (n : Int)
  | '-' :: cs | '\u2212' :: cs => (readOffset? cs).map fun n => some (-(n : Int))
  | _ => none

def reading? (day : Option Date) (micros : Nat) (offset : Option Int) : Option Reading :=
  if h : micros < microsPerDay then some ⟨day, micros, offset, h⟩ else none

/-- A day, a separator and a time of day. -/
def isoTimestamp? (cs : List Char) : Option Reading := do
  let (day, rest) ← splitDay? cs
  match rest with
  | separator :: time =>
    if ['T', 't', ' ', '_'].contains separator then
      let (micros, zone) ← splitTime? time
      reading? day micros (← readZone? zone)
    else none
  | [] => none

def isoDay? (cs : List Char) : Option (Option Date) :=
  match splitDay? cs with
  | some (day, []) => some day
  | _ => none

/-! ### Counts since the epoch -/

/-- Larger counts are milliseconds. -/
def millisecondsAbove : Nat := 20000000000

/-- The start of the year before the first, in seconds since the epoch. -/
def earliestSecond : Int := -62167219200

/-- The end of the year 9999, in seconds since the epoch. -/
def latestSecond : Int := 253402300799

/-- The time `count` seconds or milliseconds and `micros` microseconds after the epoch. -/
def ofCount? (count : Int) (micros : Nat) : Option Reading :=
  let total : Int :=
    (if millisecondsAbove < count.natAbs then count * 1000 else count * microsPerSecond) + micros
  let seconds := total.fdiv microsPerSecond
  if earliestSecond ≤ seconds ∧ seconds ≤ latestSecond then
    reading? (Date.ofDay? (Date.epoch.day + seconds.fdiv 86400))
      (total.fmod microsPerDay).toNat (some 0)
  else none

/-- Whether a count is one of milliseconds. -/
def inMilliseconds : Binary64 → Bool
  | .finite _ m => millisecondsAbove * Binary64.unitsPerOne < m.units
  | _ => false

/-- The nearest integer to a number that is not below zero, a half rounded up. -/
def nearest : Binary64 → Nat
  | .finite _ m => (2 * m.units + Binary64.unitsPerOne) / (2 * Binary64.unitsPerOne)
  | _ => 0

/-- The whole part of a count and the microseconds nearest to the rest. -/
def ofFloat? (x : Binary64) : Option Reading := do
  let count := if inMilliseconds x then x.times 1 1000 else x
  let whole ← count.floor?
  let floor ← Binary64.ofInt? (-whole)
  ofCount? whole (nearest ((count.add floor).times microsPerSecond 1))

/-- A count in decimal digits, with a fraction or without. -/
def countText? (cs : List Char) : Option Reading :=
  let (negative, unsigned) := Numeral.splitSign cs
  let whole := unsigned.takeWhile isAsciiDigit
  match unsigned.dropWhile isAsciiDigit with
  | [] => if whole.isEmpty then none else ofCount? (Numeral.signed negative (number whole)) 0
  | '.' :: fraction =>
    if !(whole ++ fraction).isEmpty && fraction.all isAsciiDigit then
      ofFloat? (.ofDecimal negative (number (whole ++ fraction)) (-(fraction.length : Int)))
    else none
  | _ => none

/-! ### Checks -/

/-- A timestamp written as such, as a count or as a day, in this order. -/
def timestampText? (cs : List Char) : Option Reading :=
  (isoTimestamp? cs).or ((countText? cs).or ((isoDay? cs).map Reading.startOfDay))

/-- The time a number stands for. One that no binary64 number comes near counts as no number. -/
def countOf? : Data → Option (Option Reading)
  | .atom (.scalar (.int n)) =>
    if (Binary64.ofInt? n).isSome then some (ofCount? n 0) else none
  | .atom (.scalar (.float x)) => some (ofFloat? x)
  | _ => none

/-- A time on a day that is in range. -/
def inRange (d : Data) : Option Reading → Checked Timestamp
  | none => .fail .datetimeParsing d
  | some r =>
    match r.timestamp? with
    | some t => .ok t
    | none => .fail .datetimeParsing d

def timestamp : Check Timestamp
  | .atom (.date date) => .ok (.startOfDay date)
  | .atom (.moment t) => .ok t
  | d =>
    match countOf? d with
    | some reading => inRange d reading
    | none =>
      (written .datetimeFromDateParsing .datetimeType
        (fun cs => match timestampText? cs with
          | some r => .ok (some r)
          | none => .error .datetimeFromDateParsing) d).andThen (inRange d)

/-- The day of a time at midnight. -/
def midnight (d : Data) : Option Reading → Checked Date
  | none => .fail .dateParsing d
  | some r =>
    if r.micros ≠ 0 then .fail .dateInexact d
    else match r.day with
      | some date => .ok date
      | none => .fail .dateRange d

def date : Check Date
  | .atom (.date date) => .ok date
  | .atom (.moment t) => midnight (.atom (.moment t)) (some (.ofTimestamp t))
  | d =>
    match countOf? d with
    | some reading => midnight d reading
    | none =>
      (written .dateParsing .dateType (fun cs => .ok (timestampText? cs)) d).andThen (midnight d)

end Check

end Screening
