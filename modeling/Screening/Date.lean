/-!
# Calendar days

A day is the number of days since 1 January of year 1 in the Gregorian calendar, up to the end of
year 9999, so that days are ordered and subtracted as numbers. `ofCivil?` and `civil` go to and
from year, month and day of the month.
-/

namespace Screening

/-- The number of days in the years 1 to 9999. -/
def Date.count : Nat := 3652059

structure Date where
  day : Nat
  day_lt : day < Date.count
  deriving DecidableEq

namespace Date

instance : LE Date := ⟨fun a b => a.day ≤ b.day⟩

instance : LT Date := ⟨fun a b => a.day < b.day⟩

instance (a b : Date) : Decidable (a ≤ b) := inferInstanceAs (Decidable (a.day ≤ b.day))

instance (a b : Date) : Decidable (a < b) := inferInstanceAs (Decidable (a.day < b.day))

def ofDay? (day : Int) : Option Date :=
  if h : 0 ≤ day ∧ day.toNat < count then some ⟨day.toNat, h.2⟩ else none

def isLeapYear (year : Nat) : Bool :=
  year % 4 == 0 && (year % 100 != 0 || year % 400 == 0)

/-- The days of the years before `year`. -/
def daysBeforeYear (year : Nat) : Nat :=
  let y := year - 1
  365 * y + y / 4 - y / 100 + y / 400

def daysInMonth (year month : Nat) : Nat :=
  if month = 2 then (if isLeapYear year then 29 else 28)
  else if month = 4 || month = 6 || month = 9 || month = 11 then 30
  else 31

/-- The days of `year` before `month`. -/
def daysBeforeMonth (year month : Nat) : Nat :=
  ((List.range (month - 1)).map fun m => daysInMonth year (m + 1)).foldl (· + ·) 0

def ofCivil? (year month day : Nat) : Option Date :=
  if 1 ≤ year ∧ 1 ≤ month ∧ month ≤ 12 ∧ 1 ≤ day ∧ day ≤ daysInMonth year month then
    ofDay? (daysBeforeYear year + daysBeforeMonth year month + (day - 1) : Nat)
  else none

/-- The year a day lies in: an estimate from the mean length of a year is at most one too small. -/
def year (d : Date) : Nat :=
  let low := d.day * 400 / 146097 + 1
  if d.day < daysBeforeYear low then low - 1
  else if daysBeforeYear (low + 1) ≤ d.day then low + 1
  else low

/-- Month and day of the month of the `n`-th day of `year`, counting months from `month`. -/
def splitMonths (year : Nat) : Nat → Nat → Nat → Nat × Nat
  | 0, month, n => (month, n + 1)
  | left + 1, month, n =>
    if n < daysInMonth year month then (month, n + 1)
    else splitMonths year left (month + 1) (n - daysInMonth year month)

/-- Year, month and day of the month. -/
def civil (d : Date) : Nat × Nat × Nat :=
  let y := d.year
  (y, splitMonths y 11 1 (d.day - daysBeforeYear y))

def pad (width n : Nat) : String :=
  String.ofList (List.replicate (width - (Nat.toDigits 10 n).length) '0' ++ Nat.toDigits 10 n)

/-- The day as `YYYY-MM-DD`. -/
def iso (d : Date) : String :=
  let (y, m, day) := d.civil
  pad 4 y ++ "-" ++ pad 2 m ++ "-" ++ pad 2 day

/-- The first of January 1970. -/
def epoch : Date := ⟨719162, by decide⟩

end Date

end Screening
