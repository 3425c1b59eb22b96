import Screening.Date
import Screening.Text

/-!
# Points in time

A timestamp is a day, a time of day and, if it is known, how far its clock is ahead of universal
time. Two timestamps can be ordered when both have an offset or neither has one. The clock may be
that of a zone, where it is put forward and back: `ZonedTimestamp.before` goes by the clock alone for
two timestamps of one zone.
-/

namespace Screening

/-- The number of microseconds in a second. -/
def microsPerSecond : Nat := 1000000

/-- The number of microseconds in a day. -/
def microsPerDay : Nat := 86400 * microsPerSecond

structure Timestamp where
  date : Date
  micros : Nat
  /-- Microseconds by which the clock is ahead of universal time. -/
  offset : Option Int
  micros_lt : micros < microsPerDay
  deriving DecidableEq

namespace Timestamp

def isAware (t : Timestamp) : Bool := t.offset.isSome

/-- Microseconds since the first day, by the clock that the time is told by. -/
def clock (t : Timestamp) : Int := t.date.day * microsPerDay + t.micros

/-- Microseconds since the first day, in universal time if the offset is known. -/
def instant (t : Timestamp) : Int := t.clock - t.offset.getD 0

theorem midnight_lt : 0 < microsPerDay := by decide

def startOfDay (d : Date) : Timestamp := ⟨d, 0, none, midnight_lt⟩

/-- Hours and minutes of an offset, and its seconds and microseconds unless there are none. -/
def offsetText (offset : Int) : String :=
  let seconds := offset.natAbs / microsPerSecond
  let micros := offset.natAbs % microsPerSecond
  (if offset < 0 then "-" else "+") ++ Date.pad 2 (seconds / 3600) ++ ":" ++
    Date.pad 2 (seconds / 60 % 60) ++
    (if seconds % 60 = 0 ∧ micros = 0 then "" else ":" ++ Date.pad 2 (seconds % 60)) ++
    (if micros = 0 then "" else "." ++ Date.pad 6 micros)

/-- The day, a separator and the time of day, with the microseconds unless there are none and with
the offset if it is known. -/
def write (separator : String) (t : Timestamp) : String :=
  let seconds := t.micros / microsPerSecond
  let micros := t.micros % microsPerSecond
  t.date.iso ++ separator ++ Date.pad 2 (seconds / 3600) ++ ":" ++
    Date.pad 2 (seconds / 60 % 60) ++ ":" ++ Date.pad 2 (seconds % 60) ++
    (if micros = 0 then "" else "." ++ Date.pad 6 micros) ++
    (match t.offset with
      | none => ""
      | some o => offsetText o)

/-- The timestamp as `YYYY-MM-DDThh:mm:ss`. -/
def iso (t : Timestamp) : String := t.write "T"

/-- The timestamp as `YYYY-MM-DD hh:mm:ss`. -/
def spaced (t : Timestamp) : String := t.write " "

end Timestamp

/-- A timestamp whose clock may be that of a zone; its offset is then the one of the zone at that
time. -/
structure ZonedTimestamp extends Timestamp where
  zone : Option Text := none
  zone_aware : zone.isSome = true → offset.isSome = true := by simp
  deriving DecidableEq

namespace ZonedTimestamp

/-- A timestamp whose clock always has the same offset. -/
def fixed (t : Timestamp) : ZonedTimestamp := { t with zone := none }

/-- Two timestamps of one zone are compared by its clock, even if it was put back between them. -/
def before (a b : ZonedTimestamp) : Bool :=
  if a.zone.isSome && a.zone == b.zone then decide (a.clock < b.clock)
  else decide (a.instant < b.instant)

end ZonedTimestamp

end Screening
