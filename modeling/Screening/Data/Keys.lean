import Screening.Data

/-!
# Keys of maps

Two keys of a map are one if they are equal in value: truth values count as numbers, numbers go by
their value, and points in time by their instant if it is known. The form in which a key came first
stays.
-/

namespace Screening

/-- What tells the keys of a map apart. -/
inductive Key where
  | number (place : Place)
  | instant (micros : Int)
  | other (a : Atom)
  deriving DecidableEq

def Atom.key (a : Atom) : Key :=
  match a.number?.bind Number.place?, a with
  | some place, _ => .number place
  | none, .moment t => if t.isAware then .instant t.instant else .other a
  | none, a => .other a

namespace Data

/-- The value under a key. -/
def under? : List (Atom × Data) → Key → Option Data
  | [], _ => none
  | (l, d) :: rest, k => if l.key = k then some d else under? rest k

/-- Replace the value under the key of that name, or append an entry. -/
def put : List (Atom × Data) → Atom → Data → List (Atom × Data)
  | [], name, d => [(name, d)]
  | (l, e) :: rest, name, d =>
    if l.key = name.key then (l, d) :: rest else (l, e) :: put rest name d

/-- Entries in order; of a key that is given twice, the first place and form and the last value. -/
def ofPairs (pairs : List (Atom × Data)) : List (Atom × Data) :=
  pairs.foldl (fun entries p => put entries p.1 p.2) []

end Data

end Screening
