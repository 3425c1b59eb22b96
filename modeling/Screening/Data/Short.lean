import Screening.Json.Reader

/-!
# Short integers

An integer of more digits than are read is not written in messages either; `Data.isShort` holds of
data in which there is none.
-/

namespace Screening

/-- An integer has no more digits than are read. -/
def Scalar.isShort : Scalar → Bool
  | .int n => (Nat.toDigits 10 n.natAbs).length ≤ Json.digitLimit
  | _ => true

def Atom.isShort : Atom → Bool
  | .scalar s => s.isShort
  | _ => true

namespace Data

mutual

def isShort : Data → Bool
  | .atom a => a.isShort
  | .list items => areShort items
  | .map entries => entriesAreShort entries

def areShort : List Data → Bool
  | [] => true
  | d :: ds => d.isShort && areShort ds

def entriesAreShort : List (Atom × Data) → Bool
  | [] => true
  | (k, d) :: rest => k.isShort && d.isShort && entriesAreShort rest

end

theorem areShort_iff {items : List Data} :
    areShort items = true ↔ ∀ d ∈ items, d.isShort = true := by
  induction items with
  | nil => simp [areShort]
  | cons d ds ih => simp [areShort, ih]

theorem entriesAreShort_iff {entries : List (Atom × Data)} :
    entriesAreShort entries = true ↔ ∀ e ∈ entries, e.1.isShort = true ∧ e.2.isShort = true := by
  induction entries with
  | nil => simp [entriesAreShort]
  | cons e rest ih => simp [entriesAreShort, ih, and_assoc]

end Data

end Screening
