import Screening.Data.Keys

/-!
# Laying documents over one another

Laying a map over another keeps what only the lower one has. Where both hold maps these are merged
in turn; everywhere else the upper value counts.
-/

namespace Screening.Settings

mutual

/-- Lay the entries of the second map over those of the first, one after the other. -/
def merge (base : List (Atom × Data)) : List (Atom × Data) → List (Atom × Data)
  | [] => base
  | (name, d) :: rest =>
    merge (Data.put base name (mergeValue (Data.under? base name.key) d)) rest

/-- What stands under a name at which the upper map holds `d`. -/
def mergeValue (current : Option Data) : Data → Data
  | .map overlay =>
    match current with
    | some (.map base) => .map (merge base overlay)
    | _ => .map overlay
  | d => d

end

/-- Lay maps over a first one, the last on top. -/
def mergeAll (base : List (Atom × Data)) (overlays : List (List (Atom × Data))) :
    List (Atom × Data) :=
  overlays.foldl merge base

end Screening.Settings
