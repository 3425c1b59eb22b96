import Screening.Table
import Screening.Text.Fold

/-!
# Values by name

Parameter values are kept under the names of their parameters. A name is looked up as it is
written, and only if it is not there, without regard to letter case.
-/

namespace Screening

/-- The entry under a name, or else the first under a name that differs in letter case only. -/
def lookup {α : Type} (values : List (Text × α)) (name : Text) : Option α :=
  match Entries.get? values name with
  | some v => some v
  | none => (values.find? fun e => Text.sameFold e.1 name).map Prod.snd

/-- Names in the order of their values, each once. -/
def sortedNames (names : List Text) : List Text :=
  names.eraseDups.mergeSort (fun a b => decide (a ≤ b))

end Screening
