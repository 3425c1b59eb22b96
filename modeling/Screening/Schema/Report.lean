import Screening.Schema

/-!
# Telling faults

`Fault.report` tells all faults of a document: where each is, what is wrong, with what input, and
under which address a manual explains it. Long inputs are cut in the middle.
-/

namespace Screening

/-- The number of bytes that UTF-8 takes; as many for a surrogate as for its neighbours. -/
def CodePoint.bytes : CodePoint → Nat
  | .char c => c.utf8Size
  | .surrogate _ => 3

/-- The longest start of a text that takes at most `limit` bytes. -/
def takeBytes (limit : Nat) : List CodePoint → List CodePoint
  | [] => []
  | p :: ps => if p.bytes ≤ limit then p :: takeBytes (limit - p.bytes) ps else []

/-- A text of more than 50 bytes keeps 25 of them at its start and 24 at its end. -/
def shorten (t : Text) : Text :=
  if (t.points.map CodePoint.bytes).foldl (· + ·) 0 ≤ 50 then t
  else ⟨takeBytes 25 t.points⟩ ++ "..." ++ ⟨(takeBytes 24 t.points.reverse).reverse⟩

namespace Fault

def place (f : Fault) : String :=
  ".".intercalate (f.path.map Step.text)

/-- What is told of a fault, given where the manual's pages on the causes are. -/
def lines (manual : Text) (f : Fault) : List Text :=
  (if f.path.isEmpty then [] else [(f.place : Text)]) ++
  ["  " ++ f.cause.message ++ " [type=" ++ f.cause.code ++ ", input_value=" ++
      shorten f.input.literal ++ ", input_type=" ++ f.input.kindName ++ "]",
    "    For further information visit " ++ manual ++ f.cause.code]

/-- The faults of a document of that title. -/
def report (manual title : Text) (faults : List Fault) : Text :=
  let count := faults.length
  let noun := if count = 1 then " validation error for " else " validation errors for "
  let head := toString count ++ noun ++ title
  Text.intercalate "\n" (head :: faults.flatMap (lines manual))

end Fault

end Screening
