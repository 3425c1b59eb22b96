import Mathlib.Algebra.Ring.Nat
import Mathlib.Data.List.TakeWhile
import Mathlib.Data.Nat.Digits.Defs
import Mathlib.Tactic.Ring
import Screening.Text.Digit

/-!
# Runs of decimal digits

The digits of a number are decimal digits, the first of them no zero unless the number is zero, and
they are worth that number: `value_toDigits`.
-/

namespace Screening.Text

/-- What a run of decimal digits is worth. -/
def value (ds : List Char) : Nat := Nat.ofDigitChars 10 ds 0

def IsDigits (ds : List Char) : Prop := ∀ c ∈ ds, isAsciiDigit c = true

variable {ds es : List Char}

theorem ofDigits_map (ds : List Char) : ofDigits (ds.map asciiDigitValue) = value ds := by
  unfold ofDigits value
  rw [List.foldl_map]
  rfl

theorem value_append (ds es : List Char) :
    value (ds ++ es) = value ds * 10 ^ es.length + value es := by
  unfold value
  rw [Nat.ofDigitChars_append, Nat.ofDigitChars_eq_ofDigitChars_zero, Nat.mul_comm]

theorem value_zeros (n : Nat) : value (List.replicate n '0') = 0 := by
  unfold value
  rw [Nat.ofDigitChars_replicate_zero, Nat.mul_zero]

theorem value_append_zeros (ds : List Char) (n : Nat) :
    value (ds ++ List.replicate n '0') = value ds * 10 ^ n := by
  rw [value_append, value_zeros, List.length_replicate, Nat.add_zero]

theorem value_zeros_append (n : Nat) (ds : List Char) :
    value (List.replicate n '0' ++ ds) = value ds := by
  rw [value_append, value_zeros, Nat.zero_mul, Nat.zero_add]

theorem value_toDigits (n : Nat) : value (Nat.toDigits 10 n) = n :=
  Nat.ofDigitChars_ten_toDigits

theorem isDigits_append : IsDigits (ds ++ es) ↔ IsDigits ds ∧ IsDigits es :=
  List.forall_mem_append

theorem isDigits_zeros (n : Nat) : IsDigits (List.replicate n '0') := by
  intro c member
  rw [List.eq_of_mem_replicate member]
  rfl

theorem isDigits_toDigits (n : Nat) : IsDigits (Nat.toDigits 10 n) := by
  intro c member
  exact Nat.isDigit_of_mem_toDigits (by decide) (by decide) member

theorem head_toDigits {n : Nat} (nonzero : n ≠ 0) : (Nat.toDigits 10 n).head? ≠ some '0' := by
  induction n using Nat.strongRecOn with
  | _ n ih =>
    rw [Nat.toDigits_eq_if (by decide)]
    split
    · intro zero
      exact nonzero (Nat.digitChar_eq_zero.mp (Option.some.inj zero))
    · rename_i large
      have smaller : n / 10 ≠ 0 := by omega
      have head := ih (n / 10) (by omega) smaller
      cases digits : Nat.toDigits 10 (n / 10) with
      | nil => exact absurd digits Nat.toDigits_ne_nil
      | cons c cs =>
        rw [digits] at head
        exact head

theorem ofDigits_lt {ds : List Nat} (small : ∀ d ∈ ds, d < 10) : ofDigits ds < 10 ^ ds.length := by
  have go (n : Nat) : ds.foldl (fun n d => 10 * n + d) n < (n + 1) * 10 ^ ds.length := by
    induction ds generalizing n with
    | nil => simp
    | cons d ds ih =>
      have first := small d List.mem_cons_self
      have step := ih (fun e member => small e (List.mem_cons_of_mem d member)) (10 * n + d)
      calc ds.foldl (fun n d => 10 * n + d) (10 * n + d)
        _ < (10 * n + d + 1) * 10 ^ ds.length := step
        _ ≤ ((n + 1) * 10) * 10 ^ ds.length := Nat.mul_le_mul_right _ (by omega)
        _ = (n + 1) * 10 ^ (d :: ds).length := by rw [List.length_cons, Nat.pow_succ]; ring
  have fromZero := go 0
  rw [Nat.zero_add, Nat.one_mul] at fromZero
  exact fromZero

/-- A number needs no more digits than it was spelled with. -/
theorem length_toDigits_ofDigits {ds : List Nat} (small : ∀ d ∈ ds, d < 10) (nonempty : ds ≠ []) :
    (Nat.toDigits 10 (ofDigits ds)).length ≤ ds.length :=
  Nat.toDigits_length 10 _ _ (List.length_pos_iff.mpr nonempty) (ofDigits_lt small)

/-- Digits that are not all zeros, with the zeros at the end apart. -/
theorem exists_zeros (ds : List Char) : ∃ n,
    ds = (ds.reverse.dropWhile (· == '0')).reverse ++ List.replicate n '0' := by
  have parts := List.takeWhile_append_dropWhile (p := (· == '0')) (l := ds.reverse)
  have zeros : ds.reverse.takeWhile (· == '0') =
      List.replicate (ds.reverse.takeWhile (· == '0')).length '0' := by
    refine List.eq_replicate_of_mem fun c member => ?_
    exact eq_of_beq (List.mem_takeWhile_imp (p := (· == '0')) member)
  refine ⟨(ds.reverse.takeWhile (· == '0')).length, ?_⟩
  have reversed := congrArg List.reverse parts
  rw [List.reverse_append, List.reverse_reverse, zeros, List.reverse_replicate] at reversed
  exact reversed.symm

end Screening.Text
