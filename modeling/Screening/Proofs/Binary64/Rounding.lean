import Mathlib.Data.Nat.Log
import Mathlib.Tactic.Linarith
import Mathlib.Tactic.Ring
import Screening.Binary64

/-!
# Rounding to binary64

Rounding depends on the quotient only (`ofUnits_congr`), and what binary64 can hold rounds to itself
(`ofUnits_exact`). The answers that `ofDecimal` gives for exponents far outside the range are those
of rounding: `ofDecimal_eq_quotient`. So a factor of ten may go to the digits or to the exponent:
`ofDecimal_shift`.
-/

namespace Screening.Binary64

variable {a b a' b' c : Nat} {negative : Bool}

/-! ### Quotients -/

theorem roundDiv_scale (positive : 0 < c) : roundDiv (a * c) (b * c) = roundDiv a b := by
  have less (x y : Nat) : 2 * (x * c) < y * c ↔ 2 * x < y := by
    rw [← Nat.mul_assoc]
    exact Nat.mul_lt_mul_right positive
  have more (x y : Nat) : y * c < 2 * (x * c) ↔ y < 2 * x := by
    rw [← Nat.mul_assoc]
    exact Nat.mul_lt_mul_right positive
  unfold roundDiv
  simp only [Nat.mul_div_mul_right a b positive, Nat.mul_mod_mul_right, less, more]

theorem roundDiv_exact (positive : 0 < b) : roundDiv (a * b) b = a := by
  unfold roundDiv
  simp [Nat.mul_div_cancel a positive, positive]

theorem div_le_roundDiv : a / b ≤ roundDiv a b := by
  unfold roundDiv
  dsimp only
  split_ifs <;> omega

theorem roundDiv_eq_zero (small : 2 * a < b) : roundDiv a b = 0 := by
  have below : a < b := by omega
  unfold roundDiv
  simp [Nat.div_eq_of_lt below, Nat.mod_eq_of_lt below, small]

/-! ### Units -/

theorem roundUnits_scale (positive : 0 < c) : roundUnits (a * c) (b * c) = roundUnits a b := by
  unfold roundUnits
  dsimp only
  rw [Nat.mul_div_mul_right a b positive, Nat.mul_right_comm b c, roundDiv_scale positive]

theorem ofUnits_congr (positive : 0 < b) (positive' : 0 < b') (same : a * b' = a' * b) :
    ofUnits negative a b = ofUnits negative a' b' := by
  have units : roundUnits a b = roundUnits a' b' := by
    rw [← roundUnits_scale positive', same, Nat.mul_comm b b', roundUnits_scale positive]
  unfold ofUnits
  simp only [units]

theorem roundUnits_exact {units : Nat} (representable : Representable units) (positive : 0 < c) :
    roundUnits (units * c) c = units := by
  have divides := representable.1
  have power : 0 < Nat.pow 2 (units.log2 - 52) := Nat.two_pow_pos _
  unfold roundUnits
  dsimp only
  rw [Nat.mul_div_cancel units positive]
  generalize Nat.pow 2 (units.log2 - 52) = p at divides power
  obtain ⟨q, rfl⟩ := divides
  have regrouped : p * q * c = q * (c * p) := by ring
  rw [regrouped, roundDiv_exact (Nat.mul_pos positive power), Nat.mul_comm]

theorem ofUnits_exact (m : Magnitude) (positive : 0 < c) :
    ofUnits negative (m.units * c) c = .finite negative m := by
  have units := roundUnits_exact m.representable positive
  unfold ofUnits
  simp only [units, m.representable, dite_true]

theorem ofUnits_underflow (small : 2 * a < b) : ofUnits negative a b = .finite negative .zero := by
  have none : a / b = 0 := Nat.div_eq_of_lt (by omega)
  have unscaled : b * Nat.pow 2 (Nat.log2 0 - 52) = b := by
    rw [Nat.log2_zero]
    exact Nat.mul_one b
  have units : roundUnits a b = 0 := by
    unfold roundUnits
    dsimp only
    rw [none, unscaled, roundDiv_eq_zero small, Nat.zero_mul]
  have representable : Representable 0 := Magnitude.zero.representable
  unfold ofUnits
  simp only [units, representable, dite_true]
  rfl

/-- Rounding does not go below a power of two. -/
theorem le_roundUnits {n : Nat} (large : 2 ^ n ≤ a / b) : 2 ^ n ≤ roundUnits a b := by
  have nonzero : a / b ≠ 0 := by
    have power := Nat.two_pow_pos n
    omega
  have most : n ≤ (a / b).log2 := (Nat.le_log2 nonzero).mpr large
  unfold roundUnits
  dsimp only
  generalize shift : (a / b).log2 - 52 = s
  -- Rounding is to a multiple of `2 ^ s`, and the highest power of two in the quotient is one.
  have rounded : 2 ^ ((a / b).log2 - s) ≤ roundDiv a (b * 2 ^ s) := by
    refine le_trans ?_ div_le_roundDiv
    rw [← Nat.div_div_eq_div_mul, Nat.le_div_iff_mul_le (Nat.two_pow_pos s), ← Nat.pow_add,
      Nat.sub_add_cancel (by omega)]
    exact Nat.log2_self_le nonzero
  calc 2 ^ n ≤ 2 ^ (a / b).log2 := Nat.pow_le_pow_right Nat.two_pos most
    _ = 2 ^ ((a / b).log2 - s) * 2 ^ s := by rw [← Nat.pow_add, Nat.sub_add_cancel (by omega)]
    _ ≤ roundDiv a (b * 2 ^ s) * 2 ^ s := Nat.mul_le_mul_right _ rounded

theorem ofUnits_overflow (large : 2 ^ (scale + 1024) ≤ a / b) :
    ofUnits negative a b = .infinite negative := by
  have units := le_roundUnits large
  unfold ofUnits
  dsimp only
  rw [dif_neg]
  intro representable
  have below := representable.2
  unfold bound at below
  generalize scale + 1024 = n at below units
  exact absurd below (Nat.not_lt.mpr units)

/-! ### Decimals -/

theorem ofRatio_congr (positive : 0 < b) (positive' : 0 < b') (same : a * b' = a' * b) :
    ofRatio negative a b = ofRatio negative a' b' := by
  unfold ofRatio
  refine ofUnits_congr positive positive' ?_
  rw [Nat.mul_right_comm, same, Nat.mul_right_comm]

/-- A decimal number as a quotient of natural numbers. -/
def quotient (negative : Bool) (digits : Nat) (exponent : Int) : Binary64 :=
  ofRatio negative (digits * 10 ^ exponent.toNat) (10 ^ (-exponent).toNat)

theorem quotient_shift (digits k : Nat) (exponent : Int) :
    quotient negative (digits * 10 ^ k) exponent = quotient negative digits (exponent + k) := by
  unfold quotient
  refine ofRatio_congr (Nat.pow_pos (by decide)) (Nat.pow_pos (by decide)) ?_
  rw [Nat.mul_assoc, Nat.mul_assoc, Nat.mul_assoc, ← Nat.pow_add, ← Nat.pow_add, ← Nat.pow_add]
  congr 2
  omega

theorem two_pow_le_ten_pow {m n : Nat} (below : m ≤ 3 * n) : 2 ^ m ≤ 10 ^ n := by
  have octal : 2 ^ (3 * n) = 8 ^ n := by rw [Nat.pow_mul]
  calc 2 ^ m ≤ 2 ^ (3 * n) := Nat.pow_le_pow_right Nat.two_pos below
    _ = 8 ^ n := octal
    _ ≤ 10 ^ n := Nat.pow_le_pow_left (by decide) n

theorem two_pow_add_le {m n x : Nat} (power : 2 ^ m ≤ x) : 2 ^ (n + m) ≤ x * Nat.pow 2 n := by
  rw [Nat.pow_add, Nat.mul_comm]
  exact Nat.mul_le_mul_right _ power

theorem quotient_zero (exponent : Int) : quotient negative 0 exponent = .finite negative .zero := by
  unfold quotient ofRatio
  rw [Nat.zero_mul, Nat.zero_mul]
  exact ofUnits_underflow (Nat.pow_pos (by decide))

theorem quotient_large {digits : Nat} {exponent : Int} (nonzero : digits ≠ 0)
    (large : 400 < exponent) : quotient negative digits exponent = .infinite negative := by
  have noFraction : (-exponent).toNat = 0 := by omega
  have power : 2 ^ 1024 ≤ 10 ^ exponent.toNat := two_pow_le_ten_pow (by omega)
  have digit : 1 ≤ digits := Nat.pos_of_ne_zero nonzero
  unfold quotient ofRatio
  rw [noFraction, Nat.pow_zero]
  refine ofUnits_overflow ?_
  unfold unitsPerOne
  rw [Nat.div_one]
  exact two_pow_add_le (power.trans (Nat.le_mul_of_pos_left _ digit))

theorem quotient_small {digits : Nat} {exponent : Int}
    (small : (digits.log2 : Int) + exponent < -400) :
    quotient negative digits exponent = .finite negative .zero := by
  have noFactor : exponent.toNat = 0 := by omega
  have digit : digits < 2 ^ (digits.log2 + 1) := Nat.lt_log2_self
  have power : 2 ^ (digits.log2 + 1 + scale + 1) ≤ 10 ^ (-exponent).toNat :=
    two_pow_le_ten_pow (by unfold scale; omega)
  unfold quotient ofRatio
  rw [noFactor, Nat.pow_zero, Nat.mul_one]
  refine ofUnits_underflow (lt_of_lt_of_le ?_ power)
  unfold unitsPerOne
  rw [Nat.pow_succ, Nat.pow_add, Nat.mul_comm 2]
  refine Nat.mul_lt_mul_of_pos_right ?_ Nat.two_pos
  generalize scale = n
  exact Nat.mul_lt_mul_of_pos_right digit (Nat.two_pow_pos n)

/-- No exponent is treated in a way of its own, though it may look so. -/
theorem ofDecimal_eq_quotient (digits : Nat) (exponent : Int) :
    ofDecimal negative digits exponent = quotient negative digits exponent := by
  unfold ofDecimal
  split_ifs with none large small whole
  · subst none
    exact (quotient_zero exponent).symm
  · exact (quotient_large none large).symm
  · exact (quotient_small small).symm
  · unfold quotient
    have noFraction : (-exponent).toNat = 0 := by omega
    rw [noFraction]
    rfl
  · unfold quotient
    have noFactor : exponent.toNat = 0 := by omega
    rw [noFactor, Nat.pow_zero, Nat.mul_one]
    rfl

theorem ofDecimal_shift (digits k : Nat) (exponent : Int) :
    ofDecimal negative (digits * 10 ^ k) exponent = ofDecimal negative digits (exponent + k) := by
  rw [ofDecimal_eq_quotient, ofDecimal_eq_quotient, quotient_shift]

end Screening.Binary64
