import Screening.Binary64.Decimal
import Screening.Proofs.Binary64.Rounding

/-!
# Shortest decimals read back

The decimal that `shortest` gives for a magnitude rounds to that magnitude: `ofDecimal_shortest`.
-/

namespace Screening.Binary64

variable {units a b : Nat} {s t negative : Bool} {m : Magnitude} {d : Decimal} {exponent : Int}

/-- The sign has no part in rounding. -/
theorem ofUnits_sign (finite : ofUnits s a b = .finite t m) :
    ofUnits negative a b = .finite negative m := by
  unfold ofUnits at finite ⊢
  dsimp only at finite ⊢
  split at finite
  · rename_i representable
    obtain ⟨_, rfl⟩ := Binary64.finite.inj finite
    rw [dif_pos representable]
  · cases finite

theorem ofDecimal_sign (digits : Nat) (finite : ofDecimal s digits exponent = .finite t m) :
    ofDecimal negative digits exponent = .finite negative m := by
  rw [ofDecimal_eq_quotient] at finite ⊢
  exact ofUnits_sign finite

theorem ofDecimal_of_readsBack (back : readsBack m.units d = true) :
    ofDecimal negative d.digits d.exponent = .finite negative m := by
  unfold readsBack at back
  split at back
  · rename_i s n finite
    have same : n = m := by
      cases m
      cases n
      exact Magnitude.mk.injEq .. ▸ eq_of_beq back
    subst same
    exact ofDecimal_sign d.digits finite
  · cases back

theorem readsBack_of_neighbour? (found : neighbour? units exponent = some d) :
    readsBack units d = true := by
  unfold neighbour? at found
  dsimp only at found
  generalize onGrid units exponent = grid at found
  generalize (if roundDiv grid.1 grid.2 = grid.1 / grid.2 then _ else _) = far at found
  split at found
  · rename_i near
    obtain rfl := Option.some.inj found
    exact near
  · split at found
    · rename_i back
      obtain rfl := Option.some.inj found
      exact back
    · cases found

theorem five_pow_mul (n : Nat) : units * Nat.pow 5 n * Nat.pow 2 n = units * 10 ^ n := by
  rw [Nat.mul_assoc]
  exact congrArg (units * ·) (Nat.mul_pow 5 2 n).symm

/-- The exact value leaves no rounding to do. -/
theorem ofDecimal_exact (m : Magnitude) :
    ofDecimal negative (m.units * Nat.pow 5 scale) (-scale) = .finite negative m := by
  have noFactor : (-(scale : Int)).toNat = 0 := by omega
  have power : (-(-(scale : Int))).toNat = scale := by omega
  rw [ofDecimal_eq_quotient]
  unfold quotient ofRatio unitsPerOne
  rw [noFactor, power, Nat.pow_zero, Nat.mul_one, five_pow_mul]
  exact ofUnits_exact m (Nat.pow_pos (by decide))

theorem getD_of {α : Type} {P : α → Prop} {found : Option α} {otherwise : α}
    (some : ∀ a, found = some a → P a) (none : P otherwise) : P (found.getD otherwise) := by
  cases found with
  | none => exact none
  | some a => exact some a rfl

theorem ofDecimal_shortest (m : Magnitude) :
    ofDecimal negative (shortest m.units).digits (shortest m.units).exponent =
      .finite negative m := by
  unfold shortest
  -- The exact value is what is left when no shorter decimal is found to read back.
  refine getD_of
    (P := fun d : Decimal => ofDecimal negative d.digits d.exponent = .finite negative m) ?_ ?_
  · intro d found
    obtain ⟨i, _, neighbour⟩ := List.exists_of_findSome?_eq_some found
    exact ofDecimal_of_readsBack (readsBack_of_neighbour? neighbour)
  · exact ofDecimal_exact m

end Screening.Binary64
