import Mathlib.Algebra.Order.Field.Basic
import Mathlib.Algebra.Order.Ring.Rat
import Mathlib.Data.Int.CharZero
import Mathlib.Order.WithBot
import Screening.Data

/-!
# Numbers as exact values

Every number but NaN has a place among the rational numbers with an infinity at either end, and the
comparisons of numbers are those of the places: `equal_iff`, `less_iff`, `lessOrEqual_iff`.
-/

namespace Screening

/-- The rational numbers with an infinity at either end. -/
abbrev ExactValue := WithBot (WithTop ℚ)

namespace ExactValue

def ofRat (q : ℚ) : ExactValue := (q : WithTop ℚ)

theorem ofRat_lt {p q : ℚ} : ofRat p < ofRat q ↔ p < q := by
  rw [ofRat, ofRat, WithBot.coe_lt_coe, WithTop.coe_lt_coe]

theorem ofRat_inj {p q : ℚ} : ofRat p = ofRat q ↔ p = q := by
  rw [ofRat, ofRat, WithBot.coe_inj, WithTop.coe_inj]

theorem bot_lt_ofRat (q : ℚ) : ⊥ < ofRat q := WithBot.bot_lt_coe _

theorem ofRat_lt_top (q : ℚ) : ofRat q < ⊤ := WithBot.coe_lt_coe.mpr (WithTop.coe_lt_top q)

end ExactValue

namespace Number

/-- Every number but NaN. -/
abbrev Valued := { n : Number // n ≠ .float .nan }

def Valued.exact : Valued → ExactValue
  | ⟨.int n, _⟩ => .ofRat n
  | ⟨.float .nan, isNumber⟩ => absurd rfl isNumber
  | ⟨.float (.infinite negative), _⟩ => if negative then ⊥ else ⊤
  | ⟨.float (.finite negative m), _⟩ =>
    .ofRat ((if negative then -(m.units : ℚ) else m.units) / 2 ^ Binary64.scale)

def data : Number → Data
  | .int n => .int n
  | .float x => .float x

def Valued.data (n : Valued) : Data := n.1.data

end Number

/-- Where a place stands on that line. -/
def Place.exact : Place → ExactValue
  | .lowest => ⊥
  | .exactly units => .ofRat (units / 2 ^ Binary64.scale)
  | .highest => ⊤

/-! ### The order of places -/

theorem Binary64.unit_pos : (0 : ℚ) < 2 ^ scale := pow_pos two_pos _

namespace Place

open ExactValue

theorem exact_lt {p q : Place} : p.exact < q.exact ↔ p.lt q = true := by
  cases p with
  | lowest =>
    cases q with
    | lowest => simp [exact, lt]
    | exactly b => simp [exact, lt, bot_lt_ofRat]
    | highest => simp [exact, lt]
  | exactly a =>
    cases q with
    | lowest => simp [exact, lt]
    | exactly b =>
      rw [exact, exact, ofRat_lt, div_lt_div_iff_of_pos_right Binary64.unit_pos, Int.cast_lt, lt,
        decide_eq_true_eq]
    | highest => simp [exact, lt, ofRat_lt_top]
  | highest => cases q <;> simp [exact, lt]

theorem exact_inj {p q : Place} : p.exact = q.exact ↔ p = q := by
  cases p with
  | lowest =>
    cases q with
    | lowest => simp
    | exactly b => simp [exact, (bot_lt_ofRat _).ne]
    | highest => simp [exact]
  | exactly a =>
    cases q with
    | lowest => simp [exact, (bot_lt_ofRat _).ne']
    | exactly b =>
      rw [exact, exact, ofRat_inj, div_left_inj' Binary64.unit_pos.ne', Int.cast_inj, exactly.injEq]
    | highest => simp [exact, (ofRat_lt_top _).ne]
  | highest =>
    cases q with
    | lowest => simp [exact]
    | exactly b => simp [exact, (ofRat_lt_top _).ne']
    | highest => simp

end Place

theorem Binary64.cast_unitsPerOne : (unitsPerOne : ℚ) = 2 ^ scale := by
  unfold unitsPerOne
  generalize scale = s
  exact Nat.cast_pow 2 s

theorem Binary64.cast_signedUnits (negative : Bool) (m : Magnitude) :
    (signedUnits negative m : ℚ) = if negative then -(m.units : ℚ) else m.units := by
  cases negative with
  | false => exact Int.cast_natCast _
  | true => exact (Int.cast_neg _).trans (congrArg Neg.neg (Int.cast_natCast _))

/-! ### The order of numbers -/

namespace Number

theorem place?_valued (n : Valued) : n.1.place?.map Place.exact = some n.exact := by
  obtain ⟨n, isNumber⟩ := n
  rcases n with k | x
  · have value : ((k * Binary64.unitsPerOne : Int) : ℚ) / 2 ^ Binary64.scale = k := by
      rw [Int.cast_mul, Int.cast_natCast, Binary64.cast_unitsPerOne,
        mul_div_cancel_right₀ _ Binary64.unit_pos.ne']
    exact congrArg (some ∘ ExactValue.ofRat) value
  · rcases x with _ | negative | ⟨negative, m⟩
    · exact absurd rfl isNumber
    · cases negative <;> rfl
    · rw [Valued.exact, ← Binary64.cast_signedUnits]
      rfl

theorem exists_place (n : Valued) : ∃ p, n.1.place? = some p ∧ p.exact = n.exact :=
  Option.map_eq_some_iff.mp (place?_valued n)

theorem equal_iff (m n : Valued) : m.1.equal n.1 = true ↔ m.exact = n.exact := by
  obtain ⟨p, atP, isP⟩ := exists_place m
  obtain ⟨q, atQ, isQ⟩ := exists_place n
  rw [equal, atP, atQ, ← isP, ← isQ, Place.exact_inj, decide_eq_true_eq]

theorem less_iff (m n : Valued) : m.1.less n.1 = true ↔ m.exact < n.exact := by
  obtain ⟨p, atP, isP⟩ := exists_place m
  obtain ⟨q, atQ, isQ⟩ := exists_place n
  rw [less, atP, atQ, ← isP, ← isQ, Place.exact_lt]

theorem lessOrEqual_iff (m n : Valued) : m.1.lessOrEqual n.1 = true ↔ m.exact ≤ n.exact := by
  rw [lessOrEqual, Bool.or_eq_true, less_iff, equal_iff, le_iff_lt_or_eq]

/-! NaN has no place, so it is in no relation to any number. -/

theorem valued_of_place? {n : Number} {p : Place} (found : n.place? = some p) :
    n ≠ .float .nan := by
  rintro rfl
  cases found

theorem valued_of_equal {m n : Number} (holds : m.equal n = true) :
    m ≠ .float .nan ∧ n ≠ .float .nan := by
  unfold equal at holds
  split at holds
  · rename_i atM atN
    exact ⟨valued_of_place? atM, valued_of_place? atN⟩
  · cases holds

theorem valued_of_less {m n : Number} (holds : m.less n = true) :
    m ≠ .float .nan ∧ n ≠ .float .nan := by
  unfold less at holds
  split at holds
  · rename_i atM atN
    exact ⟨valued_of_place? atM, valued_of_place? atN⟩
  · cases holds

theorem valued_of_lessOrEqual {m n : Number} (holds : m.lessOrEqual n = true) :
    m ≠ .float .nan ∧ n ≠ .float .nan := by
  rw [lessOrEqual, Bool.or_eq_true] at holds
  rcases holds with less | equal
  · exact valued_of_less less
  · exact valued_of_equal equal

theorem nan_ne_data (n : Valued) : Data.float .nan ≠ n.data := by
  obtain ⟨n, isNumber⟩ := n
  intro same
  cases n with
  | int k => cases same
  | float x =>
    cases same
    exact isNumber rfl

end Number

end Screening
