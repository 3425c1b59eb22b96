import Screening.Proofs.Binary64.Shortest
import Screening.Proofs.Text.Digits

/-!
# How binary64 numbers are spelled

In whatever style its digits are set out, the text of a finite number is a decimal numeral that is
worth that number: `renderChars_spelling`.
-/

namespace Screening

open Text

/-- A decimal numeral by its parts: the digits before the point, those after it, and the sign and the
digits of the exponent. -/
structure Spelling where
  whole : List Char
  fraction : List Char
  exponent : Option (Bool × List Char)

namespace Spelling

def exponentChars (s : Spelling) : List Char :=
  match s.exponent with
  | none => []
  | some (negative, ds) => 'e' :: (if negative then '-' else '+') :: ds

def fractionChars (s : Spelling) : List Char :=
  if s.fraction = [] then [] else '.' :: s.fraction

def chars (s : Spelling) : List Char :=
  s.whole ++ s.fractionChars ++ s.exponentChars

/-- The exponent, if there is one. -/
def power? (s : Spelling) : Option Int :=
  s.exponent.map fun e => if e.1 then -(value e.2 : Int) else value e.2

def power (s : Spelling) : Int := s.power?.getD 0

/-- What it is worth. -/
def number (s : Spelling) (negative : Bool) : Binary64 :=
  .ofDecimal negative (value (s.whole ++ s.fraction)) (s.power - s.fraction.length)

structure Valid (s : Spelling) : Prop where
  whole : IsDigits s.whole
  starts : s.whole = ['0'] ∨ ∃ c cs, s.whole = c :: cs ∧ c ≠ '0'
  fraction : IsDigits s.fraction
  exponent : ∀ negative ds, s.exponent = some (negative, ds) → ds ≠ [] ∧ IsDigits ds

theorem Valid.head_chars {s : Spelling} (valid : s.Valid) :
    ∃ c cs, s.chars = c :: cs ∧ isAsciiDigit c = true := by
  unfold chars
  rcases valid.starts with zero | ⟨c, cs, starts, _⟩
  · rw [zero]
    exact ⟨'0', _, rfl, rfl⟩
  · rw [starts]
    exact ⟨c, _, rfl, valid.whole c (by rw [starts]; exact List.mem_cons_self)⟩

/-- It has a point or an exponent. -/
def IsFloat (s : Spelling) : Prop := s.fraction ≠ [] ∨ s.exponent ≠ none

end Spelling

namespace FloatStyle

open Binary64

variable {style : FloatStyle} {ds : List Char} {first : Int}

/-- The text is a numeral that is worth what the digits are, the first of which counts
`10 ^ first`. -/
structure Spells (s : Spelling) (text ds : List Char) (first : Int) : Prop where
  valid : s.Valid
  float : s.IsFloat
  chars : text = s.chars
  number : ∀ negative, s.number negative = .ofDecimal negative (value ds) (first + 1 - ds.length)

theorem value_padLeft (width n : Nat) : value (padLeft width (Nat.toDigits 10 n)) = n := by
  unfold padLeft
  rw [value_zeros_append, value_toDigits]

theorem padLeft_ne_nil (width : Nat) (n : Nat) : padLeft width (Nat.toDigits 10 n) ≠ [] := by
  unfold padLeft
  intro none
  exact Nat.toDigits_ne_nil (List.append_eq_nil_iff.mp none).2

theorem isDigits_padLeft (width n : Nat) : IsDigits (padLeft width (Nat.toDigits 10 n)) :=
  isDigits_append.mpr ⟨isDigits_zeros _, isDigits_toDigits n⟩

theorem spells_scientific (digits : IsDigits ds) {c : Char} {cs : List Char} (starts : ds = c :: cs)
    (nonzero : c ≠ '0') (outside : first < style.least ∨ style.bound ≤ first) :
    ∃ s, Spells s (style.place ds first) ds first := by
  subst starts
  let tail := padLeft style.exponentDigits (Nat.toDigits 10 first.natAbs)
  refine ⟨⟨[c], cs, some (decide (first < 0), tail)⟩, ?_, Or.inr (by simp), ?_, ?_⟩
  · have parts := List.forall_mem_cons.mp digits
    refine ⟨fun d member => ?_, Or.inr ⟨c, [], rfl, nonzero⟩, parts.2, ?_⟩
    · rw [List.mem_singleton.mp member]
      exact parts.1
    · intro negative es same
      obtain ⟨_, rfl⟩ := Prod.mk.inj (Option.some.inj same)
      exact ⟨padLeft_ne_nil _ _, isDigits_padLeft _ _⟩
  · unfold place
    rw [if_pos outside]
    cases cs <;> simp [Spelling.chars, Spelling.fractionChars, Spelling.exponentChars, tail]
  · intro negative
    have power : Spelling.power ⟨[c], cs, some (decide (first < 0), tail)⟩ = first := by
      have worth : value tail = first.natAbs := value_padLeft _ _
      show (if decide (first < 0) = true then -(value tail : Int) else value tail) = first
      rw [worth]
      by_cases negativeFirst : first < 0
      · rw [decide_eq_true negativeFirst, if_pos rfl]
        omega
      · rw [decide_eq_false negativeFirst, if_neg Bool.false_ne_true]
        omega
    unfold Spelling.number
    rw [power]
    congr 1
    simp

theorem spells_small (digits : IsDigits ds) (inside : ¬(first < style.least ∨ style.bound ≤ first))
    (negativeFirst : first < 0) (nonempty : ds ≠ []) :
    ∃ s, Spells s (style.place ds first) ds first := by
  refine ⟨⟨['0'], List.replicate (first.natAbs - 1) '0' ++ ds, none⟩, ?_, Or.inl ?_, ?_, ?_⟩
  · refine ⟨isDigits_zeros 1, Or.inl rfl, isDigits_append.mpr ⟨isDigits_zeros _, digits⟩, ?_⟩
    rintro _ _ ⟨⟩
  · simp [nonempty]
  · unfold place
    rw [if_neg inside, if_pos negativeFirst]
    simp [Spelling.chars, Spelling.fractionChars, Spelling.exponentChars, nonempty]
  · intro negative
    unfold Spelling.number
    have worth : value (['0'] ++ (List.replicate (first.natAbs - 1) '0' ++ ds)) = value ds := by
      rw [value_append, value_zeros_append, show value ['0'] = 0 from value_zeros 1, Nat.zero_mul,
        Nat.zero_add]
    dsimp only
    rw [worth]
    congr 1
    simp [Spelling.power, Spelling.power?]
    omega

theorem spells_padded (digits : IsDigits ds) {c : Char} {cs : List Char} (starts : ds = c :: cs)
    (nonzero : c ≠ '0') (inside : ¬(first < style.least ∨ style.bound ≤ first))
    (natural : ¬first < 0) (short : ds.length ≤ first.toNat + 1) :
    ∃ s, Spells s (style.place ds first) ds first := by
  let zeros := List.replicate (first.toNat + 1 - ds.length) '0'
  refine ⟨⟨ds ++ zeros, ['0'], none⟩, ?_, Or.inl (by simp), ?_, ?_⟩
  · refine ⟨isDigits_append.mpr ⟨digits, isDigits_zeros _⟩, Or.inr ⟨c, cs ++ zeros, ?_, nonzero⟩,
      isDigits_zeros 1, ?_⟩
    · rw [starts]
      rfl
    · rintro _ _ ⟨⟩
  · have full : (ds ++ zeros).length = first.toNat + 1 := by
      rw [List.length_append, List.length_replicate]
      omega
    have taken : (ds ++ zeros).take (first.toNat + 1) = ds ++ zeros :=
      List.take_of_length_le (le_of_eq full)
    unfold place
    rw [if_neg inside, if_neg natural]
    dsimp only
    rw [taken, if_pos short]
    simp [Spelling.chars, Spelling.fractionChars, Spelling.exponentChars]
  · intro negative
    have worth : value (ds ++ zeros ++ ['0']) =
        value ds * 10 ^ (first.toNat + 1 - ds.length + 1) := by
      rw [List.append_assoc, ← List.replicate_succ', value_append_zeros]
    unfold Spelling.number
    dsimp only
    rw [worth, ofDecimal_shift]
    congr 1
    simp [Spelling.power, Spelling.power?]
    omega

theorem spells_plain (digits : IsDigits ds) {c : Char} {cs : List Char} (starts : ds = c :: cs)
    (nonzero : c ≠ '0') (inside : ¬(first < style.least ∨ style.bound ≤ first))
    (natural : ¬first < 0) (long : ¬ds.length ≤ first.toNat + 1) :
    ∃ s, Spells s (style.place ds first) ds first := by
  have parts := List.take_append_drop (first.toNat + 1) ds
  have split := isDigits_append.mp (parts.symm ▸ digits)
  have rest : ds.drop (first.toNat + 1) ≠ [] := by
    intro none
    exact long (List.drop_eq_nil_iff.mp none)
  refine ⟨⟨ds.take (first.toNat + 1), ds.drop (first.toNat + 1), none⟩, ?_, Or.inl rest, ?_, ?_⟩
  · refine ⟨split.1, Or.inr ⟨c, cs.take first.toNat, ?_, nonzero⟩, split.2, ?_⟩
    · rw [starts]
      rfl
    · rintro _ _ ⟨⟩
  · have unpadded : first.toNat + 1 - ds.length = 0 := by omega
    unfold place
    rw [if_neg inside, if_neg natural]
    dsimp only
    rw [unpadded, if_neg long]
    simp [Spelling.chars, Spelling.fractionChars, Spelling.exponentChars, rest]
  · intro negative
    unfold Spelling.number
    dsimp only
    rw [parts]
    congr 1
    simp [Spelling.power, Spelling.power?]
    omega

theorem place_spells (style : FloatStyle) (first : Int) (digits : IsDigits ds) {c : Char}
    {cs : List Char} (starts : ds = c :: cs) (nonzero : c ≠ '0') :
    ∃ s, Spells s (style.place ds first) ds first := by
  by_cases outside : first < style.least ∨ style.bound ≤ first
  · exact spells_scientific digits starts nonzero outside
  · by_cases negativeFirst : first < 0
    · exact spells_small digits outside negativeFirst (by simp [starts])
    · by_cases short : ds.length ≤ first.toNat + 1
      · exact spells_padded digits starts nonzero outside negativeFirst short
      · exact spells_plain digits starts nonzero outside negativeFirst short

/-- Zeros at the end aside, the digits of a number that is not zero start with no zero. -/
theorem trimmed_toDigits {n : Nat} (nonzero : n ≠ 0) : ∃ c cs k, c ≠ '0' ∧
    ((Nat.toDigits 10 n).reverse.dropWhile (· == '0')).reverse = c :: cs ∧
    Nat.toDigits 10 n = c :: cs ++ List.replicate k '0' := by
  obtain ⟨k, parts⟩ := exists_zeros (Nat.toDigits 10 n)
  have head := head_toDigits nonzero
  cases trimmed : ((Nat.toDigits 10 n).reverse.dropWhile (· == '0')).reverse with
  | nil =>
    rw [trimmed, List.nil_append] at parts
    cases k with
    | zero => exact absurd parts Nat.toDigits_ne_nil
    | succ k =>
      rw [parts] at head
      exact absurd rfl head
  | cons c cs =>
    rw [trimmed] at parts
    rw [parts] at head
    exact ⟨c, cs, k, fun zero => head (congrArg some zero), rfl, parts⟩

theorem shortest_digits_ne_zero {m : Magnitude} (nonzero : m.units ≠ 0) :
    (shortest m.units).digits ≠ 0 := by
  intro none
  have back : ofDecimal false (shortest m.units).digits (shortest m.units).exponent = _ :=
    ofDecimal_shortest m
  rw [none, ofDecimal, if_pos rfl] at back
  obtain ⟨_, same⟩ := Binary64.finite.inj back
  rw [← same] at nonzero
  exact nonzero rfl

theorem digits_spelling (style : FloatStyle) (m : Magnitude) : ∃ s : Spelling, s.Valid ∧
    s.IsFloat ∧ style.digits m.units = s.chars ∧
    ∀ negative, s.number negative = .finite negative m := by
  unfold digits
  by_cases zero : m.units = 0
  · obtain rfl : m = .zero := by
      cases m
      exact (Magnitude.mk.injEq ..).mpr zero
    refine ⟨⟨['0'], ['0'], none⟩, ⟨isDigits_zeros 1, Or.inl rfl, isDigits_zeros 1, ?_⟩, ?_, ?_, ?_⟩
    · rintro _ _ ⟨⟩
    · exact Or.inl (List.cons_ne_nil _ _)
    · rfl
    · intro negative
      rfl
  · obtain ⟨c, cs, k, nonzero, trimmed, parts⟩ := trimmed_toDigits (shortest_digits_ne_zero zero)
    have digits := isDigits_append.mp (parts ▸ isDigits_toDigits (shortest m.units).digits)
    rw [if_neg zero]
    dsimp only
    rw [trimmed]
    generalize first : (shortest m.units).exponent +
      ((Nat.toDigits 10 (shortest m.units).digits).length : Int) - 1 = n
    obtain ⟨s, spells⟩ := place_spells style n digits.1 rfl nonzero
    refine ⟨s, spells.valid, spells.float, spells.chars, fun negative => ?_⟩
    have exponent : n + 1 - ((c :: cs).length : Int) = (shortest m.units).exponent + k := by
      rw [parts, List.length_append, List.length_replicate] at first
      omega
    have worth : value (c :: cs) * 10 ^ k = (shortest m.units).digits := by
      rw [← value_append_zeros, ← parts, value_toDigits]
    rw [spells.number, exponent, ← ofDecimal_shift, worth, ofDecimal_shortest]

/-- The text of a finite number is a sign and a numeral. -/
theorem renderChars_spelling (style : FloatStyle) (negative : Bool) (m : Magnitude) :
    ∃ s : Spelling, s.Valid ∧ s.IsFloat ∧
      style.renderChars (.finite negative m) = (if negative then ['-'] else []) ++ s.chars ∧
      s.number negative = .finite negative m := by
  obtain ⟨s, valid, float, chars, number⟩ := style.digits_spelling m
  refine ⟨s, valid, float, ?_, number negative⟩
  rw [← chars]
  rfl

end FloatStyle

end Screening
