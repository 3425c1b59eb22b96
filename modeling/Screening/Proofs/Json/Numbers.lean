import Screening.Json.Reader
import Screening.Json.Writer
import Screening.Proofs.Binary64.Spelling
import Screening.Proofs.Text.Runs

/-!
# Reading written numbers

A numeral is read up to its end when what follows does not continue it. So integers of as many
digits as are read come back, and finite binary64 numbers do in any style: `readNumber_writeInt` and
`readNumber_renderChars`.
-/

namespace Screening.Json

open Text

def points (cs : List Char) : List CodePoint := cs.map .char

theorem points_append (cs ds : List Char) : points (cs ++ ds) = points cs ++ points ds :=
  List.map_append

/-- What does not continue a number. -/
def EndsNumber (ps : List CodePoint) : Prop :=
  ∀ p, ps.head? = some p → isDigit p = false ∧ p ≠ '.' ∧ p ≠ 'e' ∧ p ≠ 'E'

variable {ds : List Char} {rest : List CodePoint} {s : Spelling} {negative : Bool}

/-! ### Runs of digits -/

theorem isDigit_of_mem (digits : IsDigits ds) : ∀ p ∈ points ds, isDigit p = true := by
  intro p member
  obtain ⟨c, digit, rfl⟩ := List.mem_map.mp member
  exact digits c digit

theorem digitsValue_points (digits : IsDigits ds) : digitsValue (points ds) = value ds := by
  have values : (points ds).filterMap digit? = ds.map asciiDigitValue := by
    induction ds with
    | nil => rfl
    | cons c cs ih =>
      have parts := List.forall_mem_cons.mp digits
      have digit : digit? (.char c) = some (asciiDigitValue c) := if_pos parts.1
      show (CodePoint.char c :: points cs).filterMap digit? = _
      rw [List.filterMap_cons_some digit, ih parts.2, List.map_cons]
  unfold digitsValue
  rw [values, ofDigits_map]

theorem takeWhile_digits (digits : IsDigits ds)
    (stops : ∀ p, rest.head? = some p → isDigit p = false) :
    (points ds ++ rest).takeWhile isDigit = points ds ∧
      (points ds ++ rest).dropWhile isDigit = rest :=
  ⟨takeWhile_append_of_stops (isDigit_of_mem digits) stops,
    dropWhile_append_of_stops (isDigit_of_mem digits) stops⟩

/-! ### The parts of a numeral -/

theorem readWhole_points (valid : s.Valid) (stops : ∀ p, rest.head? = some p → isDigit p = false) :
    readWhole (points s.whole ++ rest) = some (points s.whole, rest) := by
  rcases valid.starts with zero | ⟨c, cs, starts, nonzero⟩
  · rw [zero]
    rfl
  · obtain ⟨taken, left⟩ := takeWhile_digits valid.whole stops
    have digit : isDigit (.char c) = true := valid.whole c (by rw [starts]; exact List.mem_cons_self)
    have shape : points s.whole ++ rest = .char c :: (points cs ++ rest) := by
      rw [starts]
      rfl
    rw [shape] at taken left ⊢
    unfold readWhole
    split
    · rename_i same
      exact absurd (CodePoint.char.inj (List.cons.inj same).1) nonzero
    · rename_i p ps _ same
      obtain ⟨rfl, rfl⟩ := List.cons.inj same
      rw [if_pos digit, taken, left]
    · rename_i same
      cases same

theorem readFraction_points (valid : s.Valid)
    (stops : ∀ p, rest.head? = some p → isDigit p = false ∧ p ≠ '.') :
    readFraction (points s.fractionChars ++ rest) = (points s.fraction, rest) := by
  unfold Spelling.fractionChars
  cases fraction : s.fraction with
  | nil =>
    rw [if_pos rfl]
    show readFraction rest = ([], rest)
    unfold readFraction
    split
    · exact absurd rfl (stops _ rfl).2
    · rfl
  | cons c cs =>
    have digits : IsDigits (c :: cs) := fraction ▸ valid.fraction
    obtain ⟨taken, left⟩ := takeWhile_digits digits fun p head => (stops p head).1
    have digit : isDigit (.char c) = true := digits c List.mem_cons_self
    rw [if_neg (List.cons_ne_nil c cs)]
    show (if isDigit (.char c) then
      ((points (c :: cs) ++ rest).takeWhile isDigit, (points (c :: cs) ++ rest).dropWhile isDigit)
      else _) = _
    rw [if_pos digit, taken, left]

theorem readExponent_points (valid : s.Valid) (ends : EndsNumber rest) :
    readExponent (points s.exponentChars ++ rest) = (s.power?, rest) := by
  unfold Spelling.exponentChars Spelling.power?
  cases exponent : s.exponent with
  | none =>
    show readExponent rest = (none, rest)
    unfold readExponent
    split
    · rename_i p ps
      obtain ⟨_, _, small, capital⟩ := ends p rfl
      rw [if_neg (not_or.mpr ⟨small, capital⟩)]
    · rfl
  | some e =>
    obtain ⟨negative, ds⟩ := e
    obtain ⟨nonempty, digits⟩ := valid.exponent negative ds exponent
    obtain ⟨taken, left⟩ := takeWhile_digits digits fun p head => (ends p head).1
    have sign : readSign (.char (if negative then '-' else '+') :: (points ds ++ rest)) =
        (negative, points ds ++ rest) := by
      cases negative <;> rfl
    have filled : (points ds).isEmpty = false := by
      cases ds with
      | nil => exact absurd rfl nonempty
      | cons c cs => rfl
    show readExponent (.char 'e' :: .char (if negative then '-' else '+') :: (points ds ++ rest)) = _
    unfold readExponent
    dsimp only
    rw [if_pos (Or.inl rfl), sign]
    dsimp only
    rw [taken, left, filled, digitsValue_points digits]
    rfl

theorem stops_exponentChars (s : Spelling) (ends : EndsNumber rest) :
    ∀ p, (points s.exponentChars ++ rest).head? = some p → isDigit p = false ∧ p ≠ '.' := by
  unfold Spelling.exponentChars
  cases s.exponent with
  | none => exact fun p head => ⟨(ends p head).1, (ends p head).2.1⟩
  | some e =>
    intro p head
    obtain rfl := Option.some.inj head
    exact ⟨rfl, by decide⟩

theorem stops_fractionChars (s : Spelling)
    (ends : ∀ p, rest.head? = some p → isDigit p = false ∧ p ≠ '.') :
    ∀ p, (points s.fractionChars ++ rest).head? = some p → isDigit p = false := by
  unfold Spelling.fractionChars
  split
  · exact fun p head => (ends p head).1
  · intro p head
    obtain rfl := Option.some.inj head
    rfl

/-! ### Numerals -/

/-- What is read after the sign. -/
def readUnsigned (negative : Bool) (ps : List CodePoint) : Except Fault (Scalar × List CodePoint) :=
  match readWhole ps with
  | none => fail .value
  | some (whole, afterWhole) =>
    let (fraction, afterFraction) := readFraction afterWhole
    let (exponent, rest) := readExponent afterFraction
    if fraction.isEmpty && exponent.isNone then
      if digitLimit < whole.length then .error (.oversized whole.length)
      else
        let n : Int := digitsValue whole
        .ok (.int (if negative then -n else n), rest)
    else
      .ok (.float (.ofDecimal negative (digitsValue (whole ++ fraction))
        (exponent.getD 0 - fraction.length)), rest)

theorem readNumber_negative (ps : List CodePoint) :
    readNumber ('-' :: ps) = readUnsigned true ps :=
  rfl

theorem readNumber_of_ne {p : CodePoint} (unsigned : p ≠ '-') (ps : List CodePoint) :
    readNumber (p :: ps) = readUnsigned false (p :: ps) := by
  unfold readNumber
  split
  · rename_i n rest sign
    split at sign
    · rename_i same
      exact absurd (List.cons.inj same).1 unsigned
    · obtain ⟨rfl, rfl⟩ := Prod.mk.inj sign
      rfl

theorem readNumber_sign (valid : s.Valid) (rest : List CodePoint) (negative : Bool) :
    readNumber (points ((if negative then ['-'] else []) ++ s.chars) ++ rest) =
      readUnsigned negative (points s.chars ++ rest) := by
  cases negative with
  | true => exact readNumber_negative _
  | false =>
    obtain ⟨c, cs, shape, digit⟩ := valid.head_chars
    have unsigned : CodePoint.char c ≠ '-' := by
      rintro ⟨⟩
      cases digit
    rw [if_neg Bool.false_ne_true, List.nil_append, shape]
    exact readNumber_of_ne unsigned _

/-- What is read of a numeral, whichever kind of number it is. -/
theorem readNumber_chars (valid : s.Valid) (ends : EndsNumber rest) (negative : Bool) :
    readNumber (points ((if negative then ['-'] else []) ++ s.chars) ++ rest) =
      if (points s.fraction).isEmpty && s.power?.isNone then
        if digitLimit < s.whole.length then .error (.oversized s.whole.length)
        else .ok (.int (if negative then -(value s.whole : Int) else value s.whole), rest)
      else .ok (.float (s.number negative), rest) := by
  have stops := stops_exponentChars s ends
  have whole := readWhole_points valid (stops_fractionChars s stops)
  have fraction := readFraction_points valid stops
  have exponent := readExponent_points valid ends
  have length (cs : List Char) : (points cs).length = cs.length := List.length_map _
  rw [readNumber_sign valid]
  unfold readUnsigned Spelling.chars
  rw [points_append, points_append, List.append_assoc, List.append_assoc, whole]
  dsimp only
  rw [fraction]
  dsimp only
  rw [exponent]
  dsimp only
  rw [← points_append, digitsValue_points valid.whole,
    digitsValue_points (isDigits_append.mpr ⟨valid.whole, valid.fraction⟩), length, length]
  rfl

theorem toDigits_starts (n : Nat) : Nat.toDigits 10 n = ['0'] ∨
    ∃ c cs, Nat.toDigits 10 n = c :: cs ∧ c ≠ '0' := by
  by_cases zero : n = 0
  · rw [zero]
    exact Or.inl rfl
  · obtain ⟨c, cs, k, nonzero, _, parts⟩ := FloatStyle.trimmed_toDigits zero
    exact Or.inr ⟨c, cs ++ List.replicate k '0', parts, nonzero⟩

theorem readNumber_writeInt {n : Int} (short : (Nat.toDigits 10 n.natAbs).length ≤ digitLimit)
    (ends : EndsNumber rest) : readNumber (points (writeInt n) ++ rest) = .ok (.int n, rest) := by
  let s : Spelling := ⟨Nat.toDigits 10 n.natAbs, [], none⟩
  have valid : s.Valid := by
    refine ⟨isDigits_toDigits _, toDigits_starts _, ?_, ?_⟩
    · exact isDigits_zeros 0
    · rintro _ _ ⟨⟩
  have written : writeInt n = (if decide (n < 0) then ['-'] else []) ++ s.chars := by
    have chars : s.chars = Nat.toDigits 10 n.natAbs := by
      simp [Spelling.chars, Spelling.fractionChars, Spelling.exponentChars, s]
    unfold writeInt
    rw [chars]
    by_cases below : n < 0 <;> simp [below]
  have worth : value s.whole = n.natAbs := value_toDigits n.natAbs
  rw [written, readNumber_chars valid ends, if_pos (by rfl), if_neg (Nat.not_lt.mpr short), worth]
  by_cases below : n < 0
  · rw [decide_eq_true below, if_pos rfl]
    congr 3
    omega
  · rw [decide_eq_false below, if_neg Bool.false_ne_true]
    congr 3
    omega

theorem readNumber_renderChars (style : FloatStyle) (m : Magnitude) (ends : EndsNumber rest) :
    readNumber (points (style.renderChars (.finite negative m)) ++ rest) =
      .ok (.float (.finite negative m), rest) := by
  obtain ⟨s, valid, float, chars, number⟩ := style.renderChars_spelling negative m
  have noInteger : ¬((points s.fraction).isEmpty && s.power?.isNone) = true := by
    intro integer
    obtain ⟨noFraction, noExponent⟩ := Bool.and_eq_true_iff.mp integer
    rcases float with fraction | exponent
    · exact fraction (List.map_eq_nil_iff.mp (List.isEmpty_iff.mp noFraction))
    · unfold Spelling.power? at noExponent
      rw [Option.isNone_map] at noExponent
      exact exponent (Option.isNone_iff_eq_none.mp noExponent)
  rw [chars, readNumber_chars valid ends, if_neg noInteger, number]

end Screening.Json
