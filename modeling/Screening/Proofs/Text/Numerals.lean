import Screening.Binary64.Decimal
import Screening.Proofs.Binary64.Spelling
import Screening.Proofs.Text.Runs
import Screening.Text.Numeral

/-!
# Reading numerals

An integer is read from its decimal digits, and a finite binary64 number from its spelling, which is
no integer. What is read as an integer has no more digits than were read.
-/

namespace Screening.Text.Numeral

variable {c : Char} {cs ds : List Char} {v : Nat} {vs : List Nat} {n : Int} {negative : Bool}
  {s : Spelling}

/-! ### Digits -/

theorem digitValue?_of_isAsciiDigit (digit : isAsciiDigit c = true) :
    digitValue? c = some (asciiDigitValue c) := by
  simp only [isAsciiDigit, Bool.and_eq_true, decide_eq_true_eq] at digit
  have first : 0x30 ≤ c.toNat := digit.1
  have last : c.toNat ≤ 0x39 := digit.2
  unfold digitValue? digitZeros
  rw [List.find?_cons_of_pos (by simp; omega)]
  rfl

theorem digitValue?_lt (found : digitValue? c = some v) : v < 10 := by
  obtain ⟨first, run, rfl⟩ := Option.map_eq_some_iff.mp found
  have inside := List.find?_some run
  simp only [Bool.and_eq_true, decide_eq_true_eq] at inside
  omega

theorem groups?_of_isDigits (digits : IsDigits ds) (nonempty : ds ≠ []) :
    groups? digitValue? ds = some (ds.map asciiDigitValue) := by
  fun_induction groups? digitValue? ds with
  | case1 => exact absurd rfl nonempty
  | case2 c => rw [digitValue?_of_isAsciiDigit (digits c List.mem_cons_self)]; rfl
  | case3 c rest _ =>
    have digit := digits '_' (List.mem_cons_of_mem c List.mem_cons_self)
    cases digit
  | case4 c rest more _ ih =>
    have others : IsDigits rest := fun x member => digits x (List.mem_cons_of_mem c member)
    rw [digitValue?_of_isAsciiDigit (digits c List.mem_cons_self),
      ih others (by rintro rfl; exact more rfl)]
    rfl

/-- The characters of groups are digits and underscores, and their values those of digits. -/
theorem groups?_eq_some (found : groups? digitValue? cs = some vs) :
    vs ≠ [] ∧ (∀ v ∈ vs, v < 10) ∧ ∀ c ∈ cs, c = '_' ∨ (digitValue? c).isSome = true := by
  have step {c : Char} {rest : List Char} {vs : List Nat}
      (found : ((digitValue? c).bind fun v => (groups? digitValue? rest).bind fun more =>
        some (v :: more)) = some vs) : ∃ v more, digitValue? c = some v ∧
        groups? digitValue? rest = some more ∧ vs = v :: more := by
    obtain ⟨v, digit, found⟩ := Option.bind_eq_some_iff.mp found
    obtain ⟨more, others, same⟩ := Option.bind_eq_some_iff.mp found
    exact ⟨v, more, digit, others, (Option.some.inj same).symm⟩
  fun_induction groups? digitValue? cs generalizing vs with
  | case1 => cases found
  | case2 c =>
    obtain ⟨v, digit, rfl⟩ := Option.map_eq_some_iff.mp found
    refine ⟨List.cons_ne_nil _ _, List.forall_mem_singleton.mpr (digitValue?_lt digit), ?_⟩
    rw [List.forall_mem_singleton, digit]
    exact Or.inr rfl
  | case3 c rest ih =>
    obtain ⟨v, more, digit, others, rfl⟩ := step found
    obtain ⟨_, small, chars⟩ := ih others
    refine ⟨List.cons_ne_nil _ _, List.forall_mem_cons.mpr ⟨digitValue?_lt digit, small⟩, ?_⟩
    rw [List.forall_mem_cons, List.forall_mem_cons, digit]
    exact ⟨Or.inr rfl, Or.inl rfl, chars⟩
  | case4 c rest _ _ ih =>
    obtain ⟨v, more, digit, others, rfl⟩ := step found
    obtain ⟨_, small, chars⟩ := ih others
    refine ⟨List.cons_ne_nil _ _, List.forall_mem_cons.mpr ⟨digitValue?_lt digit, small⟩, ?_⟩
    rw [List.forall_mem_cons, digit]
    exact ⟨Or.inr rfl, chars⟩

/-! ### Integers -/

/-- A sign is split off what starts with a digit. -/
theorem splitSign_digit (negative : Bool) (digit : isAsciiDigit c = true) :
    splitSign ((if negative then ['-'] else []) ++ c :: cs) = (negative, c :: cs) := by
  cases negative with
  | true => rfl
  | false =>
    show splitSign (c :: cs) = _
    unfold splitSign
    split
    · rename_i same
      obtain ⟨rfl, _⟩ := List.cons.inj same
      cases digit
    · rename_i same
      obtain ⟨rfl, _⟩ := List.cons.inj same
      cases digit
    · rfl

theorem digits?_eq (value? : Char → Option Nat) (cs : List Char) : digits? value? cs =
    (groups? value? (splitSign cs).2).map ((splitSign cs).1, ·) :=
  rfl

theorem digits?_of_isDigits (negative : Bool) (digits : IsDigits ds) (nonempty : ds ≠ []) :
    digits? digitValue? ((if negative then ['-'] else []) ++ ds) =
      some (negative, ds.map asciiDigitValue) := by
  obtain ⟨c, cs, rfl⟩ := List.exists_cons_of_ne_nil nonempty
  rw [digits?_eq, splitSign_digit negative (digits c List.mem_cons_self),
    groups?_of_isDigits digits nonempty]
  rfl

/-- Also a plus sign is read. -/
theorem digits?_exponent (negative : Bool) (digits : IsDigits ds) (nonempty : ds ≠ []) :
    digits? digitValue? ((if negative then '-' else '+') :: ds) =
      some (negative, ds.map asciiDigitValue) := by
  rw [digits?_eq]
  cases negative with
  | true =>
    show (groups? digitValue? ds).map _ = _
    rw [groups?_of_isDigits digits nonempty]
    rfl
  | false =>
    show (groups? digitValue? ds).map _ = _
    rw [groups?_of_isDigits digits nonempty]
    rfl

theorem toList_toString (n : Int) : (toString n).toList =
    (if decide (n < 0) then ['-'] else []) ++ Nat.toDigits 10 n.natAbs := by
  rw [Int.toString_eq_repr, Int.repr_eq_if]
  by_cases below : n < 0
  · have magnitude : (-n).toNat = n.natAbs := by omega
    rw [if_neg (by omega), decide_eq_true below, String.toList_append, Nat.toList_repr, magnitude]
    rfl
  · have magnitude : n.toNat = n.natAbs := by omega
    rw [if_pos (by omega), decide_eq_false below, Nat.toList_repr, magnitude]
    rfl

theorem int?_toString (short : (Nat.toDigits 10 n.natAbs).length ≤ intDigitLimit) :
    int? digitValue? (toString n).toList = some n := by
  unfold int?
  rw [toList_toString, digits?_of_isDigits _ (isDigits_toDigits _) Nat.toDigits_ne_nil]
  dsimp only
  rw [List.length_map, if_pos short, ofDigits_map, value_toDigits]
  unfold signed
  by_cases below : n < 0
  · rw [decide_eq_true below, if_pos rfl]
    congr 1
    omega
  · rw [decide_eq_false below, if_neg Bool.false_ne_true]
    congr 1
    omega

/-- What is read as an integer needs no more digits than are read. -/
theorem length_toDigits_of_int? (found : int? digitValue? cs = some n) :
    (Nat.toDigits 10 n.natAbs).length ≤ intDigitLimit := by
  unfold int? at found
  split at found
  · rename_i digits
    rw [digits?_eq] at digits
    obtain ⟨vs, grouped, same⟩ := Option.map_eq_some_iff.mp digits
    obtain ⟨nonempty, small, _⟩ := groups?_eq_some grouped
    obtain ⟨rfl, rfl⟩ := Prod.mk.inj same
    split at found
    · rename_i short
      have magnitude : n.natAbs = ofDigits vs := by
        rw [← Option.some.inj found]
        unfold signed
        split <;> omega
      rw [magnitude]
      exact (length_toDigits_ofDigits small nonempty).trans short
    · cases found
  · cases found

theorem int?_eq_none (member : c ∈ (splitSign cs).2) (other : digitValue? c = none)
    (mark : c ≠ '_') : int? digitValue? cs = none := by
  unfold int?
  rw [digits?_eq]
  cases grouped : groups? digitValue? (splitSign cs).2 with
  | none => rfl
  | some vs =>
    rcases (groups?_eq_some grouped).2.2 c member with rfl | digit
    · exact absurd rfl mark
    · rw [other] at digit
      cases digit

/-! ### Binary64 numbers -/

theorem lowerAscii_digit (digit : isAsciiDigit c = true) : lowerAscii c = c := by
  simp only [isAsciiDigit, Bool.and_eq_true, decide_eq_true_eq] at digit
  refine if_neg fun capital => ?_
  have last : c.toNat ≤ '9'.toNat := digit.2
  have first : 'A'.toNat ≤ c.toNat := capital.1
  have order : '9'.toNat < 'A'.toNat := by decide
  omega

/-- The words for infinity and for what is no number start with no digit. -/
theorem word?_digit (negative : Bool) (digit : isAsciiDigit c = true) (cs : List Char) :
    word? negative (c :: cs) = none := by
  have other {w : String} {x : Char} (head : w.toList.head? = some x)
      (letter : isAsciiDigit x = false) : String.ofList ((c :: cs).map lowerAscii) ≠ w := by
    rintro rfl
    rw [String.toList_ofList, List.map_cons, lowerAscii_digit digit] at head
    obtain rfl := Option.some.inj head
    rw [digit] at letter
    cases letter
  unfold word?
  split
  · rename_i same
    exact absurd same (other (x := 'i') rfl rfl)
  · rename_i same
    exact absurd same (other (x := 'i') rfl rfl)
  · rename_i same
    exact absurd same (other (x := 'n') rfl rfl)
  · rfl

theorem side?_of_isDigits (digits : IsDigits ds) :
    side? digitValue? ds = some (ds.map asciiDigitValue) := by
  unfold side?
  cases ds with
  | nil => rfl
  | cons c cs => exact groups?_of_isDigits digits (List.cons_ne_nil c cs)

theorem not_mark_of_isDigits (digits : IsDigits ds) :
    ∀ c ∈ ds, (!isExponentMark c) = true ∧ (c != '.') = true := by
  intro c member
  have digit := digits c member
  constructor
  · unfold isExponentMark
    by_contra mark
    simp only [Bool.not_eq_true, Bool.not_eq_false', Bool.or_eq_true, beq_iff_eq] at mark
    rcases mark with rfl | rfl <;> cases digit
  · rw [bne_iff_ne]
    rintro rfl
    cases digit

/-- Where the exponent starts, and where the fraction does. -/
theorem takeWhile_chars (valid : s.Valid) :
    s.chars.takeWhile (!isExponentMark ·) = s.whole ++ s.fractionChars ∧
    s.chars.dropWhile (!isExponentMark ·) = s.exponentChars := by
  have passes : ∀ c ∈ s.whole ++ s.fractionChars, (!isExponentMark c) = true := by
    intro c member
    rcases List.mem_append.mp member with whole | fraction
    · exact (not_mark_of_isDigits valid.whole c whole).1
    · unfold Spelling.fractionChars at fraction
      split at fraction
      · cases fraction
      · rcases List.mem_cons.mp fraction with rfl | fraction
        · rfl
        · exact (not_mark_of_isDigits valid.fraction c fraction).1
  have stops : ∀ c, s.exponentChars.head? = some c → (!isExponentMark c) = false := by
    unfold Spelling.exponentChars
    intro c head
    split at head
    · cases head
    · obtain rfl := Option.some.inj head
      rfl
  exact ⟨takeWhile_append_of_stops passes stops, dropWhile_append_of_stops passes stops⟩

theorem takeWhile_mantissa (valid : s.Valid) :
    (s.whole ++ s.fractionChars).takeWhile (· != '.') = s.whole ∧
    ((s.whole ++ s.fractionChars).dropWhile (· != '.')).drop 1 = s.fraction := by
  have passes : ∀ c ∈ s.whole, (c != '.') = true := fun c member =>
    (not_mark_of_isDigits valid.whole c member).2
  have point : (∀ c, s.fractionChars.head? = some c → (c != '.') = false) ∧
      s.fractionChars.drop 1 = s.fraction := by
    unfold Spelling.fractionChars
    split
    · rename_i none
      exact ⟨by rintro c ⟨⟩, none.symm⟩
    · exact ⟨by rintro c ⟨⟩; rfl, rfl⟩
  rw [takeWhile_append_of_stops passes point.1, dropWhile_append_of_stops passes point.1]
  exact ⟨rfl, point.2⟩

theorem unsignedFloat?_chars (valid : s.Valid) (negative : Bool) :
    unsignedFloat? digitValue? negative s.chars = some (s.number negative) := by
  obtain ⟨mantissa, exponent⟩ := takeWhile_chars valid
  obtain ⟨whole, fraction⟩ := takeWhile_mantissa valid
  have nonempty : s.whole ≠ [] := by
    rcases valid.starts with one | ⟨c, cs, more, _⟩
    · rw [one]
      exact List.cons_ne_nil _ _
    · rw [more]
      exact List.cons_ne_nil _ _
  have filled : ((s.whole.map asciiDigitValue).isEmpty && (s.fraction.map asciiDigitValue).isEmpty) =
      false := by
    rw [Bool.and_eq_false_iff, List.isEmpty_eq_false_iff]
    exact Or.inl (fun none => nonempty (List.map_eq_nil_iff.mp none))
  have worth : ofDigits (s.whole.map asciiDigitValue ++ s.fraction.map asciiDigitValue) =
      value (s.whole ++ s.fraction) := by
    rw [← List.map_append, ofDigits_map]
  unfold unsignedFloat?
  dsimp only
  rw [mantissa, exponent, whole, fraction, side?_of_isDigits valid.whole,
    side?_of_isDigits valid.fraction]
  simp only [Option.bind_eq_bind, Option.bind_some]
  rw [filled, if_neg Bool.false_ne_true, worth, List.length_map]
  unfold Spelling.number Spelling.power Spelling.power? Spelling.exponentChars
  cases power : s.exponent with
  | none => rfl
  | some e =>
    obtain ⟨below, ds⟩ := e
    obtain ⟨filled, digits⟩ := valid.exponent below ds power
    dsimp only
    rw [digits?_exponent below digits filled, Option.bind_some, ofDigits_map]
    rfl

theorem float?_chars (valid : s.Valid) (negative : Bool) :
    float? digitValue? ((if negative then ['-'] else []) ++ s.chars) =
      some (s.number negative) := by
  obtain ⟨c, cs, shape, digit⟩ := valid.head_chars
  unfold float?
  rw [shape, splitSign_digit negative digit]
  dsimp only
  rw [word?_digit negative digit, ← shape, unsignedFloat?_chars valid]
  rfl

/-- A point or an exponent is in the way of reading an integer. -/
theorem int?_chars (valid : s.Valid) (float : s.IsFloat) (negative : Bool) :
    int? digitValue? ((if negative then ['-'] else []) ++ s.chars) = none := by
  obtain ⟨c, cs, shape, digit⟩ := valid.head_chars
  have unsigned : (splitSign ((if negative then ['-'] else []) ++ s.chars)).2 = s.chars := by
    rw [shape, splitSign_digit negative digit]
  rcases float with fraction | exponent
  · refine int?_eq_none (c := '.') ?_ (by rfl) (by decide)
    rw [unsigned]
    refine List.mem_append_left _ (List.mem_append_right _ ?_)
    unfold Spelling.fractionChars
    rw [if_neg fraction]
    exact List.mem_cons_self
  · refine int?_eq_none (c := 'e') ?_ (by rfl) (by decide)
    rw [unsigned]
    refine List.mem_append_right _ ?_
    unfold Spelling.exponentChars
    cases power : s.exponent with
    | none => exact absurd power exponent
    | some e => exact List.mem_cons_self

/-- A number is read from its text, which is that of no integer. -/
theorem float?_renderChars (x : Binary64) :
    float? digitValue? (FloatStyle.display.renderChars x) = some x ∧
      int? digitValue? (FloatStyle.display.renderChars x) = none := by
  cases x with
  | nan => exact ⟨rfl, rfl⟩
  | infinite negative => cases negative <;> exact ⟨rfl, rfl⟩
  | finite negative m =>
    obtain ⟨s, valid, float, chars, number⟩ :=
      FloatStyle.display.renderChars_spelling negative m
    rw [chars, float?_chars valid, int?_chars valid float, number]
    exact ⟨rfl, rfl⟩

end Screening.Text.Numeral
