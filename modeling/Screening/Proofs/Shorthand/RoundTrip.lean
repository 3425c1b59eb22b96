import Screening.Proofs.Operand
import Screening.Proofs.Shorthand.Grammar
import Screening.Proofs.Text.Numerals

/-!
# Rules written in shorthand

A comparison is read back from its shorthand just when its parameter is a name in capitals, its
operator one of the six that order or equate, and its operand a scalar on one line. Every comparison
that is read from a text is such a one: `parse_format`.
-/

namespace Screening.Shorthand

open Text

variable {t : Text} {c : Comparison} {op : Operator} {s : Scalar} {b : Bool} {name cs : List Char}
  {ps value inside : List CodePoint} {x : Char} {n : Int}

/-- What can be written in shorthand so that it is read back. -/
structure IsWritable (c : Comparison) : Prop where
  parameter : ∃ name, IsIdentifier name ∧ name.map capital = name ∧ c.parameter = .ofChars name
  operator : c.operator ∈ operators
  operand : ∃ s, c.operand = .scalar s ∧ ∀ t, s = .text t → .char '\n' ∉ t.points

/-- The text of a value: on one line, without space around it. -/
structure IsValue (value : List CodePoint) (s : Scalar) : Prop where
  nonempty : value ≠ []
  trimmed : IsTrimmed (·.isChar isBlank) value
  line : .char '\n' ∉ value
  means : Means value s

/-! ### The text of a number -/

/-- Numbers are written with characters in this range, where there is no blank, quote or percent
sign. -/
def IsNumberChar (x : Char) : Prop := '+' ≤ x ∧ x ≤ 'n'

instance (x : Char) : Decidable (IsNumberChar x) := inferInstanceAs (Decidable (_ ∧ _))

structure IsNumberText (cs : List Char) : Prop where
  chars : ∀ x ∈ cs, IsNumberChar x
  start : ∃ x, cs.head? = some x ∧ Numeral.lowerAscii x ∉ ['t', 'f']

theorem isNumberChar_of_isAsciiDigit (digit : isAsciiDigit x = true) : IsNumberChar x := by
  simp only [isAsciiDigit, Bool.and_eq_true, decide_eq_true_eq] at digit
  exact ⟨Char.le_trans (by decide) digit.1, Char.le_trans digit.2 (by decide)⟩

theorem not_isBlank_of_isNumberChar (inside : IsNumberChar x) : isBlank x = false := by
  have first : 0x2B ≤ x.toNat := inside.1
  have last : x.toNat ≤ 0x6E := inside.2
  simp [isBlank]
  omega

theorem isNumberText_signed (negative : Bool) (digit : isAsciiDigit x = true)
    (others : ∀ y ∈ cs, IsNumberChar y) :
    IsNumberText ((if negative then ['-'] else []) ++ x :: cs) := by
  have digits : ∀ y ∈ x :: cs, IsNumberChar y :=
    List.forall_mem_cons.mpr ⟨isNumberChar_of_isAsciiDigit digit, others⟩
  cases negative with
  | true => exact ⟨List.forall_mem_cons.mpr ⟨⟨by decide, by decide⟩, digits⟩, '-', rfl, by decide⟩
  | false =>
    refine ⟨digits, x, rfl, ?_⟩
    rw [Numeral.lowerAscii_digit digit]
    simp only [List.mem_cons, List.not_mem_nil, or_false]
    rintro (rfl | rfl) <;> cases digit

theorem isNumberText_toString (n : Int) : IsNumberText (toString n).toList := by
  rw [Numeral.toList_toString]
  obtain ⟨x, cs, digits⟩ := List.exists_cons_of_ne_nil (Nat.toDigits_ne_nil (n := n.natAbs) (b := 10))
  have each := isDigits_toDigits n.natAbs
  rw [digits] at each ⊢
  exact isNumberText_signed _ (each x List.mem_cons_self) fun y member =>
    isNumberChar_of_isAsciiDigit (each y (List.mem_cons_of_mem x member))

theorem isNumberChar_of_isDigits {ds : List Char} (digits : IsDigits ds) :
    ∀ x ∈ ds, IsNumberChar x :=
  fun x member => isNumberChar_of_isAsciiDigit (digits x member)

theorem isNumberChar_of_mem_chars {s : Spelling} (valid : s.Valid) :
    ∀ x ∈ s.chars, IsNumberChar x := by
  have fraction : ∀ x ∈ s.fractionChars, IsNumberChar x := by
    unfold Spelling.fractionChars
    split
    · exact fun _ => List.not_mem_nil.elim
    · exact List.forall_mem_cons.mpr
        ⟨⟨by decide, by decide⟩, isNumberChar_of_isDigits valid.fraction⟩
  have exponent : ∀ x ∈ s.exponentChars, IsNumberChar x := by
    unfold Spelling.exponentChars
    cases power : s.exponent with
    | none => exact fun _ => List.not_mem_nil.elim
    | some e =>
      have digits := isNumberChar_of_isDigits (valid.exponent e.1 e.2 power).2
      refine List.forall_mem_cons.mpr ⟨⟨by decide, by decide⟩, List.forall_mem_cons.mpr ⟨?_, digits⟩⟩
      split <;> exact ⟨by decide, by decide⟩
  exact List.forall_mem_append.mpr
    ⟨List.forall_mem_append.mpr ⟨isNumberChar_of_isDigits valid.whole, fraction⟩, exponent⟩

theorem isNumberText_renderChars (y : Binary64) :
    IsNumberText (FloatStyle.display.renderChars y) := by
  cases y with
  | nan =>
    have chars : ∀ x ∈ ['n', 'a', 'n'], IsNumberChar x := by
      simp only [List.forall_mem_singleton, List.forall_mem_cons]
      decide
    exact ⟨chars, 'n', rfl, by decide⟩
  | infinite negative =>
    have chars : ∀ x ∈ ['-', 'i', 'n', 'f'], IsNumberChar x := by
      simp only [List.forall_mem_singleton, List.forall_mem_cons]
      decide
    cases negative with
    | true => exact ⟨chars, '-', rfl, by decide⟩
    | false => exact ⟨(List.forall_mem_cons.mp chars).2, 'i', rfl, by decide⟩
  | finite negative m =>
    obtain ⟨s, valid, _, chars, _⟩ := FloatStyle.display.renderChars_spelling negative m
    obtain ⟨x, cs, shape, digit⟩ := valid.head_chars
    have each := isNumberChar_of_mem_chars valid
    rw [chars]
    rw [shape] at each ⊢
    exact isNumberText_signed negative digit fun y member => each y (List.mem_cons_of_mem x member)

namespace IsNumberText

theorem notBlank (text : IsNumberText cs) : ∀ p ∈ cs.map CodePoint.char, p.isChar isBlank = false := by
  intro p member
  obtain ⟨x, own, rfl⟩ := List.mem_map.mp member
  exact not_isBlank_of_isNumberChar (text.chars x own)

theorem isTrimmed (text : IsNumberText cs) :
    IsTrimmed (·.isChar isBlank) (cs.map CodePoint.char) :=
  ⟨fun _ head => text.notBlank _ (List.mem_of_head? head),
    fun _ last => text.notBlank _ (List.mem_of_getLast? last)⟩

theorem isPlain (text : IsNumberText cs) : IsPlain (cs.map .char) := by
  obtain ⟨x, head, start⟩ := text.start
  have first : (cs.map CodePoint.char).head? = some (.char x) := by
    rw [List.head?_map, head]
    rfl
  refine ⟨fun last => ?_, fun b truth => ?_, fun inside quoted => ?_⟩
  · obtain ⟨y, own, same⟩ := List.mem_map.mp (List.mem_of_getLast? last)
    obtain rfl := CodePoint.char.inj same
    exact absurd (text.chars '%' own) (by decide)
  · obtain ⟨y, _, head', _, letter, _⟩ := ends_of_isTruth truth
    rw [first] at head'
    obtain rfl := CodePoint.char.inj (Option.some.inj head')
    exact start letter
  · obtain ⟨q, quote, head', _⟩ := ends_of_isQuoted quoted
    rw [first] at head'
    obtain rfl := Option.some.inj head'
    have inside := text.chars x (List.mem_of_head? head)
    simp only [isQuote, Bool.or_eq_true, beq_iff_eq, CodePoint.char.injEq] at quote
    rcases quote with rfl | rfl <;> exact absurd inside (by decide)

theorem isValue (text : IsNumberText cs) (number : number? (cs.map .char) = some s) :
    IsValue (cs.map .char) s := by
  obtain ⟨x, head, _⟩ := text.start
  obtain ⟨more, rfl⟩ := List.head?_eq_some_iff.mp head
  refine ⟨List.cons_ne_nil _ _, text.isTrimmed, fun member => ?_, .number text.isPlain number⟩
  cases text.notBlank _ member

end IsNumberText

/-! ### Values -/

theorem number?_of_isTrimmed (trimmed : IsTrimmed (·.isChar isBlank) (cs.map CodePoint.char)) :
    number? (cs.map .char) = match Numeral.int? digitValue? cs with
      | some n => some (.int n)
      | none => (Numeral.float? digitValue? cs).map .float := by
  unfold number?
  rw [stripBy_of_isTrimmed trimmed, charsOf?_eq_some.mpr rfl]
  rfl

theorem isValue_int (short : (Scalar.int n).isShort = true) :
    IsValue (formatOperand (.scalar (.int n))).points (.int n) := by
  have text := isNumberText_toString n
  refine text.isValue ?_
  rw [number?_of_isTrimmed text.isTrimmed, Numeral.int?_toString (of_decide_eq_true short)]

theorem isValue_float (y : Binary64) :
    IsValue (formatOperand (.scalar (.float y))).points (.float y) := by
  have text := isNumberText_renderChars y
  have written : (formatOperand (.scalar (.float y))).points =
      (FloatStyle.display.renderChars y).map .char := by
    show (String.ofList (FloatStyle.display.renderChars y)).toList.map CodePoint.char = _
    rw [String.toList_ofList]
  obtain ⟨float, noInteger⟩ := Numeral.float?_renderChars y
  rw [written]
  refine text.isValue ?_
  rw [number?_of_isTrimmed text.isTrimmed, noInteger, float]
  rfl

theorem isValue_of_ends {p q : CodePoint} (head : value.head? = some p)
    (last : value.getLast? = some q) (first : p.isChar isBlank = false)
    (final : q.isChar isBlank = false) (line : .char '\n' ∉ value) (means : Means value s) :
    IsValue value s := by
  refine ⟨?_, ⟨fun r head' => ?_, fun r last' => ?_⟩, line, means⟩
  · rintro rfl
    cases head
  · rw [head] at head'
    rwa [← Option.some.inj head']
  · rw [last] at last'
    rwa [← Option.some.inj last']

theorem isValue_bool (b : Bool) : IsValue (formatOperand (.scalar (.bool b))).points (.bool b) := by
  have truth : IsTruth b (formatOperand (.scalar (.bool b))).points := by
    cases b <;> exact ⟨_, rfl, rfl⟩
  cases b <;> exact isValue_of_ends rfl rfl rfl rfl (by decide) (.truth truth)

theorem isValue_text (line : .char '\n' ∉ t.points) :
    IsValue (formatOperand (.scalar (.text t))).points (.text t) := by
  have shape : (formatOperand (.scalar (.text t))).points =
      .char '\'' :: (t.points ++ [.char '\'']) := rfl
  have last : (CodePoint.char '\'' :: (t.points ++ [.char '\''])).getLast? = some (.char '\'') := by
    rw [← List.cons_append, List.getLast?_concat]
  rw [shape]
  refine isValue_of_ends rfl last rfl rfl (fun member => ?_) (.quoted ⟨_, rfl, rfl⟩)
  rcases List.mem_cons.mp member with same | inside
  · cases same
  · rcases List.mem_append.mp inside with own | quote
    · exact line own
    · cases List.mem_singleton.mp quote

theorem isValue_formatOperand (short : s.isShort = true)
    (line : ∀ t, s = .text t → .char '\n' ∉ t.points) :
    IsValue (formatOperand (.scalar s)).points s := by
  cases s with
  | bool b => exact isValue_bool b
  | int n => exact isValue_int short
  | float y => exact isValue_float y
  | text t => exact isValue_text (line t rfl)

/-! ### Written comparisons -/

/-- Besides four letters the characters of names are ASCII. -/
theorem range_of_isNameChar (named : isNameChar x = true) :
    (0x30 ≤ x.toNat ∧ x.toNat ≤ 0x7A) ∨ x ∈ ['\u0130', '\u0131', '\u017f', '\u212a'] := by
  have below {y : Char} (bound : '0' ≤ y) : 0x30 ≤ y.toNat := bound
  have above {y : Char} (bound : y ≤ 'z') : y.toNat ≤ 0x7A := bound
  simp only [isNameChar, isNameStart, isNameLetter, isAsciiDigit, Bool.or_eq_true,
    Bool.and_eq_true, decide_eq_true_eq, beq_iff_eq] at named
  rcases named with ((((((upper | lower) | rfl) | rfl) | rfl) | rfl) | rfl) | digit
  · exact Or.inl ⟨below (Char.le_trans (by decide) upper.1), above (Char.le_trans upper.2 (by decide))⟩
  · exact Or.inl ⟨below (Char.le_trans (by decide) lower.1), above lower.2⟩
  · exact Or.inr (by decide)
  · exact Or.inr (by decide)
  · exact Or.inr (by decide)
  · exact Or.inr (by decide)
  · exact Or.inl (by decide)
  · exact Or.inl ⟨below digit.1, above (Char.le_trans digit.2 (by decide))⟩

theorem not_isBlank_of_isNameChar (named : isNameChar x = true) : isBlank x = false := by
  rcases range_of_isNameChar named with ⟨first, last⟩ | other
  · simp [isBlank]
    omega
  · simp only [List.mem_cons, List.not_mem_nil, or_false] at other
    rcases other with rfl | rfl | rfl | rfl <;> rfl

theorem solid_token (known : op ∈ operators) (rest : List CodePoint) :
    NotAhead isBlank (token op ++ rest) := by
  simp only [operators, List.mem_cons, List.not_mem_nil, or_false] at known
  rcases known with rfl | rfl | rfl | rfl | rfl | rfl <;> rintro p ⟨⟩ <;> rfl

theorem isLongestAt_space (known : op ∈ operators) (rest : List CodePoint) :
    IsLongestAt op (token op ++ .char ' ' :: rest) := by
  refine ⟨known, List.prefix_append _ _, fun long member ahead => ?_⟩
  by_contra longer
  have start : token op <+: token long :=
    List.prefix_of_prefix_length_le (List.prefix_append _ _) ahead (by omega)
  have spelled := token_shortened _ (mem_shortened long member op known start (by omega))
  -- Only an equals sign can make an operator longer, and here a space is behind it.
  dsimp only at spelled
  rw [spelled, List.prefix_append_right_inj] at ahead
  cases (List.cons_prefix_cons.mp ahead).1

theorem stripped_format (identifier : IsIdentifier name) (parameter : c.parameter = .ofChars name)
    (value : IsValue (formatOperand c.operand).points s) : stripped (format c) =
      name.map .char ++ ([.char ' '] ++ (token c.operator ++
        .char ' ' :: (formatOperand c.operand).points)) := by
  have points : (format c).points = name.map .char ++ ([.char ' '] ++ (token c.operator ++
      .char ' ' :: (formatOperand c.operand).points)) := by
    show (((c.parameter.points ++ [.char ' ']) ++ token c.operator) ++ [.char ' ']) ++
      (formatOperand c.operand).points = _
    rw [parameter]
    simp [ofChars]
  obtain ⟨first, head, start⟩ := identifier.start
  obtain ⟨more, rfl⟩ := List.head?_eq_some_iff.mp head
  have named := identifier.chars first List.mem_cons_self
  unfold stripped
  rw [points]
  refine stripBy_of_isTrimmed ⟨fun p head => ?_, fun p last => ?_⟩
  · obtain rfl := Option.some.inj head
    exact not_isBlank_of_isNameChar named
  · refine value.trimmed.last p ?_
    rw [← last, List.getLast?_append, List.getLast?_append, List.getLast?_append, List.getLast?_cons,
      List.getLast?_eq_some_getLast value.nonempty]
    rfl

theorem spells_format (writable : IsWritable c) (short : c.operand.IsShort) :
    Spells (format c) c := by
  obtain ⟨⟨name, identifier, capitals, parameter⟩, known, s, operand, line⟩ := writable
  have value : IsValue (formatOperand c.operand).points s := by
    rw [operand] at short ⊢
    exact isValue_formatOperand (short s List.mem_cons_self) line
  have opens : Opens (stripped (format c)) name [.char ' ']
      (token c.operator ++ .char ' ' :: (formatOperand c.operand).points) := by
    refine ⟨stripped_format identifier parameter value, identifier, ?_, ?_, solid_token known _⟩
    · rintro p ⟨⟩
      rfl
    · intro p member
      rw [List.mem_singleton.mp member]
      rfl
  have follows : Follows (.char ' ' :: (formatOperand c.operand).points) [.char ' ']
      (formatOperand c.operand).points := by
    refine ⟨rfl, fun p member => ?_, value.nonempty, value.trimmed.head, value.line⟩
    rw [List.mem_singleton.mp member]
    rfl
  have spelled := Spells.intro opens (isLongestAt_space known _) follows value.means
  obtain ⟨parameter', operator, operand', named⟩ := c
  dsimp only at parameter operand
  subst parameter operand
  simp only [capitals] at spelled
  exact spelled

/-! ### Comparisons that are read -/

/-- A capital is a character of names that is its own capital. -/
theorem capital_capital (named : isNameChar x = true) :
    isNameChar (capital x) = true ∧ capital (capital x) = capital x ∧
      (isNameStart x = true → isNameStart (capital x) = true) := by
  have ascii : ∀ n ≤ 0x7A, isNameChar (Char.ofNat n) = true →
      isNameChar (capital (Char.ofNat n)) = true ∧
      capital (capital (Char.ofNat n)) = capital (Char.ofNat n) ∧
      (isNameStart (Char.ofNat n) = true → isNameStart (capital (Char.ofNat n)) = true) := by
    decide
  rcases range_of_isNameChar named with ⟨_, last⟩ | other
  · have own := ascii x.toNat last
    rw [Char.ofNat_toNat] at own
    exact own named
  · simp only [List.mem_cons, List.not_mem_nil, or_false] at other
    rcases other with rfl | rfl | rfl | rfl <;> decide

theorem isIdentifier_capitals (identifier : IsIdentifier name) :
    IsIdentifier (name.map capital) ∧ (name.map capital).map capital = name.map capital := by
  obtain ⟨first, head, start⟩ := identifier.start
  refine ⟨⟨⟨capital first, ?_, ?_⟩, fun x member => ?_⟩, ?_⟩
  · rw [List.head?_map, head]
    rfl
  · exact (capital_capital (identifier.chars first (List.mem_of_head? head))).2.2 start
  · obtain ⟨y, own, rfl⟩ := List.mem_map.mp member
    exact (capital_capital (identifier.chars y own)).1
  · rw [List.map_map]
    exact List.map_congr_left fun x member => (capital_capital (identifier.chars x member)).2.1

theorem isShort_of_number? (found : number? ps = some s) :
    s.isShort = true ∧ ∀ t, s ≠ .text t := by
  obtain ⟨cs, _, found⟩ := Option.bind_eq_some_iff.mp found
  cases integer : Numeral.int? digitValue? cs with
  | some n =>
    rw [integer] at found
    obtain rfl := Option.some.inj found
    exact ⟨decide_eq_true (Numeral.length_toDigits_of_int? integer), by rintro t ⟨⟩⟩
  | none =>
    rw [integer] at found
    obtain ⟨y, _, rfl⟩ := Option.map_eq_some_iff.mp found
    exact ⟨rfl, by rintro t ⟨⟩⟩

theorem isShort_of_means (means : Means value s) (line : .char '\n' ∉ value) :
    s.isShort = true ∧ ∀ t, s = .text t → .char '\n' ∉ t.points := by
  cases means with
  | percent _ number =>
    obtain ⟨short, noText⟩ := isShort_of_number? number
    exact ⟨short, fun t same => absurd same (noText t)⟩
  | truth _ => exact ⟨rfl, by rintro t ⟨⟩⟩
  | quoted quotes =>
    obtain ⟨q, _, rfl⟩ := quotes
    refine ⟨rfl, ?_⟩
    rintro t ⟨⟩ member
    exact line (List.mem_cons_of_mem q (List.mem_append_left _ member))
  | number _ number =>
    obtain ⟨short, noText⟩ := isShort_of_number? number
    exact ⟨short, fun t same => absurd same (noText t)⟩
  | bare _ _ =>
    refine ⟨rfl, ?_⟩
    rintro t ⟨⟩
    exact line

theorem isWritable_of_parse (found : parse t = some c) : IsWritable c ∧ c.operand.IsShort := by
  rcases spells_or_cutOff_of_parse found with ⟨opens, longest, follows, means⟩ | ⟨opens, pair⟩
  · obtain ⟨identifier, capitals⟩ := isIdentifier_capitals opens.name
    obtain ⟨short, line⟩ := isShort_of_means means follows.line
    refine ⟨⟨⟨_, identifier, capitals, rfl⟩, longest.known, _, rfl, line⟩, fun s member => ?_⟩
    rw [List.mem_singleton.mp member]
    exact short
  · obtain ⟨identifier, capitals⟩ := isIdentifier_capitals opens.name
    have known : ∀ pair ∈ shortened, pair.2 ∈ operators := by
      decide
    refine ⟨⟨⟨_, identifier, capitals, rfl⟩, known _ pair, _, rfl, ?_⟩, fun s member => ?_⟩
    · rintro t ⟨⟩
      decide
    · rw [List.mem_singleton.mp member]
      rfl

/-- A comparison of short integers is read back from its shorthand just when it is writable, and so
is every comparison that is read from a text. -/
theorem parse_format :
    (∀ c : Comparison, c.operand.IsShort → (parse (format c) = some c ↔ IsWritable c)) ∧
    ∀ t c, parse t = some c →
      IsWritable c ∧ c.operand.IsShort ∧ parse (format c) = some c := by
  have back {c : Comparison} (writable : IsWritable c) (short : c.operand.IsShort) :
      parse (format c) = some c :=
    parse_of_spells (spells_format writable short)
  refine ⟨fun c short => ⟨fun found => (isWritable_of_parse found).1, fun writable => ?_⟩,
    fun t c found => ?_⟩
  · exact back writable short
  · obtain ⟨writable, short⟩ := isWritable_of_parse found
    exact ⟨writable, short, back writable short⟩

/-- A text with a quote in it and a percent sign at its end comes back, but a name in small letters
does not. -/
theorem parse_format_quote :
    let quoted : Comparison := ⟨"NOTE", .ne, .scalar (.text "it's 5%"), by decide⟩
    let small : Comparison := ⟨"note", .ne, .scalar (.int 5), by decide⟩
    quoted.operand.IsShort ∧ parse (format quoted) = some quoted ∧
      small.operand.IsShort ∧ parse (format small) ≠ some small := by
  intro quoted small
  have short : quoted.operand.IsShort := by
    intro s member
    rw [List.mem_singleton.mp member]
    rfl
  have short' : small.operand.IsShort := by
    intro s member
    rw [List.mem_singleton.mp member]
    decide
  have identifier : IsIdentifier ['N', 'O', 'T', 'E'] := by
    refine ⟨⟨'N', rfl, rfl⟩, ?_⟩
    simp only [List.forall_mem_singleton, List.forall_mem_cons]
    exact ⟨rfl, rfl, rfl, rfl⟩
  have writable : IsWritable quoted := by
    refine ⟨⟨_, identifier, by decide, rfl⟩, by decide, _, rfl, ?_⟩
    rintro t ⟨⟩
    decide
  refine ⟨short, (parse_format.1 quoted short).mpr writable, short', fun back => ?_⟩
  obtain ⟨name, _, capitals, parameter⟩ := ((parse_format.1 small short').mp back).parameter
  have letters := congrArg (fun t : Text => t.points.filterMap CodePoint.char?) parameter
  obtain rfl : ['n', 'o', 't', 'e'] = name := letters.trans (filterMap_chars name)
  exact absurd capitals (by decide)

end Screening.Shorthand
