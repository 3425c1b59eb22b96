import Screening.Json.Reader
import Screening.Json.Writer
import Screening.Proofs.Text.Characters

/-!
# Reading written texts

Each code point is written as one or two pieces, from which it is read again. A text comes back
unless surrogates are escaped by number and two of them stand side by side that are taken for a
pair: `readText_points`.
-/

namespace Screening.Json

variable {style : Style} {p q : CodePoint} {rest : List CodePoint} {n : Nat}

theorem lift_lift {α β γ : Type} (f : β → γ) (g : α → β)
    (read : Except Fault (α × List CodePoint)) :
    lift f (lift g read) = lift (fun a => f (g a)) read := by
  cases read <;> rfl

/-! ### Escapes by number -/

theorem hexDigit?_digitChar : ∀ k < 16, Text.hexDigit? (Nat.digitChar k) = some k := by
  decide

theorem hex_four (small : n < 0x10000) : Text.hex 4 n =
    [Nat.digitChar (n / 4096), Nat.digitChar (n / 256 % 16), Nat.digitChar (n / 16 % 16),
      Nat.digitChar (n % 16)] := by
  have step {m : Nat} (large : 16 ≤ m) :
      Nat.toDigits 16 m = Nat.toDigits 16 (m / 16) ++ [Nat.digitChar (m % 16)] :=
    Nat.toDigits_of_base_le (by decide) large
  have last {m : Nat} (small : m < 16) : Nat.toDigits 16 m = [Nat.digitChar m] :=
    Nat.toDigits_of_lt_base small
  have first : n / 16 / 16 / 16 = n / 4096 := by omega
  have second : n / 16 / 16 = n / 256 := by omega
  unfold Text.hex
  by_cases one : n < 16
  · rw [last one, Nat.div_eq_of_lt (show n < 4096 by omega), Nat.div_eq_of_lt (show n < 256 by omega),
      Nat.div_eq_of_lt one, Nat.mod_eq_of_lt one]
    rfl
  by_cases two : n < 256
  · rw [step (by omega), last (by omega), Nat.div_eq_of_lt (show n < 4096 by omega),
      Nat.div_eq_of_lt two, Nat.mod_eq_of_lt (show n / 16 < 16 by omega)]
    rfl
  by_cases three : n < 4096
  · rw [step (by omega), step (by omega), last (by omega), second, Nat.div_eq_of_lt three,
      Nat.mod_eq_of_lt (show n / 256 < 16 by omega)]
    rfl
  · rw [step (by omega), step (by omega), step (by omega), last (by omega), first, second]
    rfl

theorem hex4?_hex (small : n < 0x10000) :
    ∃ a b c d, Text.hex 4 n = [a, b, c, d] ∧ hex4? a b c d = some n := by
  refine ⟨_, _, _, _, hex_four small, ?_⟩
  unfold hex4?
  simp only [CodePoint.char?, Option.bind_some, hexDigit?_digitChar _ (show n / 4096 < 16 by omega),
    hexDigit?_digitChar _ (show n / 256 % 16 < 16 by omega),
    hexDigit?_digitChar _ (show n / 16 % 16 < 16 by omega),
    hexDigit?_digitChar _ (show n % 16 < 16 by omega)]
  refine congrArg some ?_
  omega

theorem readPieces_unicodeEscape (small : n < 0x10000) (q : CodePoint) (rest : List CodePoint) :
    readPieces ((unicodeEscape n).map .char ++ q :: rest) =
      lift (.unit n :: ·) (readPieces (q :: rest)) := by
  obtain ⟨a, b, c, d, digits, read⟩ := hex4?_hex small
  unfold unicodeEscape
  rw [digits]
  show readPieces ('\\' :: 'u' :: a :: b :: c :: d :: q :: rest) = _
  rw [readPieces, read]

/-! ### Code points -/

/-- The characters that are escaped by a letter, each with its letter. -/
def letters : List (Char × Char) :=
  [('"', '"'), ('\\', '\\'), ('\n', 'n'), ('\r', 'r'), ('\t', 't'), ('\x08', 'b'), ('\x0c', 'f')]

/-- Whether a code point without a letter is escaped by number. -/
def byNumber (style : Style) (p : CodePoint) : Bool :=
  p.value < 0x20 || (style.asciiOnly && 0x7E < p.value)

/-- The pieces that a code point is written as. -/
def pieces (style : Style) (p : CodePoint) : List Piece :=
  if (letters.any fun l => p == .char l.1) || !byNumber style p then [.point p]
  else if p.value < 0x10000 then [.unit p.value]
  else [.unit (0xD800 + (p.value - 0x10000) / 0x400), .unit (0xDC00 + (p.value - 0x10000) % 0x400)]

theorem value_lt (p : CodePoint) : p.value < 0x110000 := by
  cases p with
  | char c =>
    have valid : c.toNat < 0xD800 ∨ 0xDFFF < c.toNat ∧ c.toNat < 0x110000 := c.valid
    show c.toNat < 0x110000
    omega
  | surrogate n =>
    have small := n.isLt
    show 0xD800 + n.val < 0x110000
    omega

theorem readPieces_letter {c l : Char} (letter : (c, l) ∈ letters) (rest : List CodePoint) :
    readPieces ('\\' :: .char l :: rest) = lift (.point (.char c) :: ·) (readPieces rest) := by
  have known : escaped? (.char l) = some c ∧ l ≠ 'u' := by
    simp only [letters, List.mem_cons, List.not_mem_nil, or_false, Prod.mk.injEq] at letter
    rcases letter with ⟨rfl, rfl⟩ | ⟨rfl, rfl⟩ | ⟨rfl, rfl⟩ | ⟨rfl, rfl⟩ | ⟨rfl, rfl⟩ |
      ⟨rfl, rfl⟩ | ⟨rfl, rfl⟩ <;> exact ⟨rfl, by decide⟩
  have noUnicode : CodePoint.char l ≠ 'u' := fun same => known.2 (CodePoint.char.inj same)
  rw [readPieces]
  · rw [known.1]
  · intro _ _ _ _ _ _ same _
    exact noUnicode same
  · exact noUnicode

theorem readPieces_raw {p : CodePoint} (quote : p ≠ '"') (backslash : p ≠ '\\')
    (large : 0x20 ≤ p.value) (rest : List CodePoint) :
    readPieces (p :: rest) = lift (.point p :: ·) (readPieces rest) := by
  rw [readPieces]
  · rw [if_neg (Nat.not_lt.mpr large)]
  · exact quote
  all_goals
    intros
    exact absurd (by assumption) backslash

theorem writePoint_cases (style : Style) (p : CodePoint) :
    (∃ c l, (c, l) ∈ letters ∧ p = .char c ∧ writePoint style p = [.char '\\', .char l]) ∨
    ((letters.any fun l => p == .char l.1) = false ∧ writePoint style p =
      if byNumber style p then (numberEscape p.value).map .char else [p]) := by
  by_cases lettered : (letters.any fun l => p == .char l.1) = true
  · obtain ⟨⟨c, l⟩, letter, same⟩ := List.any_eq_true.mp lettered
    obtain rfl := eq_of_beq same
    refine Or.inl ⟨c, l, letter, rfl, ?_⟩
    clear lettered same
    simp only [letters, List.mem_cons, List.not_mem_nil, or_false, Prod.mk.injEq] at letter
    rcases letter with ⟨rfl, rfl⟩ | ⟨rfl, rfl⟩ | ⟨rfl, rfl⟩ | ⟨rfl, rfl⟩ | ⟨rfl, rfl⟩ |
      ⟨rfl, rfl⟩ | ⟨rfl, rfl⟩ <;> rfl
  · have none := eq_false_of_ne_true lettered
    refine Or.inr ⟨none, ?_⟩
    simp only [letters, List.any_cons, List.any_nil, Bool.or_false, Bool.or_eq_false_iff,
      beq_eq_false_iff_ne] at none
    obtain ⟨quote, backslash, newline, back, tab, bell, feed⟩ := none
    unfold writePoint byNumber
    rw [if_neg quote, if_neg backslash, if_neg newline, if_neg back, if_neg tab, if_neg bell,
      if_neg feed]

/-- What is written of a code point is read as its pieces, when more text follows. -/
theorem readPieces_writePoint (style : Style) (p q : CodePoint) (rest : List CodePoint) :
    readPieces (writePoint style p ++ q :: rest) =
      lift (pieces style p ++ ·) (readPieces (q :: rest)) := by
  unfold pieces
  rcases writePoint_cases style p with ⟨c, l, letter, rfl, written⟩ | ⟨none, written⟩
  · have lettered : (letters.any fun l => CodePoint.char c == .char l.1) = true :=
      List.any_eq_true.mpr ⟨(c, l), letter, BEq.rfl⟩
    rw [written, lettered]
    exact readPieces_letter letter _
  · rw [written, none]
    by_cases numbered : byNumber style p = true
    · rw [if_pos numbered, numbered]
      unfold numberEscape
      by_cases short : p.value < 0x10000
      · rw [if_pos short, if_pos short]
        exact readPieces_unicodeEscape short q rest
      · have bound := value_lt p
        rw [if_neg short, if_neg short, List.map_append, List.append_assoc]
        generalize high : 0xD800 + (p.value - 0x10000) / 0x400 = m
        generalize low : 0xDC00 + (p.value - 0x10000) % 0x400 = n
        obtain ⟨more, shape⟩ : ∃ more : List CodePoint,
            (unicodeEscape n).map CodePoint.char ++ q :: rest = .char '\\' :: more := ⟨_, rfl⟩
        rw [shape, readPieces_unicodeEscape (by omega), ← shape,
          readPieces_unicodeEscape (by omega), lift_lift]
        rfl
    · have large : 0x20 ≤ p.value := by
        by_contra small
        exact numbered (by simp [byNumber, Nat.lt_of_not_le small])
      simp only [letters, List.any_cons, List.any_nil, Bool.or_false, Bool.or_eq_false_iff,
        beq_eq_false_iff_ne] at none
      rw [if_neg numbered, if_pos (by simp [numbered])]
      exact readPieces_raw none.1 none.2.1 large _

/-! ### Texts -/

/-- A number that escapes give stands for itself, unless it is the first half of a pair. -/
theorem joinPieces_unit {more : List Piece} (single : Text.isHighSurrogate n = true →
    ∀ low, more.head? = some (.unit low) → Text.isLowSurrogate low = false) :
    joinPieces (.unit n :: more) = .ofValue n :: joinPieces more := by
  cases more with
  | nil => rfl
  | cons piece more =>
    cases piece with
    | point p => rfl
    | unit low =>
      have noPair : (Text.isHighSurrogate n && Text.isLowSurrogate low) = false := by
        rw [Bool.and_eq_false_imp]
        exact fun high => single high low rfl
      rw [joinPieces, noPair, if_neg Bool.false_ne_true]

/-- The halves that a large value is split into, joined again. -/
theorem joinPieces_pair (large : 0x10000 ≤ n) (bound : n < 0x110000) (more : List Piece) :
    joinPieces (.unit (0xD800 + (n - 0x10000) / 0x400) ::
      .unit (0xDC00 + (n - 0x10000) % 0x400) :: more) = .ofValue n :: joinPieces more := by
  have high : Text.isHighSurrogate (0xD800 + (n - 0x10000) / 0x400) = true := by
    simp only [Text.isHighSurrogate, Bool.and_eq_true, decide_eq_true_eq]
    omega
  have low : Text.isLowSurrogate (0xDC00 + (n - 0x10000) % 0x400) = true := by
    simp only [Text.isLowSurrogate, Bool.and_eq_true, decide_eq_true_eq]
    omega
  have joined : Text.joinSurrogates (0xD800 + (n - 0x10000) / 0x400)
      (0xDC00 + (n - 0x10000) % 0x400) = n := by
    unfold Text.joinSurrogates
    omega
  rw [joinPieces, high, low, Bool.and_true, if_pos rfl, joined]

/-- The first half of a pair comes from the first of its surrogates. -/
theorem low_of_head_pieces {low : Nat} {more : List Piece}
    (head : (pieces style p ++ more).head? = some (.unit low))
    (second : Text.isLowSurrogate low = true) : Text.isLowSurrogate p.value = true := by
  unfold pieces at head
  split at head
  · cases head
  · split at head
    · obtain rfl := Piece.unit.inj (Option.some.inj head)
      exact second
    · obtain rfl := Piece.unit.inj (Option.some.inj head)
      have bound := value_lt p
      simp only [Text.isLowSurrogate, Bool.and_eq_true, decide_eq_true_eq] at second
      omega

theorem joinPieces_pieces {more : List Piece} (single : byNumber style p = true →
    Text.isHighSurrogate p.value = true →
    ∀ low, more.head? = some (.unit low) → Text.isLowSurrogate low = false) :
    joinPieces (pieces style p ++ more) = p :: joinPieces more := by
  unfold pieces
  split
  · rfl
  · rename_i notRaw
    have numbered : byNumber style p = true := by
      by_contra raw
      exact notRaw (by simp [raw])
    split
    · rw [List.singleton_append, joinPieces_unit (single numbered), CodePoint.ofValue_value]
    · rename_i large
      show joinPieces (.unit _ :: .unit _ :: more) = _
      rw [joinPieces_pair (by omega) (value_lt p), CodePoint.ofValue_value]

theorem readPieces_flatMap (style : Style) (ps rest : List CodePoint) :
    readPieces (ps.flatMap (writePoint style) ++ .char '"' :: rest) =
      .ok (ps.flatMap (pieces style), rest) := by
  induction ps with
  | nil => rfl
  | cons p ps ih =>
    -- An escape is only read where something follows it, at the least the quote at the end.
    obtain ⟨q, more, shape⟩ : ∃ q more,
        ps.flatMap (writePoint style) ++ .char '"' :: rest = q :: more :=
      List.exists_cons_of_ne_nil (by simp)
    rw [List.flatMap_cons, List.append_assoc, shape, readPieces_writePoint, ← shape, ih]
    rfl

/-- In a style that leaves other characters as they are, it is no surrogates that are escaped. -/
theorem ascii_of_byNumber (numbered : byNumber style p = true)
    (high : Text.isHighSurrogate p.value = true) : style.asciiOnly = true := by
  by_contra raw
  have control : p.value < 0x20 := by simpa [byNumber, raw] using numbered
  simp only [Text.isHighSurrogate, Bool.and_eq_true, decide_eq_true_eq] at high
  omega

theorem joinPieces_flatMap {ps : List CodePoint}
    (safe : style.asciiOnly = false ∨ Text.IsUnpaired ⟨ps⟩) :
    joinPieces (ps.flatMap (pieces style)) = ps := by
  induction ps with
  | nil => rfl
  | cons p ps ih =>
    have others : style.asciiOnly = false ∨ Text.IsUnpaired ⟨ps⟩ :=
      safe.imp_right fun unpaired => (List.isChain_cons.mp unpaired).2
    rw [List.flatMap_cons, joinPieces_pieces, ih others]
    intro numbered high low head
    -- The next piece comes from the next code point, which is no low surrogate.
    by_contra second
    rcases safe with raw | unpaired
    · rw [ascii_of_byNumber numbered high] at raw
      cases raw
    · cases ps with
      | nil => cases head
      | cons q qs =>
        have next := low_of_head_pieces head (eq_true_of_ne_false second)
        exact (List.isChain_cons.mp unpaired).1 q rfl ⟨high, next⟩

theorem readText_points {ps : List CodePoint}
    (safe : style.asciiOnly = false ∨ Text.IsUnpaired ⟨ps⟩) (rest : List CodePoint) :
    readText (ps.flatMap (writePoint style) ++ .char '"' :: rest) = .ok (⟨ps⟩, rest) := by
  unfold readText
  rw [readPieces_flatMap]
  show Except.ok (Text.mk (joinPieces _), rest) = _
  rw [joinPieces_flatMap safe]

end Screening.Json
