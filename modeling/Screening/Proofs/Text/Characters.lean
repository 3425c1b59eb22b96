import Mathlib.Data.List.Chain
import Mathlib.Data.List.TakeWhile
import Screening.Text.Encoding

/-!
# Texts of characters

A text in which no surrogate stands alone is one of characters, by whichever function one asks. In
such a text no two surrogates stand side by side that escapes by number would make a pair of.
-/

namespace Screening.Text

variable {t : Text} {cs : List Char}

theorem charsOf?_cons (p : CodePoint) (ps : List CodePoint) :
    charsOf? (p :: ps) = p.char?.bind fun c => (charsOf? ps).map (c :: ·) := by
  unfold charsOf?
  rw [List.mapM_cons]
  cases p <;> cases ps.mapM CodePoint.char? <;> rfl

theorem charsOf?_eq_some {ps : List CodePoint} : charsOf? ps = some cs ↔ ps = cs.map .char := by
  induction ps generalizing cs with
  | nil => cases cs <;> simp [charsOf?]
  | cons p ps ih =>
    rw [charsOf?_cons]
    cases p with
    | surrogate n => cases cs <;> simp [CodePoint.char?]
    | char c =>
      cases cs with
      | nil => simp [CodePoint.char?]
      | cons d ds =>
        simp only [CodePoint.char?, Option.bind_some, Option.map_eq_some_iff, List.cons.injEq, ih,
          List.map_cons, CodePoint.char.injEq]
        constructor
        · rintro ⟨_, rest, rfl, rfl⟩
          exact ⟨rfl, rest⟩
        · rintro ⟨rfl, rest⟩
          exact ⟨ds, rest, rfl, rfl⟩

theorem exists_chars {test : Char → Bool} {ps : List CodePoint}
    (passes : ∀ p ∈ ps, p.isChar test = true) :
    ∃ cs : List Char, ps = cs.map .char ∧ ∀ c ∈ cs, test c = true := by
  induction ps with
  | nil => exact ⟨[], rfl, fun _ => List.not_mem_nil.elim⟩
  | cons p ps ih =>
    obtain ⟨first, others⟩ := List.forall_mem_cons.mp passes
    obtain ⟨cs, rfl, each⟩ := ih others
    cases p with
    | char c => exact ⟨c :: cs, rfl, List.forall_mem_cons.mpr ⟨first, each⟩⟩
    | surrogate n => cases first

theorem ofChars_inj {ds : List Char} : ofChars cs = ofChars ds ↔ cs = ds := by
  refine ⟨fun same => ?_, congrArg ofChars⟩
  exact (List.map_inj_right fun _ _ => CodePoint.char.inj).mp (Text.mk.inj same)

theorem chars?_eq_some : t.chars? = some cs ↔ t = .ofChars cs := by
  unfold chars? ofChars
  rw [charsOf?_eq_some]
  constructor
  · rintro points
    rw [← points]
  · rintro rfl
    rfl

theorem string?_eq_some {s : String} : t.string? = some s ↔ t = s := by
  unfold string?
  rw [Option.map_eq_some_iff]
  constructor
  · rintro ⟨cs, chars, rfl⟩
    rw [chars?_eq_some.mp chars, ofString, String.toList_ofList]
  · rintro rfl
    exact ⟨s.toList, chars?_eq_some.mpr rfl, String.ofList_toList⟩

theorem string?_ofString (s : String) : (s : Text).string? = some s :=
  string?_eq_some.mpr rfl

theorem isWhole_iff : t.isWhole = true ↔ ∃ cs, t = .ofChars cs := by
  obtain ⟨ps⟩ := t
  have cons (c : Char) (ps : List CodePoint) : isWhole ⟨.char c :: ps⟩ = isWhole ⟨ps⟩ := rfl
  have ofCons (c : Char) (cs : List Char) :
      ofChars (c :: cs) = ⟨.char c :: (ofChars cs).points⟩ := rfl
  induction ps with
  | nil => exact ⟨fun _ => ⟨[], rfl⟩, fun _ => rfl⟩
  | cons p ps ih =>
    cases p with
    | surrogate n =>
      constructor
      · intro whole
        cases whole
      · rintro ⟨cs, same⟩
        cases cs <;> cases same
    | char c =>
      rw [cons]
      constructor
      · intro whole
        obtain ⟨cs, same⟩ := ih.mp whole
        exact ⟨c :: cs, by rw [ofCons, ← same]⟩
      · rintro ⟨cs, same⟩
        cases cs with
        | nil => cases same
        | cons d ds => exact ih.mpr ⟨ds, congrArg (fun t : Text => Text.mk t.points.tail) same⟩

/-- It is the texts of characters that have a form in UTF-8. -/
theorem encodeFault?_eq_none : t.encodeFault? = none ↔ t.isWhole = true := by
  have skipped : t.points.dropWhile (!·.isSurrogate) = [] ↔ t.isWhole = true := by
    unfold isWhole
    rw [List.dropWhile_eq_nil_iff, Bool.not_eq_true', List.any_eq_false]
    simp only [Bool.not_eq_true', Bool.not_eq_true]
  rw [← skipped]
  unfold encodeFault?
  cases t.points.dropWhile (!·.isSurrogate) <;> simp

/-! ### Pairs of surrogates -/

/-- A high surrogate and a low one. Escaped by number they are the pair that one character is. -/
def IsSplitPair (p q : CodePoint) : Prop :=
  isHighSurrogate p.value = true ∧ isLowSurrogate q.value = true

/-- No high surrogate stands right before a low one. -/
def IsUnpaired (t : Text) : Prop := t.points.IsChain fun p q => ¬IsSplitPair p q

theorem not_isHighSurrogate_char (c : Char) : isHighSurrogate (CodePoint.char c).value = false := by
  have valid : c.toNat < 0xD800 ∨ 0xDFFF < c.toNat ∧ c.toNat < 0x110000 := c.valid
  have value : (CodePoint.char c).value = c.toNat := rfl
  simp only [isHighSurrogate, value, Bool.and_eq_false_iff, decide_eq_false_iff_not]
  omega

theorem not_isLowSurrogate_char (c : Char) : isLowSurrogate (CodePoint.char c).value = false := by
  have valid : c.toNat < 0xD800 ∨ 0xDFFF < c.toNat ∧ c.toNat < 0x110000 := c.valid
  have value : (CodePoint.char c).value = c.toNat := rfl
  simp only [isLowSurrogate, value, Bool.and_eq_false_iff, decide_eq_false_iff_not]
  omega

theorem isUnpaired_cons_char (c : Char) {ps : List CodePoint} (chain : IsUnpaired ⟨ps⟩) :
    IsUnpaired ⟨.char c :: ps⟩ := by
  refine .cons chain fun q _ pair => ?_
  have high := pair.1
  rw [not_isHighSurrogate_char] at high
  cases high

end Screening.Text
