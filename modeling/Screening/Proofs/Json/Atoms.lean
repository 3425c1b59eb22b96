import Screening.Proofs.Json.RoundTrip

/-!
# Reading written atoms

Truth values, texts, integers of as many digits as are read and finite binary64 numbers come back
as what they are. Other binary64 numbers come back in the spaced style, and as null in the compact
one.
-/

namespace Screening.Json

open Text

variable {style : Style} {ps more rest : List CodePoint} {p : CodePoint} {fuel : Nat} {cs : List Char}
  {negative : Bool}

/-! ### Numbers among the values -/

/-- The text of a number starts with a digit, a minus sign aside. -/
def StartsNumber (ps : List CodePoint) : Prop :=
  ∃ p more, isDigit p = true ∧ (ps = p :: more ∨ ps = .char '-' :: p :: more)

theorem startsNumber_points (negative : Bool) {c : Char} (digit : isAsciiDigit c = true)
    (rest : List CodePoint) :
    StartsNumber (points ((if negative then ['-'] else []) ++ c :: cs) ++ rest) := by
  refine ⟨.char c, points cs ++ rest, digit, ?_⟩
  cases negative with
  | false => exact Or.inl rfl
  | true => exact Or.inr rfl

theorem starts_of_startsNumber (starts : StartsNumber ps) : Starts ps := by
  obtain ⟨p, more, digit, rfl | rfl⟩ := starts
  · refine ⟨p, more, rfl, ?_, ?_, ?_, ?_⟩
    · by_contra space
      simp only [isSpace, Bool.not_eq_false, Bool.or_eq_true, beq_iff_eq] at space
      rcases space with ((rfl | rfl) | rfl) | rfl <;> cases digit
    all_goals
      rintro rfl
      cases digit
  · exact ⟨'-', _, rfl, rfl, by decide, by decide, by decide⟩

/-- Words start with two characters that are no digits. -/
theorem word_starts : ∀ w ∈ words, ∃ p q rest, w.1.points = p :: q :: rest ∧ isDigit p = false ∧
    isDigit q = false := by
  intro w member
  simp only [words, List.mem_cons, List.not_mem_nil, or_false] at member
  rcases member with rfl | rfl | rfl | rfl | rfl | rfl <;> exact ⟨_, _, _, rfl, rfl, rfl⟩

theorem readWord?_number (starts : StartsNumber ps) : readWord? ps = none := by
  unfold readWord?
  rw [List.findSome?_eq_none_iff]
  intro w member
  rw [Option.map_eq_none_iff, Option.eq_none_iff_forall_ne_some]
  intro left found
  have text := List.isPrefixOf?_eq_some_iff_append_eq.mp found
  obtain ⟨q, r, rest, word, first, second⟩ := word_starts w member
  obtain ⟨p, more, digit, rfl | rfl⟩ := starts <;> rw [word] at text <;> cases text
  · rw [digit] at first
    cases first
  · rw [digit] at second
    cases second

theorem not_startsNumber (digit : isDigit p = false) (sign : p ≠ '-') :
    ¬StartsNumber (p :: rest) := by
  rintro ⟨q, more, digit', same | same⟩
  · rw [(List.cons.inj same).1, digit'] at digit
    cases digit
  · exact sign (List.cons.inj same).1

theorem readValue_number (starts : StartsNumber ps) :
    readValue none (fuel + 1) ps = lift .scalar (readNumber ps) := by
  rw [readValue, readWord?_number starts]
  all_goals
    rintro rest rfl
    exact not_startsNumber rfl (by decide) starts

/-! ### Atoms -/

theorem atomReads_number {s : Scalar} (text : List Char) (shape : writeScalar style s = points text)
    (starts : ∀ rest, StartsNumber (points text ++ rest))
    (read : ∀ rest, EndsNumber rest → readNumber (points text ++ rest) = .ok (s, rest)) :
    AtomReads style (.scalar s) (.scalar s) := by
  have written : writeAtom style (.scalar s) = points text := shape
  constructor
  · rw [written, ← List.append_nil (points text)]
    exact starts_of_startsNumber (starts [])
  · intro fuel rest ends
    rw [written, readValue_number (starts rest), read rest ends]
    rfl

theorem atomReads_int {n : Int} (short : (Nat.toDigits 10 n.natAbs).length ≤ digitLimit) :
    AtomReads style (.scalar (.int n)) (.scalar (.int n)) := by
  refine atomReads_number (writeInt n) rfl (fun rest => ?_) fun rest ends =>
    readNumber_writeInt short ends
  have signed : writeInt n =
      (if decide (n < 0) then ['-'] else []) ++ Nat.toDigits 10 n.natAbs := by
    unfold writeInt
    by_cases below : n < 0 <;> simp [below]
  cases digits : Nat.toDigits 10 n.natAbs with
  | nil => exact absurd digits Nat.toDigits_ne_nil
  | cons c cs =>
    have digit := isDigits_toDigits n.natAbs c (by rw [digits]; exact List.mem_cons_self)
    rw [signed, digits]
    exact startsNumber_points _ digit rest

theorem atomReads_finite (m : Magnitude) :
    AtomReads style (.scalar (.float (.finite negative m)))
      (.scalar (.float (.finite negative m))) := by
  refine atomReads_number (style.floats.renderChars (.finite negative m)) rfl (fun rest => ?_)
    fun rest ends => readNumber_renderChars style.floats m ends
  obtain ⟨s, valid, _, chars, _⟩ := style.floats.renderChars_spelling negative m
  obtain ⟨c, cs, shape, digit⟩ := valid.head_chars
  rw [chars, shape]
  exact startsNumber_points _ digit rest

theorem atomReads_bool (b : Bool) : AtomReads style (.scalar (.bool b)) (.scalar (.bool b)) := by
  cases b with
  | false => exact ⟨⟨'f', _, rfl, rfl, by decide, by decide, by decide⟩, fun _ _ _ => rfl⟩
  | true => exact ⟨⟨'t', _, rfl, rfl, by decide, by decide, by decide⟩, fun _ _ _ => rfl⟩

theorem atomReads_text {t : Text} (safe : SafeText style t) :
    AtomReads style (.scalar (.text t)) (.scalar (.text t)) := by
  constructor
  · exact ⟨'"', _, rfl, rfl, by decide, by decide, by decide⟩
  · intro fuel rest _
    have text : writeAtom style (.scalar (.text t)) ++ rest =
        .char '"' :: (t.points.flatMap (writePoint style) ++ .char '"' :: rest) := by
      show writeText style t ++ rest = _
      unfold writeText
      simp
    rw [text, readValue, readText_points safe]
    rfl

/-- What an atom comes back as in the compact style. -/
def compactForm : Atom → Atom
  | .scalar (.float x) => if x.isFinite then .scalar (.float x) else .null
  | a => a

theorem atomReads_compact {x : Binary64} :
    AtomReads compact (.scalar (.float x)) (compactForm (.scalar (.float x))) := by
  cases x with
  | finite negative m => exact atomReads_finite m
  | nan => exact ⟨⟨'n', _, rfl, rfl, by decide, by decide, by decide⟩, fun _ _ _ => rfl⟩
  | infinite negative =>
    cases negative <;> exact ⟨⟨'n', _, rfl, rfl, by decide, by decide, by decide⟩, fun _ _ _ => rfl⟩

theorem compact_standard : compact.Standard := by
  constructor <;> exact ⟨[], rfl, by simp⟩

end Screening.Json
