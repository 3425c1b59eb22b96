import Screening.Data.Short
import Screening.Proofs.Json.Numbers
import Screening.Proofs.Json.Texts
import Screening.Proofs.Table

/-!
# What reading yields and leaves

Reading a value leaves an end of the text. What it yields has short integers only, texts for keys,
and, if the text is one of characters, no surrogates side by side that make a pair. It fails for an
integer only where the text has a run of too many digits, and for the depth of lists and maps only
where the text has more opening brackets than the limit: `readWithin_sound`.
-/

namespace Screening

/-- Scalars with a property, and lists and maps of such data, the keys of maps being texts. -/
inductive Data.Made (P : Scalar → Prop) : Data → Prop
  | null : Made P .null
  | scalar {s : Scalar} (holds : P s) : Made P (.scalar s)
  | list {items : List Data} (each : ∀ d ∈ items, Made P d) : Made P (.list items)
  | map {entries : List (Atom × Data)} (keys : ∀ e ∈ entries, ∃ t, e.1 = .scalar (.text t))
      (each : ∀ e ∈ entries, Made P e.2) : Made P (.map entries)

def Scalar.IsUnpaired : Scalar → Prop
  | .text t => t.IsUnpaired
  | _ => True

theorem Entries.mem_of_mem_put {κ α : Type} [DecidableEq κ] {entries : List (κ × α)} {k : κ} {v : α}
    {e : κ × α} (member : e ∈ put entries k v) : e = (k, v) ∨ e ∈ entries := by
  induction entries with
  | nil => exact Or.inl (List.mem_singleton.mp member)
  | cons first rest ih =>
    obtain ⟨l, w⟩ := first
    rw [put] at member
    split at member
    · rename_i same
      rcases List.mem_cons.mp member with rfl | old
      · exact Or.inl (by rw [same])
      · exact Or.inr (List.mem_cons_of_mem _ old)
    · rcases List.mem_cons.mp member with rfl | later
      · exact Or.inr List.mem_cons_self
      · exact (ih later).imp_right (List.mem_cons_of_mem _)

theorem Entries.mem_of_mem_foldl_put {κ α : Type} [DecidableEq κ] {pairs before : List (κ × α)}
    {e : κ × α} (member : e ∈ pairs.foldl (fun entries p => put entries p.1 p.2) before) :
    e ∈ before ∨ e ∈ pairs := by
  induction pairs generalizing before with
  | nil => exact Or.inl member
  | cons p pairs ih =>
    rcases ih member with new | later
    · rcases mem_of_mem_put new with rfl | old
      · exact Or.inr List.mem_cons_self
      · exact Or.inl old
    · exact Or.inr (List.mem_cons_of_mem p later)

theorem Entries.mem_of_mem_ofPairs {κ α : Type} [DecidableEq κ] {pairs : List (κ × α)} {e : κ × α}
    (member : e ∈ ofPairs pairs) : e ∈ pairs :=
  (mem_of_mem_foldl_put member).resolve_left List.not_mem_nil

namespace Json

open Text

/-- Somewhere stand `n` digits in a row, more than are read. -/
def HasLongRun (n : Nat) (ps : List CodePoint) : Prop :=
  digitLimit < n ∧ ∃ ds, ds <:+: ps ∧ ds.length = n ∧ ∀ p ∈ ds, isDigit p = true

def isOpening (p : CodePoint) : Bool := p == .char '[' || p == .char '\x7b'

/-- The opening brackets among code points, those in texts included. -/
def brackets (ps : List CodePoint) : Nat := ps.countP isOpening

/-- The limit is no less than the number of opening brackets. -/
def Roomy (limit : Option Nat) (ps : List CodePoint) : Prop :=
  ∀ room, limit = some room → brackets ps ≤ room

/-- What may come of reading a part of `ps`: something good and an end of the text, or a failure,
for an oversized integer only where there is one and for the depth only where there is no room. -/
def Sound {α : Type} (good : α → Prop) (limit : Option Nat) (ps : List CodePoint) :
    Except Fault (α × List CodePoint) → Prop
  | .ok (a, rest) => good a ∧ rest <:+ ps
  | .error (.oversized n) => HasLongRun n ps
  | .error (.malformed _) => True
  | .error (.nested _) => ¬Roomy limit ps

/-- In a text of characters no surrogate stands alone. -/
def Clean (whole : Prop) (ps : List CodePoint) : Prop :=
  whole → ∀ p ∈ ps, p.isSurrogate = false

/-- What scalars are read as: short, and unpaired if the text is one of characters. -/
def IsRead (whole : Prop) (s : Scalar) : Prop :=
  s.isShort = true ∧ (whole → s.IsUnpaired)

variable {α β : Type} {good : α → Prop} {good' : β → Prop} {ps qs rest : List CodePoint}
  {whole : Prop} {n fuel : Nat} {limit inner : Option Nat} {bracket : Bracket} {p : CodePoint}
  {outcome : Except Fault (α × List CodePoint)}

theorem Clean.of_suffix (clean : Clean whole ps) (suffix : qs <:+ ps) : Clean whole qs :=
  fun holds p member => clean holds p (suffix.subset member)

theorem HasLongRun.of_suffix (run : HasLongRun n qs) (suffix : qs <:+ ps) : HasLongRun n ps := by
  obtain ⟨long, ds, inside, length, digits⟩ := run
  exact ⟨long, ds, inside.trans suffix.isInfix, length, digits⟩

theorem not_hasLongRun (few : ps.length ≤ digitLimit) : ¬HasLongRun n ps := by
  rintro ⟨long, ds, inside, rfl, _⟩
  have shorter := inside.length_le
  omega

theorem roomy_none (ps : List CodePoint) : Roomy none ps := nofun

theorem Roomy.of_suffix (roomy : Roomy limit ps) (suffix : qs <:+ ps) : Roomy limit qs :=
  fun room same => suffix.sublist.countP_le.trans (roomy room same)

/-- There is room for a bracket, and inside of it for those that follow. -/
theorem Roomy.enter (roomy : Roomy limit (p :: ps)) (opening : isOpening p = true)
    (bracket : Bracket) : ∃ inner, enter bracket limit = .ok inner ∧ Roomy inner ps := by
  have one : brackets (p :: ps) = brackets ps + 1 := List.countP_cons_of_pos opening
  match limit with
  | none => exact ⟨none, rfl, roomy_none ps⟩
  | some 0 =>
    have enough := roomy 0 rfl
    omega
  | some (room + 1) =>
    have enough := roomy (room + 1) rfl
    refine ⟨some room, rfl, fun left same => ?_⟩
    obtain rfl := Option.some.inj same
    omega

namespace Sound

theorem of_suffix (sound : Sound good limit qs outcome) (suffix : qs <:+ ps) :
    Sound good limit ps outcome := by
  match outcome, sound with
  | .ok _, ⟨holds, left⟩ => exact ⟨holds, left.trans suffix⟩
  | .error (.oversized _), run => exact HasLongRun.of_suffix run suffix
  | .error (.malformed _), _ => trivial
  | .error (.nested _), crowded => exact fun roomy => crowded (roomy.of_suffix suffix)

theorem lift {f : α → β} (sound : Sound good limit ps outcome) (kept : ∀ a, good a → good' (f a)) :
    Sound good' limit ps (lift f outcome) := by
  match outcome, sound with
  | .ok _, ⟨holds, left⟩ => exact ⟨kept _ holds, left⟩
  | .error (.oversized _), run => exact run
  | .error (.malformed _), _ => trivial
  | .error (.nested _), crowded => exact crowded

theorem bind {next : α × List CodePoint → Except Fault (β × List CodePoint)}
    (sound : Sound good limit ps outcome)
    (after : ∀ a rest, good a → rest <:+ ps → Sound good' limit ps (next (a, rest))) :
    Sound good' limit ps (outcome >>= next) := by
  match outcome, sound with
  | .ok (a, rest), ⟨holds, left⟩ => exact after a rest holds left
  | .error (.oversized _), run => exact run
  | .error (.malformed _), _ => trivial
  | .error (.nested _), crowded => exact crowded

theorem fail (reason : Reason) : Sound good limit ps (fail reason) :=
  trivial

/-- What is found inside of a bracket, found behind it. -/
theorem of_enter (sound : Sound good inner ps outcome) (opening : isOpening p = true)
    (entered : enter bracket limit = .ok inner) : Sound good limit (p :: ps) outcome := by
  match outcome, sound with
  | .ok _, ⟨holds, left⟩ => exact ⟨holds, left.trans (List.suffix_cons _ _)⟩
  | .error (.oversized _), run => exact HasLongRun.of_suffix run (List.suffix_cons _ _)
  | .error (.malformed _), _ => trivial
  | .error (.nested _), crowded =>
    intro roomy
    obtain ⟨room, enters, inside⟩ := roomy.enter opening bracket
    rw [entered] at enters
    obtain rfl := Except.ok.inj enters
    exact crowded inside

/-- Where a bracket cannot be entered there is no room. -/
theorem of_not_enter {fault : Fault} (opening : isOpening p = true)
    (refused : enter bracket limit = .error fault) :
    Sound good limit (p :: ps) (.error fault) := by
  match limit, refused with
  | some 0, refused =>
    obtain rfl := Except.error.inj refused
    intro roomy
    obtain ⟨room, enters, _⟩ := roomy.enter opening bracket
    cases enters

end Sound

theorem skipSpace_suffix (ps : List CodePoint) : skipSpace ps <:+ ps :=
  List.dropWhile_suffix _

theorem suffix_of_cons {p : CodePoint} (found : skipSpace ps = p :: rest) : rest <:+ ps := by
  have suffix := skipSpace_suffix ps
  rw [found] at suffix
  exact (List.suffix_cons p rest).trans suffix

/-! ### Texts -/

theorem char_of_not_isSurrogate {p : CodePoint} (single : p.isSurrogate = false) :
    ∃ c, p = .char c := by
  cases p with
  | char c => exact ⟨c, rfl⟩
  | surrogate n => cases single

/-- The points among the pieces are no surrogates. -/
def PointsWhole (pieces : List Piece) : Prop :=
  ∀ p, Piece.point p ∈ pieces → p.isSurrogate = false

theorem pointsWhole_unit {pieces : List Piece} (each : PointsWhole pieces) :
    PointsWhole (.unit n :: pieces) := by
  intro p member
  rcases List.mem_cons.mp member with same | later
  · cases same
  · exact each p later

theorem pointsWhole_point {p : CodePoint} {pieces : List Piece} (single : p.isSurrogate = false)
    (each : PointsWhole pieces) : PointsWhole (.point p :: pieces) := by
  intro q member
  rcases List.mem_cons.mp member with same | later
  · obtain rfl := Piece.point.inj same
    exact single
  · exact each q later

theorem readPieces_sound (clean : Clean whole ps) :
    Sound (fun pieces => whole → PointsWhole pieces) limit ps (readPieces ps) := by
  fun_induction readPieces ps with
  | case1 => exact .fail _
  | case2 rest => exact ⟨fun _ _ => List.not_mem_nil.elim, List.suffix_cons _ _⟩
  | case3 a b c d next rest n hex ih =>
    have suffix : next :: rest <:+ '\\' :: 'u' :: a :: b :: c :: d :: next :: rest :=
      ⟨['\\', 'u', a, b, c, d], rfl⟩
    exact ((ih (clean.of_suffix suffix)).lift fun _ each holds =>
      pointsWhole_unit (each holds)).of_suffix suffix
  | case4 => exact .fail _
  | case5 => exact .fail _
  | case6 => exact .fail _
  | case7 p rest _ _ c escaped ih =>
    have suffix : rest <:+ '\\' :: p :: rest := ⟨['\\', p], rfl⟩
    exact ((ih (clean.of_suffix suffix)).lift fun _ each holds =>
      pointsWhole_point rfl (each holds)).of_suffix suffix
  | case8 => exact .fail _
  | case9 => exact .fail _
  | case10 p rest _ _ _ _ _ _ ih =>
    have suffix : rest <:+ p :: rest := List.suffix_cons _ _
    exact ((ih (clean.of_suffix suffix)).lift fun _ each holds =>
      pointsWhole_point (clean holds p List.mem_cons_self) (each holds)).of_suffix suffix

theorem char_of_ofValue {n : Nat} (outside : ¬(0xD800 ≤ n ∧ n < 0xE000)) :
    CodePoint.ofValue n = .char (Char.ofNat n) :=
  dif_neg outside

theorem value_of_surrogate (inside : 0xD800 ≤ n ∧ n < 0xE000) : (CodePoint.ofValue n).value = n := by
  unfold CodePoint.ofValue
  rw [dif_pos inside]
  show 0xD800 + (n - 0xD800) = n
  omega

theorem isHighSurrogate_ofValue (high : isHighSurrogate (CodePoint.ofValue n).value = true) :
    isHighSurrogate n = true := by
  by_cases inside : 0xD800 ≤ n ∧ n < 0xE000
  · rwa [value_of_surrogate inside] at high
  · rw [char_of_ofValue inside, not_isHighSurrogate_char] at high
    cases high

theorem isLowSurrogate_ofValue (low : isLowSurrogate (CodePoint.ofValue n).value = true) :
    isLowSurrogate n = true := by
  by_cases inside : 0xD800 ≤ n ∧ n < 0xE000
  · rwa [value_of_surrogate inside] at low
  · rw [char_of_ofValue inside, not_isLowSurrogate_char] at low
    cases low

/-- Two halves make up a character. -/
theorem ofValue_joinSurrogates (high low : Nat) :
    ∃ c, CodePoint.ofValue (joinSurrogates high low) = .char c := by
  refine ⟨_, char_of_ofValue ?_⟩
  unfold joinSurrogates
  omega

theorem joinPieces_joined {high low : Nat} (first : isHighSurrogate high = true)
    (second : isLowSurrogate low = true) (more : List Piece) :
    ∃ c, joinPieces (.unit high :: .unit low :: more) = .char c :: joinPieces more := by
  obtain ⟨c, joined⟩ := ofValue_joinSurrogates high low
  refine ⟨c, ?_⟩
  rw [joinPieces, first, second, Bool.and_self, if_pos rfl, joined]

/-- Only the low half of a pair gives a low surrogate at the start. -/
theorem low_of_head_joinPieces {more : List Piece} {q : CodePoint}
    (head : (joinPieces (.unit n :: more)).head? = some q) (low : isLowSurrogate q.value = true) :
    isLowSurrogate n = true := by
  by_cases pair : isHighSurrogate n = true ∧
      ∃ l, more.head? = some (.unit l) ∧ isLowSurrogate l = true
  · obtain ⟨first, l, next, second⟩ := pair
    obtain ⟨rest, rfl⟩ := List.head?_eq_some_iff.mp next
    obtain ⟨c, joined⟩ := joinPieces_joined first second rest
    rw [joined] at head
    obtain rfl := Option.some.inj head
    rw [not_isLowSurrogate_char] at low
    cases low
  · rw [joinPieces_unit fun first l next => eq_false_of_ne_true fun second =>
      pair ⟨first, l, next, second⟩] at head
    obtain rfl := Option.some.inj head
    exact isLowSurrogate_ofValue low

theorem isUnpaired_joinPieces {pieces : List Piece} (each : PointsWhole pieces) :
    IsUnpaired ⟨joinPieces pieces⟩ := by
  have tail {piece : Piece} {more : List Piece} (each : PointsWhole (piece :: more)) :
      PointsWhole more := fun p member => each p (List.mem_cons_of_mem _ member)
  fun_induction joinPieces pieces with
  | case1 high low rest pair ih =>
    obtain ⟨first, second⟩ := Bool.and_eq_true_iff.mp pair
    obtain ⟨c, joined⟩ := ofValue_joinSurrogates high low
    rw [joined]
    exact isUnpaired_cons_char c (ih (tail (tail each)))
  | case2 high low rest noPair ih =>
    refine .cons (ih (tail each)) fun q head pair => noPair ?_
    rw [isHighSurrogate_ofValue pair.1, low_of_head_joinPieces head pair.2, Bool.and_self]
  | case3 n rest single ih =>
    refine .cons (ih (tail each)) fun q head pair => ?_
    cases rest with
    | nil => cases head
    | cons piece more =>
      cases piece with
      | unit low => exact single low more rfl
      | point p =>
        obtain rfl : p = q := Option.some.inj head
        obtain ⟨c, rfl⟩ := char_of_not_isSurrogate (tail each p List.mem_cons_self)
        have low := pair.2
        rw [not_isLowSurrogate_char] at low
        cases low
  | case4 p rest ih =>
    obtain ⟨c, rfl⟩ := char_of_not_isSurrogate (each p List.mem_cons_self)
    exact isUnpaired_cons_char c (ih (tail each))
  | case5 => exact .nil

theorem readText_sound (clean : Clean whole ps) :
    Sound (fun t => whole → t.IsUnpaired) limit ps (readText ps) :=
  (readPieces_sound clean).lift fun _ each holds => isUnpaired_joinPieces (each holds)

/-! ### Numbers -/

theorem asciiDigitValue_lt {c : Char} (digit : isAsciiDigit c = true) : asciiDigitValue c < 10 := by
  simp only [isAsciiDigit, Bool.and_eq_true, decide_eq_true_eq] at digit
  have last : c.toNat ≤ '9'.toNat := digit.2
  unfold asciiDigitValue
  have nine : '9'.toNat = 57 := rfl
  have zero : '0'.toNat = 48 := rfl
  omega

/-- A run of digits is worth a number that needs no more of them. -/
theorem length_toDigits_digitsValue {ds : List CodePoint} (digits : ∀ p ∈ ds, isDigit p = true)
    (nonempty : ds ≠ []) : (Nat.toDigits 10 (digitsValue ds)).length ≤ ds.length := by
  obtain ⟨cs, rfl, each⟩ : ∃ cs, ds = points cs ∧ IsDigits cs := exists_chars digits
  have small : ∀ d ∈ cs.map asciiDigitValue, d < 10 := by
    intro d member
    obtain ⟨c, digit, rfl⟩ := List.mem_map.mp member
    exact asciiDigitValue_lt (each c digit)
  have shorter := length_toDigits_ofDigits small (by simpa [points] using nonempty)
  rw [digitsValue_points each, ← ofDigits_map]
  simpa [points] using shorter

theorem readWhole_eq {whole : List CodePoint} (read : readWhole ps = some (whole, rest)) :
    ps = whole ++ rest ∧ whole ≠ [] ∧ ∀ p ∈ whole, isDigit p = true := by
  unfold readWhole at read
  split at read
  · obtain ⟨rfl, rfl⟩ := Prod.mk.inj (Option.some.inj read)
    exact ⟨rfl, List.cons_ne_nil _ _, by simp; rfl⟩
  · split at read
    · rename_i p more _ digit
      obtain ⟨rfl, rfl⟩ := Prod.mk.inj (Option.some.inj read)
      refine ⟨List.takeWhile_append_dropWhile.symm, ?_, fun q => List.mem_takeWhile_imp⟩
      rw [List.takeWhile_cons_of_pos digit]
      exact List.cons_ne_nil _ _
    · cases read
  · cases read

theorem readFraction_suffix (ps : List CodePoint) : (readFraction ps).2 <:+ ps := by
  unfold readFraction
  split
  · split
    · exact (List.dropWhile_suffix _).trans (List.suffix_cons _ _)
    · exact List.suffix_rfl
  · exact List.suffix_rfl

theorem readSign_suffix (ps : List CodePoint) : (readSign ps).2 <:+ ps := by
  unfold readSign
  split
  · exact List.suffix_cons _ _
  · exact List.suffix_cons _ _
  · exact List.suffix_rfl

theorem readExponent_suffix (ps : List CodePoint) : (readExponent ps).2 <:+ ps := by
  unfold readExponent
  split
  · rename_i e rest
    split
    · dsimp only
      split
      · exact List.suffix_rfl
      · exact ((List.dropWhile_suffix _).trans (readSign_suffix rest)).trans (List.suffix_cons _ _)
    · exact List.suffix_rfl
  · exact List.suffix_rfl

theorem readUnsigned_sound (negative : Bool) (ps : List CodePoint) :
    Sound (IsRead whole) limit ps (readUnsigned negative ps) := by
  unfold readUnsigned
  split
  · exact .fail _
  · rename_i digits afterWhole read
    obtain ⟨rfl, nonempty, each⟩ := readWhole_eq read
    have suffix : (readExponent (readFraction afterWhole).2).2 <:+ digits ++ afterWhole :=
      ((readExponent_suffix _).trans (readFraction_suffix _)).trans (List.suffix_append _ _)
    dsimp only
    split
    · split
      · rename_i long
        exact ⟨long, digits, (List.prefix_append _ _).isInfix, rfl, each⟩
      · rename_i notLong
        refine ⟨⟨?_, fun _ => trivial⟩, suffix⟩
        have short := (length_toDigits_digitsValue each nonempty).trans (Nat.not_lt.mp notLong)
        cases negative <;> simpa [Scalar.isShort] using short
    · exact ⟨⟨rfl, fun _ => trivial⟩, suffix⟩

theorem readNumber_sound (ps : List CodePoint) : Sound (IsRead whole) limit ps (readNumber ps) := by
  cases ps with
  | nil => exact readUnsigned_sound false []
  | cons p ps =>
    by_cases sign : p = '-'
    · rw [sign, readNumber_negative]
      exact (readUnsigned_sound true ps).of_suffix (List.suffix_cons _ _)
    · rw [readNumber_of_ne sign]
      exact readUnsigned_sound false _

/-! ### Values -/

theorem readWord?_sound {d : Data} (read : readWord? ps = some (d, rest)) :
    d.Made (IsRead whole) ∧ rest <:+ ps := by
  obtain ⟨w, member, found⟩ := List.exists_of_findSome?_eq_some read
  obtain ⟨left, isPrefix, same⟩ := Option.map_eq_some_iff.mp found
  obtain ⟨rfl, rfl⟩ := Prod.mk.inj same
  refine ⟨?_, ⟨_, List.isPrefixOf?_eq_some_iff_append_eq.mp isPrefix⟩⟩
  simp only [words, List.mem_cons, List.not_mem_nil, or_false] at member
  rcases member with rfl | rfl | rfl | rfl | rfl | rfl
  · exact .null
  all_goals exact .scalar ⟨rfl, fun _ => trivial⟩

/-- What is read with some fuel, for a value, for the items of a list and for the members of a
map. -/
structure ReadsSoundly (whole : Prop) (fuel : Nat) : Prop where
  value : ∀ limit ps, Clean whole ps →
    Sound (Data.Made (IsRead whole)) limit ps (readValue limit fuel ps)
  items : ∀ limit ps, Clean whole ps →
    Sound (fun ds => ∀ d ∈ ds, Data.Made (IsRead whole) d) limit ps (readItems limit fuel ps)
  members : ∀ limit ps, Clean whole ps →
    Sound (fun es : List (Atom × Data) =>
      ∀ e ∈ es, (∃ t, e.1 = .scalar (.text t)) ∧ Data.Made (IsRead whole) e.2) limit ps
      (readMembers limit fuel ps)

theorem readsSoundly_succ (smaller : ReadsSoundly whole fuel) : ReadsSoundly whole (fuel + 1) where
  value limit ps clean := by
    unfold readValue
    split
    · rename_i rest
      have suffix : rest <:+ .char '"' :: rest := List.suffix_cons _ _
      exact ((readText_sound (clean.of_suffix suffix)).lift fun t unpaired =>
        .scalar ⟨rfl, unpaired⟩).of_suffix suffix
    · rename_i rest
      have suffix : skipSpace rest <:+ .char '[' :: rest :=
        (skipSpace_suffix rest).trans (List.suffix_cons _ _)
      split
      · rename_i refused
        exact .of_not_enter rfl refused
      · rename_i inner entered
        split
        · rename_i after closed
          exact ⟨.list fun _ => List.not_mem_nil.elim,
            (suffix_of_cons closed).trans (List.suffix_cons _ _)⟩
        · exact (((smaller.items inner _ (clean.of_suffix suffix)).lift fun _ each =>
            .list each).of_suffix (skipSpace_suffix rest)).of_enter rfl entered
    · rename_i rest
      have suffix : skipSpace rest <:+ .char '\x7b' :: rest :=
        (skipSpace_suffix rest).trans (List.suffix_cons _ _)
      split
      · rename_i refused
        exact .of_not_enter rfl refused
      · rename_i inner entered
        split
        · rename_i after closed
          exact ⟨.map (fun _ => List.not_mem_nil.elim) fun _ => List.not_mem_nil.elim,
            (suffix_of_cons closed).trans (List.suffix_cons _ _)⟩
        · exact (((smaller.members inner _ (clean.of_suffix suffix)).lift fun members each =>
            .map (fun e member => (each e (Entries.mem_of_mem_ofPairs member)).1)
              fun e member => (each e (Entries.mem_of_mem_ofPairs member)).2).of_suffix
            (skipSpace_suffix rest)).of_enter rfl entered
    · split
      · rename_i r read
        obtain ⟨d, rest⟩ := r
        exact readWord?_sound read
      · exact (readNumber_sound _).lift fun s holds => .scalar holds
  items limit ps clean := by
    unfold readItems
    refine (smaller.value limit ps clean).bind fun item rest made suffix => ?_
    dsimp only
    split
    · rename_i after closed
      exact ⟨List.forall_mem_singleton.mpr made, (suffix_of_cons closed).trans suffix⟩
    · rename_i more next
      have left : skipSpace more <:+ ps :=
        ((skipSpace_suffix more).trans (suffix_of_cons next)).trans suffix
      refine ((smaller.items limit _ (clean.of_suffix left)).of_suffix left).bind
        fun items after each suffix => ?_
      exact ⟨List.forall_mem_cons.mpr ⟨made, each⟩, suffix⟩
    · exact .fail _
  members limit ps clean := by
    unfold readMembers
    split
    · rename_i afterQuote
      have start : afterQuote <:+ .char '"' :: afterQuote := List.suffix_cons _ _
      refine ((readText_sound (clean.of_suffix start)).of_suffix start).bind
        fun name afterName _ suffix => ?_
      dsimp only
      split
      · rename_i afterColon colon
        have left : skipSpace afterColon <:+ .char '"' :: afterQuote :=
          ((skipSpace_suffix afterColon).trans (suffix_of_cons colon)).trans suffix
        refine ((smaller.value limit _ (clean.of_suffix left)).of_suffix left).bind
          fun value rest made suffix => ?_
        dsimp only
        split
        · rename_i after closed
          exact ⟨List.forall_mem_singleton.mpr ⟨⟨name, rfl⟩, made⟩,
            (suffix_of_cons closed).trans suffix⟩
        · rename_i more next
          have left : skipSpace more <:+ .char '"' :: afterQuote :=
            ((skipSpace_suffix more).trans (suffix_of_cons next)).trans suffix
          refine ((smaller.members limit _ (clean.of_suffix left)).of_suffix left).bind
            fun members after each suffix => ?_
          exact ⟨List.forall_mem_cons.mpr ⟨⟨⟨name, rfl⟩, made⟩, each⟩, suffix⟩
        · exact .fail _
      · exact .fail _
    · exact .fail _

theorem readsSoundly (whole : Prop) (fuel : Nat) : ReadsSoundly whole fuel := by
  induction fuel with
  | zero =>
    constructor
    · intro limit ps _
      rw [readValue]
      exact .fail _
    · intro limit ps _
      rw [readItems]
      exact .fail _
    · intro limit ps _
      rw [readMembers]
      exact .fail _
  | succ fuel ih => exact readsSoundly_succ ih

/-! ### Documents -/

/-- What may come of reading a whole document. -/
def SoundDocument (whole : Prop) (limit : Option Nat) (ps : List CodePoint) :
    Except Fault Data → Prop
  | .ok d => d.Made (IsRead whole)
  | .error (.oversized n) => HasLongRun n ps
  | .error (.malformed _) => True
  | .error (.nested _) => ¬Roomy limit ps

theorem readPointsWithin_sound (limit : Option Nat) (clean : Clean whole ps) :
    SoundDocument whole limit ps (readPointsWithin limit ps) := by
  have suffix := skipSpace_suffix ps
  have sound := ((readsSoundly whole (2 * ps.length + 2)).value limit _
    (clean.of_suffix suffix)).of_suffix suffix
  unfold readPointsWithin
  match readValue limit (2 * ps.length + 2) (skipSpace ps), sound with
  | .ok (d, rest), ⟨made, _⟩ =>
    show SoundDocument whole limit ps (if (skipSpace rest).isEmpty then _ else _)
    split
    · exact made
    · trivial
  | .error (.oversized _), run => exact run
  | .error (.malformed _), _ => trivial
  | .error (.nested _), crowded => exact crowded

theorem readWithin_sound (limit : Option Nat) {t : Text} (clean : Clean whole t.points) :
    SoundDocument whole limit t.points (readWithin limit t) := by
  unfold readWithin
  split
  · trivial
  · exact readPointsWithin_sound limit clean

theorem readPoints_sound (clean : Clean whole ps) : SoundDocument whole none ps (readPoints ps) :=
  readPointsWithin_sound none clean

theorem read_sound {t : Text} (clean : Clean whole t.points) :
    SoundDocument whole none t.points (read t) :=
  readWithin_sound none clean

theorem clean_false (ps : List CodePoint) : Clean False ps :=
  False.elim

theorem hasLongRun_of_readPoints (long : readPoints ps = .error (.oversized n)) :
    HasLongRun n ps := by
  have sound := readPoints_sound (clean_false ps)
  rwa [long] at sound

theorem hasLongRun_of_read {t : Text} (long : read t = .error (.oversized n)) :
    HasLongRun n t.points := by
  have sound := read_sound (clean_false t.points)
  rwa [long] at sound

theorem isShort_of_made {d : Data} (made : d.Made (IsRead whole)) : d.isShort = true := by
  induction made with
  | null => rfl
  | scalar holds => exact holds.1
  | list _ ih => exact Data.areShort_iff.mpr ih
  | map keys _ ih =>
    refine Data.entriesAreShort_iff.mpr fun e member => ⟨?_, ih e member⟩
    obtain ⟨t, key⟩ := keys e member
    rw [key]
    rfl

theorem isShort_of_read {t : Text} {d : Data} (found : read t = .ok d) : d.isShort = true := by
  have sound := read_sound (clean_false t.points)
  rw [found] at sound
  exact isShort_of_made sound

end Json

end Screening
