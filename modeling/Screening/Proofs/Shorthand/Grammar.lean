import Screening.Proofs.Text.Characters
import Screening.Proofs.Text.Runs
import Screening.Shorthand

/-!
# The grammar of the shorthand

A shorthand is a name, an operator and a value, with space between them and around. The name and the
operator are as long as can be, and what the value means is told by its end, its letters or its
quotes before it is tried as a number. There is one exception: where a text stops after `>=` or `<=`
the equals sign is taken for a value. No other text is read: `parse_iff_spells`.
-/

namespace Screening.Shorthand

open Text

variable {t : Text} {c : Comparison} {op : Operator} {s : Scalar} {b : Bool} {name : List Char}
  {cs ps rest gap space value inside : List CodePoint}

def token (op : Operator) : List CodePoint := (Text.ofString op.token).points

/-- A text without the space around it. -/
def stripped (t : Text) : List CodePoint := stripBy (·.isChar isBlank) t.points

def IsSpace (ps : List CodePoint) : Prop := ∀ p ∈ ps, p.isChar isBlank = true

/-- No character that passes the test is at the start. -/
def NotAhead (test : Char → Bool) (ps : List CodePoint) : Prop :=
  ∀ p, ps.head? = some p → p.isChar test = false

structure IsIdentifier (name : List Char) : Prop where
  start : ∃ c, name.head? = some c ∧ isNameStart c = true
  chars : ∀ c ∈ name, isNameChar c = true

/-- Of the operators that a shorthand can have, the longest that a text starts with. -/
structure IsLongestAt (op : Operator) (ps : List CodePoint) : Prop where
  known : op ∈ operators
  ahead : token op <+: ps
  longest : ∀ op' ∈ operators, token op' <+: ps → (token op').length ≤ (token op).length

/-! ### What a value means -/

/-- The word for a truth value, in any letter case. -/
def IsTruth (b : Bool) (value : List CodePoint) : Prop :=
  ∃ word : List Char, value = word.map .char ∧
    String.ofList (word.map Numeral.lowerAscii) = if b then "true" else "false"

def IsQuoted (value inside : List CodePoint) : Prop :=
  ∃ q, isQuote q = true ∧ value = q :: (inside ++ [q])

structure IsPlain (value : List CodePoint) : Prop where
  percent : value.getLast? ≠ some (.char '%')
  truth : ∀ b, ¬IsTruth b value
  quotes : ∀ inside, ¬IsQuoted value inside

inductive Means (value : List CodePoint) : Scalar → Prop
  | percent {before : List CodePoint} {s : Scalar} (sign : value = before ++ [.char '%'])
      (number : number? before = some s) : Means value s
  | truth {b : Bool} (word : IsTruth b value) : Means value (.bool b)
  | quoted {inside : List CodePoint} (quotes : IsQuoted value inside) : Means value (.text ⟨inside⟩)
  | number {s : Scalar} (plain : IsPlain value) (number : number? value = some s) : Means value s
  | bare (plain : IsPlain value) (noNumber : number? value = none) : Means value (.text ⟨value⟩)

theorem truth?_eq_some : truth? value = some b ↔ IsTruth b value := by
  have shape : truth? value = some b ↔ ∃ word, charsOf? value = some word ∧
      String.ofList (word.map Numeral.lowerAscii) = if b then "true" else "false" := by
    unfold truth?
    cases charsOf? value with
    | none => simp
    | some word =>
      simp only [Option.map_some, Option.some.injEq, exists_eq_left']
      split
      · rename_i same
        cases b <;> simp_all
      · rename_i same
        cases b <;> simp_all
      · rename_i noTrue noFalse
        cases b <;> simp_all
  rw [shape]
  exact exists_congr fun word => and_congr_left fun _ => charsOf?_eq_some

theorem unquoted?_eq_some : unquoted? value = some inside ↔ IsQuoted value inside := by
  unfold unquoted? IsQuoted
  cases value with
  | nil => simp
  | cons first rest =>
    dsimp only
    constructor
    · intro found
      split at found
      · rename_i quotes
        obtain ⟨quote, last⟩ := Bool.and_eq_true_iff.mp quotes
        obtain ⟨before, rfl⟩ := List.getLast?_eq_some_iff.mp (eq_of_beq last)
        obtain rfl := Option.some.inj found
        exact ⟨first, quote, by rw [List.dropLast_concat]⟩
      · cases found
    · rintro ⟨q, quote, shape⟩
      obtain ⟨rfl, rfl⟩ := List.cons.inj shape
      simp [quote]

theorem ends_of_isTruth (truth : IsTruth b value) : ∃ first last,
    value.head? = some (.char first) ∧ value.getLast? = some (.char last) ∧
      Numeral.lowerAscii first ∈ ['t', 'f'] ∧ Numeral.lowerAscii last = 'e' := by
  obtain ⟨word, rfl, same⟩ := truth
  have letters : word.map Numeral.lowerAscii = (if b then "true" else "false").toList := by
    rw [← same, String.toList_ofList]
  have head := congrArg List.head? letters
  have last := congrArg List.getLast? letters
  rw [List.head?_map] at head ⊢
  rw [List.getLast?_map] at last ⊢
  cases first : word.head? with
  | none => rw [first] at head; cases b <;> cases head
  | some x =>
    cases final : word.getLast? with
    | none => rw [final] at last; cases b <;> cases last
    | some y =>
      rw [first] at head
      rw [final] at last
      refine ⟨x, y, rfl, rfl, ?_, ?_⟩
      · cases b <;> obtain same := Option.some.inj head <;> rw [same] <;> decide
      · cases b <;> exact Option.some.inj last

theorem ends_of_isQuoted (quoted : IsQuoted value inside) :
    ∃ q, isQuote q = true ∧ value.head? = some q ∧ value.getLast? = some q := by
  obtain ⟨q, quote, rfl⟩ := quoted
  exact ⟨q, quote, rfl, by rw [← List.cons_append, List.getLast?_concat]⟩

theorem not_percent_of_isTruth (truth : IsTruth b value) :
    value.getLast? ≠ some (.char '%') := by
  obtain ⟨_, last, _, final, _, letter⟩ := ends_of_isTruth truth
  intro percent
  rw [percent] at final
  obtain rfl := CodePoint.char.inj (Option.some.inj final)
  exact absurd letter (by decide)

theorem not_percent_of_isQuoted (quoted : IsQuoted value inside) :
    value.getLast? ≠ some (.char '%') := by
  obtain ⟨q, quote, _, final⟩ := ends_of_isQuoted quoted
  intro percent
  rw [percent] at final
  obtain rfl := Option.some.inj final
  cases quote

theorem not_isTruth_of_isQuoted (quoted : IsQuoted value inside) : ¬IsTruth b value := by
  intro truth
  obtain ⟨q, quote, head, _⟩ := ends_of_isQuoted quoted
  obtain ⟨first, _, head', _, letter, _⟩ := ends_of_isTruth truth
  rw [head] at head'
  obtain rfl := Option.some.inj head'
  simp only [isQuote, Bool.or_eq_true, beq_iff_eq, CodePoint.char.injEq] at quote
  rcases quote with rfl | rfl <;> exact absurd letter (by decide)

theorem isPlain_iff : IsPlain value ↔ value.getLast? ≠ some (.char '%') ∧ truth? value = none ∧
    unquoted? value = none := by
  have noTruth : truth? value = none ↔ ∀ b, ¬IsTruth b value := by
    simp only [Option.eq_none_iff_forall_ne_some, ne_eq, truth?_eq_some]
  have noQuotes : unquoted? value = none ↔ ∀ inside, ¬IsQuoted value inside := by
    simp only [Option.eq_none_iff_forall_ne_some, ne_eq, unquoted?_eq_some]
  rw [noTruth, noQuotes]
  exact ⟨fun plain => ⟨plain.percent, plain.truth, plain.quotes⟩,
    fun parts => ⟨parts.1, parts.2.1, parts.2.2⟩⟩

theorem means_of_value? (found : value? value = some s) : Means value s := by
  unfold value? at found
  split at found
  · rename_i percent
    obtain ⟨before, rfl⟩ := List.getLast?_eq_some_iff.mp percent
    rw [List.dropLast_concat] at found
    exact .percent rfl found
  · rename_i percent
    split at found
    · rename_i b truth
      obtain rfl := Option.some.inj found
      exact .truth (truth?_eq_some.mp truth)
    · rename_i truth
      split at found
      · rename_i inside quotes
        obtain rfl := Option.some.inj found
        exact .quoted (unquoted?_eq_some.mp quotes)
      · rename_i quotes
        have plain := isPlain_iff.mpr ⟨percent, truth, quotes⟩
        cases number : number? value with
        | some s' =>
          rw [number] at found
          obtain rfl := Option.some.inj found
          exact .number plain number
        | none =>
          rw [number] at found
          obtain rfl := Option.some.inj found
          exact .bare plain number

theorem value?_of_isPlain (plain : IsPlain value) :
    value? value = some ((number? value).getD (.text ⟨value⟩)) := by
  obtain ⟨percent, truth, quotes⟩ := isPlain_iff.mp plain
  unfold value?
  rw [if_neg percent, truth, quotes]

theorem value?_of_means (means : Means value s) : value? value = some s := by
  cases means with
  | percent sign number =>
    unfold value?
    rw [sign, List.getLast?_concat, if_pos rfl, List.dropLast_concat]
    exact number
  | truth word =>
    unfold value?
    rw [if_neg (not_percent_of_isTruth word), truth?_eq_some.mpr word]
  | quoted quotes =>
    have noTruth : truth? value = none := Option.eq_none_iff_forall_ne_some.mpr fun b truth =>
      not_isTruth_of_isQuoted quotes (truth?_eq_some.mp truth)
    unfold value?
    rw [if_neg (not_percent_of_isQuoted quotes), noTruth, unquoted?_eq_some.mpr quotes]
  | number plain number =>
    rw [value?_of_isPlain plain, number]
    rfl
  | bare plain noNumber =>
    rw [value?_of_isPlain plain, noNumber]
    rfl

theorem value?_eq_some : value? value = some s ↔ Means value s :=
  ⟨means_of_value?, value?_of_means⟩

/-! ### Names -/

/-- A text that starts with a name, and what follows it but for space. -/
structure Opens (ps : List CodePoint) (name : List Char) (gap rest : List CodePoint) : Prop where
  text : ps = name.map .char ++ (gap ++ rest)
  name : IsIdentifier name
  longest : NotAhead isNameChar (gap ++ rest)
  gap : IsSpace gap
  solid : NotAhead isBlank rest

theorem filterMap_chars (name : List Char) :
    (name.map CodePoint.char).filterMap CodePoint.char? = name := by
  rw [List.filterMap_map]
  exact List.filterMap_some

theorem splitName?_eq_some : splitName? ps = some (t, rest) ↔ ∃ name, IsIdentifier name ∧
    ps = name.map .char ++ rest ∧ NotAhead isNameChar rest ∧ t = .ofChars (name.map capital) := by
  constructor
  · intro found
    have passes : ∀ p ∈ ps.takeWhile (·.isChar isNameChar), p.isChar isNameChar = true :=
      fun p => List.mem_takeWhile_imp
    obtain ⟨name, taken, chars⟩ := exists_chars passes
    have parts := List.takeWhile_append_dropWhile (p := (·.isChar isNameChar)) (l := ps)
    unfold splitName? at found
    rw [taken, filterMap_chars] at found
    rw [taken] at parts
    have dropped : ps.drop name.length = ps.dropWhile (·.isChar isNameChar) := by
      conv_lhs => rw [← parts]
      exact List.drop_left' (List.length_map _)
    cases name with
    | nil => cases found
    | cons first more =>
      dsimp only at found
      split at found
      · rename_i start
        obtain ⟨rfl, rfl⟩ := Prod.mk.inj (Option.some.inj found)
        rw [dropped]
        exact ⟨first :: more, ⟨⟨first, rfl, start⟩, chars⟩, parts.symm,
          head_dropWhile _ ps, rfl⟩
      · cases found
  · rintro ⟨name, identifier, rfl, stops, rfl⟩
    have passes : ∀ p ∈ name.map CodePoint.char, p.isChar isNameChar = true := by
      intro p member
      obtain ⟨c, own, rfl⟩ := List.mem_map.mp member
      exact identifier.chars c own
    have taken := takeWhile_append_of_stops passes stops
    have left : (name.map CodePoint.char ++ rest).drop name.length = rest :=
      List.drop_left' (List.length_map _)
    obtain ⟨first, head, start⟩ := identifier.start
    obtain ⟨more, rfl⟩ := List.head?_eq_some_iff.mp head
    unfold splitName?
    rw [taken, filterMap_chars]
    dsimp only
    rw [left, if_pos start]

/-! ### Operators -/

theorem afterOperator?_eq_some : afterOperator? op ps = some rest ↔ ps = token op ++ rest := by
  unfold afterOperator? token
  constructor
  · intro found
    dsimp only at found
    split at found
    · rename_i ahead
      obtain ⟨after, rfl⟩ := List.isPrefixOf_iff_prefix.mp ahead
      rw [List.drop_left] at found
      rw [Option.some.inj found]
    · cases found
  · rintro rfl
    dsimp only
    rw [List.drop_left, if_pos (List.isPrefixOf_iff_prefix.mpr (List.prefix_append _ _))]

/-- A value, and the space before it. -/
structure Follows (ps space value : List CodePoint) : Prop where
  text : ps = space ++ value
  space : IsSpace space
  nonempty : value ≠ []
  solid : NotAhead isBlank value
  line : .char '\n' ∉ value

theorem valueAfter?_eq_some : valueAfter? ps = some value ↔ ∃ space, Follows ps space value := by
  unfold valueAfter?
  constructor
  · intro found
    dsimp only at found
    split at found
    · cases found
    · rename_i accepted
      obtain rfl := Option.some.inj found
      simp only [Bool.or_eq_true, List.isEmpty_iff, List.contains_iff_mem, not_or] at accepted
      exact ⟨ps.takeWhile (·.isChar isBlank), List.takeWhile_append_dropWhile.symm,
        fun p => List.mem_takeWhile_imp, accepted.1, head_dropWhile _ ps, accepted.2⟩
  · rintro ⟨space, rfl, blank, nonempty, solid, line⟩
    have left := dropWhile_append_of_stops blank solid
    dsimp only
    rw [left, if_neg]
    simp only [Bool.or_eq_true, List.isEmpty_iff, List.contains_iff_mem, not_or]
    exact ⟨nonempty, line⟩

theorem eq_nil_of_valueAfter? (failed : valueAfter? ps = none) (line : .char '\n' ∉ ps)
    (trimmed : ∀ p, ps.getLast? = some p → p.isChar isBlank = false) : ps = [] := by
  by_contra nonempty
  have value : ps.dropWhile (·.isChar isBlank) ≠ [] := by
    intro none
    have last := trimmed _ (List.getLast?_eq_some_getLast nonempty)
    rw [List.dropWhile_eq_nil_iff.mp none _ (List.getLast_mem nonempty)] at last
    cases last
  have follows : Follows ps (ps.takeWhile (·.isChar isBlank)) (ps.dropWhile (·.isChar isBlank)) :=
    ⟨List.takeWhile_append_dropWhile.symm, fun p => List.mem_takeWhile_imp, value,
      head_dropWhile _ ps, fun member => line ((List.dropWhile_suffix _).subset member)⟩
  rw [valueAfter?_eq_some.mpr ⟨_, follows⟩] at failed
  cases failed

/-- Longer operators come first, and no two are written the same. -/
theorem operators_ordered : operators.Pairwise fun op op' =>
    (token op').length ≤ (token op).length ∧ token op ≠ token op' := by
  decide

/-- The operators in which another one is taken for the start, each with that one. -/
def shortened : List (Operator × Operator) := [(.ge, .gt), (.le, .lt)]

theorem mem_shortened : ∀ long ∈ operators, ∀ op ∈ operators, token op <+: token long →
    (token op).length < (token long).length → (long, op) ∈ shortened := by
  decide

theorem token_shortened : ∀ pair ∈ shortened, token pair.1 = token pair.2 ++ [.char '='] := by
  decide

theorem attempt_eq_some {op' : Operator} :
    ((afterOperator? op ps).bind valueAfter?).map (op, ·) = some (op', value) ↔
      op = op' ∧ ∃ rest, ps = token op ++ rest ∧ valueAfter? rest = some value := by
  simp only [Option.map_eq_some_iff, Option.bind_eq_some_iff, afterOperator?_eq_some, Prod.mk.injEq]
  constructor
  · rintro ⟨_, ⟨rest, text, found⟩, rfl, rfl⟩
    exact ⟨rfl, rest, text, found⟩
  · rintro ⟨rfl, rest, text, found⟩
    exact ⟨value, ⟨rest, text, found⟩, rfl, rfl⟩

theorem splitOperator?_eq_some_iff_first : splitOperator? ps = some (op, value) ↔
    ∃ before after, operators = before ++ op :: after ∧
      (∃ rest, ps = token op ++ rest ∧ valueAfter? rest = some value) ∧
      ∀ op' ∈ before, ∀ rest, ps = token op' ++ rest → valueAfter? rest = none := by
  unfold splitOperator?
  rw [List.findSome?_eq_some_iff]
  constructor
  · rintro ⟨before, op', after, split, found, none⟩
    obtain ⟨rfl, text⟩ := attempt_eq_some.mp found
    refine ⟨before, after, split, text, fun op' member rest text => ?_⟩
    have failed := none op' member
    rw [Option.map_eq_none_iff, afterOperator?_eq_some.mpr text] at failed
    exact failed
  · rintro ⟨before, after, split, text, none⟩
    refine ⟨before, op, after, split, attempt_eq_some.mpr ⟨rfl, text⟩, fun op' member => ?_⟩
    rw [Option.map_eq_none_iff, Option.bind_eq_none_iff]
    exact fun rest found => none op' member rest (afterOperator?_eq_some.mp found)

theorem splitOperator?_of_isLongestAt (longest : IsLongestAt op ps) (text : ps = token op ++ rest)
    (found : valueAfter? rest = some value) : splitOperator? ps = some (op, value) := by
  obtain ⟨before, after, split⟩ := List.append_of_mem longest.known
  rw [splitOperator?_eq_some_iff_first]
  refine ⟨before, after, split, ⟨rest, text, found⟩, fun op' member rest' text' => ?_⟩
  -- What was tried before is no shorter, so if it started the text it would be the longest too.
  have order := (List.pairwise_append.mp (split ▸ operators_ordered)).2.2 op' member op
    List.mem_cons_self
  have known : op' ∈ operators := by
    rw [split]
    exact List.mem_append_left _ member
  have ahead : token op' <+: ps := ⟨rest', text'.symm⟩
  have same : token op' = token op :=
    (List.prefix_of_prefix_length_le ahead longest.ahead (longest.longest op' known ahead)).eq_of_length_le
      order.1
  exact absurd same order.2

theorem mem_before {op' : Operator} {before after : List Operator}
    (split : operators = before ++ op :: after) (known : op' ∈ operators)
    (longer : (token op).length < (token op').length) : op' ∈ before := by
  have order := (List.pairwise_append.mp (split ▸ operators_ordered)).2.1
  rw [split] at known
  rcases List.mem_append.mp known with tried | later
  · exact tried
  · rcases List.mem_cons.mp later with rfl | later
    · exact absurd longer (lt_irrefl _)
    · have shorter := ((List.pairwise_cons.mp order).1 op' later).1
      omega

/-- When a longer operator has no value after it but the shorter one has, the value is the equals sign
between them. -/
theorem eq_token_of_shortened {long : Operator} {beyond : List CodePoint}
    (trimmed : ∀ p, ps.getLast? = some p → p.isChar isBlank = false)
    (pair : (long, op) ∈ shortened) (text : ps = token op ++ rest) (follows : Follows rest space value)
    (text' : ps = token long ++ beyond) (failed : valueAfter? beyond = none) :
    ps = token long ∧ value = [.char '='] := by
  have spelled : token long = token op ++ [.char '='] := token_shortened _ pair
  obtain rfl : rest = .char '=' :: beyond := by
    rw [text', spelled, List.append_assoc] at text
    exact (List.append_cancel_left text).symm
  obtain rfl : value = .char '=' :: beyond := by
    cases space with
    | nil => exact follows.text.symm
    | cons p ps =>
      obtain ⟨rfl, _⟩ := List.cons.inj follows.text
      cases follows.space _ List.mem_cons_self
  -- What is beyond the longer operator is on one line and has no space at its end.
  have line : .char '\n' ∉ beyond := fun member => follows.line (List.mem_cons_of_mem _ member)
  obtain rfl : beyond = [] := by
    refine eq_nil_of_valueAfter? failed line fun p last => trimmed p ?_
    rw [text', List.getLast?_append, last]
    rfl
  exact ⟨by rw [text', List.append_nil], rfl⟩

/-- The operator is the longest, unless the text stops after a longer one. -/
theorem splitOperator?_eq_some (trimmed : ∀ p, ps.getLast? = some p → p.isChar isBlank = false) :
    splitOperator? ps = some (op, value) ↔
      (IsLongestAt op ps ∧ ∃ rest space, ps = token op ++ rest ∧ Follows rest space value) ∨
      ∃ long, (long, op) ∈ shortened ∧ ps = token long ∧ value = [.char '='] := by
  constructor
  · intro found
    obtain ⟨before, after, split, ⟨rest, text, valued⟩, none⟩ :=
      splitOperator?_eq_some_iff_first.mp found
    have known : op ∈ operators := by
      rw [split]
      exact List.mem_append_right _ List.mem_cons_self
    obtain ⟨space, follows⟩ := valueAfter?_eq_some.mp valued
    by_cases longest : ∀ op' ∈ operators, token op' <+: ps → (token op').length ≤ (token op).length
    · exact Or.inl ⟨⟨known, ⟨rest, text.symm⟩, longest⟩, rest, space, text, follows⟩
    · simp only [not_forall, not_le] at longest
      obtain ⟨long, member, ⟨beyond, text'⟩, longer⟩ := longest
      have ahead : token op <+: token long :=
        List.prefix_of_prefix_length_le ⟨rest, text.symm⟩ ⟨beyond, text'⟩ longer.le
      have pair := mem_shortened long member op known ahead longer
      have failed := none long (mem_before split member longer) beyond text'.symm
      exact Or.inr ⟨long, pair, eq_token_of_shortened trimmed pair text follows text'.symm failed⟩
  · rintro (⟨longest, rest, space, text, follows⟩ | ⟨long, pair, rfl, rfl⟩)
    · exact splitOperator?_of_isLongestAt longest text (valueAfter?_eq_some.mpr ⟨space, follows⟩)
    · simp only [shortened, List.mem_cons, List.not_mem_nil, or_false, Prod.mk.injEq] at pair
      rcases pair with ⟨rfl, rfl⟩ | ⟨rfl, rfl⟩ <;> rfl

/-! ### Rules -/

theorem isName_capital (identifier : IsIdentifier name) :
    (Text.ofChars (name.map capital)).IsName := by
  obtain ⟨first, head, _⟩ := identifier.start
  obtain ⟨more, rfl⟩ := List.head?_eq_some_iff.mp head
  exact ⟨by rintro ⟨⟩, isWhole_iff.mpr ⟨_, rfl⟩⟩

/-- A text that is a name, an operator and a value, and the comparison that it stands for. -/
inductive Spells (t : Text) : Comparison → Prop
  | intro {name : List Char} {gap after space value : List CodePoint} {op : Operator} {s : Scalar}
      (opens : Opens (stripped t) name gap (token op ++ after))
      (longest : IsLongestAt op (token op ++ after)) (follows : Follows after space value)
      (means : Means value s) :
      Spells t ⟨.ofChars (name.map capital), op, .scalar s, isName_capital opens.name⟩

/-- There is nothing after the operator. -/
def StopsAfter (op : Operator) (t : Text) : Prop :=
  ∃ name gap, Opens (stripped t) name gap (token op)

/-- A text that stops after an operator with an equals sign, which is taken for a value. -/
inductive CutOff (t : Text) : Comparison → Prop
  | intro {name : List Char} {gap : List CodePoint} {long op : Operator}
      (opens : Opens (stripped t) name gap (token long)) (pair : (long, op) ∈ shortened) :
      CutOff t ⟨.ofChars (name.map capital), op, .scalar (.text "="), isName_capital opens.name⟩

theorem last_of_suffix (suffix : ps <:+ stripped t) :
    ∀ p, ps.getLast? = some p → p.isChar isBlank = false := by
  intro p last
  obtain ⟨before, parts⟩ := suffix
  refine (isTrimmed_stripBy _ t.points).last p ?_
  show (stripped t).getLast? = some p
  rw [← parts, List.getLast?_append, last]
  rfl

theorem suffix_of_opens (opens : Opens ps name gap rest) : rest <:+ ps := by
  rw [opens.text]
  exact (List.suffix_append _ _).trans (List.suffix_append _ _)

theorem stripBy_value (follows : Follows ps space value) (suffix : ps <:+ stripped t) :
    stripBy (·.isChar isBlank) value = value := by
  refine stripBy_of_isTrimmed ⟨follows.solid, last_of_suffix (t := t) (List.IsSuffix.trans ?_ suffix)⟩
  rw [follows.text]
  exact List.suffix_append _ _

theorem splitName?_of_opens (opens : Opens ps name gap rest) :
    splitName? ps = some (.ofChars (name.map capital), gap ++ rest) :=
  splitName?_eq_some.mpr ⟨name, opens.name, opens.text, opens.longest, rfl⟩

theorem parse_of_opens (opens : Opens (stripped t) name gap rest) : parse t =
    (splitOperator? rest).bind fun found => (value? (stripBy (·.isChar isBlank) found.2)).map fun s =>
      ⟨.ofChars (name.map capital), found.1, .scalar s, isName_capital opens.name⟩ := by
  have left := dropWhile_append_of_stops opens.gap opens.solid
  show parsePoints (stripped t) = _
  unfold parsePoints
  rw [splitName?_of_opens opens]
  show (splitOperator? ((gap ++ rest).dropWhile (·.isChar isBlank)) >>= _) = _
  rw [left]
  refine congrArg (Option.bind _) (funext fun found => ?_)
  show (value? (stripBy _ found.2)).bind _ = _
  cases value? (stripBy (·.isChar isBlank) found.2) with
  | none => rfl
  | some s => exact dif_pos (isName_capital opens.name)

theorem opens_of_parse (found : parse t = some c) :
    ∃ name gap rest, Opens (stripped t) name gap rest := by
  obtain ⟨⟨capitals, after⟩, named, _⟩ := Option.bind_eq_some_iff.mp found
  obtain ⟨name, identifier, text, stops, _⟩ := splitName?_eq_some.mp named
  have parts := List.takeWhile_append_dropWhile (p := (·.isChar isBlank)) (l := after)
  refine ⟨name, after.takeWhile (·.isChar isBlank), after.dropWhile (·.isChar isBlank), ?_⟩
  exact ⟨by rw [parts]; exact text, identifier, by rw [parts]; exact stops,
    fun p => List.mem_takeWhile_imp, head_dropWhile _ after⟩

theorem value?_equals : value? [.char '='] = some (.text "=") := by
  rfl

theorem spells_or_cutOff_of_parse (found : parse t = some c) : Spells t c ∨ CutOff t c := by
  obtain ⟨name, gap, rest, opens⟩ := opens_of_parse found
  rw [parse_of_opens opens, Option.bind_eq_some_iff] at found
  obtain ⟨⟨op, value⟩, split, found⟩ := found
  obtain ⟨s, meant, rfl⟩ := Option.map_eq_some_iff.mp found
  have suffix := suffix_of_opens opens
  rcases (splitOperator?_eq_some (last_of_suffix suffix)).mp split with
    ⟨longest, after, space, rfl, follows⟩ | ⟨long, pair, rfl, rfl⟩
  · have own : after <:+ stripped t := (List.suffix_append _ _).trans suffix
    rw [stripBy_value follows own] at meant
    exact Or.inl (.intro opens longest follows (value?_eq_some.mp meant))
  · obtain rfl : .text "=" = s := by
      rw [stripBy_of_isTrimmed ⟨by rintro _ ⟨⟩; rfl, by rintro _ ⟨⟩; rfl⟩, value?_equals] at meant
      exact Option.some.inj meant
    exact Or.inr (.intro opens pair)

theorem parse_of_spells (spells : Spells t c) : parse t = some c := by
  cases spells with
  | @intro name gap after space value op s opens longest follows means =>
    have suffix := suffix_of_opens opens
    have own : after <:+ stripped t := (List.suffix_append _ _).trans suffix
    have split : splitOperator? (token op ++ after) = some (op, value) :=
      (splitOperator?_eq_some (last_of_suffix suffix)).mpr
        (Or.inl ⟨longest, after, space, rfl, follows⟩)
    rw [parse_of_opens opens, split, Option.bind_some, stripBy_value follows own,
      value?_eq_some.mpr means]
    rfl

theorem parse_of_cutOff (cut : CutOff t c) : parse t = some c := by
  cases cut with
  | @intro name gap long op opens pair =>
    have split : splitOperator? (token long) = some (op, [.char '=']) :=
      (splitOperator?_eq_some (last_of_suffix (suffix_of_opens opens))).mpr
        (Or.inr ⟨long, pair, rfl, rfl⟩)
    rw [parse_of_opens opens, split]
    rfl

theorem rest_unique {name' : List Char} {gap' rest' : List CodePoint}
    (opens : Opens ps name gap rest) (opens' : Opens ps name' gap' rest') : rest = rest' := by
  have named := splitName?_of_opens opens
  rw [splitName?_of_opens opens'] at named
  have after := (Prod.mk.inj (Option.some.inj named)).2
  rw [← dropWhile_append_of_stops opens.gap opens.solid, ← after,
    dropWhile_append_of_stops opens'.gap opens'.solid]

theorem not_spells_of_stopsAfter (known : op ∈ operators) (stops : StopsAfter op t) :
    ¬Spells t c := by
  obtain ⟨name, gap, opens⟩ := stops
  rintro ⟨opens', longest, follows, _⟩
  -- The longest operator takes all that is left, and nothing remains for a value.
  have same := rest_unique opens' opens
  rw [same] at longest
  have longer := longest.longest op known List.prefix_rfl
  have size := congrArg List.length same
  rw [List.length_append, follows.text, List.length_append] at size
  exact follows.nonempty (List.eq_nil_of_length_eq_zero (by omega))

theorem parse_of_stopsAfter (known : op ∈ operators) (stops : StopsAfter op t) :
    (∃ c, parse t = some c) ↔ op = .ge ∨ op = .le := by
  obtain ⟨name, gap, opens⟩ := stops
  rw [parse_of_opens opens]
  simp only [operators, List.mem_cons, List.not_mem_nil, or_false] at known
  rcases known with rfl | rfl | rfl | rfl | rfl | rfl
  · exact ⟨fun _ => Or.inl rfl, fun _ => ⟨_, rfl⟩⟩
  · exact ⟨fun _ => Or.inr rfl, fun _ => ⟨_, rfl⟩⟩
  all_goals
    constructor
    · rintro ⟨c, none⟩
      cases none
    · rintro (⟨⟨⟩⟩ | ⟨⟨⟩⟩)

theorem stopsAfter_of_cutOff (cut : CutOff t c) : StopsAfter .ge t ∨ StopsAfter .le t := by
  obtain ⟨opens, pair⟩ := cut
  simp only [shortened, List.mem_cons, List.not_mem_nil, or_false, Prod.mk.injEq] at pair
  rcases pair with ⟨rfl, _⟩ | ⟨rfl, _⟩
  · exact Or.inl ⟨_, _, opens⟩
  · exact Or.inr ⟨_, _, opens⟩

/-- What is read is what the text spells exactly when it does not stop after `>=` or `<=`. -/
theorem reads_spelled_iff :
    (∀ c, parse t = some c ↔ Spells t c) ↔ ¬StopsAfter .ge t ∧ ¬StopsAfter .le t := by
  constructor
  · intro documented
    have refuted {op : Operator} (known : op ∈ operators) (either : op = .ge ∨ op = .le) :
        ¬StopsAfter op t := by
      intro stops
      obtain ⟨c, found⟩ := (parse_of_stopsAfter known stops).mpr either
      exact not_spells_of_stopsAfter known stops ((documented c).mp found)
    exact ⟨refuted (by decide) (Or.inl rfl), refuted (by decide) (Or.inr rfl)⟩
  · rintro ⟨noGe, noLe⟩ c
    refine ⟨fun found => ?_, parse_of_spells⟩
    rcases spells_or_cutOff_of_parse found with spells | cut
    · exact spells
    · rcases stopsAfter_of_cutOff cut with ge | le
      · exact absurd ge noGe
      · exact absurd le noLe

/-- A text is read as the comparison that it spells, or that it stands for where it is cut off. It is
cut off when it stops after `>=` or `<=`; stopping after an operator it spells no comparison, and
after any other one it is not read. -/
theorem parse_iff_spells (t : Text) :
    (∀ c, parse t = some c ↔ Spells t c ∨ CutOff t c) ∧
    ((∀ c, parse t = some c ↔ Spells t c) ↔ ¬StopsAfter .ge t ∧ ¬StopsAfter .le t) ∧
    ∀ op ∈ operators, StopsAfter op t → (∀ c, ¬Spells t c) ∧
      ((∃ c, parse t = some c) ↔ op = .ge ∨ op = .le) := by
  refine ⟨fun c => ⟨spells_or_cutOff_of_parse, ?_⟩, reads_spelled_iff, fun op known stops => ?_⟩
  · rintro (spells | cut)
    · exact parse_of_spells spells
    · exact parse_of_cutOff cut
  · exact ⟨fun c => not_spells_of_stopsAfter known stops, parse_of_stopsAfter known stops⟩

theorem opens_stop (op : Operator) (solid : NotAhead isBlank (token op)) :
    Opens (.char 'A' :: .char ' ' :: token op) ['A'] [.char ' '] (token op) := by
  refine ⟨rfl, ⟨⟨'A', rfl, rfl⟩, fun c member => ?_⟩, ?_, fun p member => ?_, solid⟩
  · rw [List.mem_singleton.mp member]
    rfl
  · rintro p ⟨⟩
    rfl
  · rw [List.mem_singleton.mp member]
    rfl

/-- A text that stops after two equals signs is not read. -/
theorem parse_iff_spells_stop : StopsAfter .eq "A ==" ∧ ¬∃ c, parse "A ==" = some c := by
  have stops : StopsAfter .eq "A ==" := by
    refine ⟨['A'], [.char ' '], opens_stop .eq ?_⟩
    rintro p ⟨⟩
    rfl
  refine ⟨stops, fun read => ?_⟩
  rcases ((parse_iff_spells "A ==").2.2 .eq (by decide) stops).2.mp read with same | same <;> cases same

/-- So what a text spells is not all that is read: here `>` is followed by an equals sign. -/
theorem equals_sign_read_as_value : ¬∀ t c, parse t = some c ↔ Spells t c := by
  intro documented
  have opens : Opens (stripped "A >=") ['A'] [.char ' '] (token .ge) := by
    refine opens_stop .ge ?_
    rintro p ⟨⟩
    rfl
  have cut : CutOff "A >=" _ := .intro opens List.mem_cons_self
  have spells := (documented _ _).mp (parse_of_cutOff cut)
  exact not_spells_of_stopsAfter (by decide) ⟨_, _, opens⟩ spells

end Screening.Shorthand
