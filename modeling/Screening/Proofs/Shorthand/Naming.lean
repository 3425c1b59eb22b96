import Screening.Expr.Eval
import Screening.Proofs.Names
import Screening.Proofs.Shorthand.RoundTrip

/-!
# Names in capitals

Names are put in capitals where a shorthand is read and folded where they are looked up. The two
agree on every character of names but the dotless i, whose capital folds to a dotted one. So a name
keeps its meaning just when it has no dotless i, and otherwise means the name with dots:
`name_kept_iff`.
-/

namespace Screening

theorem Text.fold_ofChars (cs : List Char) :
    fold (.ofChars cs) = .ofChars (cs.flatMap foldChar) := by
  simp only [fold, ofChars, List.flatMap_map, List.map_flatMap]
  rfl

namespace Shorthand

open Text

variable {t : Text} {c : Comparison} {name : List Char} {x : Char}

/-- The name that the text starts with, as it is written. -/
def OpensWith (t : Text) (name : List Char) : Prop :=
  ∃ gap rest, Opens (stripped t) name gap rest

theorem OpensWith.taken (starts : OpensWith t name) :
    .ofChars name = Text.mk ((stripped t).takeWhile (·.isChar isNameChar)) := by
  obtain ⟨gap, rest, opens⟩ := starts
  refine congrArg Text.mk ?_
  rw [opens.text]
  refine (takeWhile_append_of_stops (fun p member => ?_) opens.longest).symm
  obtain ⟨x, own, rfl⟩ := List.mem_map.mp member
  exact opens.name.chars x own

/-- A comparison that is read has the name of its text in capitals. -/
theorem parameter_of_parse (found : parse t = some c) :
    ∃ name, OpensWith t name ∧ IsIdentifier name ∧ c.parameter = .ofChars (name.map capital) := by
  rcases spells_or_cutOff_of_parse found with ⟨opens, _, _, _⟩ | ⟨opens, _⟩
  · exact ⟨_, ⟨_, _, opens⟩, opens.name, rfl⟩
  · exact ⟨_, ⟨_, _, opens⟩, opens.name, rfl⟩

/-! ### Capitals and folding -/

/-- A dotless i gets its dot. -/
def dotted (x : Char) : Char :=
  if x = '\u0131' then 'i' else x

theorem foldChar_capital (named : isNameChar x = true) :
    foldChar (capital x) = foldChar (dotted x) ∧ '\u0131' ∉ foldChar (capital x) := by
  have ascii : ∀ n ≤ 0x7A, foldChar (capital (Char.ofNat n)) = foldChar (dotted (Char.ofNat n)) ∧
      '\u0131' ∉ foldChar (capital (Char.ofNat n)) := by
    decide
  rcases range_of_isNameChar named with ⟨_, last⟩ | other
  · have own := ascii x.toNat last
    rwa [Char.ofNat_toNat] at own
  · simp only [List.mem_cons, List.not_mem_nil, or_false] at other
    rcases other with rfl | rfl | rfl | rfl <;> decide +kernel

theorem fold_capitals (identifier : IsIdentifier name) :
    fold (.ofChars (name.map capital)) = fold (.ofChars (name.map dotted)) := by
  rw [fold_ofChars, fold_ofChars, List.flatMap_map, List.flatMap_map]
  congr 1
  exact List.flatMap_congr fun x member => (foldChar_capital (identifier.chars x member)).1

/-- In capitals a name folds to what it folds to itself, unless it has a dotless i. -/
theorem fold_capitals_eq_iff (identifier : IsIdentifier name) :
    fold (.ofChars (name.map capital)) = fold (.ofChars name) ↔ '\u0131' ∉ name := by
  constructor
  · intro same dotless
    rw [fold_ofChars, fold_ofChars, ofChars_inj, List.flatMap_map] at same
    -- The dotless i folds to itself, but nothing in capitals folds to it.
    have folded : '\u0131' ∈ name.flatMap foldChar :=
      List.mem_flatMap.mpr ⟨'\u0131', dotless, by decide +kernel⟩
    rw [← same] at folded
    obtain ⟨x, member, inside⟩ := List.mem_flatMap.mp folded
    exact (foldChar_capital (identifier.chars x member)).2 inside
  · intro noDotless
    have unchanged : name.map dotted = name := by
      conv_rhs => rw [← List.map_id name]
      refine List.map_congr_left fun x member => if_neg ?_
      rintro rfl
      exact noDotless member
    rw [fold_capitals identifier, unchanged]

/-! ### Look-ups -/

/-- Among names that are apart in more than letter case, both find the same value or none. -/
def FoundAlike (a b : Text) : Prop :=
  ∀ values : Values, FoldApart values → lookup values a = lookup values b

theorem foundAlike_iff {a b : Text} : FoundAlike a b ↔ fold a = fold b := by
  constructor
  · intro alike
    have own : lookup [(b, Data.null)] b = some .null := by simp [lookup, Entries.get?]
    rw [← alike [(b, .null)] (List.nodup_singleton _)] at own
    obtain ⟨e, member, folded, _⟩ := exists_of_lookup own
    rw [← folded, List.mem_singleton.mp member]
  · intro same values apart
    exact lookup_congr apart (List.Perm.refl _) same

/-- The name of a comparison that is read means the name that was written just when this has no
dotless i. In any case it means the written name with a dot on each dotless i. -/
theorem name_kept_iff (t : Text) (c : Comparison) (found : parse t = some c) :
    ∃ name, (∀ other, OpensWith t other ↔ other = name) ∧
      (fold c.parameter = fold (.ofChars name) ↔ '\u0131' ∉ name) ∧
      (FoundAlike c.parameter (.ofChars name) ↔ '\u0131' ∉ name) ∧
      fold c.parameter = fold (.ofChars (name.map dotted)) ∧
      FoundAlike c.parameter (.ofChars (name.map dotted)) := by
  obtain ⟨name, starts, identifier, parameter⟩ := parameter_of_parse found
  have only : ∀ other, OpensWith t other ↔ other = name := by
    refine fun other => ⟨fun starts' => ?_, fun same => same ▸ starts⟩
    exact ofChars_inj.mp (starts'.taken.trans starts.taken.symm)
  have folded := fold_capitals identifier
  have kept := fold_capitals_eq_iff identifier
  rw [parameter]
  exact ⟨name, only, kept, foundAlike_iff.trans kept, folded, foundAlike_iff.mpr folded⟩

/-- The sign for kelvin and the long s are letters of names and keep their meaning. -/
theorem name_kept_iff_kelvin :
    let t : Text := "\u212aelvin_\u017fum >= 5"
    let name : List Char := "\u212aelvin_\u017fum".toList
    ∃ c, parse t = some c ∧ OpensWith t name ∧ fold c.parameter = fold (.ofChars name) ∧
      FoundAlike c.parameter (.ofChars name) := by
  intro t name
  have read : (parse t).isSome = true := by decide +kernel
  obtain ⟨c, found⟩ := Option.isSome_iff_exists.mp read
  obtain ⟨own, only, folded, alike, _⟩ := name_kept_iff t c found
  have starts : OpensWith t own := (only own).mpr rfl
  have written : own = name := ofChars_inj.mp (starts.taken.trans (by decide +kernel))
  rw [written] at starts folded alike
  have noDotless : '\u0131' ∉ name := by decide +kernel
  exact ⟨c, found, starts, folded.mpr noDotless, alike.mpr noDotless⟩

/-- The capital of a dotless i is the capital of another letter. -/
theorem dotless_not_kept : ¬∀ t c name, parse t = some c → OpensWith t name →
    fold c.parameter = fold (.ofChars name) ∧ FoundAlike c.parameter (.ofChars name) := by
  intro kept
  have read : (parse "\u0131 > 5").isSome = true := by decide +kernel
  obtain ⟨c, found⟩ := Option.isSome_iff_exists.mp read
  obtain ⟨name, starts, identifier, parameter⟩ := parameter_of_parse found
  obtain rfl : name = ['\u0131'] := ofChars_inj.mp (starts.taken.trans (by decide +kernel))
  have same := (kept _ c _ found starts).1
  rw [parameter] at same
  exact absurd same (by decide +kernel)

end Shorthand

end Screening
