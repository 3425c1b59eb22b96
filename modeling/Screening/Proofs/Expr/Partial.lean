import Screening.Proofs.Expr.Comparisons

/-!
# Evaluation with values missing

An answer that the known values give stays when more values become known: `assess_extended`. Where
they give none, a value that the expression asks for is missing: `exists_missing_of_undecided`.
-/

namespace Screening

/-- Every name that is found in the one is found in the other with the same value. -/
def Values.ExtendedBy (known more : Values) : Prop :=
  ∀ name value, lookup known name = some value → lookup more name = some value

/-- Values under names that differ in more than letter case from the known ones. -/
theorem Values.extendedBy_append {known added : Values}
    (apart : ∀ e ∈ known, ∀ f ∈ added, Text.fold e.1 ≠ Text.fold f.1) :
    known.ExtendedBy (known ++ added) := by
  intro name value found
  unfold lookup at found ⊢
  simp only [Entries.get?_eq_find?, List.find?_append, Text.sameFold] at found ⊢
  cases spelt : known.find? fun e => e.1 == name with
  | some e => simpa [spelt] using found
  | none =>
    simp only [spelt, Option.map_none, Option.map_eq_some_iff] at found
    obtain ⟨e, folded, same⟩ := found
    have spelled : Text.fold e.1 = Text.fold name := by simpa using List.find?_some folded
    have none : added.find? (fun f => f.1 == name) = none := by
      rw [List.find?_eq_none]
      intro f member equal
      exact apart e (List.mem_of_find?_eq_some folded) f member
        (spelled.trans (congrArg Text.fold (by simpa using equal)).symm)
    simp [none, folded, same]

/-! ### The connectives -/

theorem allKnown_eq_true {answers : List (Option Bool)} :
    allKnown answers = some true ↔ ∀ a ∈ answers, a = some true := by
  unfold allKnown
  constructor
  · intro h a member
    rcases a with _ | b
    · grind
    · cases b <;> grind
  · grind

theorem allKnown_eq_false {answers : List (Option Bool)} :
    allKnown answers = some false ↔ some false ∈ answers := by
  unfold allKnown
  grind

theorem none_mem_of_allKnown {answers : List (Option Bool)} (h : allKnown answers = none) :
    none ∈ answers := by
  unfold allKnown at h
  grind

/-- One of the answers is true unless all of their negations are. -/
theorem anyKnown_eq_not_allKnown (answers : List (Option Bool)) :
    anyKnown answers = (allKnown (answers.map (Option.map Bool.not))).map Bool.not := by
  unfold anyKnown allKnown
  simp only [List.mem_map, Option.map_eq_none_iff, Option.map_eq_some_iff, Bool.not_eq_false']
  by_cases positive : some true ∈ answers
  · simp [positive]
  · by_cases unknown : none ∈ answers <;> simp [positive, unknown]

theorem anyKnown_eq_true {answers : List (Option Bool)} :
    anyKnown answers = some true ↔ some true ∈ answers := by
  simp [anyKnown_eq_not_allKnown, allKnown_eq_false]

theorem anyKnown_eq_false {answers : List (Option Bool)} :
    anyKnown answers = some false ↔ ∀ a ∈ answers, a = some false := by
  simp [anyKnown_eq_not_allKnown, allKnown_eq_true]

theorem none_mem_of_anyKnown {answers : List (Option Bool)} (h : anyKnown answers = none) :
    none ∈ answers := by
  rw [anyKnown_eq_not_allKnown, Option.map_eq_none_iff] at h
  simpa using none_mem_of_allKnown h

namespace Expr

theorem assessEach_eq_map (values : Values) (cs : List Expr) :
    assessEach values cs = cs.map (assess values) := by
  induction cs with
  | nil => rfl
  | cons e es ih => rw [assessEach, ih, List.map_cons]

theorem holdAll_eq_true {values : Values} {cs : List Expr} :
    holdAll values cs = true ↔ ∀ e ∈ cs, e.holds values = true := by
  induction cs with
  | nil => simp [holdAll]
  | cons e es ih => simp [holdAll, ih]

theorem holdAll_eq_false {values : Values} {cs : List Expr} :
    holdAll values cs = false ↔ ∃ e ∈ cs, e.holds values = false := by
  rw [← Bool.not_eq_true, holdAll_eq_true]
  simp

theorem holdAny_eq_true {values : Values} {cs : List Expr} :
    holdAny values cs = true ↔ ∃ e ∈ cs, e.holds values = true := by
  induction cs with
  | nil => simp [holdAny]
  | cons e es ih => simp [holdAny, ih]

theorem holdAny_eq_false {values : Values} {cs : List Expr} :
    holdAny values cs = false ↔ ∀ e ∈ cs, e.holds values = false := by
  rw [← Bool.not_eq_true, holdAny_eq_true]
  simp

/-- What is decided stays decided. -/
theorem assess_extended {known more : Values} (extended : known.ExtendedBy more) {e : Expr} {b : Bool}
    (decided : e.assess known = some b) : e.assess more = some b := by
  induction e generalizing b with
  | comparison c =>
    simp only [assess, Comparison.assess, Option.map_eq_some_iff] at decided ⊢
    obtain ⟨value, found, compared⟩ := decided
    exact ⟨value, extended _ _ found, compared⟩
  | all cs ih =>
    simp only [assess, assessEach_eq_map] at decided ⊢
    cases b with
    | true =>
      simp only [allKnown_eq_true, List.forall_mem_map] at decided ⊢
      exact fun e member => ih e member (decided e member)
    | false =>
      simp only [allKnown_eq_false, List.mem_map] at decided ⊢
      obtain ⟨e, member, answer⟩ := decided
      exact ⟨e, member, ih e member answer⟩
  | any cs ih =>
    simp only [assess, assessEach_eq_map] at decided ⊢
    cases b with
    | true =>
      simp only [anyKnown_eq_true, List.mem_map] at decided ⊢
      obtain ⟨e, member, answer⟩ := decided
      exact ⟨e, member, ih e member answer⟩
    | false =>
      simp only [anyKnown_eq_false, List.forall_mem_map] at decided ⊢
      exact fun e member => ih e member (decided e member)
  | not e ih =>
    simp only [assess, Option.map_eq_some_iff] at decided ⊢
    obtain ⟨inner, answer, flipped⟩ := decided
    exact ⟨inner, ih answer, flipped⟩

/-- An undecided expression asks for a value that is missing. -/
theorem exists_missing_of_undecided {values : Values} {e : Expr} (undecided : e.assess values = none) :
    ∃ c ∈ e.comparisons, lookup values c.parameter = none := by
  induction e with
  | comparison c =>
    simp only [assess, Comparison.assess, Option.map_eq_none_iff] at undecided
    exact ⟨c, List.mem_singleton_self c, undecided⟩
  | all cs ih =>
    rw [assess, assessEach_eq_map] at undecided
    obtain ⟨e, member, answer⟩ := List.mem_map.mp (none_mem_of_allKnown undecided)
    obtain ⟨c, asked, missing⟩ := ih e member answer
    exact ⟨c, mem_comparisonsAll.mpr ⟨e, member, asked⟩, missing⟩
  | any cs ih =>
    rw [assess, assessEach_eq_map] at undecided
    obtain ⟨e, member, answer⟩ := List.mem_map.mp (none_mem_of_anyKnown undecided)
    obtain ⟨c, asked, missing⟩ := ih e member answer
    exact ⟨c, mem_comparisonsAll.mpr ⟨e, member, asked⟩, missing⟩
  | not e ih => exact ih (Option.map_eq_none_iff.mp undecided)

theorem mem_missing {name : Text} {values : Values} {e : Expr} :
    name ∈ e.missing values ↔ name ∈ e.required ∧ lookup values name = none := by
  rw [missing, List.mem_filter, Option.isNone_iff_eq_none]

/-- The names that an undecided expression misses are some of those that it refers to. -/
theorem exists_required_missing {values : Values} {e : Expr} (undecided : e.assess values = none) :
    ∃ name ∈ e.required, lookup values name = none := by
  obtain ⟨c, asked, missing⟩ := exists_missing_of_undecided undecided
  exact ⟨c.parameter, mem_required.mpr ⟨c, asked, rfl⟩, missing⟩

end Expr

end Screening
