import Screening.Expr.Failure
import Screening.Proofs.Expr.Partial
import Screening.Store.Demo

/-!
# What an expression reads

Whatever is asked of an expression depends on the names that it refers to only, and on each of
them: `required_is_read`.
-/

namespace Screening

/-- The names are looked up alike, be it to the same value or to none. -/
def Values.AgreeOn (v w : Values) (names : List Text) : Prop :=
  ∀ name ∈ names, lookup v name = lookup w name

namespace Expr

variable {v w : Values} {e f : Expr}

theorem lookup_of_agree (agree : v.AgreeOn w e.required) {c : Comparison} (asked : c ∈ e.comparisons) :
    lookup v c.parameter = lookup w c.parameter := by
  apply agree
  exact mem_required.mpr ⟨c, asked, rfl⟩

theorem agree_of_part (part : e.comparisons ⊆ f.comparisons) (agree : v.AgreeOn w f.required) :
    v.AgreeOn w e.required := by
  intro name asked
  obtain ⟨c, inside, rfl⟩ := mem_required.mp asked
  exact lookup_of_agree agree (part inside)

theorem agree_of_member {cs : List Expr} (agree : v.AgreeOn w f.required) (member : e ∈ cs)
    (parts : comparisonsAll cs ⊆ f.comparisons) : v.AgreeOn w e.required := by
  refine agree_of_part (fun c inside => ?_) agree
  apply parts
  exact mem_comparisonsAll.mpr ⟨e, member, inside⟩

theorem agree_of_all {cs : List Expr} (agree : v.AgreeOn w (all cs).required) (member : e ∈ cs) :
    v.AgreeOn w e.required :=
  agree_of_member agree member (List.Subset.refl _)

theorem agree_of_any {cs : List Expr} (agree : v.AgreeOn w (any cs).required) (member : e ∈ cs) :
    v.AgreeOn w e.required :=
  agree_of_member agree member (List.Subset.refl _)

theorem agree_of_not (agree : v.AgreeOn w (not e).required) : v.AgreeOn w e.required := by
  have part : e.comparisons ⊆ (not e).comparisons := List.Subset.refl _
  exact agree_of_part part agree

/-! ### Answers -/

theorem holds_of_agree (agree : v.AgreeOn w e.required) : e.holds v = e.holds w := by
  induction e with
  | comparison c =>
    have found := lookup_of_agree agree (List.mem_singleton_self c)
    simp only [holds, Comparison.assess, found]
  | all cs ih =>
    rw [Bool.eq_iff_iff, holds, holds, holdAll_eq_true, holdAll_eq_true]
    apply forall₂_congr
    intro e member
    rw [ih e member (agree_of_all agree member)]
  | any cs ih =>
    rw [Bool.eq_iff_iff, holds, holds, holdAny_eq_true, holdAny_eq_true]
    apply exists_congr
    intro e
    apply and_congr_right
    intro member
    rw [ih e member (agree_of_any agree member)]
  | not e ih => rw [holds, holds, ih (agree_of_not agree)]

theorem assess_of_agree (agree : v.AgreeOn w e.required) : e.assess v = e.assess w := by
  induction e with
  | comparison c =>
    have found := lookup_of_agree agree (List.mem_singleton_self c)
    simp only [assess, Comparison.assess, found]
  | all cs ih =>
    rw [assess, assess, assessEach_eq_map, assessEach_eq_map]
    have same : cs.map (assess v) = cs.map (assess w) :=
      List.map_congr_left fun e member => ih e member (agree_of_all agree member)
    rw [same]
  | any cs ih =>
    rw [assess, assess, assessEach_eq_map, assessEach_eq_map]
    have same : cs.map (assess v) = cs.map (assess w) :=
      List.map_congr_left fun e member => ih e member (agree_of_any agree member)
    rw [same]
  | not e ih => rw [assess, assess, ih (agree_of_not agree)]

theorem missing_of_agree (agree : v.AgreeOn w e.required) : e.missing v = e.missing w := by
  apply List.filter_congr
  intro name asked
  rw [agree name asked]

theorem actual?_of_agree (agree : v.AgreeOn w e.required) : e.actual? v = e.actual? w := by
  cases e with
  | comparison c => exact lookup_of_agree agree (List.mem_singleton_self c)
  | all _ | any _ | not _ => rfl

theorem open?_of_agree (agree : v.AgreeOn w e.required) : e.open? v = e.open? w := by
  rw [open?, open?, assess_of_agree agree, missing_of_agree agree]

theorem explain_of_agree (agree : v.AgreeOn w e.required) (default : Text) :
    e.explain v default = e.explain w default := by
  cases e with
  | comparison c =>
    rw [explain, explain, lookup_of_agree agree (List.mem_singleton_self c)]
  | all _ | any _ | not _ => simp only [explain, open?_of_agree agree]

theorem failure_of_agree (agree : v.AgreeOn w e.required) (written : Option Text) (default : Text) :
    e.failure v written default = e.failure w written default := by
  rw [failure, failure, explain_of_agree agree, open?_of_agree agree]

/-- Everything that is asked of an expression has the same answer on both. -/
structure AnswersAlike (e : Expr) (v w : Values) : Prop where
  holds : e.holds v = e.holds w
  assess : e.assess v = e.assess w
  missing : e.missing v = e.missing w
  shown : (e.actual? v, e.threshold?) = (e.actual? w, e.threshold?)
  failure : ∀ written default, e.failure v written default = e.failure w written default

theorem answersAlike (agree : v.AgreeOn w e.required) : e.AnswersAlike v w where
  holds := holds_of_agree agree
  assess := assess_of_agree agree
  missing := missing_of_agree agree
  shown := by rw [actual?_of_agree agree]
  failure := failure_of_agree agree

/-- The required names are exactly what is read: where they are looked up alike nothing else counts,
and one that is known to the one and not to the other is noticed. -/
theorem required_is_read (e : Expr) :
    (∀ v w, v.AgreeOn w e.required → e.AnswersAlike v w) ∧
    ∀ name ∈ e.required, ∀ v w, lookup v name = none → lookup w name ≠ none →
      e.missing v ≠ e.missing w := by
  refine ⟨fun v w => answersAlike, ?_⟩
  intro name asked v w absent present same
  have listed : name ∈ e.missing v := mem_missing.mpr ⟨asked, absent⟩
  rw [same] at listed
  exact present (mem_missing.mp listed).2

/-- Another spelling and a value that no rule asks for make no difference, the loss of a value
does. -/
theorem required_is_read_policy :
    let e : Expr := .not (.any [Store.Demo.compare "carbon_emissions" .ge (.int 500),
      .all [Store.Demo.compare "has_environmental_policy" .eq (.bool false)]])
    let v : Values := [("Carbon_Emissions", .int 50)]
    let w : Values := [("controversy_level", .text "low"), ("carbon_emissions", .int 50)]
    v.AgreeOn w e.required ∧ e.AnswersAlike v w ∧
      (("carbon_emissions" : Text) ∈ e.required ∧ lookup ([] : Values) "carbon_emissions" = none ∧
        lookup w "carbon_emissions" ≠ none) ∧ e.missing [] ≠ e.missing w := by
  intro e v w
  have agree : v.AgreeOn w e.required := by
    intro name asked
    obtain ⟨c, inside, rfl⟩ := mem_required.mp asked
    simp only [e, comparisons, comparisonsAll, Store.Demo.compare] at inside
    rcases List.mem_cons.mp inside with rfl | inside
    · rfl
    · obtain rfl := List.mem_singleton.mp inside
      rfl
  have asked : ("carbon_emissions" : Text) ∈ e.required :=
    mem_required.mpr ⟨_, List.mem_cons_self, rfl⟩
  have present : lookup w "carbon_emissions" ≠ none := by decide +kernel
  exact ⟨agree, (required_is_read e).1 v w agree, ⟨asked, rfl, present⟩,
    (required_is_read e).2 _ asked [] w rfl present⟩

end Expr

end Screening
