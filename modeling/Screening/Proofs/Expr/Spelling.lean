import Screening.Proofs.Completeness
import Screening.Proofs.Expr.Algebra
import Screening.Proofs.Expr.Grammar
import Screening.Proofs.Expr.Reads
import Screening.Proofs.Writes

/-!
# Names in any spelling

A look-up and an index of folded names miss the same names: `get?_foldIndex_eq_none_iff`. Where no
two known names are the same but for letter case, the spelling of the names in an expression makes
no difference to any answer (`IsEvaluation.answer_of_respells`), nor does the order of the values:
`names_match_alike`.
-/

namespace Screening

/-! ### An index of folded names -/

/-- Names under their folded forms. Of names with the same form the last one stays. -/
def foldIndex (names : List Text) : List (Text × Text) :=
  Entries.ofPairs (names.map fun name => (Text.fold name, name))

theorem get?_foldIndex_eq_none_iff {names : List Text} {name : Text} :
    Entries.get? (foldIndex names) (Text.fold name) = none ↔
      ∀ known ∈ names, Text.fold known ≠ Text.fold name := by
  have written : foldIndex names =
      Entries.putAll [] (names.map fun name => (Text.fold name, name)) := rfl
  rw [written, Entries.get?_putAll, Entries.get?, Option.or_none, Entries.last?,
    Option.map_eq_none_iff, List.find?_eq_none]
  simp

/-- However the names of the values are listed, the index misses what a look-up does not find. -/
theorem get?_foldIndex_eq_none_iff_lookup {values : Values} {available : List Text}
    (listed : ∀ name, name ∈ available ↔ name ∈ values.map Prod.fst) (name : Text) :
    Entries.get? (foldIndex available) (Text.fold name) = none ↔ lookup values name = none := by
  rw [get?_foldIndex_eq_none_iff, lookup_eq_none_iff]
  simp only [listed, List.forall_mem_map]

theorem Completeness.missingNames_of_listed {values : Values} {available : List Text}
    (listed : ∀ name, name ∈ available ↔ name ∈ values.map Prod.fst) (required : List Text) :
    missingNames required available = required.filter fun name => (lookup values name).isNone := by
  refine List.filter_congr fun name _ => Bool.eq_iff_iff.mpr ?_
  rw [unmatched_iff, Option.isNone_iff_eq_none, ← get?_foldIndex_eq_none_iff_lookup listed,
    get?_foldIndex_eq_none_iff]

/-! ### Other spellings of an expression -/

/-- The same comparison, of a name that is the same but for letter case. -/
structure Comparison.Respells (c d : Comparison) : Prop where
  parameter : Text.fold c.parameter = Text.fold d.parameter
  operator : c.operator = d.operator
  operand : c.operand = d.operand

theorem Comparison.Respells.assess {c d : Comparison} (respells : c.Respells d) {values : Values}
    (apart : FoldApart values) : c.assess values = d.assess values := by
  rw [Comparison.assess, Comparison.assess, respells.operator, respells.operand,
    lookup_congr apart (List.Perm.refl _) respells.parameter]

namespace Expr

/-- The same expression but for the letter case of its names, each of them spelled on its own. -/
inductive Respells : Expr → Expr → Prop
  | comparison {c d : Comparison} (same : c.Respells d) : Respells (.comparison c) (.comparison d)
  | all {cs ds : List Expr} (each : List.Forall₂ Respells cs ds) : Respells (.all cs) (.all ds)
  | any {cs ds : List Expr} (each : List.Forall₂ Respells cs ds) : Respells (.any cs) (.any ds)
  | not {e f : Expr} (inner : Respells e f) : Respells (.not e) (.not f)

theorem map_congr_of_forall₂ {α β : Type} {R : α → α → Prop} {as bs : List α} {f : α → β}
    (each : List.Forall₂ R as bs) (same : ∀ a ∈ as, ∀ b, R a b → f a = f b) :
    as.map f = bs.map f := by
  have images : List.Forall₂ (fun a b => f a = f b) as bs := forall₂_imp_of_mem each same
  rw [← List.forall₂_eq_eq_eq, List.forall₂_map_left_iff, List.forall₂_map_right_iff]
  exact images

variable {e f : Expr}

theorem IsEvaluation.answer_of_respells {answer : Expr → Option Bool} (ev : IsEvaluation answer)
    (leaf : ∀ c d : Comparison, c.Respells d → answer (.comparison c) = answer (.comparison d))
    (respells : e.Respells f) : answer e = answer f := by
  have node (k : Connective) {cs ds : List Expr} (each : List.Forall₂ Respells cs ds)
      (ih : ∀ e ∈ cs, ∀ f, e.Respells f → answer e = answer f) :
      answer (k.node cs) = answer (k.node ds) := by
    apply ev.node_congr
    intro a
    rw [map_congr_of_forall₂ each ih]
  induction e generalizing f with
  | comparison c =>
    cases respells with
    | comparison same => exact leaf _ _ same
  | all cs ih =>
    cases respells with
    | all each => exact node .all each fun e member f => ih e member
  | any cs ih =>
    cases respells with
    | any each => exact node .any each fun e member f => ih e member
  | not e ih =>
    cases respells with
    | not inner => rw [ev.negated, ev.negated, ih inner]

theorem holds_of_respells (respells : e.Respells f) {values : Values} (apart : FoldApart values) :
    e.holds values = f.holds values := by
  refine Option.some.inj ((isEvaluation_holds values).answer_of_respells (fun c d same => ?_) respells)
  rw [holds, holds, same.assess apart]

theorem assess_of_respells (respells : e.Respells f) {values : Values} (apart : FoldApart values) :
    e.assess values = f.assess values :=
  (isEvaluation_assess values).answer_of_respells (fun _ _ same => same.assess apart)
    respells

theorem actual?_of_respells (respells : e.Respells f) {values : Values} (apart : FoldApart values) :
    e.actual? values = f.actual? values := by
  cases respells with
  | comparison same => exact lookup_congr apart (List.Perm.refl _) same.parameter
  | all _ | any _ | not _ => rfl

theorem threshold?_of_respells (respells : e.Respells f) : e.threshold? = f.threshold? := by
  cases respells with
  | comparison same => rw [threshold?, threshold?, same.operator, same.operand]
  | all _ | any _ | not _ => rfl

end Expr

/-- Which required names are missing is told by looking them up, however the names are listed. Where
no two names of the values are the same but for letter case, neither the order of the values nor the
spelling of names makes a difference to look-ups and to the answers of expressions. -/
theorem names_match_alike :
    (∀ (values : Values) (available : List Text),
      (∀ name, name ∈ available ↔ name ∈ values.map Prod.fst) →
      (∀ required name, name ∈ Completeness.missingNames required available ↔
        name ∈ required ∧ lookup values name = none) ∧
      ∀ name, Entries.get? (foldIndex available) (Text.fold name) = none ↔
        lookup values name = none) ∧
    ∀ v w : Values, FoldApart v → v.Perm w →
      (∀ name other, Text.fold name = Text.fold other → lookup v name = lookup w other) ∧
      ∀ e f : Expr, e.Respells f → e.holds v = f.holds w ∧ e.assess v = f.assess w ∧
        e.actual? v = f.actual? w ∧ e.threshold? = f.threshold? := by
  refine ⟨fun values available listed => ⟨fun required name => ?_,
    get?_foldIndex_eq_none_iff_lookup listed⟩, fun v w apart reordered =>
    ⟨fun name other => lookup_congr apart reordered, fun e f respells => ?_⟩⟩
  · rw [Completeness.missingNames_of_listed listed, List.mem_filter, Option.isNone_iff_eq_none]
  · have agree : v.AgreeOn w e.required := fun name _ => lookup_congr apart reordered rfl
    have apart' := apart.perm reordered
    exact ⟨(Expr.holds_of_agree agree).trans (Expr.holds_of_respells respells apart'),
      (Expr.assess_of_agree agree).trans (Expr.assess_of_respells respells apart'),
      (Expr.actual?_of_agree agree).trans (Expr.actual?_of_respells respells apart'),
      Expr.threshold?_of_respells respells⟩

/-- A sharp s is the same as two letters, and with the values in another order an expression in other
letters is still true. -/
theorem names_match_alike_sharp :
    let v : Values := [("carbon_emissions", .int 5000), ("ma\u00dfnahmen", .bool true)]
    let w : Values := [("ma\u00dfnahmen", .bool true), ("carbon_emissions", .int 5000)]
    let available : List Text := ["ma\u00dfnahmen", "carbon_emissions"]
    let e : Expr := .all [Store.Demo.compare "carbon_emissions" .gt (.int 100),
      .not (Store.Demo.compare "ma\u00dfnahmen" .eq (.bool false))]
    let f : Expr := .all [Store.Demo.compare "Carbon_Emissions" .gt (.int 100),
      .not (Store.Demo.compare "MASSNAHMEN" .eq (.bool false))]
    ((∀ name, name ∈ available ↔ name ∈ v.map Prod.fst) ∧
      (("board" : Text) ∈ Completeness.missingNames ["MASSNAHMEN", "board"] available ↔
        ("board" : Text) ∈ (["MASSNAHMEN", "board"] : List Text) ∧ lookup v "board" = none)) ∧
    FoldApart v ∧ v.Perm w ∧
      (Text.fold "ma\u00dfnahmen" = Text.fold "MASSNAHMEN" ∧
        lookup v "ma\u00dfnahmen" = lookup w "MASSNAHMEN") ∧
      e.Respells f ∧ e.holds v = true ∧ e.holds v = f.holds w ∧ e.assess v = f.assess w := by
  intro v w available e f
  have listed : ∀ name, name ∈ available ↔ name ∈ v.map Prod.fst :=
    fun name => (List.Perm.swap _ _ []).mem_iff
  have apart : FoldApart v := by decide +kernel
  have reordered : v.Perm w := List.Perm.swap _ _ []
  have folded : Text.fold "ma\u00dfnahmen" = Text.fold "MASSNAHMEN" := by decide +kernel
  have respells : e.Respells f := by
    refine .all (.cons (.comparison ⟨?_, rfl, rfl⟩) (.cons (.not (.comparison ⟨folded, rfl, rfl⟩)) .nil))
    decide +kernel
  obtain ⟨alike, answers⟩ := names_match_alike.2 v w apart reordered
  obtain ⟨holds, assess, _⟩ := answers e f respells
  exact ⟨⟨listed, (names_match_alike.1 v available listed).1 _ _⟩, apart, reordered,
    ⟨folded, alike _ _ folded⟩, respells, by decide +kernel, holds, assess⟩

end Screening
