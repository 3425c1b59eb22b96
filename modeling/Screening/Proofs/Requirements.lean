import Screening.Proofs.Expr.Algebra
import Screening.Proofs.Expr.Walk

/-!
# Required names

The names that expressions, rules and groups of these require are those of the comparisons that they
reach: `mem_required_iff`. So the order, number and grouping of members and of conditions make no
difference: `required_of_walk`.
-/

namespace Screening

namespace Expr

/-- The same conditions in another order and number, or with those of one of them in its place,
somewhere in an expression. -/
inductive Regroups : Expr → Expr → Prop
  | members (k : Connective) {cs ds : List Expr} (same : ∀ e, e ∈ cs ↔ e ∈ ds) :
      Regroups (k.node cs) (k.node ds)
  | nested (k l : Connective) (before inner after : List Expr) :
      Regroups (k.node (before ++ l.node inner :: after)) (k.node (before ++ inner ++ after))
  | inside {e f : Expr} (place : Surrounding) (inner : Regroups e f) :
      Regroups (place.fill e) (place.fill f)

theorem comparisons_node (k : Connective) (cs : List Expr) :
    (k.node cs).comparisons = comparisonsAll cs := by
  cases k <;> rfl

theorem mem_comparisons_fill {e f : Expr} (same : ∀ c, c ∈ e.comparisons ↔ c ∈ f.comparisons)
    (place : Surrounding) (c : Comparison) :
    c ∈ (place.fill e).comparisons ↔ c ∈ (place.fill f).comparisons := by
  induction place with
  | none => exact same c
  | node k before inner after ih =>
    simp only [Surrounding.fill, comparisons_node, comparisonsAll_append, comparisonsAll,
      List.mem_append, ih]
  | not inner ih => exact ih

theorem Regroups.mem_comparisons {e f : Expr} (regroups : e.Regroups f) (c : Comparison) :
    c ∈ e.comparisons ↔ c ∈ f.comparisons := by
  induction regroups generalizing c with
  | members k same => simp only [comparisons_node, mem_comparisonsAll, same]
  | nested k l before inner after =>
    simp only [comparisons_node, comparisonsAll_append, comparisonsAll, List.append_assoc]
  | inside place _ ih => exact mem_comparisons_fill ih place c

end Expr

namespace Referrer

/-- The comparison stands in an expression that is referred to. -/
inductive Reaches : Referrer → Comparison → Prop
  | expr {e : Expr} {c : Comparison} (stands : c ∈ e.comparisons) : Reaches (.expr e) c
  | rule {r : Rule} {c : Comparison} (stands : c ∈ r.expression.comparisons) : Reaches (.rule r) c
  | group {members : List Referrer} {r : Referrer} {c : Comparison} (member : r ∈ members)
      (inner : Reaches r c) : Reaches (.group members) c

/-- The same members in another order, number or grouping, or with conditions regrouped in one of
them. -/
inductive Regroups : Referrer → Referrer → Prop
  | members {rs ss : List Referrer} (same : ∀ r, r ∈ rs ↔ r ∈ ss) : Regroups (.group rs) (.group ss)
  | nested (before inner after : List Referrer) :
      Regroups (.group (before ++ .group inner :: after)) (.group (before ++ inner ++ after))
  | alone (r : Referrer) : Regroups (.group [r]) r
  | expr {e f : Expr} (regroups : e.Regroups f) : Regroups (.expr e) (.expr f)
  | rule {r s : Rule} (regroups : r.expression.Regroups s.expression) : Regroups (.rule r) (.rule s)
  | inside {r s : Referrer} (before after : List Referrer) (inner : Regroups r s) :
      Regroups (.group (before ++ r :: after)) (.group (before ++ s :: after))

/-- Induction on what refers, with a hypothesis for each member of a group. -/
@[elab_as_elim, induction_eliminator]
theorem induct {motive : Referrer → Prop} (expr : ∀ e, motive (.expr e))
    (rule : ∀ r, motive (.rule r))
    (group : ∀ members, (∀ r ∈ members, motive r) → motive (.group members)) : ∀ r, motive r
  | .expr e => expr e
  | .rule r => rule r
  | .group members => group members fun r _ => induct expr rule group r

variable {name : Text} {r s : Referrer} {members : List Referrer} {c : Comparison}

theorem reaches_group_iff : Reaches (.group members) c ↔ ∃ r ∈ members, r.Reaches c := by
  constructor
  · rintro (_ | _ | ⟨member, inner⟩)
    exact ⟨_, member, inner⟩
  · rintro ⟨r, member, inner⟩
    exact .group member inner

theorem reaches_expr_iff {e : Expr} : Reaches (.expr e) c ↔ c ∈ e.comparisons :=
  ⟨by rintro ⟨⟩; assumption, .expr⟩

theorem reaches_rule_iff {r : Rule} : Reaches (.rule r) c ↔ c ∈ r.expression.comparisons :=
  ⟨by rintro ⟨⟩; assumption, .rule⟩

theorem mem_required_group : name ∈ (group members).required ↔ ∃ r ∈ members, name ∈ r.required := by
  simp only [required, mem_sortedNames, names, mem_namesAll]

theorem mem_required_iff : name ∈ r.required ↔ ∃ c, r.Reaches c ∧ c.parameter = name := by
  induction r with
  | expr e => simp only [required, mem_sortedNames, names, Expr.mem_required, reaches_expr_iff]
  | rule r => simp only [required, mem_sortedNames, names, Expr.mem_required, reaches_rule_iff]
  | group members ih =>
    rw [mem_required_group]
    simp only [reaches_group_iff]
    constructor
    · rintro ⟨r, member, asked⟩
      obtain ⟨c, reached, named⟩ := (ih r member).mp asked
      exact ⟨c, ⟨r, member, reached⟩, named⟩
    · rintro ⟨c, ⟨r, member, reached⟩, named⟩
      exact ⟨r, member, (ih r member).mpr ⟨c, reached, named⟩⟩

theorem Regroups.reaches_iff (regroups : r.Regroups s) (c : Comparison) :
    r.Reaches c ↔ s.Reaches c := by
  induction regroups with
  | members same => simp only [reaches_group_iff, same]
  | nested before inner after =>
    simp only [reaches_group_iff, List.mem_append, List.mem_cons, or_and_right, exists_or,
      exists_eq_left, or_assoc]
  | alone r => simp only [reaches_group_iff, List.mem_singleton, exists_eq_left]
  | expr regroups => rw [reaches_expr_iff, reaches_expr_iff, regroups.mem_comparisons]
  | rule regroups => rw [reaches_rule_iff, reaches_rule_iff, regroups.mem_comparisons]
  | inside before after _ ih =>
    simp only [reaches_group_iff, List.mem_append, List.mem_cons, or_and_right, exists_or,
      exists_eq_left, ih]

theorem required_of_regrouping (regrouping : Relation.EqvGen Regroups r s) :
    r.required = s.required := by
  induction regrouping with
  | rel r s regroups =>
    have same : ∀ name, name ∈ r.required ↔ name ∈ s.required := by
      simp only [mem_required_iff, regroups.reaches_iff, implies_true]
    exact sortedNames_congr fun name => mem_sortedNames.symm.trans ((same name).trans mem_sortedNames)
  | refl _ => rfl
  | symm _ _ _ ih => exact ih.symm
  | trans _ _ _ _ _ ih ih' => exact ih.trans ih'

/-- The walk over a stack ends and meets each comparison of the expression once, from left to right.
What is required are the names of the comparisons that are reached, so those that the members of a
group require, in whatever order, number and grouping the members and their conditions are. -/
theorem required_of_walk :
    (∀ e : Expr,
      (∀ n, (Expr.Walk.step^[n] (.start e)).stack = [] ↔ e.size ≤ n) ∧
      (∀ n, e.size ≤ n → (Expr.Walk.step^[n] (.start e)).met = Expr.visit [e]) ∧
      Expr.visit [e] = e.comparisons ∧
      ∀ met, (∃ places, e.ListsPlaces met places) ↔ met = Expr.visit [e]) ∧
    (∀ r : Referrer, r.required.Nodup ∧ r.required.Pairwise (· ≤ ·) ∧
      ∀ name, name ∈ r.required ↔ ∃ c, r.Reaches c ∧ c.parameter = name) ∧
    (∀ members name, name ∈ (group members).required ↔ ∃ r ∈ members, name ∈ r.required) ∧
    ∀ r s, Relation.EqvGen Regroups r s → r.required = s.required := by
  refine ⟨fun e => ?_, fun r => ⟨nodup_sortedNames _, sortedNames_sorted _, fun name => mem_required_iff⟩,
    fun members name => mem_required_group, fun r s => required_of_regrouping⟩
  refine ⟨Expr.Walk.stack_steps_eq_nil e, fun n => Expr.Walk.met_steps e, Expr.visit_singleton e,
    fun met => ?_⟩
  rw [Expr.visit_singleton]
  constructor
  · rintro ⟨places, lists⟩
    exact lists.unique e.listsPlaces
  · rintro rfl
    exact ⟨e.places, e.listsPlaces⟩

/-- Conditions of a disjunction are moved up and one of them is repeated, and a group is dissolved. -/
theorem required_of_walk_regrouped :
    let high := Store.Demo.compare "carbon_emissions" .gt (.int 100)
    let few := Store.Demo.compare "board_diversity_pct" .lt (.int 30)
    let e : Expr := .all [.any [high, few], .not high]
    let f : Expr := .all [few, .not high, high, few]
    let r : Referrer := .group [.group [.expr e], .expr few]
    let s : Referrer := .group [.expr few, .expr f]
    (e.size ≤ 6 ∧ (Expr.Walk.step^[6] (.start e)).met = Expr.visit [e]) ∧
      Relation.EqvGen Regroups r s ∧ r.required = s.required := by
  intro high few e f r s
  have dissolved : Regroups r (.group [.expr e, .expr few]) := .nested [] [.expr e] [.expr few]
  have raised : Regroups (.group [.expr e, .expr few])
      (.group [.expr (.all [high, few, .not high]), .expr few]) :=
    .inside [] [.expr few] (.expr (.nested .all .any [] [high, few] [.not high]))
  have same (x y z e : Expr) : e ∈ [x, y, z] ↔ e ∈ [y, z, x, y] := by
    simp only [List.mem_cons, List.not_mem_nil, or_false]
    tauto
  have repeated : Regroups (.group [.expr (.all [high, few, .not high]), .expr few])
      (.group [.expr f, .expr few]) :=
    .inside [] [.expr few] (.expr (.members .all (same _ _ _)))
  have turned : Regroups (.group [.expr f, .expr few]) s :=
    .members fun _ => (List.Perm.swap _ _ []).mem_iff
  have regrouping : Relation.EqvGen Regroups r s :=
    .trans _ _ _ (.rel _ _ dissolved) <| .trans _ _ _ (.rel _ _ raised) <|
      .trans _ _ _ (.rel _ _ repeated) (.rel _ _ turned)
  have enough : e.size ≤ 6 := by decide
  exact ⟨⟨enough, (required_of_walk.1 e).2.1 6 enough⟩, regrouping,
    required_of_walk.2.2.2 r s regrouping⟩

end Referrer

end Screening
