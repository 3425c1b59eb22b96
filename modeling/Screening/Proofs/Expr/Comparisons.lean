import Screening.Expr.Eval
import Screening.Proofs.Names
import Screening.Rule

/-!
# What an expression refers to

The walk over a stack of expressions meets the comparisons of the tree from left to right:
`visit_eq_comparisonsAll`. So the names that an expression or a criteria set requires are those of
its comparisons: `mem_required`, `CriteriaSet.mem_required`.
-/

namespace Screening

namespace Expr

/-- Induction on an expression, with a hypothesis for each of the conditions of a node. -/
@[elab_as_elim, induction_eliminator]
theorem induct {motive : Expr → Prop} (comparison : ∀ c, motive (.comparison c))
    (all : ∀ cs, (∀ e ∈ cs, motive e) → motive (.all cs))
    (any : ∀ cs, (∀ e ∈ cs, motive e) → motive (.any cs))
    (not : ∀ e, motive e → motive (.not e)) : ∀ e, motive e
  | .comparison c => comparison c
  | .all cs => all cs fun e _ => induct comparison all any not e
  | .any cs => any cs fun e _ => induct comparison all any not e
  | .not e => not e (induct comparison all any not e)

theorem comparisonsAll_append (cs ds : List Expr) :
    comparisonsAll (cs ++ ds) = comparisonsAll cs ++ comparisonsAll ds := by
  induction cs with
  | nil => rfl
  | cons e es ih => simp [comparisonsAll, ih]

theorem mem_comparisonsAll {c : Comparison} {cs : List Expr} :
    c ∈ comparisonsAll cs ↔ ∃ e ∈ cs, c ∈ e.comparisons := by
  induction cs with
  | nil => simp [comparisonsAll]
  | cons e es ih => simp [comparisonsAll, ih]

theorem visit_eq_comparisonsAll (stack : List Expr) : visit stack = comparisonsAll stack := by
  fun_induction visit stack with
  | case1 => rfl
  | case2 c rest ih => simp [comparisonsAll, comparisons, ih]
  | case3 cs rest ih => rw [ih, comparisonsAll_append, comparisonsAll, comparisons]
  | case4 cs rest ih => rw [ih, comparisonsAll_append, comparisonsAll, comparisons]
  | case5 e rest ih => rw [ih, comparisonsAll, comparisonsAll, comparisons]

theorem visit_singleton (e : Expr) : visit [e] = e.comparisons := by
  rw [visit_eq_comparisonsAll, comparisonsAll, comparisonsAll, List.append_nil]

theorem mem_required {name : Text} {e : Expr} :
    name ∈ e.required ↔ ∃ c ∈ e.comparisons, c.parameter = name := by
  simp [required, visit_singleton]

end Expr

theorem Referrer.mem_namesAll {name : Text} {members : List Referrer} :
    name ∈ namesAll members ↔ ∃ r ∈ members, name ∈ r.names := by
  induction members with
  | nil => simp [namesAll]
  | cons r rest ih => simp [namesAll, ih]

theorem Referrer.mem_namesAll_rules {name : Text} {rules : List Rule} :
    name ∈ namesAll (rules.map .rule) ↔ ∃ r ∈ rules, name ∈ r.expression.required := by
  simp [mem_namesAll, names]

theorem CriteriaSet.mem_required {name : Text} {set : CriteriaSet} :
    name ∈ set.required ↔ ∃ r ∈ set.rules, name ∈ r.expression.required := by
  rw [required, Referrer.required, mem_sortedNames, Referrer.names, Referrer.mem_namesAll_rules]

end Screening
