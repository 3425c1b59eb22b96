import Mathlib.Logic.Relation
import Screening.Proofs.Expr.Partial
import Screening.Store.Demo

/-!
# Boolean algebra of expressions

Both evaluations answer a node the same way: one answer decides it as soon as a condition has it,
the other takes all of them (`IsEvaluation`). The laws of Boolean algebra follow from this alone,
anywhere in an expression and however often they are applied: `answers_of_rewriting`.
-/

namespace Screening.Expr

/-! ### The laws -/

/-- What combines any number of conditions. -/
inductive Connective where
  | all
  | any

namespace Connective

def node : Connective → List Expr → Expr
  | all => Expr.all
  | any => Expr.any

def dual : Connective → Connective
  | all => any
  | any => all

/-- The answer that one condition is enough for. -/
def decider : Connective → Bool
  | all => false
  | any => true

theorem decider_dual (k : Connective) : k.dual.decider = !k.decider := by
  cases k <;> rfl

end Connective

inductive Law : Expr → Expr → Prop
  /-- The same conditions, in whatever order and number. -/
  | members (k : Connective) {cs ds : List Expr} (same : ∀ e, e ∈ cs ↔ e ∈ ds) :
      Law (k.node cs) (k.node ds)
  | nested (k : Connective) (before inner after : List Expr) :
      Law (k.node (before ++ k.node inner :: after)) (k.node (before ++ inner ++ after))
  | double (e : Expr) : Law (.not (.not e)) e
  | deMorgan (k : Connective) (cs : List Expr) :
      Law (.not (k.node cs)) (k.dual.node (cs.map .not))

/-- An expression with a place left open. -/
inductive Surrounding where
  | none
  | node (k : Connective) (before : List Expr) (inner : Surrounding) (after : List Expr)
  | not (inner : Surrounding)

def Surrounding.fill : Surrounding → Expr → Expr
  | none, e => e
  | node k before inner after, e => k.node (before ++ inner.fill e :: after)
  | not inner, e => .not (inner.fill e)

/-- A law applied somewhere in an expression. -/
inductive Rewrite : Expr → Expr → Prop
  | inside {e f : Expr} (place : Surrounding) (law : Law e f) :
      Rewrite (place.fill e) (place.fill f)

/-! ### What makes an evaluation -/

structure IsEvaluation (answer : Expr → Option Bool) : Prop where
  decided : ∀ (k : Connective) cs,
    answer (k.node cs) = some k.decider ↔ ∃ e ∈ cs, answer e = some k.decider
  unanimous : ∀ (k : Connective) cs,
    answer (k.node cs) = some (!k.decider) ↔ ∀ e ∈ cs, answer e = some (!k.decider)
  negated : ∀ e, answer (.not e) = (answer e).map Bool.not

theorem isEvaluation_assess (values : Values) : IsEvaluation (assess values) where
  decided k cs := by
    cases k with
    | all => simp [Connective.node, Connective.decider, assess, assessEach_eq_map, allKnown_eq_false]
    | any => simp [Connective.node, Connective.decider, assess, assessEach_eq_map, anyKnown_eq_true]
  unanimous k cs := by
    cases k with
    | all => simp [Connective.node, Connective.decider, assess, assessEach_eq_map, allKnown_eq_true]
    | any => simp [Connective.node, Connective.decider, assess, assessEach_eq_map, anyKnown_eq_false]
  negated e := rfl

theorem isEvaluation_holds (values : Values) : IsEvaluation fun e => some (e.holds values) where
  decided k cs := by
    cases k with
    | all => simp [Connective.node, Connective.decider, holds, holdAll_eq_false]
    | any => simp [Connective.node, Connective.decider, holds, holdAny_eq_true]
  unanimous k cs := by
    cases k with
    | all => simp [Connective.node, Connective.decider, holds, holdAll_eq_true]
    | any => simp [Connective.node, Connective.decider, holds, holdAny_eq_false]
  negated e := rfl

/-- Answers are the same if each of the two truth values is given by both or by none. -/
theorem answer_ext {x y : Option Bool} (b : Bool) (one : x = some b ↔ y = some b)
    (other : x = some (!b) ↔ y = some (!b)) : x = y := by
  apply Option.ext
  intro c
  by_cases same : c = b
  · subst same
    exact one
  · obtain rfl : c = !b := Bool.eq_not.mpr same
    exact other

namespace IsEvaluation

variable {answer : Expr → Option Bool} {e f : Expr}

/-- The answer of a node depends on the answers of its conditions, not on their order or number. -/
theorem node_congr (ev : IsEvaluation answer) (k : Connective) {cs ds : List Expr}
    (same : ∀ a, a ∈ cs.map answer ↔ a ∈ ds.map answer) :
    answer (k.node cs) = answer (k.node ds) := by
  apply answer_ext k.decider
  · rw [ev.decided, ev.decided]
    simpa only [List.mem_map] using same (some k.decider)
  · rw [ev.unanimous, ev.unanimous]
    have every : (∀ a ∈ cs.map answer, a = some (!k.decider)) ↔
        ∀ a ∈ ds.map answer, a = some (!k.decider) := by simp only [same]
    simpa only [List.forall_mem_map] using every

theorem node_nested (ev : IsEvaluation answer) (k : Connective) (before inner after : List Expr) :
    answer (k.node (before ++ k.node inner :: after)) =
      answer (k.node (before ++ inner ++ after)) := by
  apply answer_ext k.decider
  · simp only [ev.decided, List.mem_append, List.mem_cons, or_and_right, exists_or, or_assoc,
      exists_eq_left]
  · simp only [ev.unanimous, List.mem_append, List.mem_cons, or_imp, forall_and, and_assoc,
      forall_eq]

theorem not_not (ev : IsEvaluation answer) (e : Expr) : answer (.not (.not e)) = answer e := by
  rw [ev.negated, ev.negated]
  cases answer e <;> simp

theorem not_eq_some (ev : IsEvaluation answer) (e : Expr) (b : Bool) :
    answer (.not e) = some b ↔ answer e = some (!b) := by
  rw [ev.negated, Option.map_eq_some_iff]
  constructor
  · rintro ⟨c, given, rfl⟩
    rw [given, Bool.not_not]
  · intro given
    exact ⟨!b, given, Bool.not_not b⟩

theorem not_node (ev : IsEvaluation answer) (k : Connective) (cs : List Expr) :
    answer (.not (k.node cs)) = answer (k.dual.node (cs.map .not)) := by
  apply answer_ext k.dual.decider
  · rw [ev.not_eq_some, k.decider_dual, Bool.not_not, ev.decided, ← k.decider_dual, ev.decided]
    simp [ev.not_eq_some, k.decider_dual]
  · rw [ev.not_eq_some, ev.unanimous, k.decider_dual, Bool.not_not, ev.unanimous]
    simp [ev.not_eq_some]

theorem answer_of_law (ev : IsEvaluation answer) (law : Law e f) : answer e = answer f := by
  cases law with
  | members k same =>
    apply ev.node_congr
    intro a
    simp only [List.mem_map, same]
  | nested k before inner after => exact ev.node_nested k before inner after
  | double => exact ev.not_not f
  | deMorgan k cs => exact ev.not_node k cs

theorem answer_fill (ev : IsEvaluation answer) (same : answer e = answer f) (place : Surrounding) :
    answer (place.fill e) = answer (place.fill f) := by
  induction place with
  | none => exact same
  | node k before inner after ih =>
    apply ev.node_congr
    intro a
    rw [List.map_append, List.map_append, List.map_cons, List.map_cons, ih]
  | not inner ih => rw [Surrounding.fill, Surrounding.fill, ev.negated, ev.negated, ih]

theorem answer_of_rewriting (ev : IsEvaluation answer) (rewriting : Relation.EqvGen Rewrite e f) :
    answer e = answer f := by
  induction rewriting with
  | rel _ _ step =>
    obtain ⟨place, law⟩ := step
    exact ev.answer_fill (ev.answer_of_law law) place
  | refl _ => rfl
  | symm _ _ _ ih => exact ih.symm
  | trans _ _ _ _ _ ih ih' => exact ih.trans ih'

end IsEvaluation

/-- Expressions that come from each other by laws of Boolean algebra have the same answer, whatever
values are missing. -/
theorem answers_of_rewriting {e f : Expr} (rewriting : Relation.EqvGen Rewrite e f)
    (values : Values) : e.holds values = f.holds values ∧ e.assess values = f.assess values := by
  have holds := (isEvaluation_holds values).answer_of_rewriting rewriting
  exact ⟨Option.some.inj holds, (isEvaluation_assess values).answer_of_rewriting rewriting⟩

/-- An empty disjunction disappears, a negation moves inwards, a conjunction is merged into the one
around it and its conditions are repeated in another order, while a value is missing. -/
theorem answers_of_rewriting_transition :
    let high := Store.Demo.compare "carbon_emissions" .gt (.int 100)
    let grey := Store.Demo.compare "renewable_energy_pct" .lt (.int 50)
    let e : Expr := .all [high, .not (.any [grey, .any []])]
    let f : Expr := .all [.not grey, high, .not grey]
    let values : Values := [("carbon_emissions", .int 5000)]
    Relation.EqvGen Rewrite e f ∧ e.assess values = none ∧
      (e.holds values = f.holds values ∧ e.assess values = f.assess values) := by
  intro high grey e f values
  have dropped : Rewrite e (.all [high, .not (.any [grey])]) :=
    .inside (.node .all [high] (.not .none) []) (.nested .any [grey] [] [])
  have inwards : Rewrite (.all [high, .not (.any [grey])]) (.all [high, .all [.not grey]]) :=
    .inside (.node .all [high] .none []) (.deMorgan .any [grey])
  have merged : Rewrite (.all [high, .all [.not grey]]) (.all [high, .not grey]) :=
    .inside .none (.nested .all [high] [.not grey] [])
  have repeated : Rewrite (.all [high, .not grey]) f := by
    refine .inside .none (.members .all fun e => ?_)
    simp only [List.mem_cons, List.not_mem_nil, or_false]
    tauto
  have rewriting : Relation.EqvGen Rewrite e f :=
    .trans _ _ _ (.rel _ _ dropped) <| .trans _ _ _ (.rel _ _ inwards) <|
      .trans _ _ _ (.rel _ _ merged) (.rel _ _ repeated)
  exact ⟨rewriting, by decide +kernel, answers_of_rewriting rewriting values⟩

end Screening.Expr
