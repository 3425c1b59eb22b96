import Screening.Proofs.Policy

/-!
# Results that agree with themselves

The fields of a result are computed apart from each other: the verdict, the value and the threshold
that are shown, the reason of a failure, the outcome of a company and the counts.
`CriteriaSet.evaluate_consistent` and `Summary.ofResults_consistent` say how they hang together.
-/

namespace Screening

/-! ### Whole percent -/

/-- The rate is the share of a part in whole percent, a half rounded up. Of nothing it is zero. -/
def IsPercentage (rate part whole : Nat) : Prop :=
  if whole = 0 then rate = 0
  else 2 * whole * rate ≤ 200 * part + whole ∧ 200 * part + whole < 2 * whole * (rate + 1)

theorem passRate_bounds (passed : Int) {total : Int} (positive : 0 < total) :
    2 * total * passRate passed total ≤ 200 * passed + total ∧
      200 * passed + total < 2 * total * (passRate passed total + 1) := by
  have divisor : 0 < 2 * total := by omega
  have rate : passRate passed total = (passed * 200 + total) / (2 * total) := by
    rw [passRate, if_neg (by omega), Int.fdiv_eq_ediv_of_nonneg _ (Int.le_of_lt divisor)]
  have below := Int.mul_ediv_self_le (x := passed * 200 + total) (k := 2 * total) (by omega)
  have above := Int.lt_mul_ediv_self_add (x := passed * 200 + total) divisor
  rw [rate, Int.mul_add, Int.mul_one]
  constructor <;> omega

theorem passRate_nonneg (passed total : Nat) : 0 ≤ passRate passed total := by
  unfold passRate
  split
  · exact Int.le_refl 0
  · exact Int.fdiv_nonneg (by omega) (by omega)

theorem isPercentage_passRate (passed total : Nat) :
    IsPercentage (passRate passed total).toNat passed total := by
  unfold IsPercentage
  split
  · rename_i none
    subst none
    rfl
  · have positive : (0 : Int) < total := by omega
    obtain ⟨below, above⟩ := passRate_bounds passed positive
    obtain ⟨rate, whole⟩ := Int.eq_ofNat_of_zero_le (passRate_nonneg passed total)
    rw [whole] at below above ⊢
    exact ⟨Int.ofNat_le.mp below, Int.ofNat_lt.mp above⟩

/-! ### Reasons are never empty -/

theorem Text.append_ne_empty {a : Text} (filled : a ≠ "") (b : Text) : a ++ b ≠ "" := by
  intro empty
  have points : a.points ++ b.points = [] := congrArg Text.points empty
  exact filled (congrArg Text.mk (List.append_eq_nil_iff.mp points).1)

namespace Expr

theorem violation_ne_empty (c : Comparison) (actual : Data) : violation c actual ≠ "" := by
  unfold violation
  repeat apply Text.append_ne_empty
  exact c.named.1

theorem explain_ne_empty {default : Text} (worded : default ≠ "") (e : Expr) (values : Values) :
    e.explain values default ≠ "" := by
  unfold explain
  split
  · split
    · exact Text.append_ne_empty (by decide) _
    · exact violation_ne_empty _ _
  · split
    · exact Text.append_ne_empty (by decide) _
    · exact worded

theorem failure_ne_empty {default : Text} (worded : default ≠ "") (e : Expr) (values : Values)
    (written : Option Text) : e.failure values written default ≠ "" := by
  unfold failure
  split
  · exact explain_ne_empty worded e values
  · rename_i reason given
    have filled : reason ≠ "" := by
      rintro rfl
      exact absurd (Option.filter_eq_some_iff.mp given).2 (by decide)
    split
    · repeat apply Text.append_ne_empty
      exact filled
    · exact filled

end Expr

/-! ### One rule -/

/-- What is found in the values under whatever name is a scalar. -/
def Values.AreScalars (values : Values) : Prop :=
  ∀ name d, lookup values name = some d → ∃ v, d = .scalar v

/-- The fields of a result of this rule fit together. -/
structure RuleResult.ConsistentWith (r : RuleResult) (rule : Rule) (lenient : Prop) : Prop where
  ruleId : r.ruleId = rule.id
  ruleName : r.ruleName = rule.name
  severity : r.severity = rule.severity
  passed : r.passed = true ↔ r.verdict = .satisfied ∨ (r.verdict = .indeterminate ∧ lenient)
  reason : (∃ text, r.failureReason = some text ∧ text ≠ "") ↔ r.passed = false
  silent : r.passed = true → r.failureReason = none
  comparison : rule.isComparison = true → r.threshold ≠ none ∧
    (r.actual = none ↔ r.verdict = .indeterminate) ∧ ∀ d, r.actual = some d → ∃ v, d = .scalar v
  combined : rule.isComparison = false → r.threshold = none ∧ r.actual = none

theorem Verdict.passes_iff {v : Verdict} {policy : MissingDataPolicy} :
    v.passes policy = true ↔ v = satisfied ∨ (v = indeterminate ∧ policy = .failOpen) := by
  cases v <;> simp [passes]

namespace Rule

variable {rule : Rule} {settings : EvaluationSettings} {values : Values}

theorem result_reason (rule : Rule) (settings : EvaluationSettings) (values : Values) :
    (∃ text, (rule.result settings values).failureReason = some text ∧ text ≠ "") ↔
      (rule.result settings values).passed = false := by
  have worded := Expr.failure_ne_empty settings.defaultFailure_isName.1 rule.expression values
    rule.failureMessage
  cases passed : (rule.verdict values).passes settings.policy with
  | true => simp [result, passed]
  | false => simp [result, passed, worded]

theorem result_comparison (scalars : values.AreScalars) (single : rule.isComparison = true) :
    (rule.result settings values).threshold ≠ none ∧
      ((rule.result settings values).actual = none ↔
        (rule.result settings values).verdict = .indeterminate) ∧
      ∀ d, (rule.result settings values).actual = some d → ∃ v, d = .scalar v := by
  obtain ⟨c, compared⟩ : ∃ c, rule.expression = .comparison c := by
    unfold isComparison at single
    split at single
    · exact ⟨_, ‹_›⟩
    · cases single
  have actual : (rule.result settings values).actual = lookup values c.parameter := by
    simp only [result, compared, Expr.actual?]
  refine ⟨by simp [result, compared, Expr.threshold?], ?_, ?_⟩
  · show _ ↔ rule.verdict values = _
    rw [actual, verdict, compared, Verdict.ofAnswer_eq_indeterminate, Expr.assess, Comparison.assess,
      Option.map_eq_none_iff]
  · intro d shown
    rw [actual] at shown
    exact scalars c.parameter d shown

theorem result_combined (several : rule.isComparison = false) :
    (rule.result settings values).threshold = none ∧ (rule.result settings values).actual = none := by
  unfold isComparison at several
  cases expression : rule.expression with
  | comparison c => simp [expression] at several
  | all _ | any _ | not _ => simp [result, expression, Expr.threshold?, Expr.actual?]

theorem result_consistent (rule : Rule) (settings : EvaluationSettings) (scalars : values.AreScalars) :
    (rule.result settings values).ConsistentWith rule (settings.policy = .failOpen) where
  ruleId := rfl
  ruleName := rfl
  severity := rfl
  passed := Verdict.passes_iff
  reason := rule.result_reason settings values
  silent passed := if_pos passed
  comparison := result_comparison scalars
  combined := result_combined

end Rule

/-! ### A company and all companies -/

/-- A result for each rule in order, and the company fails by what excludes it only. -/
structure CompanyResult.ConsistentWith (r : CompanyResult) (set : CriteriaSet) (lenient : Prop) :
    Prop where
  rules : List.Forall₂ (fun rule outcome => outcome.ConsistentWith rule lenient) set.rules r.rules
  passed : r.passed = true ↔ ¬∃ outcome ∈ r.rules, outcome.severity = .exclude ∧ outcome.passed = false

theorem CriteriaSet.evaluate_consistent (set : CriteriaSet) (settings : EvaluationSettings)
    (id name : Text) {values : Values} (scalars : values.AreScalars) :
    (set.evaluate settings id name values).ConsistentWith set (settings.policy = .failOpen) where
  rules := by
    simp only [evaluate, List.forall₂_map_right_iff, List.forall₂_same]
    exact fun rule _ => rule.result_consistent settings scalars
  passed := by
    simp only [evaluate, Bool.not_eq_true', List.any_eq_false, RuleResult.excludes, Bool.and_eq_true,
      beq_iff_eq, not_exists, not_and]

/-- The counts are those of the results. -/
structure Summary.ConsistentWith (s : Summary) (results : List CompanyResult) : Prop where
  total : s.total = results.length
  split : s.total = s.passed + s.failed
  passed : s.passed = results.countP (·.passed)
  rate : IsPercentage s.passRate s.passed s.total

theorem Summary.ofResults_consistent (results : List CompanyResult) :
    (ofResults results).ConsistentWith results where
  total := rfl
  split := by
    have most : results.countP (·.passed) ≤ results.length := List.countP_le_length
    show results.length = results.countP (·.passed) + (results.length - results.countP (·.passed))
    omega
  passed := rfl
  rate := isPercentage_passRate _ _

end Screening
