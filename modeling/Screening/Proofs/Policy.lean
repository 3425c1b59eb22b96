import Mathlib.Data.List.Forall2
import Screening.Evaluation
import Screening.Proofs.Expr.Partial
import Screening.Store.Demo

/-!
# Policies for missing data

A company that passes under the strict policy, which fails what is undecided, passes whatever else
becomes known; one that fails under the lenient policy fails whatever else becomes known. On the
same values the two policies differ in undecided rules only: `evaluate_policies`. That a result may
have a text with an integer too long to be written, for which an evaluation breaks off, is left out
here.
-/

namespace Screening

def EvaluationSettings.under (s : EvaluationSettings) (policy : MissingDataPolicy) :
    EvaluationSettings :=
  { s with policy }

/-- The results of a rule under the strict and under the lenient policy. -/
def RuleResult.RelaxedTo (strict lenient : RuleResult) : Prop :=
  lenient.verdict = strict.verdict ∧
    (lenient = strict ∨ (strict.verdict = .indeterminate ∧ strict.passed = false ∧
      lenient = { strict with passed := true, failureReason := none }))

namespace Verdict

theorem ofAnswer_eq_indeterminate {answer : Option Bool} :
    ofAnswer answer = indeterminate ↔ answer = none := by
  rcases answer with _ | b
  · simp [ofAnswer]
  · cases b <;> simp [ofAnswer]

theorem passes_failClosed {v : Verdict} : v.passes .failClosed = true ↔ v = satisfied := by
  cases v <;> decide

theorem passes_failOpen {v : Verdict} : v.passes .failOpen = false ↔ v = violated := by
  cases v <;> decide

/-- The policy counts for undecided rules only. -/
theorem passes_of_decided {v : Verdict} (decided : v ≠ indeterminate) (p q : MissingDataPolicy) :
    v.passes p = v.passes q := by
  cases v <;> first | rfl | contradiction

end Verdict

namespace Rule

theorem verdict_extended {r : Rule} {known more : Values} (extended : known.ExtendedBy more)
    (decided : r.verdict known ≠ .indeterminate) : r.verdict more = r.verdict known := by
  unfold verdict at decided ⊢
  cases answer : r.expression.assess known with
  | none => exact absurd (Verdict.ofAnswer_eq_indeterminate.mpr answer) decided
  | some b => rw [Expr.assess_extended extended answer]

theorem result_congr {r : Rule} {s t : EvaluationSettings} {values : Values}
    (words : s.defaultFailure = t.defaultFailure)
    (passes : (r.verdict values).passes s.policy = (r.verdict values).passes t.policy) :
    r.result s values = r.result t values := by
  unfold result
  simp only [words, passes]

theorem result_under_of_decided {r : Rule} {values : Values} (settings : EvaluationSettings)
    (decided : r.verdict values ≠ .indeterminate) (p q : MissingDataPolicy) :
    r.result (settings.under p) values = r.result (settings.under q) values :=
  result_congr rfl (Verdict.passes_of_decided decided p q)

theorem result_relaxed (r : Rule) (settings : EvaluationSettings) (values : Values) :
    (r.result (settings.under .failClosed) values).RelaxedTo
      (r.result (settings.under .failOpen) values) := by
  refine ⟨rfl, ?_⟩
  by_cases undecided : r.verdict values = .indeterminate
  · refine Or.inr ⟨undecided, ?_, ?_⟩
    · show (r.verdict values).passes .failClosed = false
      rw [undecided]; rfl
    · simp only [result, EvaluationSettings.under, undecided]
      rfl
  · exact Or.inl (result_under_of_decided settings undecided _ _)

end Rule

namespace CriteriaSet

variable {set : CriteriaSet} {settings : EvaluationSettings} {id name : Text} {values : Values}

theorem evaluate_passed_iff :
    (set.evaluate settings id name values).passed = true ↔
      ∀ r ∈ set.rules, r.severity = .exclude → (r.verdict values).passes settings.policy = true := by
  simp [evaluate, RuleResult.excludes, Rule.result]

theorem evaluate_failed_iff :
    (set.evaluate settings id name values).passed = false ↔
      ∃ r ∈ set.rules, r.severity = .exclude ∧ (r.verdict values).passes settings.policy = false := by
  simp [evaluate, RuleResult.excludes, Rule.result]

/-- Under the strict policy a pass is for good. -/
theorem passed_extended {known more : Values} (extended : known.ExtendedBy more)
    {strict other : EvaluationSettings} (policy : strict.policy = .failClosed)
    (passed : (set.evaluate strict id name known).passed = true) :
    (set.evaluate other id name more).passed = true := by
  rw [evaluate_passed_iff, policy] at passed
  rw [evaluate_passed_iff]
  intro r member severity
  have satisfied := Verdict.passes_failClosed.mp (passed r member severity)
  rw [Rule.verdict_extended extended (by rw [satisfied]; decide), satisfied]
  rfl

/-- Under the lenient policy a failure is for good. -/
theorem failed_extended {known more : Values} (extended : known.ExtendedBy more)
    {lenient other : EvaluationSettings} (policy : lenient.policy = .failOpen)
    (failed : (set.evaluate lenient id name known).passed = false) :
    (set.evaluate other id name more).passed = false := by
  rw [evaluate_failed_iff, policy] at failed
  rw [evaluate_failed_iff]
  obtain ⟨r, member, severity, fails⟩ := failed
  have violated := Verdict.passes_failOpen.mp fails
  refine ⟨r, member, severity, ?_⟩
  rw [Rule.verdict_extended extended (by rw [violated]; decide), violated]
  rfl

theorem rules_relaxed (set : CriteriaSet) (settings : EvaluationSettings) (id name : Text)
    (values : Values) :
    List.Forall₂ RuleResult.RelaxedTo
      (set.evaluate (settings.under .failClosed) id name values).rules
      (set.evaluate (settings.under .failOpen) id name values).rules := by
  simp only [evaluate, List.forall₂_map_left_iff, List.forall₂_map_right_iff, List.forall₂_same]
  exact fun r _ => r.result_relaxed settings values

theorem values_extendedBy_self (values : Values) : values.ExtendedBy values :=
  fun _ _ found => found

/-- The policies for missing data are sound: what is known decides alike before and after more is
known, and a change from the strict to the lenient policy only lets undecided rules pass. -/
theorem evaluate_policies (set : CriteriaSet) (settings : EvaluationSettings) (company : Company)
    {known more : Values} (extended : known.ExtendedBy more) :
    ((set.evaluate (settings.under .failClosed) company.id company.name known).passed = true →
      ∀ policy, (set.evaluate (settings.under policy) company.id company.name more).passed = true) ∧
    ((set.evaluate (settings.under .failOpen) company.id company.name known).passed = false →
      ∀ policy, (set.evaluate (settings.under policy) company.id company.name more).passed = false) ∧
    List.Forall₂ RuleResult.RelaxedTo
      (set.evaluate (settings.under .failClosed) company.id company.name known).rules
      (set.evaluate (settings.under .failOpen) company.id company.name known).rules ∧
    ((set.evaluate (settings.under .failClosed) company.id company.name known).passed = true →
      (set.evaluate (settings.under .failOpen) company.id company.name known).passed = true) :=
  ⟨fun passed _ => passed_extended extended rfl passed,
    fun failed _ => failed_extended extended rfl failed,
    rules_relaxed set settings company.id company.name known,
    fun passed => passed_extended (values_extendedBy_self known) rfl passed⟩

/-- A company with much renewable energy passes before its emissions are known, and after. -/
theorem evaluate_policies_climate :
    let company := Store.Demo.company "greentech" "GreenTech Corp" "GTC" "Technology"
    let known : Values := [("renewable_energy_pct", .int 80)]
    let added : Values := [("carbon_emissions", .int 5000)]
    known.ExtendedBy (known ++ added) ∧
      ∀ policy, (Store.Demo.climate.evaluate (EvaluationSettings.standard.under policy) company.id
        company.name (known ++ added)).passed = true := by
  intro company known added
  have extended : known.ExtendedBy (known ++ added) := Values.extendedBy_append (by decide)
  exact ⟨extended, (evaluate_policies Store.Demo.climate .standard company extended).1
    (by decide +kernel)⟩

end CriteriaSet

end Screening
