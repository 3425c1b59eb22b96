import Screening.Evaluation
import Screening.Proofs.Completeness
import Screening.Proofs.Expr.Reads

/-!
# What is looked up is all that counts

Values in which every name has the same look-up are the same to the evaluation of rules and to the
report on what is missing, whatever their order and the spelling of their names:
`CriteriaSet.evaluate_of_lookups` and `Completeness.report_of_lookups`.
-/

namespace Screening

def Values.SameLookups (v w : Values) : Prop := ∀ name, lookup v name = lookup w name

variable {v w : Values}

theorem Values.SameLookups.agreeOn (same : v.SameLookups w) (names : List Text) :
    v.AgreeOn w names :=
  fun name _ => same name

theorem Rule.verdict_of_lookups (same : v.SameLookups w) (rule : Rule) :
    rule.verdict v = rule.verdict w := by
  rw [verdict, verdict, Expr.assess_of_agree (same.agreeOn _)]

theorem Rule.result_of_lookups (same : v.SameLookups w) (rule : Rule) (settings : EvaluationSettings) :
    rule.result settings v = rule.result settings w := by
  unfold result
  rw [Rule.verdict_of_lookups same, Expr.failure_of_agree (same.agreeOn _), Expr.actual?_of_agree (same.agreeOn _)]

theorem CriteriaSet.evaluate_of_lookups (same : v.SameLookups w) (set : CriteriaSet)
    (settings : EvaluationSettings) (id name : Text) :
    set.evaluate settings id name v = set.evaluate settings id name w := by
  unfold evaluate
  simp only [Rule.result_of_lookups same]

theorem Rule.isWritable_of_lookups (same : v.SameLookups w) (rule : Rule) :
    rule.isWritable v = rule.isWritable w := by
  unfold isWritable
  simp only [Rule.verdict_of_lookups same, same _]

theorem CriteriaSet.isWritable_of_lookups (same : v.SameLookups w) (set : CriteriaSet) :
    set.isWritable v = set.isWritable w := by
  unfold isWritable
  simp only [Rule.isWritable_of_lookups same]

namespace Completeness

theorem missingNames_of_lookups (same : v.SameLookups w) (required : List Text) :
    missingNames required (v.map Prod.fst) = missingNames required (w.map Prod.fst) := by
  rw [missingNames_eq, missingNames_eq]
  simp only [same _]

theorem ofAvailable_congr {required : List Text} {companies : List Company}
    {available available' : Text → List Text}
    (same : ∀ c ∈ companies, missingNames required (available c.id) =
      missingNames required (available' c.id)) :
    ofAvailable required companies available = ofAvailable required companies available' := by
  have issues : companies.filterMap (issue? required available) =
      companies.filterMap (issue? required available') := by
    refine List.filterMap_congr fun c member => ?_
    unfold issue?
    rw [same c member]
  have lists : companies.map (fun c => missingNames required (available c.id)) =
      companies.map fun c => missingNames required (available' c.id) :=
    List.map_congr_left same
  unfold ofAvailable
  rw [issues, lists]

/-- A report says of two sources the same if these give the companies values of the same look-ups. -/
theorem report_of_lookups {source other : ValueSource} {companies : List Company} {set : CriteriaSet}
    {day : Date} (same : ∀ c ∈ companies,
      ((resolve source (companies.map (·.id)) day).of c.id).SameLookups
        ((resolve other (companies.map (·.id)) day).of c.id)) :
    (report source companies set day).1 = (report other companies set day).1 := by
  rw [report_eq, report_eq]
  exact ofAvailable_congr fun c member => missingNames_of_lookups (same c member) set.required

end Completeness

end Screening
