import Screening.Proofs.Acceptance
import Screening.Proofs.Completeness
import Screening.Store.Demo

/-!
# Validating before screening

A report lists for each company what the rules miss among the values that a screening would look at,
so a screening leaves no rule undecided without the report naming a parameter of that rule. After a
report without issues the policy for missing data does not matter: `validate_foretells_screen`.
-/

namespace Screening

/-- Of each rule that the result leaves undecided, the company has an issue that lists a name. -/
def Completeness.Foretells (report : Completeness) (rules : List Rule) (result : CompanyResult) :
    Prop :=
  List.Forall₂ (fun rule outcome => outcome.verdict = Verdict.indeterminate →
    ∃ issue ∈ report.issues, issue.companyId = result.companyId ∧
      ∃ name ∈ issue.missing, name ∈ rule.expression.required) rules result.rules

namespace Session

variable {s : Session} {call call' : Call} {c c' : Circumstances} {a a' : Accepted}
  {report : Completeness}

def reportOf (s : Session) (a : Accepted) : Completeness :=
  (Completeness.report s.store.valuesOf a.selection.companies a.set a.request.asOf).1

theorem validate_ok (h : (s.validate call c).2 = .ok report) :
    ∃ a, (s.accept call c).2 = .ok a ∧ report = s.reportOf a := by
  rw [validate_outcome] at h
  cases accepted : (s.accept call c).2 with
  | error f =>
    rw [accepted] at h
    cases h
  | ok a =>
    rw [accepted] at h
    exact ⟨a, rfl, (Except.ok.inj h).symm⟩

theorem screen_ok {r : ScreeningResult} (h : (s.screen call c).2 = .ok r) :
    ∃ a, (s.accept call c).2 = .ok a ∧ r.results = s.evaluate a := by
  obtain ⟨a, accepted, rfl⟩ := screened_parts h
  exact ⟨a, accepted, rfl⟩

/-- What is evaluated depends on the criteria set, the selection and the day of a call only. -/
theorem evaluate_congr (set : a'.set = a.set) (selection : a'.selection = a.selection)
    (day : a'.request.asOf = a.request.asOf) : s.evaluate a' = s.evaluate a := by
  unfold evaluate resolution
  rw [set, selection, day]

theorem missingOf_reportOf {company : Company} (selected : company ∈ a.selection.companies) :
    (s.reportOf a).missingOf company.id = sortedNames
      (a.set.rules.flatMap fun r => r.expression.missing ((s.resolution a).of company.id)) := by
  rw [reportOf, Completeness.missingOf_report selected, Resolution.available,
    Completeness.missingNames_required]
  rfl

theorem reportOf_foretells {result : CompanyResult} (member : result ∈ s.evaluate a) :
    (s.reportOf a).Foretells a.set.rules result := by
  obtain ⟨company, selected, rfl⟩ := List.mem_map.mp member
  unfold Completeness.Foretells CriteriaSet.evaluate
  rw [List.forall₂_map_right_iff, List.forall₂_same]
  intro rule listed undecided
  exact Completeness.exists_issue_of_undecided selected listed
    (Verdict.ofAnswer_eq_indeterminate.mp undecided)

theorem decided_of_isValid (valid : (s.reportOf a).isValid = true) {company : Company}
    (selected : company ∈ a.selection.companies) {rule : Rule} (listed : rule ∈ a.set.rules) :
    rule.verdict ((s.resolution a).of company.id) ≠ .indeterminate := by
  intro undecided
  obtain ⟨issue, member, _⟩ := Completeness.exists_issue_of_undecided selected listed
    (Verdict.ofAnswer_eq_indeterminate.mp undecided)
  rw [Completeness.issues_eq_nil_of_isValid valid] at member
  cases member

theorem evaluate_policies_of_isValid (valid : (s.reportOf a).isValid = true)
    (settings : EvaluationSettings) (p q : MissingDataPolicy) :
    (s.evaluating (settings.under p)).evaluate a = (s.evaluating (settings.under q)).evaluate a := by
  refine List.map_congr_left fun company selected => ?_
  have rules : (a.set.rules.map fun r => r.result (settings.under p) ((s.resolution a).of company.id)) =
      a.set.rules.map fun r => r.result (settings.under q) ((s.resolution a).of company.id) :=
    List.map_congr_left fun rule listed =>
      Rule.result_under_of_decided settings (decided_of_isValid valid selected listed) p q
  show CriteriaSet.evaluate _ (settings.under p) _ _ ((s.resolution a).of company.id) =
    CriteriaSet.evaluate _ (settings.under q) _ _ ((s.resolution a).of company.id)
  unfold CriteriaSet.evaluate
  rw [rules]

/-- Sessions that differ in the evaluation of rules screen a call alike if they evaluate it alike. -/
theorem screen_results_congr {e e' : EvaluationSettings} (alike : ∀ a, (s.accept call c).2 = .ok a →
      (s.evaluating e).evaluate a = (s.evaluating e').evaluate a) :
    ((s.evaluating e).screen call c).2.map (·.results) =
      ((s.evaluating e').screen call c).2.map (·.results) := by
  rw [screen_outcome, screen_outcome, conduct_outcome, conduct_outcome, accept_evaluating,
    accept_evaluating]
  cases accepted : (s.accept call c).2 with
  | error f => rfl
  | ok a =>
    -- Neither what can be written nor what can be stored depends on the evaluation.
    have written : (s.evaluating e).WritesAll a ↔ (s.evaluating e').WritesAll a := Iff.rfl
    have fault : (s.evaluating e).storageFault? c.resultId =
        (s.evaluating e').storageFault? c.resultId := rfl
    have version : ((s.evaluating e).assemble a c).criteriaSet =
        ((s.evaluating e').assemble a c).criteriaSet := rfl
    dsimp only [Except.bind]
    rw [fault]
    by_cases all : (s.evaluating e').WritesAll a
    · rw [if_pos (written.mpr all), if_pos all]
      cases (s.evaluating e').storageFault? c.resultId with
      | some why => rfl
      | none =>
        dsimp only [give]
        rw [version]
        split
        · exact congrArg Except.ok (alike a accepted)
        · rfl
    · rw [if_neg (all ∘ written.mp), if_neg all]

/-- A report foretells what a screening of the same companies on the same day will find missing. -/
theorem validate_foretells_screen (validated : (s.validate call c).2 = .ok report) :
    ∃ a, (s.accept call c).2 = .ok a ∧
      (∀ issue ∈ report.issues, issue.missing = report.missingOf issue.companyId) ∧
      (∀ company ∈ a.selection.companies, report.missingOf company.id = sortedNames
        (a.set.rules.flatMap fun r => r.expression.missing ((s.resolution a).of company.id))) ∧
      ∀ user c', call.asOf.getD c'.today = call.asOf.getD c.today →
        (∀ r, (s.screen { call with user } c').2 = .ok r →
          (r.results = a.selection.companies.map fun company =>
            a.set.evaluate s.settings.evaluation company.id company.name
              ((s.resolution a).of company.id)) ∧
          (∀ result ∈ r.results, report.Foretells a.set.rules result) ∧
          (report.isValid = true → ∀ result ∈ r.results, ∀ outcome ∈ result.rules,
            outcome.verdict ≠ .indeterminate)) ∧
        (report.isValid = true → ∀ (settings : EvaluationSettings) p q,
          ((s.evaluating (settings.under p)).screen { call with user } c').2.map (·.results) =
            ((s.evaluating (settings.under q)).screen { call with user } c').2.map (·.results)) := by
  obtain ⟨a, accepted, rfl⟩ := validate_ok validated
  refine ⟨a, accepted, ?_, fun company selected => missingOf_reportOf selected, ?_⟩
  · intro issue member
    obtain ⟨company, selected, same⟩ := Completeness.exists_company member
    rw [Completeness.mem_issues member, ← same]
    exact (Completeness.missingOf_report selected).symm
  · intro user c' day
    -- Whoever asks, a call that is accepted selects the same companies under the same set.
    have selector : ({ call with user } : Call).selector = call.selector := rfl
    have agree : ∀ a', (s.accept { call with user } c').2 = .ok a' →
        ∀ t : Session, t.evaluate a' = t.evaluate a := by
      intro a' accepted' t
      obtain ⟨set, selection, asOf⟩ := accept_agree selector rfl day accepted accepted'
      exact evaluate_congr set selection asOf
    constructor
    · intro r screened
      obtain ⟨a', accepted', results⟩ := screen_ok screened
      rw [results, agree a' accepted']
      refine ⟨rfl, fun result member => reportOf_foretells member, ?_⟩
      intro valid result member outcome listed
      obtain ⟨company, selected, rfl⟩ := List.mem_map.mp member
      obtain ⟨rule, ruled, rfl⟩ := List.mem_map.mp listed
      exact decided_of_isValid valid selected ruled
    · intro valid settings p q
      refine screen_results_congr fun a' accepted' => ?_
      rw [agree a' accepted', agree a' accepted']
      exact evaluate_policies_of_isValid valid settings p q

/-- A company of which nothing is known is screened under a set of four rules. -/
theorem validate_foretells_screen_greentech :
    let company := Store.Demo.company "greentech" "GreenTech Corp" "GTC" "Technology"
    let s : Session :=
      { store := (Store.empty.addCompany company).addCriteriaSet Store.Demo.standard }
    let call : Call :=
      ⟨.company (.text "greentech") .null, .text "standard-esg", some Store.Demo.day, .null⟩
    let c : Circumstances :=
      ⟨Store.Demo.day, .startOfDay Store.Demo.day, "c-1", "r-1", .ofRatio false 1 1,
        .ofRatio false 2 1⟩
    ∃ report r, (s.validate call c).2 = .ok report ∧ (s.screen call c).2 = .ok r ∧
      ∀ result ∈ r.results, report.Foretells Store.Demo.standard.rules result := by
  intro company s call c
  have accepted : (s.accept call c).2 = .ok ⟨⟨"standard-esg", Store.Demo.day,
      (Selector.company "greentech" none).describe, none, "c-1", by decide⟩, Store.Demo.standard,
      ⟨[company], none, (Selector.company "greentech" none).describe, []⟩⟩ := by
    rw [accept_outcome, receive_outcome]
    rfl
  obtain ⟨report, validated⟩ : ∃ report, (s.validate call c).2 = .ok report := by
    rw [validate_outcome, accepted]
    exact ⟨_, rfl⟩
  obtain ⟨r, screened⟩ : ∃ r, (s.screen call c).2 = .ok r :=
    ⟨_, screen_of_accepted accepted (by decide +kernel) rfl (by decide +kernel)⟩
  obtain ⟨a, accepted', -, -, foretold⟩ := validate_foretells_screen validated
  obtain rfl := Except.ok.inj (accepted.symm.trans accepted')
  exact ⟨report, r, validated, screened, ((foretold .null c rfl).1 r screened).2.1⟩

end Session

end Screening
