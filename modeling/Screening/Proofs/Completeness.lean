import Screening.Completeness
import Screening.Proofs.Expr.Partial

/-!
# What a report says

The names that a report lists for a company are those that the expressions of the criteria set miss
among its values: `missingNames_required`. Matching the names of both and looking each one up come
to the same, since a look-up fails just when no name is the same in any letter case.
-/

namespace Screening

namespace Completeness

/-- What the report says that a company misses: nothing, if it has no issue. -/
def missingOf (report : Completeness) (companyId : Text) : List Text :=
  ((report.issues.find? (·.companyId == companyId)).map (·.missing)).getD []

theorem unmatched_iff {available : List Text} {name : Text} :
    (!available.contains name && !(available.map Text.fold).contains (Text.fold name)) = true ↔
      ∀ known ∈ available, Text.fold known ≠ Text.fold name := by
  simp only [List.contains_eq_mem, List.mem_map, Bool.and_eq_true, Bool.not_eq_true',
    decide_eq_false_iff_not, not_exists, not_and]
  constructor
  · intro apart
    exact apart.2
  · intro apart
    exact ⟨fun known => apart name known rfl, apart⟩

theorem mem_missingNames {required available : List Text} {name : Text} :
    name ∈ missingNames required available ↔
      name ∈ required ∧ ∀ known ∈ available, Text.fold known ≠ Text.fold name := by
  rw [missingNames, List.mem_filter, unmatched_iff]

theorem missingNames_eq (required : List Text) (values : Values) :
    missingNames required (values.map Prod.fst) =
      required.filter fun name => (lookup values name).isNone := by
  refine List.filter_congr fun name _ => Bool.eq_iff_iff.mpr ?_
  rw [unmatched_iff, Option.isNone_iff_eq_none, lookup_eq_none_iff, List.forall_mem_map]

theorem missingNames_required (set : CriteriaSet) (values : Values) :
    missingNames set.required (values.map Prod.fst) =
      sortedNames (set.rules.flatMap fun r => r.expression.missing values) := by
  rw [missingNames_eq, CriteriaSet.required, Referrer.required, filter_sortedNames]
  refine sortedNames_congr fun name => ?_
  simp only [List.mem_filter, List.mem_flatMap, Expr.missing, Referrer.names,
    Referrer.mem_namesAll_rules]
  constructor
  · rintro ⟨⟨r, member, asked⟩, missing⟩
    exact ⟨r, member, asked, missing⟩
  · rintro ⟨r, member, asked, missing⟩
    exact ⟨⟨r, member, asked⟩, missing⟩

/-! ### Names in all of the lists -/

theorem mem_foldl_filter {name : Text} {first : List Text} {rest : List (List Text)} :
    name ∈ rest.foldl (fun names next => names.filter next.contains) first ↔
      name ∈ first ∧ ∀ names ∈ rest, name ∈ names := by
  induction rest generalizing first with
  | nil => simp
  | cons next rest ih => simp [ih, and_assoc]

theorem mem_common {name : Text} {lists : List (List Text)} :
    name ∈ common lists ↔ lists ≠ [] ∧ ∀ names ∈ lists, name ∈ names := by
  cases lists with
  | nil => simp [common]
  | cons first rest => simp [common, mem_foldl_filter]

theorem foldl_filter_sublist (first : List Text) (rest : List (List Text)) :
    (rest.foldl (fun names next => names.filter next.contains) first).Sublist first := by
  induction rest generalizing first with
  | nil => exact List.Sublist.refl _
  | cons next rest ih => exact (ih _).trans List.filter_sublist

/-! ### The issues of a report -/

theorem issue?_eq_none {required : List Text} {available : Text → List Text} {c : Company} :
    issue? required available c = none ↔ missingNames required (available c.id) = [] := by
  unfold issue?
  split <;> simp_all

theorem issue?_eq_some {required : List Text} {available : Text → List Text} {c : Company}
    {issue : CompanyIssue} (found : issue? required available c = some issue) :
    issue.missing ≠ [] ∧ issue = ⟨c.id, c.name, missingNames required (available c.id)⟩ := by
  unfold issue? at found
  split at found
  · cases found
  · rename_i names filled
    obtain rfl := Option.some.inj found
    exact ⟨filled, rfl⟩

variable {source : ValueSource} {companies : List Company} {set : CriteriaSet} {day : Date}

/-- Where no parameter is required the values need not be looked at: the report is the same. -/
theorem report_eq (source : ValueSource) (companies : List Company) (set : CriteriaSet) (day : Date) :
    (report source companies set day).1 = ofAvailable set.required companies
      (resolve source (companies.map (·.id)) day).available := by
  unfold report
  split
  · rename_i empty
    have none : set.required = [] := List.isEmpty_iff.mp empty
    have issues : ∀ available, companies.filterMap (issue? [] available) = [] := by
      intro available
      rw [List.filterMap_eq_nil_iff]
      intro c _
      exact issue?_eq_none.mpr rfl
    have missing : ∀ available : Text → List Text,
        common (companies.map fun c => missingNames [] (available c.id)) = [] := by
      intro available
      rw [List.eq_nil_iff_forall_not_mem]
      intro name listed
      obtain ⟨some, every⟩ := mem_common.mp listed
      obtain ⟨names, present⟩ := List.exists_mem_of_ne_nil _ some
      obtain ⟨c, _, rfl⟩ := List.mem_map.mp present
      exact absurd (every _ present) List.not_mem_nil
    rw [none, ofAvailable, issues, missing, worstFirst, List.mergeSort_nil]
    rfl
  · rfl

theorem mem_issues_iff {required : List Text} {available : Text → List Text} {issue : CompanyIssue} :
    issue ∈ (ofAvailable required companies available).issues ↔
      ∃ c ∈ companies, issue? required available c = some issue :=
  (List.mergeSort_perm _ _).mem_iff.trans List.mem_filterMap

theorem isValid_iff {required : List Text} {available : Text → List Text} :
    (ofAvailable required companies available).isValid = true ↔
      (ofAvailable required companies available).issues = [] := by
  rw [ofAvailable, List.isEmpty_iff]
  constructor
  · intro none
    exact ((List.mergeSort_perm _ _).trans (List.Perm.of_eq none)).eq_nil
  · intro none
    exact ((List.mergeSort_perm _ _).symm.trans (List.Perm.of_eq none)).eq_nil

theorem exists_company {issue : CompanyIssue}
    (member : issue ∈ (report source companies set day).1.issues) :
    ∃ c ∈ companies, c.id = issue.companyId := by
  rw [report_eq] at member
  obtain ⟨c, asked, found⟩ := mem_issues_iff.mp member
  obtain ⟨-, rfl⟩ := issue?_eq_some found
  exact ⟨c, asked, rfl⟩

theorem mem_issues {issue : CompanyIssue}
    (member : issue ∈ (report source companies set day).1.issues) :
    issue.missing = missingNames set.required
      ((resolve source (companies.map (·.id)) day).available issue.companyId) := by
  rw [report_eq] at member
  obtain ⟨c, _, found⟩ := mem_issues_iff.mp member
  obtain ⟨-, rfl⟩ := issue?_eq_some found
  rfl

theorem exists_issue {c : Company} (asked : c ∈ companies)
    (missing : missingNames set.required
      ((resolve source (companies.map (·.id)) day).available c.id) ≠ []) :
    ∃ issue ∈ (report source companies set day).1.issues, issue.companyId = c.id := by
  cases found : issue? set.required (resolve source (companies.map (·.id)) day).available c with
  | none => exact absurd (issue?_eq_none.mp found) missing
  | some issue =>
    refine ⟨issue, ?_, ?_⟩
    · rw [report_eq]
      exact mem_issues_iff.mpr ⟨c, asked, found⟩
    · obtain ⟨-, rfl⟩ := issue?_eq_some found
      rfl

theorem missingOf_report {c : Company} (asked : c ∈ companies) :
    (report source companies set day).1.missingOf c.id = missingNames set.required
      ((resolve source (companies.map (·.id)) day).available c.id) := by
  unfold missingOf
  cases found : (report source companies set day).1.issues.find? (·.companyId == c.id) with
  | some issue =>
    have same : issue.companyId = c.id := by simpa using List.find?_some found
    rw [← same]
    exact mem_issues (List.mem_of_find?_eq_some found)
  | none =>
    by_contra missing
    obtain ⟨issue, member, same⟩ := exists_issue asked (Ne.symm missing)
    exact List.find?_eq_none.mp found issue member (by simpa using same)

theorem issues_eq_nil_of_isValid (valid : (report source companies set day).1.isValid = true) :
    (report source companies set day).1.issues = [] := by
  rw [report_eq] at valid ⊢
  exact isValid_iff.mp valid

/-- A rule that is not decided by the values of a company refers to a name of its issue. -/
theorem exists_issue_of_undecided {c : Company} (asked : c ∈ companies) {r : Rule}
    (member : r ∈ set.rules)
    (undecided : r.expression.assess ((resolve source (companies.map (·.id)) day).of c.id) = none) :
    ∃ issue ∈ (report source companies set day).1.issues, issue.companyId = c.id ∧
      ∃ name ∈ issue.missing, name ∈ r.expression.required := by
  obtain ⟨name, required, missing⟩ := Expr.exists_required_missing undecided
  have listed : name ∈ missingNames set.required
      ((resolve source (companies.map (·.id)) day).available c.id) := by
    rw [Resolution.available, missingNames_eq, List.mem_filter]
    exact ⟨CriteriaSet.mem_required.mpr ⟨r, member, required⟩, by rw [missing]; rfl⟩
  obtain ⟨issue, present, same⟩ := exists_issue asked (List.ne_nil_of_mem listed)
  refine ⟨issue, present, same, name, ?_, required⟩
  rw [mem_issues present, same]
  exact listed

end Completeness

end Screening
