import Screening.Proofs.Completeness
import Screening.Proofs.Latest
import Screening.Proofs.Sorting

/-!
# The report is exact

A report names each company that lacks a required name, once and with all that it lacks, those that
lack most first: `report_exact`. It is enough to show this of the general form of the report
(`ofAvailable`), since the one on a criteria set that requires nothing is of that form, too.
-/

namespace Screening

/-- A comparison in one of the rules is about the parameter. -/
def CriteriaSet.AsksFor (set : CriteriaSet) (name : Text) : Prop :=
  ∃ r ∈ set.rules, ∃ c ∈ r.expression.comparisons, c.parameter = name

/-- The set asks for the name, and it is not available in any letter case. -/
def CriteriaSet.Lacks (set : CriteriaSet) (available : List Text) (name : Text) : Prop :=
  set.AsksFor name ∧ ∀ known ∈ available, Text.fold known ≠ Text.fold name

/-- The list gives the names with a property, each once and in order. -/
structure ListsNames (names : List Text) (P : Text → Prop) : Prop where
  sorted : names.Pairwise (· ≤ ·)
  distinct : names.Nodup
  mem_iff : ∀ name, name ∈ names ↔ P name

theorem ListsNames.sublist {names others : List Text} {P Q : Text → Prop}
    (lists : ListsNames names P) (part : others.Sublist names)
    (mem_iff : ∀ name, name ∈ others ↔ Q name) : ListsNames others Q where
  sorted := lists.sorted.sublist part
  distinct := lists.distinct.sublist part
  mem_iff := mem_iff

theorem CriteriaSet.listsNames_required (set : CriteriaSet) :
    ListsNames set.required set.AsksFor where
  sorted := sortedNames_sorted _
  distinct := nodup_sortedNames _
  mem_iff name := by
    rw [CriteriaSet.mem_required, AsksFor]
    simp only [Expr.mem_required]

namespace Completeness

theorem listsNames_missingNames (set : CriteriaSet) (available : List Text) :
    ListsNames (missingNames set.required available) (set.Lacks available) := by
  refine set.listsNames_required.sublist List.filter_sublist fun name => ?_
  rw [mem_missingNames, set.listsNames_required.mem_iff, CriteriaSet.Lacks]

theorem listsNames_common {α : Type} {names : α → List Text} (items : List α)
    {P : α → Text → Prop} (lists : ∀ a, ListsNames (names a) (P a)) :
    ListsNames (common (items.map names)) fun name => items ≠ [] ∧ ∀ a ∈ items, P a name := by
  have mem_iff : ∀ name, name ∈ common (items.map names) ↔ items ≠ [] ∧ ∀ a ∈ items, P a name := by
    intro name
    simp only [mem_common, ne_eq, List.map_eq_nil_iff, List.forall_mem_map, (lists _).mem_iff]
  cases items with
  | nil => exact ⟨List.Pairwise.nil, List.nodup_nil, mem_iff⟩
  | cons a rest => exact (lists a).sublist (foldl_filter_sublist _ _) mem_iff

/-! ### The order of the issues -/

theorem worse_trans (a b c : CompanyIssue) (ab : decide (b.missing.length ≤ a.missing.length) = true)
    (bc : decide (c.missing.length ≤ b.missing.length) = true) :
    decide (c.missing.length ≤ a.missing.length) = true := by
  rw [decide_eq_true_eq] at ab bc ⊢
  omega

theorem worse_total (a b : CompanyIssue) : (decide (b.missing.length ≤ a.missing.length) ||
    decide (a.missing.length ≤ b.missing.length)) = true := by
  rw [Bool.or_eq_true, decide_eq_true_eq, decide_eq_true_eq]
  omega

theorem worstFirst_sorted (issues : List CompanyIssue) :
    (worstFirst issues).Pairwise fun a b => b.missing.length ≤ a.missing.length := by
  have sorted := List.pairwise_mergeSort worse_trans worse_total issues
  exact sorted.imp of_decide_eq_true

theorem pair_of_worstFirst {a b : CompanyIssue} {issues : List CompanyIssue}
    (sorted : [a, b].Sublist (worstFirst issues)) (tie : a.missing.length = b.missing.length) :
    [a, b].Sublist issues := by
  apply pair_of_mergeSort worse_trans worse_total sorted
  · exact decide_eq_true (by omega)
  · exact decide_eq_true (by omega)

/-- The companies with an issue are some of those in the order in which they were given. -/
theorem ids_sublist (required : List Text) (available : Text → List Text) (companies : List Company) :
    ((companies.filterMap (issue? required available)).map (·.companyId)).Sublist
      (companies.map (·.id)) := by
  induction companies with
  | nil => exact List.Sublist.refl _
  | cons c rest ih =>
    cases found : issue? required available c with
    | none =>
      rw [List.filterMap_cons_none found]
      exact ih.cons _
    | some issue =>
      obtain ⟨-, rfl⟩ := issue?_eq_some found
      rw [List.filterMap_cons_some found]
      exact ih.cons_cons _

/-! ### The report as a whole -/

structure Exact (r : Completeness) (set : CriteriaSet) (companies : List Company)
    (available : Text → List Text) : Prop where
  required : ListsNames r.required set.AsksFor
  total : r.total = companies.length
  incomplete : r.incomplete = r.issues.length
  complete : r.complete + r.incomplete = r.total
  isValid_iff : r.isValid = true ↔ r.issues = []
  /-- The parameters that no company has a value for; none if there are no companies. -/
  missing : ListsNames r.missing fun name =>
    companies ≠ [] ∧ ∀ c ∈ companies, set.Lacks (available c.id) name
  reported_iff : ∀ c ∈ companies,
    (∃ issue ∈ r.issues, issue.companyId = c.id) ↔ ∃ name, set.Lacks (available c.id) name
  once : (r.issues.map (·.companyId)).Nodup
  issue : ∀ issue ∈ r.issues, issue.missing ≠ [] ∧ ∃ c ∈ companies, issue.companyId = c.id ∧
    issue.companyName = c.name ∧ ListsNames issue.missing (set.Lacks (available c.id))
  worst_first : r.issues.Pairwise fun a b => b.missing.length ≤ a.missing.length
  /-- Issues with equally many names stand in the order of their companies. -/
  stable : ∀ a b, [a, b].Sublist r.issues → a.missing.length = b.missing.length →
    [a.companyId, b.companyId].Sublist (companies.map (·.id))

variable {set : CriteriaSet} {companies : List Company} {available : Text → List Text}

theorem reported_iff {c : Company} (asked : c ∈ companies) :
    (∃ issue ∈ (ofAvailable set.required companies available).issues, issue.companyId = c.id) ↔
      ∃ name, set.Lacks (available c.id) name := by
  have lists := listsNames_missingNames set (available c.id)
  constructor
  · rintro ⟨issue, member, same⟩
    obtain ⟨d, _, found⟩ := mem_issues_iff.mp member
    obtain ⟨filled, rfl⟩ := issue?_eq_some found
    obtain ⟨name, listed⟩ := List.exists_mem_of_ne_nil _ filled
    rw [show d.id = c.id from same] at listed
    exact ⟨name, (lists.mem_iff name).mp listed⟩
  · rintro ⟨name, lacking⟩
    have listed := (lists.mem_iff name).mpr lacking
    cases found : issue? set.required available c with
    | none =>
      rw [issue?_eq_none.mp found] at listed
      exact absurd listed List.not_mem_nil
    | some issue =>
      refine ⟨issue, mem_issues_iff.mpr ⟨c, asked, found⟩, ?_⟩
      obtain ⟨-, rfl⟩ := issue?_eq_some found
      rfl

theorem exact_ofAvailable (distinct : (companies.map (·.id)).Nodup) :
    (ofAvailable set.required companies available).Exact set companies available where
  required := set.listsNames_required
  total := rfl
  incomplete := (List.mergeSort_perm _ _).length_eq.symm
  complete := Nat.sub_add_cancel (List.length_filterMap_le _ _)
  isValid_iff := isValid_iff
  missing := listsNames_common companies fun c => listsNames_missingNames set (available c.id)
  reported_iff _ asked := reported_iff asked
  once := by
    have ids := ids_sublist set.required available companies
    exact ((List.mergeSort_perm _ _).map _).nodup_iff.mpr (distinct.sublist ids)
  issue issue member := by
    obtain ⟨c, asked, found⟩ := mem_issues_iff.mp member
    obtain ⟨filled, rfl⟩ := issue?_eq_some found
    exact ⟨filled, c, asked, rfl, rfl, listsNames_missingNames set (available c.id)⟩
  worst_first := worstFirst_sorted _
  stable a b sorted tie := by
    have before := (pair_of_worstFirst sorted tie).map (·.companyId)
    exact before.trans (ids_sublist set.required available companies)

variable {source : ValueSource} {day : Date}

/-- The report on distinct companies is exact as to what is resolved for them, and one that looks at
no values is what would be reported if they were looked at. -/
theorem report_exact (source : ValueSource) (set : CriteriaSet) (day : Date)
    (distinct : (companies.map (·.id)).Nodup) :
    let resolution := resolve source (companies.map (·.id)) day
    (report source companies set day).1.Exact set companies resolution.available ∧
      (report source companies set day).1 =
        ofAvailable set.required companies resolution.available := by
  intro resolution
  have same := report_eq source companies set day
  exact ⟨same ▸ exact_ofAvailable distinct, same⟩

/-- What a company lacks of resolved values is told by its rows that count. -/
theorem lacks_resolve_iff {rows : List ParameterValue} {ids : List Text} {id name : Text}
    (serves : source.Serves rows) (unique : (rows.map ParameterValue.slot).Nodup) (asked : id ∈ ids) :
    set.Lacks ((resolve source ids day).available id) name ↔ set.AsksFor name ∧
      ∀ row ∈ Resolution.scope rows id day, Text.fold row.parameterName ≠ Text.fold name := by
  have latest : Resolution.LatestOf rows id day ((resolve source ids day).of id) :=
    Resolution.latestOf_resolve serves unique asked
  refine and_congr_right fun _ => ?_
  constructor
  · intro apart row counts
    exact apart _ ((latest.mem_names _).mpr ⟨row, counts, rfl⟩)
  · intro apart known available
    obtain ⟨row, counts, rfl⟩ := (latest.mem_names known).mp available
    exact apart row counts

/-- A company without values has an issue, one with values under names in other letters has none. -/
theorem report_exact_climate :
    let companies := [Store.Demo.company "cleanenergy" "CleanEnergy Inc" "CEI" "Utilities",
      Store.Demo.company "greentech" "GreenTech Corp" "GTC" "Technology",
      Store.Demo.company "oilco" "OilCo Industries" "OCI" "Energy"]
    let rows : List ParameterValue := [
      ⟨"greentech", "p-renewable", "Renewable_Energy_Pct", .int 80, Store.Demo.day, none⟩,
      ⟨"cleanenergy", "p-carbon", "carbon_emissions", .int 20, Store.Demo.day, none⟩,
      ⟨"greentech", "p-carbon", "Carbon_Emissions", .int 50, Store.Demo.day, none⟩]
    let source := ValueSource.ofRows rows false
    let r := (report source companies Store.Demo.climate Store.Demo.day).1
    (companies.map (·.id)).Nodup ∧
      r.Exact Store.Demo.climate companies
        (resolve source (companies.map (·.id)) Store.Demo.day).available ∧
      (∃ issue ∈ r.issues, issue.companyId = "oilco") ∧
      ¬∃ issue ∈ r.issues, issue.companyId = "greentech" := by
  intro companies rows source r
  have distinct : (companies.map (·.id)).Nodup := by decide
  have exact := (report_exact source Store.Demo.climate Store.Demo.day distinct).1
  have served := ValueSource.serves_ofRows rows
  refine ⟨distinct, exact, ?_, ?_⟩
  · apply (exact.reported_iff companies[2] (by decide)).mpr
    refine ⟨"carbon_emissions", (lacks_resolve_iff served (by decide) (by decide)).mpr ⟨?_, ?_⟩⟩
    · exact ⟨Store.Demo.climate.rules[0], List.mem_cons_self, _, List.mem_cons_self, rfl⟩
    · decide
  · have covered : ∀ rule ∈ Store.Demo.climate.rules, ∀ c ∈ rule.expression.comparisons,
        ∃ row ∈ Resolution.scope rows "greentech" Store.Demo.day,
          Text.fold row.parameterName = Text.fold c.parameter := by decide
    intro reported
    obtain ⟨name, lacking⟩ := (exact.reported_iff companies[1] (by decide)).mp reported
    obtain ⟨⟨rule, member, c, compared, rfl⟩, apart⟩ :=
      (lacks_resolve_iff served (by decide) (by decide)).mp lacking
    obtain ⟨row, counts, same⟩ := covered rule member c compared
    exact apart row counts same

end Completeness

end Screening
