import Screening.Company
import Screening.Resolution
import Screening.Rule

/-!
# Completeness of data

Before a screening, `Completeness.report` tells which parameters of a criteria set have no value for
which of the companies. Names are matched without regard to letter case.
-/

namespace Screening

/-- The parameters that a company has no value for. -/
structure CompanyIssue where
  companyId : Text
  companyName : Text
  missing : List Text
  deriving DecidableEq

structure Completeness where
  isValid : Bool
  total : Nat
  complete : Nat
  incomplete : Nat
  required : List Text
  /-- The parameters that no company has a value for. -/
  missing : List Text
  issues : List CompanyIssue
  deriving DecidableEq

namespace Completeness

/-- The required names that match no available one. -/
def missingNames (required available : List Text) : List Text :=
  let folded := available.map Text.fold
  required.filter fun name => !available.contains name && !folded.contains (Text.fold name)

/-- The names in all of the lists. -/
def common : List (List Text) → List Text
  | [] => []
  | first :: rest => rest.foldl (fun names next => names.filter next.contains) first

/-- Most missing parameters first; companies with equally many keep their order. -/
def worstFirst (issues : List CompanyIssue) : List CompanyIssue :=
  issues.mergeSort fun a b => decide (b.missing.length ≤ a.missing.length)

/-- What a company misses, if anything. -/
def issue? (required : List Text) (available : Text → List Text) (c : Company) :
    Option CompanyIssue :=
  match missingNames required (available c.id) with
  | [] => none
  | names => some ⟨c.id, c.name, names⟩

/-- The report on required parameters, given what each company has. -/
def ofAvailable (required : List Text) (companies : List Company)
    (available : Text → List Text) : Completeness :=
  let issues := companies.filterMap (issue? required available)
  { isValid := issues.isEmpty
    total := companies.length
    complete := companies.length - issues.length
    incomplete := issues.length
    required := required
    missing := common (companies.map fun c => missingNames required (available c.id))
    issues := worstFirst issues }

/-- The report when no parameter is required. -/
def ofNone (companies : List Company) : Completeness :=
  ⟨true, companies.length, companies.length, 0, [], [], []⟩

/-- The report, with the companies whose values are later than the day. When no parameter is
required no values are looked at. -/
def report (source : ValueSource) (companies : List Company) (set : CriteriaSet) (asOf : Date) :
    Completeness × List Text :=
  if set.required.isEmpty then (ofNone companies, [])
  else
    let r := resolve source (companies.map (·.id)) asOf
    (ofAvailable set.required companies r.available, r.fallbacks)

/-- The share of companies that nothing is missing for; all, if there are none. -/
def ratio (c : Completeness) : Binary64 :=
  if c.total = 0 then .ofRatio false 1 1 else .ofRatio false c.complete c.total

end Completeness

/-! ### Checks and record forms -/

namespace CompanyIssue

def check : Check CompanyIssue :=
  Check.record fun entries =>
    CompanyIssue.mk
      <$> Check.required entries "company_id" Check.text
      <*> Check.required entries "company_name" Check.text
      <*> Check.optional entries "missing_parameters" [] (Check.list Check.text)

def toData (i : CompanyIssue) : Data :=
  .object [("company_id", .text i.companyId), ("company_name", .text i.companyName),
    ("missing_parameters", .texts i.missing)]

end CompanyIssue

namespace Completeness

def check : Check Completeness :=
  Check.record fun entries =>
    Completeness.mk
      <$> Check.required entries "is_valid" Check.bool
      <*> Check.required entries "total_companies" Check.count
      <*> Check.required entries "companies_with_complete_data" Check.count
      <*> Check.required entries "companies_with_missing_data" Check.count
      <*> Check.optional entries "required_parameters" [] (Check.list Check.text)
      <*> Check.optional entries "missing_parameters" [] (Check.list Check.text)
      <*> Check.optional entries "company_issues" [] (Check.list CompanyIssue.check)

def toData (c : Completeness) : Data :=
  .object [("is_valid", .bool c.isValid), ("total_companies", .int c.total),
    ("companies_with_complete_data", .int c.complete),
    ("companies_with_missing_data", .int c.incomplete),
    ("required_parameters", .texts c.required), ("missing_parameters", .texts c.missing),
    ("company_issues", .list (c.issues.map CompanyIssue.toData))]

end Completeness

end Screening
