import Screening.Rule
import Screening.Schema.Day

/-!
# Results of screening

A screening gives each company a result for each rule, and sums them up. `passRate` is the share of
companies that passed in whole percent, a half rounded up.
-/

namespace Screening

/-- Whether the undesired condition of a rule holds of a company. -/
inductive Verdict where
  | satisfied
  | violated
  /-- The values that are known do not decide. -/
  | indeterminate
  deriving DecidableEq

namespace Verdict

def name : Verdict → String
  | satisfied => "satisfied"
  | violated => "violated"
  | indeterminate => "indeterminate"

def ofName? (s : String) : Option Verdict :=
  [satisfied, violated, indeterminate].find? fun v => v.name == s

end Verdict

structure RuleResult where
  ruleId : Text
  ruleName : Text
  passed : Bool
  severity : Severity
  verdict : Verdict
  failureReason : Option Text
  actual : Option Data
  threshold : Option Text

structure CompanyResult where
  companyId : Text
  companyName : Text
  passed : Bool
  rules : List RuleResult

structure Summary where
  total : Nat
  passed : Nat
  failed : Nat
  passRate : Nat
  passRate_le : passRate ≤ 100
  deriving DecidableEq

/-- How the companies of a screening were selected. -/
structure Subject where
  mode : Text
  portfolioId : Option Text := none
  portfolioName : Option Text := none
  companyIds : List Text := []
  sector : Option Text := none
  region : Option Text := none
  ownerId : Option Text := none
  deriving DecidableEq

structure ScreeningResult where
  id : Option Text
  screenedAt : ZonedTimestamp
  asOf : Date
  subject : Subject
  criteriaSet : CriteriaSetRef
  userId : Option Text
  summary : Summary
  results : List CompanyResult
  metadata : List (Text × Data)

/-- Passed companies in percent of all, a half rounded up; zero when there are none. -/
def passRate (passed total : Int) : Int :=
  if total ≤ 0 then 0 else (passed * 200 + total).fdiv (2 * total)

theorem passRate_le_hundred {passed total : Nat} (h : passed ≤ total) :
    (passRate passed total).toNat ≤ 100 := by
  unfold passRate
  split
  · decide
  · rename_i hpos
    have key : ((passed : Int) * 200 + total).fdiv (2 * total) < 101 := by
      rw [Int.fdiv_eq_ediv_of_nonneg _ (by omega)]
      apply Int.ediv_lt_of_lt_mul (by omega)
      omega
    omega

namespace CompanyResult

def failedRules (r : CompanyResult) : List RuleResult := r.rules.filter (!·.passed)

end CompanyResult

namespace ScreeningResult

/-- The result of the first company of that id. -/
def company? (r : ScreeningResult) (companyId : Text) : Option CompanyResult :=
  r.results.find? (·.companyId == companyId)

def passedCompanyIds (r : ScreeningResult) : List Text :=
  (r.results.filter (·.passed)).map (·.companyId)

end ScreeningResult

namespace Summary

/-- Count results by whether they passed. -/
def ofResults (results : List CompanyResult) : Summary where
  total := results.length
  passed := results.countP (·.passed)
  failed := results.length - results.countP (·.passed)
  passRate := (Screening.passRate (results.countP (·.passed)) results.length).toNat
  passRate_le := passRate_le_hundred List.countP_le_length

end Summary

/-! ### Checks and record forms -/

/-- A whole number of percent. -/
def Check.percent : Check { n : Nat // n ≤ 100 } := fun d =>
  (Check.intBetween 0 100 d).andThen fun n =>
    if h : n.toNat ≤ 100 then .ok ⟨n.toNat, h⟩ else .fail .atMost d

/-- A map under texts, of anything. -/
def Check.entries (d : Data) : Checked (List (Text × Data)) :=
  match d with
  | .map pairs =>
    pairs.foldr (fun p rest =>
      .cons <$> (Check.text (.atom p.1)).map (·, p.2) <*> rest) (.ok [])
  | d => .fail .dictType d

namespace RuleResult

/-- A number or a text, whatever it is written as: a truth value is a number, and bytes are one if
they spell one. -/
def checkLooseScalar : Check Scalar
  | .atom (.scalar (.bool b)) => .ok (.int (if b then 1 else 0))
  | .atom (.scalar s) => .ok s
  | d =>
    (((.int <$> Check.int d).under (.field "int")).orElse
      ((.float <$> Check.float d).under (.field "float"))).orElse
      ((.text <$> Check.text d).under (.field "str"))

/-- A scalar, or a list of numbers and texts. -/
def checkActual : Check Data
  | .atom (.scalar s) => .ok (.scalar s)
  | .list items =>
    match Check.itemsFrom checkLooseScalar 0 items with
    | .ok ss => .ok (.list (ss.map Data.scalar))
    | .faulty fs => .faulty (Check.scalarFaults (.list items) ++
        fs.map fun f => { f with path := .field "list[union[int,float,str]]" :: f.path })
  | d => .faulty (Check.scalarFaults d ++ [⟨[.field "list[union[int,float,str]]"], .listType, d⟩])

def check : Check RuleResult :=
  Check.record fun entries =>
    RuleResult.mk
      <$> Check.required entries "rule_id" Check.text
      <*> Check.required entries "rule_name" Check.text
      <*> Check.required entries "passed" Check.bool
      <*> Check.required entries "severity" (Check.oneOf Severity.ofName?)
      <*> Check.required entries "outcome" (Check.oneOf Verdict.ofName?)
      <*> Check.nullable entries "failure_reason" Check.text
      <*> Check.nullable entries "actual_value" checkActual
      <*> Check.nullable entries "threshold" Check.text

def toData (r : RuleResult) : Data :=
  .object [("rule_id", .text r.ruleId), ("rule_name", .text r.ruleName), ("passed", .bool r.passed),
    ("severity", .text r.severity.name), ("outcome", .text r.verdict.name),
    ("failure_reason", .option .text r.failureReason), ("actual_value", .option id r.actual),
    ("threshold", .option .text r.threshold)]

end RuleResult

namespace CompanyResult

def check : Check CompanyResult :=
  Check.record fun entries =>
    CompanyResult.mk
      <$> Check.required entries "company_id" Check.text
      <*> Check.required entries "company_name" Check.text
      <*> Check.required entries "passed" Check.bool
      <*> Check.optional entries "rule_results" [] (Check.list RuleResult.check)

def toData (r : CompanyResult) : Data :=
  .object [("company_id", .text r.companyId), ("company_name", .text r.companyName),
    ("passed", .bool r.passed), ("rule_results", .list (r.rules.map RuleResult.toData))]

end CompanyResult

namespace Summary

def check : Check Summary :=
  Check.record fun entries =>
    (fun total passed failed rate => ⟨total, passed, failed, rate.1, rate.2⟩)
      <$> Check.required entries "total_subjects" Check.count
      <*> Check.required entries "passed" Check.count
      <*> Check.required entries "failed" Check.count
      <*> Check.required entries "pass_rate" Check.percent

def toData (s : Summary) : Data :=
  .object [("total_subjects", .int s.total), ("passed", .int s.passed), ("failed", .int s.failed),
    ("pass_rate", .int s.passRate)]

end Summary

namespace Subject

def check : Check Subject :=
  Check.record fun entries =>
    Subject.mk
      <$> Check.required entries "mode" Check.text
      <*> Check.nullable entries "portfolio_id" Check.text
      <*> Check.nullable entries "portfolio_name" Check.text
      <*> Check.optional entries "company_ids" [] (Check.list Check.text)
      <*> Check.nullable entries "sector" Check.text
      <*> Check.nullable entries "region" Check.text
      <*> Check.nullable entries "owner_id" Check.text

def toData (s : Subject) : Data :=
  .object [("mode", .text s.mode), ("portfolio_id", .option .text s.portfolioId),
    ("portfolio_name", .option .text s.portfolioName), ("company_ids", .texts s.companyIds),
    ("sector", .option .text s.sector), ("region", .option .text s.region),
    ("owner_id", .option .text s.ownerId)]

end Subject

namespace ScreeningResult

def check : Check ScreeningResult :=
  Check.record fun entries =>
    ScreeningResult.mk
      <$> Check.nullable entries "id" Check.text
      <*> Check.required entries "screened_at" (fun d => .fixed <$> Check.timestamp d)
      <*> Check.required entries "as_of_date" Check.date
      <*> Check.required entries "subject" Subject.check
      <*> Check.required entries "criteria_set" CriteriaSetRef.check
      <*> Check.nullable entries "user_id" Check.text
      <*> Check.required entries "summary" Summary.check
      <*> Check.optional entries "results" [] (Check.list CompanyResult.check)
      <*> Check.optional entries "metadata" [] Check.entries

def toData (r : ScreeningResult) : Data :=
  .object [("id", .option .text r.id), ("screened_at", .text r.screenedAt.iso),
    ("as_of_date", .date r.asOf), ("subject", r.subject.toData),
    ("criteria_set", r.criteriaSet.toData), ("user_id", .option .text r.userId),
    ("summary", r.summary.toData), ("results", .list (r.results.map CompanyResult.toData)),
    ("metadata", .object r.metadata)]

end ScreeningResult

end Screening
