import Screening.Result
import Screening.Settings
import Screening.Text.Blank

/-!
# Requests

A request names a criteria set, a day and a selection of companies. `Request.problems` lists what
the settings do not allow: a day that is too early or in the future, and a selection that its mode
cannot be read from.
-/

namespace Screening

structure Request where
  criteriaSetId : Text
  asOf : Date
  subject : Subject
  userId : Option Text
  correlationId : Text
  criteriaSetId_isName : criteriaSetId.IsName

inductive RequestProblem where
  | inFuture (asOf : Date)
  | tooEarly (asOf earliest : Date)
  | noCompanies
  | repeatedCompanies
  | tooManyCompanies (count most : Nat)
  | blank (mode : Text)
  | unidentified (mode : Text)
  deriving DecidableEq

def RequestProblem.message : RequestProblem → Text
  | inFuture asOf => "As-of date " ++ asOf.iso ++ " is in the future"
  | tooEarly asOf earliest =>
    "As-of date " ++ asOf.iso ++ " is before minimum " ++ earliest.iso
  | noCompanies => "company_ids must not be empty"
  | repeatedCompanies => "company_ids contains duplicates"
  | tooManyCompanies count most => s!"company_ids has {count} entries, maximum is {most}"
  | blank mode => mode ++ " must not be blank"
  | unidentified mode => mode ++ " selection has no identifier"

namespace RequestSettings

/-- What is wrong with the day of a request. -/
def dateProblem? (s : RequestSettings) (today asOf : Date) : Option RequestProblem :=
  if !s.allowFuture ∧ today < asOf then some (.inFuture asOf)
  else if asOf < s.earliest then some (.tooEarly asOf s.earliest)
  else none

/-- What is wrong with an explicit list of companies. -/
def listProblems (s : RequestSettings) (ids : List Text) : List RequestProblem :=
  (if ids.isEmpty then [.noCompanies]
    else if ids.Nodup then [] else [.repeatedCompanies]) ++
  (match s.maxCompanies with
    | some most => if most < ids.length then [.tooManyCompanies ids.length most] else []
    | none => [])

def isBlankFilter (filter : Option Text) : Bool :=
  (filter.getD "").points.all (·.isChar Text.isBlank)

/-- What is wrong with a selection, by its mode. -/
def subjectProblems (s : RequestSettings) (subject : Subject) : List RequestProblem :=
  match subject.mode.string? with
  | some "companies" => s.listProblems subject.companyIds
  | some "sector" => if isBlankFilter subject.sector then [.blank "sector"] else []
  | some "region" => if isBlankFilter subject.region then [.blank "region"] else []
  | some "portfolio" | some "company" =>
    if subject.portfolioId.getD "" = "" ∧ subject.companyIds = [] then
      [.unidentified subject.mode]
    else []
  | _ => []

end RequestSettings

namespace Request

/-- What the settings do not allow, the day first. -/
def problems (r : Request) (s : RequestSettings) (today : Date) : List RequestProblem :=
  if s.enabled then
    (s.dateProblem? today r.asOf).toList ++ s.subjectProblems r.subject
  else []

def problemText (ps : List RequestProblem) : Text :=
  Text.intercalate "; " (ps.map RequestProblem.message)

def check : Check Request :=
  Check.record fun entries =>
    (fun ⟨set, named⟩ asOf subject user correlation =>
      ⟨set, asOf, subject, user, correlation, named⟩)
      <$> Check.required entries "criteria_set_id" Check.name
      <*> Check.required entries "as_of_date" Check.date
      <*> Check.required entries "subject" Subject.check
      <*> Check.nullable entries "user_id" Check.text
      <*> Check.required entries "correlation_id" Check.text

def toData (r : Request) : Data :=
  .object [("criteria_set_id", .text r.criteriaSetId), ("as_of_date", .date r.asOf),
    ("subject", r.subject.toData), ("user_id", .option .text r.userId),
    ("correlation_id", .text r.correlationId)]

end Request

end Screening
