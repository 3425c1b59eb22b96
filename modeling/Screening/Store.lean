import Screening.Company
import Screening.ErrorKind
import Screening.Parameter
import Screening.Result
import Screening.Text.Fold

/-!
# The store

A store holds parameters, companies, portfolios, criteria sets, dated values and results.
Parameters are found by name without regard to letter case, so no two of them may share a name. A
value must fit the type of its parameter, and a later one for the same day takes its place. A
result is stored once. What may be refused gives the store as it then is, together with the outcome.
-/

namespace Screening

/-- The place of a dated value: company, parameter, day. -/
abbrev ValueKey := Text × Text × Date

structure Store where
  parameters : Table Text Parameter
  /-- The parameters' ids by their folded names. -/
  nameIndex : Table Text Text
  values : Table ValueKey ParameterValue
  companies : Table Text Company
  portfolios : Table Text Portfolio
  criteriaSets : Table Text CriteriaSet
  results : Table Text ScreeningResult

inductive StoreError where
  | nameTaken (name : Text)
  | typeFixed (name : Text)
  | unknownParameter (name : Text)
  | unknownCompany (id : Text)
  | unfit (value : Data) (parameter : Parameter)
  | resultExists (id : Text)
  /-- Points in time with and without a known offset cannot be put in one order. -/
  | unordered

def StoreError.kind : StoreError → ErrorKind
  | nameTaken _ | typeFixed _ | resultExists _ => .value
  | unknownParameter _ | unknownCompany _ => .key
  | unfit .. | unordered => .type

/-- The message of an error; that of a failed look-up is quoted. -/
def StoreError.message : StoreError → Text
  | nameTaken name => "Parameter name already exists: " ++ name
  | typeFixed name => "Data type of parameter " ++ name ++ " cannot change"
  | unknownParameter name => Text.quote ("Unknown parameter: " ++ name)
  | unknownCompany id => Text.quote ("Unknown company: " ++ id)
  | unfit value p =>
    "Value " ++ value.literal ++ " does not match " ++ p.dataType.name ++ " parameter " ++ p.name
  | resultExists id => "Screening result already exists: " ++ id
  | unordered => "can't compare offset-naive and offset-aware datetimes"

namespace Store

def empty : Store :=
  ⟨.empty, .empty, .empty, .empty, .empty, .empty, .empty⟩

/-! ### Reference data -/

/-- Register a parameter or register it anew, perhaps under another name but with the same type. -/
def addParameter (s : Store) (p : Parameter) : Store × Except StoreError Unit :=
  let key := Text.fold p.name
  let taken := match s.nameIndex.get? key with
    | some id => id != p.id
    | none => false
  if taken then (s, .error (.nameTaken p.name))
  else match s.parameters.get? p.id with
    | none =>
      ({ s with
        parameters := s.parameters.insert p.id p
        nameIndex := s.nameIndex.insert key p.id }, .ok ())
    | some current =>
      if current.dataType ≠ p.dataType then (s, .error (.typeFixed current.name))
      else
        let former := Text.fold current.name
        let pruned := if former = key then s.nameIndex else s.nameIndex.erase former
        ({ s with
          parameters := s.parameters.insert p.id p
          nameIndex := pruned.insert key p.id }, .ok ())

/-- The parameter of that name, in any letter case. An empty id is not followed. -/
def parameter? (s : Store) (name : Text) : Option Parameter :=
  match s.nameIndex.get? (Text.fold name) with
  | some id => if id = "" then none else s.parameters.get? id
  | none => none

def addCompany (s : Store) (c : Company) : Store :=
  { s with companies := s.companies.insert c.id c }

def addPortfolio (s : Store) (p : Portfolio) : Store :=
  { s with portfolios := s.portfolios.insert p.id p }

def addCriteriaSet (s : Store) (c : CriteriaSet) : Store :=
  { s with criteriaSets := s.criteriaSets.insert c.id c }

/-- The scalar that a value is, if it fits the parameter. -/
def fitting? (p : Parameter) (value : Data) : Option Scalar :=
  match value with
  | .atom (.scalar v) => if p.accepts value then some v else none
  | _ => none

/-- Record a dated value. -/
def addValue (s : Store) (companyId parameterName : Text) (value : Data) (effective : Date)
    (source : Option Text) : Store × Except StoreError ParameterValue :=
  match s.parameter? parameterName with
  | none => (s, .error (.unknownParameter parameterName))
  | some p =>
    if !s.companies.contains companyId then (s, .error (.unknownCompany companyId))
    else match fitting? p value with
      | none => (s, .error (.unfit value p))
      | some v =>
        let row : ParameterValue := ⟨companyId, p.id, p.name, v, effective, source⟩
        ({ s with values := s.values.insert (companyId, p.id, effective) row }, .ok row)

/-! ### Look-ups -/

/-- The values of some companies, latest first; up to a day if one is given. -/
def valuesOf (s : Store) (ids : List Text) (until? : Option Date) : List ParameterValue :=
  let rows := s.values.values.filter fun v =>
    ids.contains v.companyId && (match until? with
      | none => true
      | some d => decide (v.effective ≤ d))
  rows.mergeSort fun a b => decide (b.effective ≤ a.effective)

/-- The known companies among some ids. -/
def companiesOf (s : Store) (ids : List Text) : List Company :=
  ids.filterMap s.companies.get?

/-- A field matches a filter when there is none, or when they differ in letter case at most. -/
def matchesFilter (actual wanted : Option Text) : Bool :=
  match wanted with
  | none => true
  | some w => match actual with
    | none => false
    | some a => Text.sameFold a w

def findCompanies (s : Store) (sector region : Option Text) : List Company :=
  s.companies.values.filter fun c => matchesFilter c.sector sector && matchesFilter c.region region

/-! ### Results -/

/-- Store a result under its own id, or if that is missing or empty under a fresh one. -/
def createResult (s : Store) (r : ScreeningResult) (fresh : Text) :
    Store × Except StoreError Text :=
  let id := match r.id with
    | none | some "" => fresh
    | some id => id
  if s.results.contains id then (s, .error (.resultExists id))
  else ({ s with results := s.results.insert id { r with id := some id } }, .ok id)

/-- What results are listed by. -/
structure ResultFilter where
  portfolioId : Option Text := none
  criteriaSetId : Option Text := none
  userId : Option Text := none

def ResultFilter.selects (f : ResultFilter) (r : ScreeningResult) : Bool :=
  (f.portfolioId.isNone || r.subject.portfolioId == f.portfolioId) &&
    (f.criteriaSetId.isNone || some r.criteriaSet.id == f.criteriaSetId) &&
    (f.userId.isNone || r.userId == f.userId)

/-- Newest first, and of those screened at the same time the one that was stored later. Times of
different zones need not be in one order; then it is at least so for neighbours. -/
def newestFirst (rs : List ScreeningResult) : List ScreeningResult :=
  rs.reverse.mergeSort fun a b => !a.screenedAt.before b.screenedAt

def listResults (s : Store) (f : ResultFilter) : Except StoreError (List ScreeningResult) :=
  let selected := s.results.values.filter f.selects
  if selected.any (·.screenedAt.isAware) && selected.any (!·.screenedAt.isAware) then
    .error .unordered
  else .ok (newestFirst selected)

/-- Delete a result, and tell whether there was one. -/
def deleteResult (s : Store) (id : Text) : Store × Bool :=
  if s.results.contains id then ({ s with results := s.results.erase id }, true) else (s, false)

end Store

end Screening
