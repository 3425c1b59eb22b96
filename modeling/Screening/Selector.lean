import Screening.Failure
import Screening.Resolution
import Screening.Store

/-!
# Selecting companies

A selector says which companies are screened: the holdings of a portfolio, one company, a list,
those of a sector or a region, or all. `describe` tells how, without looking anything up; `resolve`
looks the companies up in a store. The owner is the client of the portfolio, or whoever asks.
-/

namespace Screening

inductive Selector where
  | portfolio (id : Option Text)
  | company (id : Text) (client : Option Text)
  | companies (ids : List Text) (client : Option Text)
  | sector (value : Option Text) (client : Option Text)
  | region (value : Option Text) (client : Option Text)
  | all (client : Option Text)
  deriving DecidableEq

/-- The companies of a selection and who owns it. -/
structure Selection where
  companies : List Company
  ownerId : Option Text
  subject : Subject
  warnings : List Text
  deriving DecidableEq

def Selection.companyIds (s : Selection) : List Text := s.companies.map (·.id)

namespace Selector

def describe : Selector → Subject
  | .portfolio id => { mode := "portfolio", portfolioId := id }
  | .company id client => { mode := "company", companyIds := [id], ownerId := client }
  | .companies ids client => { mode := "companies", companyIds := ids, ownerId := client }
  | .sector value client => { mode := "sector", sector := value, ownerId := client }
  | .region value client => { mode := "region", region := value, ownerId := client }
  | .all client => { mode := "all", ownerId := client }

/-- The ids that no known company has. -/
def unknown (ids : List Text) (known : List Company) : List Text :=
  ids.filter fun id => !known.any (·.id == id)

/-- Companies under holdings that refer to no known company are left out with a warning. -/
def ofPortfolio (store : Store) (p : Portfolio) : Selection :=
  let ids := distinct p.companyIds
  let companies := store.companiesOf ids
  let dangling := unknown ids companies
  { companies
    ownerId := some p.clientId
    subject := { mode := "portfolio", portfolioId := some p.id, portfolioName := some p.name,
                 companyIds := companies.map (·.id), ownerId := some p.clientId }
    warnings := if companies.length = ids.length then []
      else ["Holdings reference unknown companies: " ++ Text.intercalate ", " dangling] }

/-- The holdings of a portfolio that refer to no known company. -/
def danglingCount (store : Store) (p : Portfolio) : Nat :=
  let ids := distinct p.companyIds
  (unknown ids (store.companiesOf ids)).length

/-- The companies that a filter finds. -/
def ofFilter (s : Selector) (client : Option Text) (companies : List Company) : Selection :=
  { companies
    ownerId := client
    subject := { s.describe with companyIds := companies.map (·.id) }
    warnings := [] }

/-- The failure to find a company under a filter. -/
def notFoundIn (mode : Text) (value : Data) : Failure :=
  .notFound "Company" value (some ("No companies found in " ++ mode ++ ": " ++ value.display))

/-- The failure to find any company. -/
def noneAtAll : Failure :=
  .notFound "Company" (.text "*") (some "No companies available for screening")

def resolve (store : Store) (s : Selector) : Except Failure Selection :=
  match s with
  | .portfolio id =>
    match id.bind store.portfolios.get? with
    | none => .error (.notFound "Portfolio" (.option .text id) none)
    | some p => .ok (ofPortfolio store p)
  | .company id client =>
    match store.companies.get? id with
    | none => .error (.notFound "Company" (.text id) none)
    | some c => .ok ⟨[c], client, s.describe, []⟩
  | .companies ids client =>
    let wanted := distinct ids
    let found := store.companiesOf wanted
    if found.length = wanted.length then .ok ⟨found, client, s.describe, []⟩
    else .error (.notFound "Company" (.text (Text.intercalate ", " (unknown wanted found))) none)
  | .sector value client =>
    match store.findCompanies value none with
    | [] => .error (notFoundIn "sector" (.option .text value))
    | found => .ok (ofFilter s client found)
  | .region value client =>
    match store.findCompanies none value with
    | [] => .error (notFoundIn "region" (.option .text value))
    | found => .ok (ofFilter s client found)
  | .all client =>
    match store.findCompanies none none with
    | [] => .error noneAtAll
    | found => .ok (ofFilter s client found)

/-- The note in the log about holdings without a company. -/
def notice? (store : Store) : Selector → Option Text
  | .portfolio (some id) =>
    (store.portfolios.get? id).bind fun p =>
      let ids := distinct p.companyIds
      if (store.companiesOf ids).length = ids.length then none
      else some ("Portfolio " ++ p.id ++ " has " ++ toString (danglingCount store p) ++
        " holdings without a company")
  | _ => none

end Selector

/-! ### Selectors from data -/

/-- What a caller gives to select companies by. -/
inductive SelectorForm where
  | portfolio (id : Data)
  | company (id client : Data)
  | companies (ids : List Data) (client : Data)
  | sector (value client : Data)
  | region (value client : Data)
  | all (client : Data)

namespace SelectorForm

/-- The faults are those of the description of the selection. -/
def check : SelectorForm → Checked Selector
  | .portfolio id => .portfolio <$> (Check.option Check.text id).under (.field "portfolio_id")
  | .company id client =>
    .company <$> ((Check.text id).under (.index 0)).under (.field "company_ids") <*> owner client
  | .companies ids client =>
    .companies <$> (Check.itemsFrom Check.text 0 ids).under (.field "company_ids") <*> owner client
  | .sector value client =>
    .sector <$> (Check.option Check.text value).under (.field "sector") <*> owner client
  | .region value client =>
    .region <$> (Check.option Check.text value).under (.field "region") <*> owner client
  | .all client => .all <$> owner client
where
  owner (client : Data) : Checked (Option Text) :=
    (Check.option Check.text client).under (.field "owner_id")

/-! ### Looking up what is given -/

/-- Why what is given selects nothing. -/
inductive LookUpError where
  | failure (f : Failure)
  /-- Nothing can be kept under a value of this kind. -/
  | noKey (kind : String)
  /-- Among the ids that no company has, this one is of another kind than a text. -/
  | noText (place : Nat) (kind : String)
  /-- A value of this kind has no letter case to be disregarded. -/
  | noCase (kind : String)
  /-- There are such companies, but the selection has no description. -/
  | faults (fs : List Fault)

def LookUpError.kind : LookUpError → ErrorKind
  | failure f => f.kind
  | noKey _ | noText .. => .type
  | noCase _ => .missingAttribute
  | faults _ => .faulty

def LookUpError.message : LookUpError → Text
  | failure f => f.message
  | noKey kind => "unhashable type: '" ++ kind ++ "'"
  | noText place kind =>
    "sequence item " ++ toString place ++ ": expected str instance, " ++ kind ++ " found"
  | noCase kind => "'" ++ kind ++ "' object has no attribute 'casefold'"
  | faults _ => "no description"

/-- What can be looked up. -/
def key? : Data → Option Atom
  | .atom a => some a
  | _ => none

/-- Why something is not found under a value. -/
def notFound (entity : Text) (value : Data) : LookUpError :=
  if (key? value).isSome then .failure (.notFound entity value none) else .noKey value.kindName

/-- The failure to find companies of these ids. -/
def unknownIds (ids : List Data) : LookUpError :=
  match ids.findIdx? fun d => d.text?.isNone with
  | some i => .noText i (ids.getD i .null).fullKindName
  | none =>
    .failure (.notFound "Company" (.text (Text.intercalate ", " (ids.filterMap Data.text?))) none)

/-- Why a list of ids is not described: some of them may be unknown. -/
def listError (store : Store) (ids : List Data) (fs : List Fault) : LookUpError :=
  match ids.find? fun d => (key? d).isNone with
  | some d => .noKey d.kindName
  | none =>
    let known (d : Data) : Bool := (d.text?.map store.companies.contains).getD false
    match ((ids.filterMap key?).eraseDupsBy Atom.same).map Data.atom |>.filter (!known ·) with
    | [] => .faults fs
    | unknown => unknownIds unknown

/-- Why a filter is not described, given the companies' fields that it is about. -/
def filterError (mode : Text) (value : Data) (fields : List (Option Text)) (fs : List Fault) :
    LookUpError :=
  if value.text?.isSome || value.isNull then
    if fields.any (Store.matchesFilter · value.text?) then .faults fs
    else .failure (Selector.notFoundIn mode value)
  else if fields.any Option.isSome then .noCase value.fullKindName
  else .failure (Selector.notFoundIn mode value)

/-- Why a form with faults selects nothing. Companies are looked up before they are described. -/
def error (store : Store) (form : SelectorForm) (fs : List Fault) : LookUpError :=
  let companies := store.companies.values
  match form with
  | .portfolio id => notFound "Portfolio" id
  | .company id _ =>
    if (id.text?.map store.companies.contains).getD false then .faults fs else notFound "Company" id
  | .companies ids _ => listError store ids fs
  | .sector value _ => filterError "sector" value (companies.map (·.sector)) fs
  | .region value _ => filterError "region" value (companies.map (·.region)) fs
  | .all _ =>
    if companies.isEmpty then .failure Selector.noneAtAll else .faults fs

end SelectorForm

end Screening
