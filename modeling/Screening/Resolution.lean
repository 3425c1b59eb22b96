import Screening.Expr.Eval
import Screening.Parameter

/-!
# Values as of a day

`resolve` gives each company one value per parameter: the latest that was known on a given day. A
company of which nothing was known by that day gets its latest values instead. The rows come from a
source that is asked for companies and for a last day, in whatever order it has them.
-/

namespace Screening

/-- A source of dated values: those of some companies, up to a day if one is given. -/
abbrev ValueSource := List Text → Option Date → List ParameterValue

/-- The source of these rows. One that leaks also gives those of companies not asked for. -/
def ValueSource.ofRows (rows : List ParameterValue) (leaks : Bool) : ValueSource :=
  fun ids until? => rows.filter fun row =>
    (leaks || ids.contains row.companyId) && (match until? with
      | some day => decide (row.effective ≤ day)
      | none => true)

structure Resolution where
  /-- The values of each company, in the order in which the companies were asked for. -/
  values : List (Text × Values)
  /-- The companies whose values are later than the day. -/
  fallbacks : List Text
  /-- What the source was asked for. -/
  queries : List (List Text × Option Date)

namespace Resolution

/-- Latest first; rows of one day keep their order. -/
def latestFirst (rows : List ParameterValue) : List ParameterValue :=
  rows.mergeSort fun a b => decide (b.effective ≤ a.effective)

/-- Enter a value unless the parameter has one, or the company was not asked for. -/
def enter (resolved : List (Text × Values)) (row : ParameterValue) : List (Text × Values) :=
  match Entries.get? resolved row.companyId with
  | none => resolved
  | some values =>
    match Entries.get? values row.parameterName with
    | some _ => resolved
    | none => Entries.put resolved row.companyId
        (Entries.put values row.parameterName (.scalar row.value))

/-- Enter the latest rows first. -/
def enterAll (resolved : List (Text × Values)) (rows : List ParameterValue) :
    List (Text × Values) :=
  (latestFirst rows).foldl enter resolved

/-- The companies that none of the rows belongs to. -/
def without (ids : List Text) (rows : List ParameterValue) : List Text :=
  ids.filter fun id => !rows.any (·.companyId == id)

/-- The effective values of a company. -/
def of (r : Resolution) (companyId : Text) : Values :=
  (Entries.get? r.values companyId).getD []

/-- The parameters that a company has a value for. -/
def available (r : Resolution) (companyId : Text) : List Text :=
  (r.of companyId).map Prod.fst

end Resolution

/-- The distinct ids in the order in which they come first. -/
def distinct (ids : List Text) : List Text := ids.eraseDups

def resolve (source : ValueSource) (companyIds : List Text) (asOf : Date) : Resolution :=
  let ids := distinct companyIds
  let blank : List (Text × Values) := ids.map fun id => (id, [])
  if ids.isEmpty then ⟨[], [], []⟩
  else
    let dated := source ids (some asOf)
    let resolved := Resolution.enterAll blank dated
    let rest := Resolution.without ids dated
    if rest.isEmpty then ⟨resolved, [], [(ids, some asOf)]⟩
    else ⟨Resolution.enterAll resolved (source rest none), rest, [(ids, some asOf), (rest, none)]⟩

end Screening
