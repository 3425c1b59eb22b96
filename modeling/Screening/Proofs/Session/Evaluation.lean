import Screening.Proofs.Store.AsOf
import Screening.Proofs.Workers

/-!
# Evaluating an accepted call

The values of all companies of a call are resolved together, and each company is evaluated with its
own. With several workers the companies are shared out among them, which makes no difference:
`evaluates_iff`. Nor does it that values are resolved together: `evaluate_eq`.
-/

namespace Screening.Session

variable {s : Session} {a : Accepted} {results : List CompanyResult}

/-- What a worker does with a company. -/
def evaluateOne (s : Session) (a : Accepted) (company : Company) : CompanyResult :=
  a.set.evaluate s.settings.evaluation company.id company.name ((s.resolution a).of company.id)

/-- An evaluation of the companies can give these results. Several companies are shared out if there
are several workers. -/
def Evaluates (s : Session) (a : Accepted) (results : List CompanyResult) : Prop :=
  if 1 < s.settings.workers.maxWorkers ∧ 1 < a.selection.companies.length then
    ∃ p, Pool.Run (s.evaluateOne a) s.settings.workers.maxWorkers (.submit a.selection.companies) p ∧
      p.Finished ∧ p.Collects results
  else results = a.selection.companies.map (s.evaluateOne a)

theorem evaluates_iff : s.Evaluates a results ↔ results = s.evaluate a := by
  unfold Evaluates
  split
  · rename_i several
    exact Pool.collects_iff (Nat.lt_of_succ_lt several.1)
  · exact Iff.rfl

/-- The result of a company, from what the store knows of it. -/
def recordOf (s : Session) (a : Accepted) (company : Company) : CompanyResult :=
  a.set.evaluate s.settings.evaluation company.id company.name
    (s.store.valuesAsOf company.id a.request.asOf)

theorem evaluate_eq (s : Session) (a : Accepted) :
    s.evaluate a = a.selection.companies.map (s.recordOf a) := by
  unfold evaluate
  refine List.map_congr_left fun company member => ?_
  have asked : company.id ∈ a.selection.companyIds := List.mem_map_of_mem member
  rw [resolution, s.store.resolve_valuesOf asked, recordOf]

end Screening.Session
