import Screening.Proofs.Session.Evaluation
import Screening.Proofs.Session.Refusal
import Screening.Proofs.Store.Loading

/-!
# The order in which values are loaded

Screenings and validations go by what is looked up in the values of the companies, so they come to
the same on stores whose values were loaded in another order: `loads_agree`.
-/

namespace Screening.Session

variable {s : Session} {a : Accepted} {values values' : Table ValueKey ParameterValue}

/-- The session goes on with another store. -/
def on (s : Session) (store : Store) : Session := { s with store }

/-- The values on record differ, but nothing that is looked up in them. -/
def LooksAlike (s : Session) (values values' : Table ValueKey ParameterValue) : Prop :=
  ∀ id day, ((s.valued values).store.valuesAsOf id day).SameLookups
    ((s.valued values').store.valuesAsOf id day)

theorem accept_valued (s : Session) (values values' : Table ValueKey ParameterValue) (call : Call)
    (c : Circumstances) : ((s.valued values).accept call c).2 = ((s.valued values').accept call c).2 := by
  rw [accept_reissued call.reissued_refl rfl, accept_reissued call.reissued_refl rfl]

theorem evaluate_valued (alike : s.LooksAlike values values') (a : Accepted) :
    (s.valued values).evaluate a = (s.valued values').evaluate a := by
  rw [evaluate_eq, evaluate_eq]
  refine List.map_congr_left fun company _ => ?_
  exact CriteriaSet.evaluate_of_lookups (alike company.id a.request.asOf) a.set
    s.settings.evaluation company.id company.name

theorem writesAll_valued (alike : s.LooksAlike values values') (a : Accepted) :
    (s.valued values).WritesAll a ↔ (s.valued values').WritesAll a := by
  have each : ∀ company ∈ a.selection.companies,
      (s.valued values).writes a company = (s.valued values').writes a company := by
    intro company member
    have asked : company.id ∈ a.selection.companyIds := List.mem_map_of_mem member
    unfold writes resolution
    rw [Store.resolve_valuesOf _ asked, Store.resolve_valuesOf _ asked]
    exact CriteriaSet.isWritable_of_lookups (alike company.id a.request.asOf) a.set
  unfold WritesAll
  rw [List.all_eq_true, List.all_eq_true]
  exact forall₂_congr fun company member => by rw [each company member]

theorem screen_valued (alike : s.LooksAlike values values') (call : Call) (c : Circumstances) :
    ((s.valued values).screen call c).2.map (fun r => (r.results, r.summary)) =
      ((s.valued values').screen call c).2.map fun r => (r.results, r.summary) := by
  have faults : (s.valued values).storageFault? c.resultId =
      (s.valued values').storageFault? c.resultId := rfl
  rw [screen_outcome, screen_outcome, conduct_outcome, conduct_outcome,
    accept_valued s values values', faults]
  cases ((s.valued values').accept call c).2 with
  | error f => dsimp only [Except.bind]
  | ok a =>
    dsimp only [Except.bind]
    have written := writesAll_valued alike a
    by_cases all : (s.valued values').WritesAll a
    · rw [if_pos (written.mpr all), if_pos all]
      cases (s.valued values').storageFault? c.resultId with
      | some why => rfl
      | none =>
        have given : ∀ s : Session, (s.assemble a c).summary = .ofResults (s.assemble a c).results :=
          fun _ => rfl
        have results : ((s.valued values).assemble a c).results =
            ((s.valued values').assemble a c).results := evaluate_valued alike a
        have version : ((s.valued values).assemble a c).criteriaSet =
            ((s.valued values').assemble a c).criteriaSet := rfl
        dsimp only [give]
        rw [version]
        split
        · dsimp only [Except.map]
          rw [given, given, results]
        · rfl
    · rw [if_neg (all ∘ written.mp), if_neg all]

theorem validate_valued (alike : s.LooksAlike values values') (call : Call) (c : Circumstances) :
    ((s.valued values).validate call c).2 = ((s.valued values').validate call c).2 := by
  rw [validate_outcome, validate_outcome, accept_valued s values values']
  cases ((s.valued values').accept call c).2 with
  | error f => dsimp only [Except.map]
  | ok a =>
    refine congrArg Except.ok (Completeness.report_of_lookups fun company member => ?_)
    have asked : company.id ∈ a.selection.companies.map (·.id) := List.mem_map_of_mem member
    rw [Store.resolve_valuesOf _ asked, Store.resolve_valuesOf _ asked]
    exact alike company.id a.request.asOf

/-- Two loads onto a store that can be reached, which record the same last value for each company,
parameter and day, lead to the same screenings and validations. -/
theorem loads_agree (ops : List Store.Operation) {h h' : List Store.Action}
    (values : ∀ a ∈ h, a.isValue = true) (values' : ∀ a ∈ h', a.isValue = true)
    (agree : ∀ k, ((Store.reached ops).lastFrom h k).map (·.value) =
      ((Store.reached ops).lastFrom h' k).map (·.value))
    (s : Session) (call : Call) (c : Circumstances) :
    ((s.on ((Store.reached ops).afterFrom h)).screen call c).2.map
        (fun r => (r.results, r.summary)) =
      ((s.on ((Store.reached ops).afterFrom h')).screen call c).2.map
        (fun r => (r.results, r.summary)) ∧
    ((s.on ((Store.reached ops).afterFrom h)).validate call c).2 =
      ((s.on ((Store.reached ops).afterFrom h')).validate call c).2 := by
  have sound := Store.sound_reached ops
  have lookups := Store.sameLookups_of_loads sound values values' agree
  obtain ⟨after, _⟩ := Store.afterFrom_values sound values
  obtain ⟨after', _⟩ := Store.afterFrom_values sound values'
  -- The stores differ in their values only, so both sessions are one session with values exchanged.
  have alike : (s.on (Store.reached ops)).LooksAlike ((Store.reached ops).afterFrom h).values
      ((Store.reached ops).afterFrom h').values := by
    rw [after, after'] at lookups ⊢
    exact lookups
  have valued : s.on ((Store.reached ops).afterFrom h) =
      (s.on (Store.reached ops)).valued ((Store.reached ops).afterFrom h).values := by
    rw [after]
    rfl
  have valued' : s.on ((Store.reached ops).afterFrom h') =
      (s.on (Store.reached ops)).valued ((Store.reached ops).afterFrom h').values := by
    rw [after']
    rfl
  rw [valued, valued']
  exact ⟨screen_valued alike call c, validate_valued alike call c⟩

/-- A value that is corrected, and one under a name in other letter case, loaded in two orders. -/
theorem loads_agree_greentech :
    let emissions := Store.Demo.parameter "p-carbon" "carbon_emissions" .number none "Emissions"
    let diversity := Store.Demo.parameter "p-board" "board_diversity_pct" .number none "Diversity"
    let company := Store.Demo.company "greentech" "GreenTech Corp" "GTC" "Technology"
    let ops : List Store.Operation := [.record (.parameter emissions),
      .record (.parameter diversity), .record (.company company), .criteriaSet Store.Demo.standard]
    let value (name : Text) (n : Int) : Store.Action :=
      .value "greentech" name (.int n) Store.Demo.day none
    let h := [value "carbon_emissions" 900, value "board_diversity_pct" 40,
      value "carbon_emissions" 50]
    let h' := [value "Board_Diversity_PCT" 40, value "CARBON_EMISSIONS" 50]
    let call : Call :=
      ⟨.company (.text "greentech") .null, .text "standard-esg", some Store.Demo.day, .null⟩
    let c : Circumstances :=
      ⟨Store.Demo.day, .startOfDay Store.Demo.day, "c-1", "r-1", .ofRatio false 1 1,
        .ofRatio false 2 1⟩
    ∃ r r', ((Session.on {} ((Store.reached ops).afterFrom h)).screen call c).2 = .ok r ∧
      ((Session.on {} ((Store.reached ops).afterFrom h')).screen call c).2 = .ok r' ∧
      r.results = r'.results ∧ r.summary = r'.summary := by
  intro emissions diversity company ops value h h' call c
  have values : ∀ a ∈ h, a.isValue = true := by decide
  have values' : ∀ a ∈ h', a.isValue = true := by decide
  let carbon (n : Int) : ParameterValue :=
    ⟨"greentech", "p-carbon", "carbon_emissions", .int n, Store.Demo.day, none⟩
  let board : ParameterValue :=
    ⟨"greentech", "p-board", "board_diversity_pct", .int 40, Store.Demo.day, none⟩
  have agree : ∀ k, ((Store.reached ops).lastFrom h k).map (·.value) =
      ((Store.reached ops).lastFrom h' k).map (·.value) := by
    intro k
    have rows : ((Store.reached ops).recordedFrom h).reverse = [carbon 50, board, carbon 900] := by
      decide +kernel
    have rows' : ((Store.reached ops).recordedFrom h').reverse = [carbon 50, board] := by
      decide +kernel
    have former : ((carbon 900).key == k) = ((carbon 50).key == k) := rfl
    unfold Store.lastFrom
    rw [rows, rows']
    simp only [List.find?_cons, List.find?_nil, former]
    cases (carbon 50).key == k <;> cases board.key == k <;> rfl
  obtain ⟨screens, _⟩ := loads_agree ops values values' agree {} call c
  have succeeds : ((Session.on {} ((Store.reached ops).afterFrom h)).screen call c).2.isOk = true := by
    decide +kernel
  cases screened : ((Session.on {} ((Store.reached ops).afterFrom h)).screen call c).2 with
  | error f =>
    rw [screened] at succeeds
    cases succeeds
  | ok r =>
    rw [screened] at screens
    cases screened' : ((Session.on {} ((Store.reached ops).afterFrom h')).screen call c).2 with
    | error f =>
      rw [screened'] at screens
      cases screens
    | ok r' =>
      rw [screened'] at screens
      obtain ⟨results, summary⟩ := Prod.mk.inj (Except.ok.inj screens)
      exact ⟨r, r', rfl, rfl, results, summary⟩

end Screening.Session
