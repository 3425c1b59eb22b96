import Screening.Proofs.Results
import Screening.Proofs.Schema
import Screening.Proofs.Session.Evaluation
import Screening.Proofs.Session.History

/-!
# Stored results are consistent

A result records by which policy it was computed, and all its fields fit together under that policy.
This holds of what a screening stores, whether or not it gives it, and of whatever is stored in a
session later: `stored_consistent`.
-/

namespace Screening

namespace ScreeningResult

/-- The result records that undecided rules pass. -/
def Lenient (r : ScreeningResult) : Prop :=
  Entries.get? r.metadata "missing_data_policy" = some (.text "fail_open")

structure ConsistentWith (r : ScreeningResult) (set : CriteriaSet) : Prop where
  criteriaSet : r.criteriaSet = set.reference
  summary : r.summary.ConsistentWith r.results
  companies : ∀ company ∈ r.results, company.ConsistentWith set r.Lenient

end ScreeningResult

theorem MissingDataPolicy.name_eq_failOpen {policy : MissingDataPolicy} :
    (policy.name : Text) = "fail_open" ↔ policy = .failOpen := by
  cases policy <;> decide

theorem Store.valuesAsOf_areScalars (s : Store) (companyId : Text) (day : Date) :
    (s.valuesAsOf companyId day).AreScalars := by
  intro name d found
  rw [lookup_valuesAsOf, Option.map_eq_some_iff] at found
  obtain ⟨row, _, rfl⟩ := found
  exact ⟨row.value, rfl⟩

namespace Session

variable {s start : Session} {call : Call} {c : Circumstances} {a : Accepted} {r : ScreeningResult}

/-- The session has the criteria set that is asked for. -/
def Asked (s : Session) (call : Call) (set : CriteriaSet) : Prop :=
  ∃ name, Check.name call.criteriaSet = .ok name ∧ s.store.criteriaSets.get? name.1 = some set

theorem asked_of_accepted (accepted : (s.accept call c).2 = .ok a) : s.Asked call a.set := by
  obtain ⟨_, ⟨named, name⟩, found, _⟩ := accepted_parts accepted
  exact ⟨⟨a.request.criteriaSetId, named⟩, name, found⟩

theorem lenient_assemble (s : Session) (a : Accepted) (c : Circumstances) :
    (s.assemble a c).Lenient ↔ s.settings.evaluation.policy = .failOpen := by
  have recorded : Entries.get? (s.metadata a c) "missing_data_policy" =
      some (.text s.settings.evaluation.policy.name) := by
    unfold metadata
    dsimp only
    split <;> rfl
  rw [← MissingDataPolicy.name_eq_failOpen]
  show Entries.get? (s.metadata a c) "missing_data_policy" = _ ↔ _
  rw [recorded, Option.some.injEq]
  exact ⟨Data.text_inj, congrArg Data.text⟩

theorem assemble_consistent (s : Session) (a : Accepted) (c : Circumstances) :
    (s.assemble a c).ConsistentWith a.set where
  criteriaSet := rfl
  summary := Summary.ofResults_consistent (s.evaluate a)
  companies company member := by
    have evaluated : company ∈ s.evaluate a := member
    rw [evaluate_eq] at evaluated
    obtain ⟨selected, _, rfl⟩ := List.mem_map.mp evaluated
    rw [propext (s.lenient_assemble a c)]
    exact a.set.evaluate_consistent s.settings.evaluation selected.id selected.name
      (s.store.valuesAsOf_areScalars selected.id a.request.asOf)

theorem conduct_consistent (conducted : (s.conduct call c).2 = .ok r) :
    ∃ set, s.Asked call set ∧ r.ConsistentWith set := by
  obtain ⟨a, accepted, _, rfl⟩ := conducted_iff.mp conducted
  -- The id that a result is stored under is not one of the fields that have to fit.
  have consistent := s.assemble_consistent a c
  exact ⟨a.set, asked_of_accepted accepted,
    ⟨consistent.criteriaSet, consistent.summary, consistent.companies⟩⟩

/-- A screening stores a consistent result, and each result that is found in a session later is one
that a screening has stored, of the criteria set that was asked for then. -/
theorem stored_consistent (fresh : start.store.results = .empty) :
    (∀ s call c r, (Session.screen s call c).2 = .ok r →
      ∃ id set, r.id = some id ∧ (s.screen call c).1.store.results.get? id = some r ∧
        s.Asked call set ∧ r.ConsistentWith set) ∧
    ∀ h id r, (start.after h).store.results.get? id = some r →
      ∃ before call c later set, h = before ++ .screen call c :: later ∧
        ((start.after before).conduct call c).2 = .ok r ∧
        (start.after before).Asked call set ∧ r.ConsistentWith set := by
  constructor
  · intro s call c r screened
    obtain ⟨set, asked, consistent⟩ := conduct_consistent (screened_iff.mp screened).1
    obtain ⟨id, named, stored⟩ := screen_stored screened
    exact ⟨id, set, named, stored, asked, consistent⟩
  · intro h id r stored
    rcases stored_origin stored with old | ⟨before, call, c, later, split, conducted⟩
    · rw [fresh] at old
      cases old
    · obtain ⟨set, asked, consistent⟩ := conduct_consistent conducted
      exact ⟨before, call, c, later, set, split, conducted, asked, consistent⟩

/-- Nothing is known of the company, which passes as undecided rules do. -/
theorem stored_consistent_standard :
    let company := Store.Demo.company "greentech" "GreenTech Corp" "GTC" "Technology"
    let settings : Settings := { evaluation := EvaluationSettings.standard.under .failOpen }
    let call : Call :=
      ⟨.company (.text "greentech") .null, .text "standard-esg", some Store.Demo.day, .null⟩
    let c : Circumstances :=
      ⟨Store.Demo.day, .startOfDay Store.Demo.day, "c-1", "r-1", .ofRatio false 1 1,
        .ofRatio false 2 1⟩
    let h : List Action := [.record (.company company), .criteriaSet Store.Demo.standard,
      .settings settings, .screen call c]
    ∃ r, (Session.after {} h).store.results.get? "r-1" = some r ∧ r.Lenient ∧
      r.summary.passed = 1 ∧ ∃ set, r.ConsistentWith set := by
  intro company settings call c h
  let s : Session :=
    { store := (Store.empty.addCompany company).addCriteriaSet Store.Demo.standard
      settings }
  have accepted : (s.accept call c).2 = .ok ⟨⟨"standard-esg", Store.Demo.day,
      (Selector.company "greentech" none).describe, none, "c-1", by decide⟩, Store.Demo.standard,
      ⟨[company], none, (Selector.company "greentech" none).describe, []⟩⟩ := by
    rw [accept_outcome, receive_outcome]
    rfl
  obtain ⟨r, screened, named, lenient, passed⟩ : ∃ r, (s.screen call c).2 = .ok r ∧
      r.id = some "r-1" ∧ r.Lenient ∧ r.summary.passed = 1 :=
    ⟨_, screen_of_accepted accepted (by decide +kernel) rfl (by decide +kernel), rfl, rfl,
      by decide +kernel⟩
  have stored : (Session.after {} h).store.results.get? "r-1" = some r := by
    obtain ⟨id, named', stored⟩ := screen_stored screened
    obtain rfl := Option.some.inj (named.symm.trans named')
    exact stored
  obtain ⟨_, _, _, _, set, _, _, _, consistent⟩ := (stored_consistent rfl).2 h "r-1" r stored
  exact ⟨r, stored, lenient, passed, set, consistent⟩

end Session

end Screening
