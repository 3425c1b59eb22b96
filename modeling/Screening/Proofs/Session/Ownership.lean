import Screening.Proofs.Selection
import Screening.Proofs.Session.History

/-!
# Criteria sets and their owners

A criteria set of one client is never used for another, whatever happens in a session, and it is the
same calls that are refused for a screening and for a validation, whatever values are on record:
`sets_stay_with_owners`.
-/

namespace Screening

/-- The set is for everyone, or belongs to the client whose companies were screened. -/
def ScreeningResult.UsedByOwner (r : ScreeningResult) : Prop :=
  r.criteriaSet.isGlobal = true ∨
    (r.criteriaSet.ownerId ≠ none ∧ r.criteriaSet.ownerId = r.subject.ownerId)

namespace Session

variable {s : Session} {call : Call} {c : Circumstances} {a : Accepted} {r : ScreeningResult}

theorem mayUse_iff {set : CriteriaSet} {selection : Selection} :
    mayUse set selection = true ↔
      set.isGlobal = true ∨ (set.ownerId ≠ none ∧ set.ownerId = selection.ownerId) := by
  unfold mayUse
  rw [Bool.or_eq_true, Bool.and_eq_true, Option.isSome_iff_ne_none, beq_iff_eq]

/-- Only what may be used is accepted. -/
theorem lookUp_mayUse {selector : Selector} {request : Request}
    (accepted : (s.lookUp selector request).2 = .ok a) : mayUse a.set a.selection = true := by
  unfold lookUp at accepted
  split at accepted
  · cases accepted
  · split at accepted
    · cases accepted
    · dsimp only at accepted
      split at accepted
      · rename_i allowed
        obtain rfl := Except.ok.inj accepted
        exact allowed
      · cases accepted

theorem accept_mayUse (accepted : (s.accept call c).2 = .ok a) :
    mayUse a.set a.selection = true := by
  rw [accept_outcome] at accepted
  obtain ⟨p, _, looked⟩ := bind_ok accepted
  exact lookUp_mayUse looked

theorem conduct_usedByOwner (s : Session) (call : Call) (c : Circumstances) (r : ScreeningResult)
    (conducted : (s.conduct call c).2 = .ok r) : r.UsedByOwner := by
  obtain ⟨a, accepted, _, rfl⟩ := conducted_iff.mp conducted
  obtain ⟨⟨selector, _, resolved⟩, _⟩ := accepted_parts accepted
  have owner := Selector.resolve_owner resolved
  -- The owner who was asked about is the one that the result records of its subject.
  have allowed := mayUse_iff.mp (accept_mayUse accepted)
  have subject : (s.assemble a c).subject.ownerId = a.selection.ownerId := owner
  rw [← subject] at allowed
  exact allowed

/-- With other values on record, and at another time of the day, the call is refused with the same
failure or not at all, and these events are all that is told of it if it is refused. -/
structure RefusesAlike (s : Session) (values : Table ValueKey ParameterValue) (call : Call)
    (c c' : Circumstances) (events : List AuditEvent) : Prop where
  screen : refusal? ((s.valued values).screen call c').2 = refusal? (s.screen call c).2
  validate : refusal? ((s.valued values).validate call c').2 = refusal? (s.validate call c).2
  told : ∀ f, refusal? (s.screen call c).2 = some f →
    ((s.valued values).screen call c').1.recorder.events =
      s.recorder.events ++ events.map (fun event => ⟨some c'.correlationId, event⟩) ∧
    ((s.valued values).validate call c').1.recorder.events =
      s.recorder.events ++ events.map (fun event => ⟨some c'.correlationId, event⟩)

theorem refusal_valued (s : Session) (values : Table ValueKey ParameterValue) (call : Call)
    {c c' : Circumstances} (day : c'.today = c.today) :
    refusal? ((s.valued values).accept call c').2 = refusal? (s.accept call c).2 := by
  rw [accept_reissued call.reissued_refl day, refusal?_map]

theorem refusesAlike (s : Session) (values : Table ValueKey ParameterValue) (call : Call)
    {c c' : Circumstances} (day : c'.today = c.today) :
    s.RefusesAlike values call c c' (s.acceptEvents call c) where
  screen := by rw [refusal_screen, refusal_screen, refusal_valued s values call day]
  validate := by rw [refusal_validate, refusal_validate, refusal_valued s values call day]
  told f refused := by
    rw [refusal_screen, ← refusal_valued s values call day] at refused
    obtain ⟨g, failed⟩ : ∃ g, ((s.valued values).accept call c').2 = .error g := by
      cases outcome : ((s.valued values).accept call c').2 with
      | error g => exact ⟨g, rfl⟩
      | ok a =>
        rw [outcome] at refused
        cases refused
    have told := accept_events (s.valued values) call c'
    rw [acceptEvents_valued day] at told
    rw [screen_of_refused failed, validate_of_refused failed]
    exact ⟨told, told⟩

/-- A validation is refused as a screening of any user is. -/
theorem refusal_validate_screen (s : Session) (call : Call) (user : Option Text)
    {c c' : Circumstances} (day : c'.today = c.today) :
    refusal? (s.validate (call.byUser none) c).2 = refusal? (s.screen (call.byUser user) c').2 := by
  -- The session is itself with the values that it has on record.
  have reissued : ((s.valued s.store.values).accept (call.byUser user) c').2 =
      (s.accept (call.byUser none) c).2.map (Accepted.reissue (fun _ => user) c'.correlationId) :=
    accept_reissued (call.reissued_byUser none user) day
  have same : s.valued s.store.values = s := rfl
  rw [same] at reissued
  rw [refusal_validate, refusal_screen, reissued, refusal?_map]

/-- In a session that starts without results the sets of a client are used for the client only;
validations and screenings are refused alike, whatever values are on record. -/
theorem sets_stay_with_owners {start : Session} (fresh : start.store.results = .empty)
    (h : List Action) :
    (∀ id r, (start.after h).store.results.get? id = some r → r.UsedByOwner) ∧
    (∀ (s : Session) (call : Call) (user : Option Text) (c c' : Circumstances),
      c'.today = c.today →
      refusal? (s.validate (call.byUser none) c).2 =
        refusal? (s.screen (call.byUser user) c').2) ∧
    ∀ (s : Session) (call : Call) (c : Circumstances), ∃ events, ∀ values c',
      c'.today = c.today → s.RefusesAlike values call c c' events := by
  refine ⟨?_, ?_, ?_⟩
  · have before : ∀ id r, start.store.results.get? id = some r → r.UsedByOwner := by
      intro id r stored
      rw [fresh] at stored
      cases stored
    exact stored_after conduct_usedByOwner before h
  · intro s call user c c' day
    exact refusal_validate_screen s call user day
  · intro s call c
    exact ⟨s.acceptEvents call c, fun values c' day => refusesAlike s values call day⟩

/-- The set of the demonstration client is used to screen a company of that client. -/
theorem sets_stay_with_owners_climate :
    let company := Store.Demo.company "greentech" "GreenTech Corp" "GTC" "Technology"
    let call : Call := ⟨.company (.text "greentech") (.text "demo-fund"),
      .text "demo-fund-climate", some Store.Demo.day, .null⟩
    let c : Circumstances :=
      ⟨Store.Demo.day, .startOfDay Store.Demo.day, "c-1", "r-1", .ofRatio false 1 1,
        .ofRatio false 2 1⟩
    let h : List Action :=
      [.record (.company company), .criteriaSet Store.Demo.climate, .screen call c]
    ∃ r, (Session.after {} h).store.results.get? "r-1" = some r ∧
      r.criteriaSet.isGlobal = false ∧ r.UsedByOwner := by
  intro company call c h
  let s : Session :=
    { store := (Store.empty.addCompany company).addCriteriaSet Store.Demo.climate }
  have accepted : (s.accept call c).2 = .ok ⟨⟨"demo-fund-climate", Store.Demo.day,
      (Selector.company "greentech" (some "demo-fund")).describe, none, "c-1", by decide⟩,
      Store.Demo.climate, ⟨[company], some "demo-fund",
      (Selector.company "greentech" (some "demo-fund")).describe, []⟩⟩ := by
    rw [accept_outcome, receive_outcome]
    rfl
  obtain ⟨r, screened, named, owned⟩ : ∃ r, (s.screen call c).2 = .ok r ∧ r.id = some "r-1" ∧
      r.criteriaSet.isGlobal = false :=
    ⟨_, screen_of_accepted accepted (by decide +kernel) rfl (by decide +kernel), rfl, rfl⟩
  have stored : (Session.after {} h).store.results.get? "r-1" = some r := by
    obtain ⟨id, named', stored⟩ := screen_stored screened
    obtain rfl := Option.some.inj (named.symm.trans named')
    exact stored
  exact ⟨r, stored, owned, (sets_stay_with_owners rfl h).1 "r-1" r stored⟩

end Session

end Screening
