import Screening.Proofs.Policy
import Screening.Session

/-!
# Accepting a call

Acceptance changes no more than the audit trail and the log (`accept_frame`), does not depend on the
evaluation of rules (`accept_evaluating`), and accepts the same selection and criteria set for all
callers (`accept_agree`). `conduct_outcome` and `validate_outcome` say what comes of an accepted call;
`conducted_iff` and `screened_iff` say when a screening stores its result and when it gives it.
-/

namespace Screening

theorem bind_ok {ε α β : Type} {x : Except ε α} {f : α → Except ε β} {b : β}
    (h : x.bind f = .ok b) : ∃ a, x = .ok a ∧ f a = .ok b := by
  cases x with
  | error e => cases h
  | ok a => exact ⟨a, rfl, h⟩

namespace Session

/-- The session with other settings for the evaluation of rules. -/
def evaluating (s : Session) (evaluation : EvaluationSettings) : Session :=
  { s with settings := { s.settings with evaluation } }

/-- Why a result cannot be stored under a new id. -/
def storageFault? (s : Session) (fresh : Text) : Option Text :=
  match s.writeFault with
  | some why => some why
  | none => if s.store.results.contains fresh then some (StoreError.resultExists fresh).message else none

variable {s : Session} {call : Call} {c : Circumstances} {a : Accepted}

/-! ### What acceptance changes -/

theorem receive_frame (s : Session) (call : Call) (c : Circumstances) :
    ∃ recorder log, (s.receive call c).1 = { s with recorder, log } := by
  unfold receive
  dsimp only
  split
  · exact ⟨_, _, rfl⟩
  · split <;> exact ⟨_, _, rfl⟩

theorem lookUp_frame (s : Session) (selector : Selector) (request : Request) :
    ∃ recorder log, (s.lookUp selector request).1 = { s with recorder, log } := by
  unfold lookUp
  split
  · exact ⟨_, _, rfl⟩
  · split
    · exact ⟨_, _, rfl⟩
    · cases selector.notice? s.store <;> dsimp only <;> split <;> exact ⟨_, _, rfl⟩

theorem accept_frame (s : Session) (call : Call) (c : Circumstances) :
    ∃ recorder log, (s.accept call c).1 = { s with recorder, log } := by
  obtain ⟨recorder, log, received⟩ := receive_frame s call c
  unfold accept
  split
  · rename_i s' f h
    rw [h] at received
    exact ⟨recorder, log, received⟩
  · rename_i s' selector request h
    rw [h] at received
    obtain ⟨recorder', log', looked⟩ := lookUp_frame s' selector request
    subst received
    exact ⟨recorder', log', looked⟩

/-! ### What acceptance depends on -/

theorem lookUp_congr {s s' : Session} (store : s'.store = s.store) (selector : Selector)
    (request : Request) : (s'.lookUp selector request).2 = (s.lookUp selector request).2 := by
  unfold lookUp
  rw [store]
  split
  · rfl
  · split
    · rfl
    · dsimp only
      split <;> rfl

theorem receive_outcome (s : Session) (call : Call) (c : Circumstances) :
    (s.receive call c).2 = (call.read s.manual c.today c.correlationId).bind fun p =>
      match s.problems p.2 c.today with
      | [] => .ok p
      | ps => .error (.badRequest (Request.problemText ps) none) := by
  unfold receive
  dsimp only
  cases call.read s.manual c.today c.correlationId with
  | error f => rfl
  | ok p =>
    show (match s.problems p.2 c.today with | [] => _ | ps => _ : Session × _).2 =
      match s.problems p.2 c.today with | [] => _ | ps => _
    split <;> rfl

theorem accept_outcome (s : Session) (call : Call) (c : Circumstances) :
    (s.accept call c).2 = (s.receive call c).2.bind fun p => (s.lookUp p.1 p.2).2 := by
  obtain ⟨recorder, log, received⟩ := receive_frame s call c
  have same : ({ s with recorder, log } : Session).store = s.store := rfl
  unfold accept
  split
  · rename_i s' f h
    rw [h]
    rfl
  · rename_i s' selector request h
    rw [h] at received ⊢
    subst received
    exact lookUp_congr same selector request

/-- Whether a call is accepted does not depend on how rules would be evaluated. -/
theorem accept_evaluating (s : Session) (evaluation : EvaluationSettings) (call : Call)
    (c : Circumstances) : ((s.evaluating evaluation).accept call c).2 = (s.accept call c).2 := by
  have received : ((s.evaluating evaluation).receive call c).2 = (s.receive call c).2 := by
    rw [receive_outcome, receive_outcome]
    rfl
  have same : (s.evaluating evaluation).store = s.store := rfl
  rw [accept_outcome, accept_outcome, received]
  congr 1
  funext p
  exact lookUp_congr same p.1 p.2

theorem fields_ok {today : Date} {correlationId : Text} {subject : Subject} {request : Request}
    (h : call.fields today correlationId subject = .ok request) :
    (∃ named, Check.name call.criteriaSet = .ok ⟨request.criteriaSetId, named⟩) ∧
      request.asOf = call.asOf.getD today ∧ request.subject = subject := by
  unfold Call.fields at h
  cases set : Check.name call.criteriaSet with
  | faulty fs =>
    rw [set] at h
    cases user : (Check.option Check.text call.user).under (.field "user_id") <;>
      · rw [user] at h
        cases h
  | ok set' =>
    rw [set] at h
    cases user : (Check.option Check.text call.user).under (.field "user_id") with
    | faulty fs =>
      rw [user] at h
      cases h
    | ok user' =>
      rw [user] at h
      cases h
      exact ⟨⟨_, rfl⟩, rfl, rfl⟩

theorem read_ok {manual : Text} {today : Date} {correlationId : Text} {p : Selector × Request}
    (h : call.read manual today correlationId = .ok p) :
    call.selector.check = .ok p.1 ∧ call.fields today correlationId p.1.describe = .ok p.2 := by
  unfold Call.read at h
  split at h
  · cases h
  · rename_i selector checked
    split at h
    · cases h
    · rename_i request read
      obtain rfl := Except.ok.inj h
      exact ⟨checked, read⟩

/-- What is received has been read and has no problems. -/
theorem receive_ok {p : Selector × Request} (received : (s.receive call c).2 = .ok p) :
    call.read s.manual c.today c.correlationId = .ok p ∧ s.problems p.2 c.today = [] := by
  rw [receive_outcome] at received
  obtain ⟨q, read, allowed⟩ := bind_ok received
  split at allowed
  · rename_i unproblematic
    obtain rfl := Except.ok.inj allowed
    exact ⟨read, unproblematic⟩
  · cases allowed

theorem lookUp_ok {selector : Selector} {request : Request}
    (h : (s.lookUp selector request).2 = .ok a) :
    a.request = request ∧ s.store.criteriaSets.get? request.criteriaSetId = some a.set ∧
      selector.resolve s.store = .ok a.selection := by
  unfold lookUp at h
  split at h
  · cases h
  · rename_i set found
    split at h
    · cases h
    · rename_i selection resolved
      dsimp only at h
      split at h
      · obtain rfl := Except.ok.inj h
        exact ⟨rfl, found, resolved⟩
      · cases h

/-- What an accepted call has looked up. -/
theorem accepted_parts (accepted : (s.accept call c).2 = .ok a) :
    (∃ selector, call.selector.check = .ok selector ∧
      selector.resolve s.store = .ok a.selection) ∧
    (∃ named, Check.name call.criteriaSet = .ok ⟨a.request.criteriaSetId, named⟩) ∧
    s.store.criteriaSets.get? a.request.criteriaSetId = some a.set ∧
    a.request.asOf = call.asOf.getD c.today := by
  rw [accept_outcome] at accepted
  obtain ⟨p, received, looked⟩ := bind_ok accepted
  obtain ⟨selector, fields⟩ := read_ok (receive_ok received).1
  obtain ⟨same, set, selection⟩ := lookUp_ok looked
  obtain ⟨named, day, _⟩ := fields_ok fields
  rw [← same] at named day set
  exact ⟨⟨_, selector, selection⟩, named, set, day⟩

/-- Calls for one criteria set and day get these from all stores that have the same sets. -/
theorem accepted_set {s s' : Session} {call' : Call} {c' : Circumstances} {a' : Accepted}
    (sets : s'.store.criteriaSets = s.store.criteriaSets)
    (set : call'.criteriaSet = call.criteriaSet)
    (day : call'.asOf.getD c'.today = call.asOf.getD c.today)
    (accepted : (s.accept call c).2 = .ok a) (accepted' : (s'.accept call' c').2 = .ok a') :
    a'.set = a.set ∧ a'.request.asOf = a.request.asOf := by
  obtain ⟨_, ⟨named, name⟩, found, asOf⟩ := accepted_parts accepted
  obtain ⟨_, ⟨named', name'⟩, found', asOf'⟩ := accepted_parts accepted'
  rw [set, name] at name'
  have sameId : a.request.criteriaSetId = a'.request.criteriaSetId :=
    congrArg Subtype.val (Checked.ok.inj name')
  rw [sets, ← sameId, found] at found'
  exact ⟨(Option.some.inj found').symm, by rw [asOf, asOf', day]⟩

/-- All callers who ask for the same on the same day get the same. -/
theorem accept_agree {call' : Call} {c' : Circumstances} {a' : Accepted}
    (selector : call'.selector = call.selector) (set : call'.criteriaSet = call.criteriaSet)
    (day : call'.asOf.getD c'.today = call.asOf.getD c.today)
    (accepted : (s.accept call c).2 = .ok a) (accepted' : (s.accept call' c').2 = .ok a') :
    a'.set = a.set ∧ a'.selection = a.selection ∧ a'.request.asOf = a.request.asOf := by
  obtain ⟨sameSet, sameDay⟩ := accepted_set rfl set day accepted accepted'
  obtain ⟨⟨form, checked, resolved⟩, _⟩ := accepted_parts accepted
  obtain ⟨⟨form', checked', resolved'⟩, _⟩ := accepted_parts accepted'
  rw [selector, checked] at checked'
  obtain rfl := Checked.ok.inj checked'
  rw [resolved] at resolved'
  exact ⟨sameSet, (Except.ok.inj resolved').symm, sameDay⟩

/-! ### What comes of an accepted call -/

theorem validate_outcome (s : Session) (call : Call) (c : Circumstances) :
    (s.validate call c).2 = (s.accept call c).2.map fun a =>
      (Completeness.report s.store.valuesOf a.selection.companies a.set a.request.asOf).1 := by
  obtain ⟨recorder, log, frame⟩ := accept_frame s call c
  unfold validate
  split
  · rename_i s' f h
    rw [h]
    rfl
  · rename_i s' a h
    rw [h] at frame ⊢
    subst frame
    rfl

theorem keep_outcome (s : Session) {r : ScreeningResult} (new : r.id = none) (fresh : Text) :
    (s.keep r fresh).2 =
      match s.storageFault? fresh with
      | some why => .error why
      | none => .ok fresh := by
  unfold keep storageFault? createResult Store.createResult
  rw [new]
  cases s.writeFault with
  | some why => rfl
  | none =>
    by_cases taken : s.store.results.contains fresh = true
    · simp only [taken, if_true]
      rfl
    · simp only [taken]
      rfl

theorem keep_error {r : ScreeningResult} {fresh why : Text} (new : r.id = none)
    (h : (s.keep r fresh).2 = .error why) : s.storageFault? fresh = some why := by
  have outcome := keep_outcome s new fresh
  rw [h] at outcome
  split at outcome
  · rename_i why' fault
    rw [fault, Except.error.inj outcome]
  · cases outcome

theorem keep_ok {r : ScreeningResult} {fresh id : Text} (new : r.id = none)
    (h : (s.keep r fresh).2 = .ok id) : s.storageFault? fresh = none ∧ id = fresh := by
  have outcome := keep_outcome s new fresh
  rw [h] at outcome
  split at outcome
  · cases outcome
  · rename_i none
    exact ⟨none, Except.ok.inj outcome⟩

theorem conclude_outcome (s : Session) (a : Accepted) {r : ScreeningResult} (new : r.id = none)
    (c : Circumstances) :
    (s.conclude a r c).2 = match s.storageFault? c.resultId with
      | some why => .error (.persistence ("Failed to store screening result: " ++ why))
      | none => .ok { r with id := some c.resultId } := by
  unfold conclude
  split
  · rename_i t why failed
    rw [keep_error new (congrArg Prod.snd failed)]
  · rename_i t id kept
    obtain ⟨free, rfl⟩ := keep_ok new (congrArg Prod.snd kept)
    rw [free]

/-- The results of all companies can be written. -/
def WritesAll (s : Session) (a : Accepted) : Prop :=
  a.selection.companies.all (s.writes a) = true

instance (s : Session) (a : Accepted) : Decidable (s.WritesAll a) :=
  inferInstanceAs (Decidable (_ = true))

theorem conduct_outcome (s : Session) (call : Call) (c : Circumstances) :
    (s.conduct call c).2 = (s.accept call c).2.bind fun a =>
      if s.WritesAll a then
        match s.storageFault? c.resultId with
        | some why => .error (.persistence ("Failed to store screening result: " ++ why))
        | none => .ok { s.assemble a c with id := some c.resultId }
      else .error .overlong := by
  obtain ⟨recorder, log, frame⟩ := accept_frame s call c
  unfold conduct
  split
  · rename_i s' f h
    rw [h]
    rfl
  · rename_i s' a h
    rw [h] at frame ⊢
    subst frame
    dsimp only [Except.bind]
    split
    · rename_i written
      rw [if_pos (show s.WritesAll a from written), conclude_outcome _ a (by rfl)]
      rfl
    · rename_i unwritten
      rw [if_neg (show ¬s.WritesAll a from unwritten)]

/-- The result of an accepted call can be written and stored. -/
def Concludes (s : Session) (a : Accepted) (c : Circumstances) : Prop :=
  s.WritesAll a ∧ s.storageFault? c.resultId = none

instance (s : Session) (a : Accepted) (c : Circumstances) : Decidable (s.Concludes a c) :=
  inferInstanceAs (Decidable (_ ∧ _))

theorem conducted_iff {r : ScreeningResult} : (s.conduct call c).2 = .ok r ↔
    ∃ a, (s.accept call c).2 = .ok a ∧ s.Concludes a c ∧
      r = { s.assemble a c with id := some c.resultId } := by
  rw [conduct_outcome]
  constructor
  · intro conducted
    obtain ⟨a, accepted, stored⟩ := bind_ok conducted
    split at stored
    · rename_i written
      split at stored
      · cases stored
      · rename_i free
        exact ⟨a, accepted, ⟨written, free⟩, (Except.ok.inj stored).symm⟩
    · cases stored
  · rintro ⟨a, accepted, ⟨written, free⟩, rfl⟩
    rw [accepted]
    dsimp only [Except.bind]
    rw [if_pos written, free]

theorem screen_session (s : Session) (call : Call) (c : Circumstances) :
    (s.screen call c).1 = (s.conduct call c).1 := rfl

theorem screen_outcome (s : Session) (call : Call) (c : Circumstances) :
    (s.screen call c).2 = (s.conduct call c).2.bind give := rfl

theorem screened_iff {r : ScreeningResult} : (s.screen call c).2 = .ok r ↔
    (s.conduct call c).2 = .ok r ∧ (Scalar.int r.criteriaSet.version).isShort = true := by
  rw [screen_outcome]
  cases (s.conduct call c).2 with
  | error f => exact iff_of_false nofun nofun
  | ok r' =>
    show give r' = .ok r ↔ Except.ok r' = .ok r ∧ _
    unfold give
    split
    · rename_i short
      exact ⟨fun same => ⟨same, Except.ok.inj same ▸ short⟩, And.left⟩
    · rename_i long
      refine iff_of_false nofun ?_
      rintro ⟨⟨⟩, short⟩
      exact long short

/-- An accepted call gives its result if that can be written and stored. -/
theorem screen_of_accepted (accepted : (s.accept call c).2 = .ok a) (written : s.WritesAll a)
    (free : s.storageFault? c.resultId = none)
    (short : (Scalar.int a.set.version).isShort = true) :
    (s.screen call c).2 = .ok { s.assemble a c with id := some c.resultId } :=
  screened_iff.mpr ⟨conducted_iff.mpr ⟨a, accepted, ⟨written, free⟩, rfl⟩, short⟩

/-- What a screening gives is the result of an accepted call, under the id that was free. -/
theorem screened_parts {r : ScreeningResult} (screened : (s.screen call c).2 = .ok r) :
    ∃ a, (s.accept call c).2 = .ok a ∧ r = { s.assemble a c with id := some c.resultId } := by
  obtain ⟨a, accepted, _, result⟩ := conducted_iff.mp (screened_iff.mp screened).1
  exact ⟨a, accepted, result⟩

end Session

end Screening
