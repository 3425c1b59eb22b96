import Screening.Proofs.Acceptance
import Screening.Proofs.Latest

/-!
# Refused calls

A call is refused for what it asks and for what is on record of companies, portfolios and criteria
sets. The recorded values do not matter (`accept_reissued`), nor does whether the call is to screen
or to validate (`refusal_screen`, `refusal_validate`). What is told of a call before it is refused
depends on no value either: `accept_events`.
-/

namespace Screening

/-- The request is malformed, refers to what does not exist, or is not allowed. -/
def Failure.isRefusal : Failure → Bool
  | .badRequest .. | .notFound .. | .forbidden _ => true
  | _ => false

/-- The failure of a call that was refused. -/
def refusal? {α : Type} : Except Failure α → Option Failure
  | .error f => if f.isRefusal then some f else none
  | .ok _ => none

theorem refusal?_map {α β : Type} (f : α → β) (outcome : Except Failure α) :
    refusal? (outcome.map f) = refusal? outcome := by
  cases outcome <;> rfl

theorem Selector.resolve_refusal {selector : Selector} {store : Store} {f : Failure}
    (failed : selector.resolve store = .error f) : f.isRefusal = true := by
  cases selector <;> simp only [resolve] at failed <;> split at failed <;> cases failed <;> rfl

namespace Call

variable {call call' : Call} {rename : Option Text → Option Text}

/-- The call of a user who is known by a text, or of nobody. -/
def byUser (call : Call) (user : Option Text) : Call := { call with user := .option .text user }

/-- The names in a call: that of the criteria set and that of the user. -/
def names (call : Call) : Checked ({ t : Text // t.IsName } × Option Text) :=
  (·, ·) <$> (Check.name call.criteriaSet).under (.field "criteria_set_id")
    <*> (Check.option Check.text call.user).under (.field "user_id")

/-- The same is asked for, by a user of another name. -/
structure Reissued (call call' : Call) (rename : Option Text → Option Text) : Prop where
  selector : call'.selector = call.selector
  asOf : call'.asOf = call.asOf
  names : call'.names = call.names.map fun p => (p.1, rename p.2)

theorem reissued_refl (call : Call) : call.Reissued call id := by
  refine ⟨rfl, rfl, ?_⟩
  cases call.names <;> rfl

theorem reissued_byUser (call : Call) (user user' : Option Text) :
    (call.byUser user).Reissued (call.byUser user') fun _ => user' := by
  have known : ∀ user, (Check.option Check.text (.option .text user)).under (.field "user_id") =
      .ok user := by
    intro user
    cases user <;> rfl
  refine ⟨rfl, rfl, ?_⟩
  unfold names byUser
  simp only [known]
  cases (Check.name call.criteriaSet).under (.field "criteria_set_id") <;> rfl

theorem fields_eq (call : Call) (today : Date) (correlationId : Text) (subject : Subject) :
    call.fields today correlationId subject = call.names.map fun p =>
      ⟨p.1.1, call.asOf.getD today, subject, p.2, correlationId, p.1.2⟩ := by
  unfold fields names
  cases (Check.name call.criteriaSet).under (.field "criteria_set_id") <;>
    cases (Check.option Check.text call.user).under (.field "user_id") <;> rfl

/-- The request of a call that is issued anew. -/
def reissue (rename : Option Text → Option Text) (correlationId : Text) (request : Request) :
    Request :=
  { request with userId := rename request.userId, correlationId }

theorem read_reissued (again : call.Reissued call' rename) (manual : Text) (today : Date)
    (id id' : Text) :
    call'.read manual today id' = (call.read manual today id).map fun p =>
      (p.1, reissue rename id' p.2) := by
  unfold read
  rw [again.selector]
  split
  · rfl
  · rename_i selector _
    rw [fields_eq, fields_eq, again.names, again.asOf]
    cases call.names <;> rfl

end Call

def Accepted.reissue (rename : Option Text → Option Text) (correlationId : Text) (a : Accepted) :
    Accepted :=
  { a with request := Call.reissue rename correlationId a.request }

namespace Session

variable {s : Session} {call call' : Call} {c c' : Circumstances}
  {rename : Option Text → Option Text} {values : Table ValueKey ParameterValue} {f : Failure}

/-- The session with other values on record. -/
def valued (s : Session) (values : Table ValueKey ParameterValue) : Session :=
  { s with store := { s.store with values } }

/-! ### Refusals -/

theorem resolve_valued (s : Session) (values : Table ValueKey ParameterValue) (selector : Selector) :
    selector.resolve (s.valued values).store = selector.resolve s.store := by
  cases selector <;> rfl

theorem lookUp_refusal {selector : Selector} {request : Request}
    (failed : (s.lookUp selector request).2 = .error f) : f.isRefusal = true := by
  unfold lookUp at failed
  split at failed
  · cases failed
    rfl
  · split at failed
    · rename_i unresolved
      obtain rfl := Except.error.inj failed
      exact Selector.resolve_refusal unresolved
    · dsimp only at failed
      split at failed
      · cases failed
      · cases failed
        rfl

theorem receive_refusal (failed : (s.receive call c).2 = .error f) : f.isRefusal = true := by
  rw [receive_outcome] at failed
  cases read : call.read s.manual c.today c.correlationId with
  | error g =>
    rw [read] at failed
    obtain rfl := Except.error.inj failed
    unfold Call.read at read
    split at read
    · cases read
      rfl
    · split at read <;> cases read
      rfl
  | ok p =>
    rw [read] at failed
    dsimp only [Except.bind] at failed
    split at failed <;> cases failed
    rfl

/-- A call that is not accepted is refused. -/
theorem accept_refusal (failed : (s.accept call c).2 = .error f) : f.isRefusal = true := by
  rw [accept_outcome] at failed
  cases received : (s.receive call c).2 with
  | error g =>
    rw [received] at failed
    obtain rfl := Except.error.inj failed
    exact receive_refusal received
  | ok p =>
    rw [received] at failed
    exact lookUp_refusal failed

theorem refusal_validate (s : Session) (call : Call) (c : Circumstances) :
    refusal? (s.validate call c).2 = refusal? (s.accept call c).2 := by
  rw [validate_outcome, refusal?_map]

theorem refusal_screen (s : Session) (call : Call) (c : Circumstances) :
    refusal? (s.screen call c).2 = refusal? (s.accept call c).2 := by
  have given : ∀ outcome, refusal? (outcome.bind give) = refusal? outcome := by
    intro outcome
    cases outcome with
    | error f => rfl
    | ok r =>
      show refusal? (give r) = none
      unfold give
      split <;> rfl
  rw [screen_outcome, given, conduct_outcome]
  cases (s.accept call c).2 with
  | error f => rfl
  | ok a =>
    dsimp only [Except.bind]
    split
    · split <;> rfl
    · rfl

/-! ### What a refusal depends on -/

theorem receive_reissued (again : call.Reissued call' rename) (day : c'.today = c.today) :
    ((s.valued values).receive call' c').2 = (s.receive call c).2.map fun p =>
      (p.1, Call.reissue rename c'.correlationId p.2) := by
  have manual : (s.valued values).manual = s.manual := rfl
  rw [receive_outcome, receive_outcome, day, manual,
    Call.read_reissued again s.manual c.today c.correlationId c'.correlationId]
  cases call.read s.manual c.today c.correlationId with
  | error f => rfl
  | ok p =>
    -- The rules for requests look at the day and the selection only.
    have same : (s.valued values).problems (Call.reissue rename c'.correlationId p.2) c.today =
        s.problems p.2 c.today := rfl
    dsimp only [Except.map, Except.bind]
    rw [same]
    split <;> rfl

theorem lookUp_reissued (selector : Selector) (request : Request) (id : Text) :
    ((s.valued values).lookUp selector (Call.reissue rename id request)).2 =
      (s.lookUp selector request).2.map (Accepted.reissue rename id) := by
  have sets : (s.valued values).store.criteriaSets = s.store.criteriaSets := rfl
  have asked : (Call.reissue rename id request).criteriaSetId = request.criteriaSetId := rfl
  unfold lookUp
  rw [sets, asked, resolve_valued]
  split
  · rfl
  · split
    · rfl
    · dsimp only
      split <;> rfl

/-- Whether a call is accepted depends neither on the values on record nor on who asks. -/
theorem accept_reissued (again : call.Reissued call' rename) (day : c'.today = c.today) :
    ((s.valued values).accept call' c').2 =
      (s.accept call c).2.map (Accepted.reissue rename c'.correlationId) := by
  rw [accept_outcome, accept_outcome, receive_reissued again day]
  cases (s.receive call c).2 with
  | error f => rfl
  | ok p => exact lookUp_reissued p.1 p.2 c'.correlationId

/-! ### What is told before a refusal -/

/-- What is told while the criteria set and the companies are looked up. -/
def lookUpEvents (s : Session) (selector : Selector) (criteriaSetId : Text) : List AuditEvent :=
  match s.store.criteriaSets.get? criteriaSetId, selector.resolve s.store with
  | some set, .ok selection =>
    selection.warnings.map warn ++ if mayUse set selection then [] else [misuse set selection]
  | _, _ => []

/-- What is told of a call until it is accepted or refused. -/
def acceptEvents (s : Session) (call : Call) (c : Circumstances) : List AuditEvent :=
  match (s.receive call c).2 with
  | .ok (selector, request) => s.lookUpEvents selector request.criteriaSetId
  | .error _ => []

theorem lookUp_recorder (s : Session) (selector : Selector) (request : Request) :
    (s.lookUp selector request).1.recorder =
      s.recorder.recordAll (s.lookUpEvents selector request.criteriaSetId) := by
  unfold lookUp lookUpEvents
  cases s.store.criteriaSets.get? request.criteriaSetId with
  | none => rfl
  | some set =>
    cases selector.resolve s.store with
    | error f => rfl
    | ok selection =>
      have appended : (s.recorder.recordAll (selection.warnings.map warn)).record
          (misuse set selection) =
          s.recorder.recordAll (selection.warnings.map warn ++ [misuse set selection]) := by
        rw [Recorder.recordAll, Recorder.recordAll, List.foldl_append]
        rfl
      cases selector.notice? s.store <;> dsimp only <;> split
      · rw [List.append_nil]
        rfl
      · exact appended
      · rw [List.append_nil]
        rfl
      · exact appended

theorem receive_recorder (s : Session) (call : Call) (c : Circumstances) :
    (s.receive call c).1.recorder = s.recorder.correlate c.correlationId := by
  unfold receive
  dsimp only
  split
  · rfl
  · split <;> rfl

theorem accept_recorder (s : Session) (call : Call) (c : Circumstances) :
    (s.accept call c).1.recorder =
      (s.recorder.correlate c.correlationId).recordAll (s.acceptEvents call c) := by
  have recorded := receive_recorder s call c
  obtain ⟨recorder, log, received⟩ := receive_frame s call c
  unfold accept acceptEvents
  split
  · rename_i s' f h
    rw [h] at recorded ⊢
    exact recorded
  · rename_i s' selector request h
    rw [h] at recorded received ⊢
    dsimp only at recorded received ⊢
    have same : s'.lookUpEvents selector request.criteriaSetId =
        s.lookUpEvents selector request.criteriaSetId := by
      rw [received]
      rfl
    rw [lookUp_recorder, recorded, same]

theorem accept_events (s : Session) (call : Call) (c : Circumstances) :
    (s.accept call c).1.recorder.events = s.recorder.events ++
      (s.acceptEvents call c).map fun event => ⟨some c.correlationId, event⟩ := by
  rw [accept_recorder, Recorder.events_recordAll]
  rfl

theorem acceptEvents_valued (day : c'.today = c.today) :
    (s.valued values).acceptEvents call c' = s.acceptEvents call c := by
  unfold acceptEvents
  rw [receive_reissued call.reissued_refl day]
  cases (s.receive call c).2 with
  | error f => rfl
  | ok p =>
    have sets : (s.valued values).store.criteriaSets = s.store.criteriaSets := rfl
    dsimp only [Except.map]
    unfold lookUpEvents
    rw [sets, resolve_valued]
    rfl

theorem screen_of_refused (refused : (s.accept call c).2 = .error f) :
    (s.screen call c).1 = (s.accept call c).1 := by
  rw [screen_session]
  unfold conduct
  split
  · rename_i h
    rw [h]
  · rename_i h
    rw [h] at refused
    cases refused

theorem validate_of_refused (refused : (s.accept call c).2 = .error f) :
    (s.validate call c).1 = (s.accept call c).1 := by
  unfold validate
  split
  · rename_i h
    rw [h]
  · rename_i h
    rw [h] at refused
    cases refused

end Session

end Screening
