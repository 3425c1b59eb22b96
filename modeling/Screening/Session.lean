import Screening.Completeness
import Screening.Evaluation
import Screening.Logging
import Screening.Metrics
import Screening.Request
import Screening.Schema.Report
import Screening.Selector

/-!
# Sessions

A session is a store together with the settings, the audit trail, the metrics and the log of what
is done on it. `screen` and `validate` accept a call alike: the request is read and checked, the
criteria set and the companies are looked up, and the use of the set is authorised. Only then
`screen` evaluates and stores a result, and `validate` reports which values are missing. The line
that `screen` logs last is written when the result has been stored, so the call can still fail then.
-/

namespace Screening

/-- The version that results carry. -/
def version : String := "0.4.0"

/-- How requests are checked before anything is looked up. -/
inductive RequestGuard where
  | none
  /-- Against a fixed day. -/
  | pinned (today : Date)
  /-- Against the day of the call. -/
  | clock
  deriving DecidableEq

structure Session where
  store : Store := .empty
  settings : Settings := {}
  requestGuard : RequestGuard := .clock
  recorder : Recorder := {}
  metrics : Metrics := {}
  /-- Why results cannot be stored at present. -/
  writeFault : Option Text := none
  log : List LogLine := []
  /-- The address of the pages that explain what is wrong with a request. -/
  manual : Text := ""

/-- What is asked for in a call. -/
structure Call where
  selector : SelectorForm
  criteriaSet : Data
  asOf : Option Date
  user : Data

/-- What a call meets with: the day and the time, new ids, and how long its parts take. -/
structure Circumstances where
  today : Date
  now : Timestamp
  correlationId : Text
  resultId : Text
  loading : Binary64
  total : Binary64

/-- A call that may go ahead. -/
structure Accepted where
  request : Request
  set : CriteriaSet
  selection : Selection

namespace Call

def invalid (manual title : Text) (faults : List Fault) : Failure :=
  .badRequest ("Invalid screening request: " ++ Fault.report manual title faults)
    (faults.head?.map fun f => f.place)

/-- The fields of a request, apart from the selection. -/
def fields (call : Call) (today : Date) (correlationId : Text) (subject : Subject) :
    Checked Request :=
  (fun ⟨set, named⟩ user => ⟨set, call.asOf.getD today, subject, user, correlationId, named⟩)
    <$> (Check.name call.criteriaSet).under (.field "criteria_set_id")
    <*> (Check.option Check.text call.user).under (.field "user_id")

/-- The request of a call. Faults of the selection come before all others. -/
def read (call : Call) (manual : Text) (today : Date) (correlationId : Text) :
    Except Failure (Selector × Request) :=
  match call.selector.check with
  | .faulty fs => .error (invalid manual "SubjectDescription" fs)
  | .ok selector =>
    match call.fields today correlationId selector.describe with
    | .faulty fs => .error (invalid manual "ScreeningRequest" fs)
    | .ok request => .ok (selector, request)

end Call

namespace Session

def tell (s : Session) (e : AuditEvent) : Session :=
  { s with recorder := s.recorder.record e }

def tellAll (s : Session) (es : List AuditEvent) : Session :=
  { s with recorder := s.recorder.recordAll es }

def note (s : Session) (level : LogLevel) (text : Text) : Session :=
  { s with log := s.log ++ [⟨level, text⟩] }

def measure (s : Session) (name : Text) (kind : MetricKind) (value : Data)
    (tags : List (Text × Atom)) : Session :=
  { s with metrics := s.metrics.record name ⟨kind, value, tags⟩ }

/-! ### Accepting a call -/

/-- What the settings do not allow about a request. -/
def problems (s : Session) (request : Request) (today : Date) : List RequestProblem :=
  match s.requestGuard with
  | .none => []
  | .pinned day => request.problems s.settings.requests day
  | .clock => request.problems s.settings.requests today

/-- Read and check the request of a call. -/
def receive (s : Session) (call : Call) (c : Circumstances) :
    Session × Except Failure (Selector × Request) :=
  let s := { s with recorder := s.recorder.correlate c.correlationId }
  match call.read s.manual c.today c.correlationId with
  | .error f => (s, .error f)
  | .ok (selector, request) =>
    match s.problems request c.today with
    | [] => (s, .ok (selector, request))
    | ps =>
      let text := Request.problemText ps
      (s.note .error ("Request validation failed: " ++ text), .error (.badRequest text none))

def warn (message : Text) : AuditEvent := .anomaly message "WARNING" []

/-- A set may be used by everyone, or by the client who owns it. -/
def mayUse (set : CriteriaSet) (selection : Selection) : Bool :=
  set.isGlobal || (set.ownerId.isSome && set.ownerId == selection.ownerId)

/-- The event of a set being used by another than its owner. -/
def misuse (set : CriteriaSet) (selection : Selection) : AuditEvent :=
  .anomaly ("Criteria set " ++ set.id ++ " used outside its owning client") "WARNING"
    [("criteria_set_owner", .option .text set.ownerId),
      ("subject_owner", .option .text selection.ownerId)]

/-- Look up the criteria set and the companies, and authorise the use of the set. -/
def lookUp (s : Session) (selector : Selector) (request : Request) :
    Session × Except Failure Accepted :=
  match s.store.criteriaSets.get? request.criteriaSetId with
  | none => (s, .error (.notFound "Criteria set" (.text request.criteriaSetId) none))
  | some set =>
    match selector.resolve s.store with
    | .error f => (s, .error f)
    | .ok selection =>
      let s := match selector.notice? s.store with
        | some text => s.note .warning text
        | none => s
      let s := s.tellAll (selection.warnings.map warn)
      if mayUse set selection then (s, .ok ⟨request, set, selection⟩)
      else (s.tell (misuse set selection),
        .error (.forbidden ("Criteria set " ++ set.id ++ " belongs to another client")))

def accept (s : Session) (call : Call) (c : Circumstances) : Session × Except Failure Accepted :=
  match s.receive call c with
  | (s, .error f) => (s, .error f)
  | (s, .ok (selector, request)) => s.lookUp selector request

/-! ### Screening -/

def fallbackEvents (asOf : Date) (ids : List Text) : List AuditEvent :=
  ids.map fun id => .fallback id asOf.iso

def started (a : Accepted) : AuditEvent :=
  .started "screen" (.int a.selection.companies.length)
    [("criteria_set_id", .text a.set.id), ("criteria_set_version", .int a.set.version),
      ("as_of_date", .text a.request.asOf.iso), ("mode", .text a.request.subject.mode)]

/-- The values of the selected companies. -/
def resolution (s : Session) (a : Accepted) : Resolution :=
  resolve s.store.valuesOf a.selection.companyIds a.request.asOf

/-- The result of each selected company. -/
def evaluate (s : Session) (a : Accepted) : List CompanyResult :=
  let r := s.resolution a
  a.selection.companies.map fun company =>
    a.set.evaluate s.settings.evaluation company.id company.name (r.of company.id)

def metadata (s : Session) (a : Accepted) (c : Circumstances) : List (Text × Data) :=
  let common : List (Text × Data) := [
    ("correlation_id", .text c.correlationId), ("duration_seconds", .float c.total),
    ("missing_data_policy", .text s.settings.evaluation.policy.name), ("version", .text version)]
  let warnings : List (Text × Data) := [("warnings", .texts a.selection.warnings)]
  if a.selection.warnings.isEmpty then common else common ++ warnings

/-- The result of an accepted call, not yet stored. -/
def assemble (s : Session) (a : Accepted) (c : Circumstances) : ScreeningResult :=
  let results := s.evaluate a
  { id := none
    screenedAt := .fixed c.now
    asOf := a.request.asOf
    subject := a.selection.subject
    criteriaSet := a.set.reference
    userId := a.request.userId
    summary := .ofResults results
    results
    metadata := s.metadata a c }

/-- Store a result, under a fresh id unless it has one. -/
def createResult (s : Session) (r : ScreeningResult) (fresh : Text) :
    Session × Except StoreError Text :=
  let (store, outcome) := s.store.createResult r fresh
  ({ s with store }, outcome)

/-- Store the result of a screening; the message tells why it cannot be stored. -/
def keep (s : Session) (r : ScreeningResult) (fresh : Text) : Session × Except Text Text :=
  match s.writeFault with
  | some message => (s, .error message)
  | none =>
    let (s, outcome) := s.createResult r fresh
    (s, outcome.mapError (·.message))

/-- The metrics of a stored result. -/
def measureResult (s : Session) (a : Accepted) (r : ScreeningResult) (c : Circumstances) :
    Session :=
  let tags : List (Text × Atom) := [("mode", .scalar (.text a.request.subject.mode))]
  let failures : Nat := r.results.foldl (fun count company => count + company.failedRules.length) 0
  (((s.measure "screening_total_seconds" .timing (.float c.total) tags).measure
      "companies_screened_total" .count (.int r.summary.total) tags).measure
      "rule_failures_total" .count (.int failures) tags).measure
      "pass_rate_pct" .gauge (.float (.ofRatio false r.summary.passRate 1)) tags

/-- Whether the result of a company can be written. -/
def writes (s : Session) (a : Accepted) (company : Company) : Bool :=
  a.set.isWritable ((s.resolution a).of company.id)

/-- The results of the companies before the first whose result cannot be written. -/
def evaluated (s : Session) (a : Accepted) : List CompanyResult :=
  (s.evaluate a).take (a.selection.companies.takeWhile (s.writes a)).length

/-- Tell of the evaluation of an accepted call. -/
def tellEvaluation (s : Session) (a : Accepted) (c : Circumstances) : Session :=
  let t := (s.tell (started a)).tellAll (fallbackEvents a.request.asOf (s.resolution a).fallbacks)
  let t := t.measure "value_resolution_seconds" .timing (.float c.loading) []
  t.tellAll ((s.evaluated a).flatMap CompanyResult.failures)

/-- Store the result of an accepted call, and tell and measure it. -/
def conclude (s : Session) (a : Accepted) (result : ScreeningResult) (c : Circumstances) :
    Session × Except Failure ScreeningResult :=
  match s.keep result c.resultId with
  | (s, .error why) =>
    let message := "Failed to store screening result: " ++ why
    (s.note .error message, .error (.persistence message))
  | (s, .ok id) =>
    let s := s.tell (.ended "screen" (.int result.summary.passed) (.float c.total) [])
    (s.measureResult a result c, .ok { result with id := some id })

/-- Screen the selected companies, one after the other, and store the result. -/
def conduct (s : Session) (call : Call) (c : Circumstances) :
    Session × Except Failure ScreeningResult :=
  match s.accept call c with
  | (s, .error f) => (s, .error f)
  | (s, .ok a) =>
    if a.selection.companies.all (s.writes a) then
      (s.tellEvaluation a c).conclude a (s.assemble a c) c
    else (s.tellEvaluation a c, .error .overlong)

/-- A stored result is given unless the version of its criteria set is too long to be written in the
line that is logged of it. -/
def give (r : ScreeningResult) : Except Failure ScreeningResult :=
  if (Scalar.int r.criteriaSet.version).isShort then .ok r else .error .overlong

/-- Conduct a screening and give its result. -/
def screen (s : Session) (call : Call) (c : Circumstances) :
    Session × Except Failure ScreeningResult :=
  let (s, outcome) := s.conduct call c
  (s, outcome.bind give)

/-! ### Validating -/

/-- Tell that a parameter has no value for any of the companies. -/
def tellMissing (s : Session) (set : CriteriaSet) (report : Completeness) : Session :=
  if report.missing.isEmpty then s
  else s.tell (.anomaly
    ("Parameters missing for every company: " ++ Text.intercalate ", " report.missing) "WARNING"
    [("criteria_set_id", .text set.id)])

/-- Report which values a screening would miss. -/
def validate (s : Session) (call : Call) (c : Circumstances) :
    Session × Except Failure Completeness :=
  match s.accept call c with
  | (s, .error f) => (s, .error f)
  | (s, .ok a) =>
    let (report, fallbacks) :=
      Completeness.report s.store.valuesOf a.selection.companies a.set a.request.asOf
    let s := s.tell (.started "validate" (.int a.selection.companies.length)
      [("criteria_set_id", .text a.set.id)])
    let s := s.tellAll (fallbackEvents a.request.asOf fallbacks)
    let s := s.tell (.ended "validate" (.int report.complete) (.float c.total)
      [("is_valid", .bool report.isValid)])
    let s := s.measure "validation_total_seconds" .timing (.float c.total) []
    (s.tellMissing a.set report, .ok report)

/-! ### Other calls -/

/-- Resolve values and record whose are later than the day. -/
def resolveValues (s : Session) (ids : List Text) (asOf : Date) : Session × Resolution :=
  let r := resolve s.store.valuesOf ids asOf
  (s.tellAll (fallbackEvents asOf r.fallbacks), r)

/-- Look up the companies of a selector, if what is given is one. -/
def select (s : Session) (form : SelectorForm) :
    Session × Except SelectorForm.LookUpError (Selector × Selection) :=
  match form.check with
  | .faulty fs => (s, .error (form.error s.store fs))
  | .ok selector =>
    match selector.resolve s.store with
    | .error f => (s, .error (.failure f))
    | .ok selection =>
      match selector.notice? s.store with
      | some text => (s.note .warning text, .ok (selector, selection))
      | none => (s, .ok (selector, selection))

def unknownResult (id : Text) : Failure := .notFound "Screening result" (.text id) none

def result (s : Session) (id : Text) : Except Failure ScreeningResult :=
  match s.store.results.get? id with
  | some r => .ok r
  | none => .error (unknownResult id)

def deleteResult (s : Session) (id : Text) : Session × Except Failure Unit :=
  let (store, found) := s.store.deleteResult id
  ({ s with store }, if found then .ok () else .error (unknownResult id))

/-- Go on with other settings. Where no day is pinned, the audit trail and the metrics start
anew. -/
def withSettings (s : Session) (settings : Settings) : Session :=
  match s.requestGuard with
  | .clock => { s with settings, recorder := {}, metrics := {} }
  | _ => { s with settings }

/-- Read settings and go on with them. What is ignored is logged even if they are faulty. -/
def configure (s : Session) (d : Data) : Session × Except Settings.ReadError Unit :=
  let (warnings, outcome) := Settings.read d
  let s := warnings.foldl (fun s text => s.note .warning text) s
  match outcome with
  | .error e => (s, .error e)
  | .ok settings => (s.withSettings settings, .ok ())

end Session

end Screening
