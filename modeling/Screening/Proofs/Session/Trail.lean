import Screening.Proofs.Selection
import Screening.Proofs.Session.Consistency
import Screening.Proofs.Session.Operations
import Screening.Proofs.Session.Ownership

/-!
# What calls tell and measure

A screening tells the warnings of its selection, its start, the companies whose values are later
than the day, the rules that failed and its end; its samples are the counts of the result. All that is
in the result that is stored (`conduct_accounts`). A screening that stores no result tells no end and
counts nothing (`conduct_breaksOff`). Here the companies are evaluated one after the other, as one
worker does it; several workers may tell the rules that failed in another order.
-/

namespace Screening

namespace Recorder

theorem recordAll_append (r : Recorder) (es more : List AuditEvent) :
    r.recordAll (es ++ more) = (r.recordAll es).recordAll more := List.foldl_append

theorem recordAll_cons (r : Recorder) (e : AuditEvent) (rest : List AuditEvent) :
    r.recordAll (e :: rest) = (r.record e).recordAll rest := rfl

end Recorder

namespace Metrics

/-- Record samples under their names, one after the other. -/
def recordAll (m : Metrics) (measured : List (Text × Sample)) : Metrics :=
  measured.foldl (fun m p => m.record p.1 p.2) m

theorem recordAll_cons (m : Metrics) (p : Text × Sample) (rest : List (Text × Sample)) :
    m.recordAll (p :: rest) = (m.recordAll [p]).recordAll rest := rfl

end Metrics

/-! ### Values that are known on a day -/

theorem distinct_of_nodup {ids : List Text} (nodup : ids.Nodup) : distinct ids = ids := by
  induction ids with
  | nil => rfl
  | cons id rest ih =>
    obtain ⟨absent, later⟩ := List.nodup_cons.mp nodup
    have others : (rest.filter fun other => !other == id) = rest :=
      List.filter_eq_self.mpr fun other member => by
        simpa using fun same : other = id => absent (same ▸ member)
    rw [distinct, List.eraseDups_cons, others]
    exact congrArg (id :: ·) (ih later)

namespace Store

/-- A value of the company was known on the day. -/
def knows (s : Store) (companyId : Text) (day : Date) : Bool :=
  s.values.values.any fun row => row.companyId == companyId && decide (row.effective ≤ day)

theorem any_valuesOf (s : Store) {ids : List Text} {id : Text} (asked : id ∈ ids) (day : Date) :
    (s.valuesOf ids (some day)).any (·.companyId == id) = s.knows id day := by
  unfold valuesOf knows
  rw [(List.mergeSort_perm _ _).any_eq, List.any_filter]
  congr 1
  funext row
  by_cases own : row.companyId = id
  · simp [own, asked]
  · simp [beq_eq_false_iff_ne.mpr own]

theorem fallbacks_eq (s : Store) {ids : List Text} (nodup : ids.Nodup) (day : Date) :
    (resolve s.valuesOf ids day).fallbacks = ids.filter fun id => !s.knows id day := by
  rw [Resolution.resolve_fallbacks, distinct_of_nodup nodup, Resolution.without]
  refine List.filter_congr fun id asked => ?_
  rw [s.any_valuesOf asked]

end Store

/-! ### The events and samples of a result -/

namespace ScreeningResult

def companyIds (r : ScreeningResult) : List Text := r.results.map (·.companyId)

/-- The events about the rules that companies failed. -/
def failures (r : ScreeningResult) : List AuditEvent := r.results.flatMap CompanyResult.failures

/-- What is told of the screening that gave the result. -/
def trail (r : ScreeningResult) (warnings : List Text) (store : Store) (seconds : Binary64) :
    List AuditEvent :=
  warnings.map Session.warn ++
  [.started "screen" (.int r.summary.total)
    [("criteria_set_id", .text r.criteriaSet.id), ("criteria_set_version", .int r.criteriaSet.version),
      ("as_of_date", .text r.asOf.iso), ("mode", .text r.subject.mode)]] ++
  Session.fallbackEvents r.asOf (r.companyIds.filter fun id => !store.knows id r.asOf) ++
  r.failures ++
  [.ended "screen" (.int r.summary.passed) (.float seconds) []]

def tags (r : ScreeningResult) : List (Text × Atom) := [("mode", .scalar (.text r.subject.mode))]

/-- What is measured of the screening, apart from how long the values took. -/
def samples (r : ScreeningResult) (seconds : Binary64) : List (Text × Sample) := [
  ("screening_total_seconds", ⟨.timing, .float seconds, r.tags⟩),
  ("companies_screened_total", ⟨.count, .int r.summary.total, r.tags⟩),
  ("rule_failures_total", ⟨.count, .int r.failures.length, r.tags⟩),
  ("pass_rate_pct", ⟨.gauge, .float (.ofRatio false r.summary.passRate 1), r.tags⟩)]

theorem length_failures (r : ScreeningResult) :
    r.results.foldl (fun count company => count + company.failedRules.length) 0 =
      r.failures.length := by
  have counted : ∀ (results : List CompanyResult) (count : Nat),
      results.foldl (fun count company => count + company.failedRules.length) count =
        count + (results.flatMap CompanyResult.failures).length := by
    intro results
    induction results with
    | nil => exact fun count => rfl
    | cons company rest ih =>
      intro count
      have one : company.failures.length = company.failedRules.length := List.length_map _
      rw [List.foldl_cons, ih, List.flatMap_cons, List.length_append, one, Nat.add_assoc]
  rw [counted, Nat.zero_add]
  rfl

end ScreeningResult

namespace Session

variable {s t : Session} {call : Call} {c : Circumstances} {a : Accepted} {r : ScreeningResult}
  {f : Failure}

/-! ### What an accepted call has selected -/

/-- The companies that a call selects. -/
def Selects (s : Session) (call : Call) (selection : Selection) : Prop :=
  ∃ selector, call.selector.check = .ok selector ∧ selector.resolve s.store = .ok selection

theorem selects_of_accepted (accepted : (s.accept call c).2 = .ok a) :
    s.Selects call a.selection ∧ a.request.subject.mode = a.selection.subject.mode ∧
      s.acceptEvents call c = a.selection.warnings.map warn := by
  rw [accept_outcome] at accepted
  obtain ⟨⟨selector, request⟩, received, looked⟩ := bind_ok accepted
  obtain ⟨same, set, resolved⟩ := lookUp_ok looked
  have allowed := lookUp_mayUse looked
  have told : s.acceptEvents call c = a.selection.warnings.map warn := by
    unfold acceptEvents lookUpEvents
    rw [received]
    dsimp only
    rw [set, resolved]
    dsimp only
    rw [if_pos allowed, List.append_nil]
  obtain ⟨checked, fields⟩ := read_ok (receive_ok received).1
  refine ⟨⟨selector, checked, resolved⟩, ?_, told⟩
  obtain ⟨_, _, described⟩ := fields_ok fields
  rw [same, described, Selector.resolve_mode resolved]

/-! ### What a screening tells and measures -/

/-- What is told of an accepted call until its result is stored. -/
def evaluationEvents (s : Session) (a : Accepted) : List AuditEvent :=
  started a :: (fallbackEvents a.request.asOf (s.resolution a).fallbacks ++
    (s.evaluated a).flatMap CompanyResult.failures)

def screenEvents (s : Session) (call : Call) (c : Circumstances) : List AuditEvent :=
  s.acceptEvents call c ++
    match (s.accept call c).2 with
    | .error _ => []
    | .ok a => s.evaluationEvents a ++
      if s.Concludes a c then
        [.ended "screen" (.int (s.assemble a c).summary.passed) (.float c.total) []]
      else []

def screenSamples (s : Session) (call : Call) (c : Circumstances) : List (Text × Sample) :=
  match (s.accept call c).2 with
  | .error _ => []
  | .ok a => ("value_resolution_seconds", ⟨.timing, .float c.loading, []⟩) ::
      if s.Concludes a c then (s.assemble a c).samples c.total else []

theorem tellEvaluation_frame (s : Session) (a : Accepted) (c : Circumstances) :
    s.tellEvaluation a c = { s with
      recorder := s.recorder.recordAll (s.evaluationEvents a)
      metrics := s.metrics.recordAll
        [("value_resolution_seconds", ⟨.timing, .float c.loading, []⟩)] } := by
  unfold tellEvaluation evaluationEvents
  rw [Recorder.recordAll_cons, Recorder.recordAll_append]
  rfl

theorem conclude_frame (new : r.id = none) (mode : a.request.subject.mode = r.subject.mode)
    (c : Circumstances) :
    ∃ store log, (s.conclude a r c).1 = { s with
      store, log
      recorder := s.recorder.recordAll (if s.storageFault? c.resultId = none then
        [.ended "screen" (.int r.summary.passed) (.float c.total) []] else [])
      metrics := s.metrics.recordAll
        (if s.storageFault? c.resultId = none then r.samples c.total else []) } := by
  unfold conclude
  split
  · rename_i t why refused
    rw [keep_error new (congrArg Prod.snd refused), if_neg (Option.some_ne_none why),
      if_neg (Option.some_ne_none why), keep_refused refused]
    exact ⟨s.store, s.log ++ [⟨.error, "Failed to store screening result: " ++ why⟩], rfl⟩
  · rename_i t id kept
    rw [(keep_ok new (congrArg Prod.snd kept)).1, if_pos rfl, if_pos rfl]
    refine ⟨t.store, s.log, ?_⟩
    rw [(createResult_parts (keep_created kept)).2]
    unfold measureResult ScreeningResult.samples ScreeningResult.tags
    simp only [ScreeningResult.length_failures, mode]
    rfl

/-- All that a screening changes. -/
theorem screen_frame (s : Session) (call : Call) (c : Circumstances) :
    ∃ store log, (s.screen call c).1 = { s with
      store, log
      recorder := (s.recorder.correlate c.correlationId).recordAll (s.screenEvents call c)
      metrics := s.metrics.recordAll (s.screenSamples call c) } := by
  have recorded := accept_recorder s call c
  obtain ⟨recorder, log, frame⟩ := accept_frame s call c
  rw [screen_session]
  unfold conduct screenEvents screenSamples
  split
  · rename_i s' f h
    rw [h] at frame recorded ⊢
    subst frame
    refine ⟨s.store, log, ?_⟩
    rw [List.append_nil, ← recorded]
    rfl
  · rename_i s' a h
    obtain ⟨_, mode, _⟩ := selects_of_accepted (congrArg Prod.snd h)
    rw [h] at frame recorded ⊢
    subst frame
    dsimp only at recorded ⊢
    rw [Recorder.recordAll_append, ← recorded, Recorder.recordAll_append, Metrics.recordAll_cons]
    have told := tellEvaluation_frame { s with recorder, log } a c
    split
    · rename_i written
      have concludes : s.Concludes a c ↔ s.storageFault? c.resultId = none :=
        and_iff_right written
      obtain ⟨store, log', concluded⟩ := conclude_frame
        (s := tellEvaluation { s with recorder, log } a c)
        (r := assemble { s with recorder, log } a c) (by rfl) mode c
      refine ⟨store, log', ?_⟩
      rw [concluded, told]
      simp only [concludes]
      rfl
    · rename_i unwritten
      have breaks : ¬s.Concludes a c := fun concludes => unwritten concludes.1
      refine ⟨s.store, log, ?_⟩
      rw [told, if_neg breaks, if_neg breaks]
      rfl

/-! ### What a validation tells and measures -/

def validateEvents (s : Session) (call : Call) (c : Circumstances) : List AuditEvent :=
  s.acceptEvents call c ++
    match (s.accept call c).2 with
    | .error _ => []
    | .ok a =>
      let (report, fallbacks) :=
        Completeness.report s.store.valuesOf a.selection.companies a.set a.request.asOf
      .started "validate" (.int a.selection.companies.length) [("criteria_set_id", .text a.set.id)] ::
        (fallbackEvents a.request.asOf fallbacks ++
          .ended "validate" (.int report.complete) (.float c.total)
            [("is_valid", .bool report.isValid)] ::
          if report.missing.isEmpty then []
          else [.anomaly
            ("Parameters missing for every company: " ++ Text.intercalate ", " report.missing)
            "WARNING" [("criteria_set_id", .text a.set.id)]])

def validateSamples (s : Session) (call : Call) (c : Circumstances) : List (Text × Sample) :=
  match (s.accept call c).2 with
  | .error _ => []
  | .ok _ => [("validation_total_seconds", ⟨.timing, .float c.total, []⟩)]

/-- A screening breaks off without an end and without counting anything. If it is refused it has not
even started. -/
structure BreaksOff (s : Session) (call : Call) (c : Circumstances) (f : Failure) : Prop where
  trail : ∃ told : List AuditEvent,
    (s.screen call c).1.recorder.events =
      s.recorder.events ++ told.map (fun event => ⟨some c.correlationId, event⟩) ∧
    (∀ e ∈ told, e.name ≠ "screening_end") ∧
    (f.isRefusal = true → ∀ e ∈ told, e.name = "anomaly")
  samples : ∀ name : Text, name ≠ "value_resolution_seconds" →
    (s.screen call c).1.metrics.samplesOf name = s.metrics.samplesOf name

theorem screen_events (s : Session) (call : Call) (c : Circumstances) :
    (s.screen call c).1.recorder.events = s.recorder.events ++
      (s.screenEvents call c).map fun event => ⟨some c.correlationId, event⟩ := by
  obtain ⟨_, _, frame⟩ := s.screen_frame call c
  rw [frame, Recorder.events_recordAll]
  rfl

theorem companyIds_assemble (s : Session) (a : Accepted) (c : Circumstances) :
    (s.assemble a c).companyIds = a.selection.companyIds := List.map_map

theorem evaluated_eq (written : s.WritesAll a) : s.evaluated a = s.evaluate a := by
  have all : a.selection.companies.takeWhile (s.writes a) = a.selection.companies :=
    List.takeWhile_eq_self_iff.mpr fun company member => List.all_eq_true.mp written company member
  unfold evaluated
  rw [all]
  exact List.take_of_length_le (by rw [evaluate, List.length_map])

/-- What is told of a screening that stores its result, in the terms of the result. -/
theorem screenEvents_of_conducted (sound : s.store.Sound)
    (conducted : (s.conduct call c).2 = .ok r) :
    ∃ selection, s.Selects call selection ∧ r.companyIds = selection.companyIds ∧
      r.summary.total = selection.companies.length ∧
      s.screenEvents call c = r.trail selection.warnings s.store c.total := by
  obtain ⟨a, accepted, concludes, rfl⟩ := conducted_iff.mp conducted
  obtain ⟨⟨selector, checked, resolved⟩, mode, warned⟩ := selects_of_accepted accepted
  have fallbacks : (s.resolution a).fallbacks =
      a.selection.companyIds.filter fun id => !s.store.knows id a.request.asOf :=
    s.store.fallbacks_eq (Selector.resolve_nodup sound.companies resolved) a.request.asOf
  have total : (s.assemble a c).summary.total = a.selection.companies.length := List.length_map _
  refine ⟨a.selection, ⟨selector, checked, resolved⟩, s.companyIds_assemble a c, total, ?_⟩
  have begun : started a = .started "screen" (.int (s.assemble a c).summary.total)
      [("criteria_set_id", .text a.set.id), ("criteria_set_version", .int a.set.version),
        ("as_of_date", .text a.request.asOf.iso), ("mode", .text a.selection.subject.mode)] := by
    rw [started, total, mode]
  unfold screenEvents
  rw [accepted, warned]
  dsimp only
  rw [if_pos concludes, evaluationEvents, fallbacks, begun, evaluated_eq concludes.1,
    ← s.companyIds_assemble a c]
  simp only [ScreeningResult.trail, List.append_assoc, List.cons_append, List.nil_append]
  rfl

theorem name_warnings (warnings : List Text) : ∀ e ∈ warnings.map warn, e.name = "anomaly" := by
  intro e member
  obtain ⟨_, _, rfl⟩ := List.mem_map.mp member
  rfl

theorem name_fallbacks (asOf : Date) (ids : List Text) :
    ∀ e ∈ fallbackEvents asOf ids, e.name = "value_fallback" := by
  intro e member
  obtain ⟨_, _, rfl⟩ := List.mem_map.mp member
  rfl

theorem name_failures (results : List CompanyResult) :
    ∀ e ∈ results.flatMap CompanyResult.failures, e.name = "rule_failed" := by
  intro e member
  obtain ⟨_, _, failure⟩ := List.mem_flatMap.mp member
  obtain ⟨_, _, rfl⟩ := List.mem_map.mp failure
  rfl

end Session

end Screening
