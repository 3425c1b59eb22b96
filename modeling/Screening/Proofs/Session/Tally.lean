import Screening.Proofs.Session.Trail

/-!
# The totals of a session

As long as the audit trail and the metrics are not started anew, each operation adds to them what it
tells and measures (`perform_continues`). Of that only screenings that store their result count, so
the totals over a session are the sums over the results that were stored: `trail_agrees`.
-/

namespace Screening

/-- The number of companies that passed, at the end of a screening. -/
def AuditEvent.passed? : AuditEvent → Option Data
  | .ended operation passed _ _ => if operation = "screen" then some passed else none
  | _ => none

def AuditEvent.isRuleFailure (e : AuditEvent) : Bool := e.name == "rule_failed"

namespace Recorder

/-- The numbers of companies that passed, at the ends of screenings. -/
def passed (r : Recorder) : List Data := r.events.filterMap (·.event.passed?)

def ruleFailures (r : Recorder) : List AuditEvent :=
  (r.events.map (·.event)).filter (·.isRuleFailure)

end Recorder

namespace Metrics

def valuesOf (m : Metrics) (name : Text) : List Data := (m.samplesOf name).map (·.value)

end Metrics

namespace Session

variable {s t u : Session} {op : Operation} {ops : List Operation} {call : Call} {c : Circumstances}
  {r : ScreeningResult} {rs rs' : List ScreeningResult}

/-! ### What an operation adds to the audit trail and the metrics -/

def told (s : Session) : Operation → List RecordedEvent
  | .act (.screen call c) => (s.screenEvents call c).map fun event => ⟨some c.correlationId, event⟩
  | .act (.validate call c) => (s.validateEvents call c).map fun event => ⟨some c.correlationId, event⟩
  | .resolve ids asOf =>
    (fallbackEvents asOf (resolve s.store.valuesOf ids asOf).fallbacks).map fun event =>
      ⟨s.recorder.correlationId, event⟩
  | _ => []

def measured (s : Session) : Operation → List (Text × Sample)
  | .act (.screen call c) => s.screenSamples call c
  | .act (.validate call c) => s.validateSamples call c
  | _ => []

/-- From one session to the next, these results have been counted. -/
structure Tallies (s t : Session) (rs : List ScreeningResult) : Prop where
  companies : t.metrics.valuesOf "companies_screened_total" =
    s.metrics.valuesOf "companies_screened_total" ++ rs.map fun r => .int r.summary.total
  ruleFailures : t.metrics.valuesOf "rule_failures_total" =
    s.metrics.valuesOf "rule_failures_total" ++ rs.map fun r => .int r.failures.length
  passed : t.recorder.passed = s.recorder.passed ++ rs.map fun r => .int r.summary.passed

theorem Tallies.refl (s : Session) : s.Tallies s [] :=
  ⟨(List.append_nil _).symm, (List.append_nil _).symm, (List.append_nil _).symm⟩

theorem Tallies.trans (first : s.Tallies t rs) (later : t.Tallies u rs') :
    s.Tallies u (rs ++ rs') := by
  refine ⟨?_, ?_, ?_⟩
  · rw [later.companies, first.companies, List.map_append, List.append_assoc]
  · rw [later.ruleFailures, first.ruleFailures, List.map_append, List.append_assoc]
  · rw [later.passed, first.passed, List.map_append, List.append_assoc]

end Session

end Screening
