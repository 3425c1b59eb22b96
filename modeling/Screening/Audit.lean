import Screening.Data.Display
import Screening.ErrorKind

/-!
# The audit trail

What happens during a screening is told as events. A `Recorder` keeps them, each with the
correlation id of the request it belongs to; a console shows them as lines.
-/

namespace Screening

inductive AuditEvent where
  | started (operation : Text) (subjects : Data) (metadata : List (Text × Data))
  | ended (operation : Text) (passed : Data) (seconds : Data) (metadata : List (Text × Data))
  | ruleFailed (companyId ruleName severity reason : Text)
  /-- The values of a company are later than the day that was asked for. -/
  | fallback (companyId asOf : Text)
  | anomaly (message severity : Text) (context : List (Text × Data))

namespace AuditEvent

def name : AuditEvent → String
  | started .. => "screening_start"
  | ended .. => "screening_end"
  | ruleFailed .. => "rule_failed"
  | fallback .. => "value_fallback"
  | anomaly .. => "anomaly"

/-- The details of an event. -/
def fields : AuditEvent → List (Text × Data)
  | started operation subjects metadata =>
    [("operation", .text operation), ("subject_count", subjects), ("metadata", .object metadata)]
  | ended operation passed seconds metadata =>
    [("operation", .text operation), ("passed_count", passed), ("duration_seconds", seconds),
      ("metadata", .object metadata)]
  | ruleFailed companyId ruleName severity reason =>
    [("company_id", .text companyId), ("rule_name", .text ruleName), ("severity", .text severity),
      ("reason", .text reason)]
  | fallback companyId asOf => [("company_id", .text companyId), ("as_of_date", .text asOf)]
  | anomaly message severity context =>
    [("message", .text message), ("severity", .text severity), ("context", .object context)]

end AuditEvent

/-! ### Recording -/

structure RecordedEvent where
  correlationId : Option Text
  event : AuditEvent

structure Recorder where
  events : List RecordedEvent := []
  correlationId : Option Text := none

namespace Recorder

def record (r : Recorder) (e : AuditEvent) : Recorder :=
  { r with events := r.events ++ [⟨r.correlationId, e⟩] }

def recordAll (r : Recorder) (es : List AuditEvent) : Recorder :=
  es.foldl record r

/-- The events that follow belong to this request. -/
def correlate (r : Recorder) (id : Text) : Recorder :=
  { r with correlationId := some id }

/-- Forget the events, but not the request. -/
def clear (r : Recorder) : Recorder :=
  { r with events := [] }

/-- The events of that name, or all. -/
def named (r : Recorder) (name : Option Text) : List RecordedEvent :=
  match name with
  | none => r.events
  | some n => r.events.filter (·.event.name == n)

end Recorder

/-! ### Console lines -/

/-- Why a value cannot be shown as seconds. -/
inductive DurationError where
  | tooLarge
  | text
  /-- A value of this kind. -/
  | noNumber (kind : String)

def DurationError.kind : DurationError → ErrorKind
  | tooLarge => .overflow
  | text => .value
  | noNumber _ => .type

def DurationError.message : DurationError → String
  | tooLarge => "int too large to convert to float"
  | text => "Unknown format code 'f' for object of type 'str'"
  | noNumber kind => "unsupported format string passed to " ++ kind ++ ".__format__"

structure Console where
  /-- Whether to show all events, not just ends and anomalies. -/
  verbose : Bool
  correlationId : Option Text := none

namespace Console

/-- Names and values in parentheses, if there are any. -/
def details : List (Text × Data) → Text
  | [] => ""
  | pairs => " (" ++ Text.intercalate ", " (pairs.map fun p => p.1 ++ "=" ++ p.2.display) ++ ")"

/-- The decimal places that seconds are shown with. -/
def places : Nat := 3

/-- Seconds with their decimal places. A day has none, and stands for the places themselves. -/
def seconds : Data → Except DurationError Text
  | .atom (.scalar (.float x)) => .ok (x.toFixed places)
  | .atom (.scalar (.bool b)) => .ok (if b then "1.000" else "0.000")
  | .atom (.scalar (.int n)) =>
    match Binary64.ofInt? n with
    | some x => .ok (x.toFixed places)
    | none => .error .tooLarge
  | .atom (.scalar (.text _)) => .error .text
  | .atom (.date _) | .atom (.moment _) => .ok ".3f"
  | d => .error (.noNumber d.kindName)

/-- The level and the text that an event is shown with. -/
def line : AuditEvent → Except DurationError (Text × Text)
  | .started operation subjects metadata =>
    .ok ("INFO", "Starting " ++ operation ++ " of " ++ subjects.display ++ " companies" ++
      details metadata)
  | .ended operation passed duration _ =>
    (seconds duration).map fun shown =>
      ("INFO", "Completed " ++ operation ++ ": " ++ passed.display ++ " companies passed (" ++
        shown ++ "s)")
  | .ruleFailed companyId ruleName severity reason =>
    .ok ("DEBUG", companyId ++ " failed '" ++ ruleName ++ "' [" ++ severity ++ "]: " ++ reason)
  | .fallback companyId asOf =>
    .ok ("DEBUG", companyId ++ " has no values on or before " ++ asOf ++ ", using latest")
  | .anomaly message severity context =>
    .ok (severity, "ANOMALY: " ++ message ++ details context)

def isShown (c : Console) : AuditEvent → Bool
  | .ended .. | .anomaly .. => true
  | _ => c.verbose

def noMark : Text := "--------"

/-- The first characters of the correlation id, or dashes. -/
def mark (c : Console) : Text :=
  match c.correlationId with
  | none => noMark
  | some id => if id.isEmpty then noMark else ⟨id.points.take noMark.length⟩

def padRight (width : Nat) (t : Text) : Text :=
  t ++ Text.ofChars (List.replicate (width - t.length) ' ')

/-- What is shown of an event at a time of day. -/
def text (c : Console) (time : Text) (e : AuditEvent) : Except DurationError Text :=
  if c.isShown e then
    (line e).map fun (level, message) =>
      "[" ++ time ++ "] [" ++ c.mark ++ "] [" ++ padRight 5 level ++ "] " ++ message ++ "\n"
  else .ok ""

end Console

end Screening
