import Screening.ErrorKind
import Screening.Expr.Failure
import Screening.Lookup
import Screening.Schema.Day

/-!
# Settings

Settings come in three sections: how many workers there are, how rules are evaluated, and which
requests are accepted. A field that is not given has a default; sections of other names are ignored
with a warning.
-/

namespace Screening

/-- How a rule counts that cannot be decided. -/
inductive MissingDataPolicy where
  /-- It fails. -/
  | failClosed
  /-- It passes. -/
  | failOpen
  deriving DecidableEq

namespace MissingDataPolicy

def name : MissingDataPolicy → String
  | failClosed => "fail_closed"
  | failOpen => "fail_open"

def ofName? (s : String) : Option MissingDataPolicy :=
  [failClosed, failOpen].find? fun p => p.name == s

end MissingDataPolicy

structure WorkerSettings where
  maxWorkers : Nat := 1
  deriving DecidableEq

structure EvaluationSettings where
  policy : MissingDataPolicy
  defaultFailure : Text
  defaultFailure_isName : defaultFailure.IsName

/-- Without values a rule fails, and a failure without words of its own gets the common ones. -/
def EvaluationSettings.standard : EvaluationSettings :=
  ⟨.failClosed, Expr.defaultFailure, Expr.defaultFailure_isName⟩

structure RequestSettings where
  enabled : Bool := true
  earliest : Date := Date.epoch
  allowFuture : Bool := false
  /-- The most companies that may be asked for by their ids. -/
  maxCompanies : Option Nat := some 5000
  deriving DecidableEq

structure Settings where
  version : Text := "1.0"
  workers : WorkerSettings := {}
  evaluation : EvaluationSettings := .standard
  requests : RequestSettings := {}

namespace WorkerSettings

def check : Check WorkerSettings :=
  Check.record fun entries =>
    (fun n => ⟨n.toNat⟩) <$> Check.optional entries "max_workers" 1 (Check.intBetween 1 64)

def toData (s : WorkerSettings) : Data :=
  .object [("max_workers", .int s.maxWorkers)]

end WorkerSettings

namespace EvaluationSettings

def check : Check EvaluationSettings :=
  Check.record fun entries =>
    (fun policy ⟨failure, worded⟩ => ⟨policy, failure, worded⟩)
      <$> Check.optional entries "missing_data_policy" .failClosed
        (Check.oneOf MissingDataPolicy.ofName?)
      <*> Check.optional entries "default_failure_message"
        ⟨Expr.defaultFailure, Expr.defaultFailure_isName⟩ Check.name

def toData (s : EvaluationSettings) : Data :=
  .object [("missing_data_policy", .text s.policy.name),
    ("default_failure_message", .text s.defaultFailure)]

end EvaluationSettings

namespace RequestSettings

def check : Check RequestSettings :=
  Check.record fun entries =>
    RequestSettings.mk
      <$> Check.optional entries "enabled" true Check.bool
      <*> Check.optional entries "min_as_of_date" Date.epoch Check.date
      <*> Check.optional entries "allow_future_as_of_date" false Check.bool
      <*> Check.optional entries "max_companies_per_request" (some 5000)
        (Check.option fun d => Int.toNat <$> Check.intFrom 1 d)

def toData (s : RequestSettings) : Data :=
  .object [("enabled", .bool s.enabled), ("min_as_of_date", .date s.earliest),
    ("allow_future_as_of_date", .bool s.allowFuture),
    ("max_companies_per_request", .option (fun n => .int n) s.maxCompanies)]

end RequestSettings

namespace Settings

/-- A section under the first of its names that is there; faults are told under the first name. -/
def section? {α : Type} (entries : List (Atom × Data)) (names : String × String) (default : α)
    (check : Check α) : Checked α :=
  match (Data.field? entries names.1).or (Data.field? entries names.2) with
  | some d => (check d).under (.field names.1)
  | none => .ok default

def check : Check Settings :=
  Check.record fun entries =>
    Settings.mk
      <$> Check.optional entries "version" "1.0" Check.text
      <*> section? entries ("global", "global_settings") {} WorkerSettings.check
      <*> Check.optional entries "evaluation" .standard EvaluationSettings.check
      <*> Check.optional entries "request_validation" {} RequestSettings.check

def toData (s : Settings) : Data :=
  .object [("version", .text s.version), ("global_settings", s.workers.toData),
    ("evaluation", s.evaluation.toData), ("request_validation", s.requests.toData)]

/-! ### Reading a document -/

def sectionNames : List Text :=
  ["version", "global", "global_settings", "evaluation", "request_validation"]

def isKnown : Atom → Bool
  | .scalar (.text t) => sectionNames.contains t
  | _ => false

/-- Whether one name comes before another, if they can be compared. -/
def nameLess? (a b : Atom) : Option Bool :=
  match a, b with
  | .scalar (.text s), .scalar (.text t) => some (s < t)
  | .date c, .date d => some (c < d)
  | a, b =>
    match a.number?, b.number? with
    | some m, some n => some (m.less n)
    | _, _ => none

inductive ReadError where
  | faults (faults : List Fault)
  /-- A value of this kind has no sections at all. -/
  | sectionless (kind : String)
  /-- A value of this kind stands where the name of a section should be. -/
  | nameless (kind : String)
  /-- Names of these kinds have no common order. -/
  | unordered (first second : String)

def ReadError.kind : ReadError → ErrorKind
  | faults _ => .faulty
  | sectionless _ | nameless _ | unordered .. => .type

def ReadError.message : ReadError → String
  | faults _ => "invalid settings"
  | sectionless kind => "'" ++ kind ++ "' object is not iterable"
  | nameless kind => "unhashable type: '" ++ kind ++ "'"
  | unordered first second =>
    "'<' not supported between instances of '" ++ first ++ "' and '" ++ second ++ "'"

/-- Lists and maps are no names. -/
def name? : Data → Option Atom
  | .atom a => some a
  | _ => none

/-- The names of the sections of a document. A list holds names, a text characters and bytes
numbers. -/
def sections : Data → Except ReadError (List Atom)
  | .map entries => .ok (entries.map Prod.fst)
  | .list items =>
    match items.find? (fun d => (name? d).isNone) with
    | some d => .error (.nameless d.kindName)
    | none => .ok (items.filterMap name?)
  | .atom (.scalar (.text t)) => .ok (t.points.map fun p => .scalar (.text ⟨[p]⟩))
  | .atom (.bytes bs) => .ok (bs.map fun b => .scalar (.int b.toNat))
  | d => .error (.sectionless d.fullKindName)

/-- Put names in order, if any two neighbours can be compared. -/
def sortNames (names : List Atom) : Except ReadError (List Atom) :=
  match (names.zip (names.drop 1)).find? fun p => (nameLess? p.2 p.1).isNone with
  | some (a, b) => .error (.unordered (Data.atom b).fullKindName (Data.atom a).fullKindName)
  | none => .ok (names.mergeSort fun a b => !(nameLess? b a).getD false)

def warning (name : Atom) : Text :=
  "Ignoring unknown config section '" ++ (Data.atom name).display ++ "'"

/-- The warnings about sections that are ignored, in the order of their names. -/
def warnings (d : Data) : Except ReadError (List Text) := do
  let names ← sections d
  let sorted ← sortNames ((names.filter (!isKnown ·)).eraseDupsBy Atom.same)
  return sorted.map warning

/-- The warnings about what is ignored, and the settings that the rest makes up. -/
def read (d : Data) : List Text × Except ReadError Settings :=
  match warnings d with
  | .error e => ([], .error e)
  | .ok ws =>
    match check d with
    | .ok s => (ws, .ok s)
    | .faulty fs => (ws, .error (.faults fs))

end Settings

end Screening
