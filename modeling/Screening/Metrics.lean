import Screening.Data
import Screening.ErrorKind

/-!
# Metrics

Samples are kept under the names of their metrics. `Metrics.summary` counts and sums those of each
name; the sum of integers is exact, and it becomes a binary64 number with the first such sample.
-/

namespace Screening

/-- Why samples have no sum. -/
inductive SumError where
  /-- An integer is too large for the binary64 number that it is added to. -/
  | tooLarge
  /-- A value of this kind is no number; so far the sum is of the other kind. -/
  | unsummable (sum kind : String)
  deriving DecidableEq

def SumError.kind : SumError → ErrorKind
  | tooLarge => .overflow
  | unsummable _ _ => .type

def SumError.message : SumError → String
  | tooLarge => "int too large to convert to float"
  | unsummable sum kind =>
    "unsupported operand type(s) for +: '" ++ sum ++ "' and '" ++ kind ++ "'"

def Number.toScalar : Number → Scalar
  | .int n => .int n
  | .float x => .float x

/-- The sum, or nothing when an integer is too large for the binary64 number that it is added to. -/
def Number.add? : Number → Number → Option Number
  | .int m, .int n => some (.int (m + n))
  | .float x, .float y => some (.float (x.add y))
  | .int n, .float y => (Binary64.ofInt? n).map fun x => .float (x.add y)
  | .float x, .int n => (Binary64.ofInt? n).map fun y => .float (x.add y)

/-- The number that a value counts as; a truth value counts as zero or one. -/
def Data.quantity? : Data → Option Number
  | .atom a => a.number?
  | _ => none

inductive MetricKind where
  | timing
  | count
  | gauge
  deriving DecidableEq

def MetricKind.name : MetricKind → String
  | timing => "timing"
  | count => "count"
  | gauge => "gauge"

structure Sample where
  kind : MetricKind
  value : Data
  /-- A tag that is null counts as one that is not there. -/
  tags : List (Text × Atom)

structure MetricSummary where
  kind : MetricKind
  count : Nat
  total : Number
  least : Data
  greatest : Data
  last : Data

/-- Samples by metric, in the order in which the metrics were first used. -/
structure Metrics where
  samples : Table Text (List Sample) := .empty

namespace Sample

def tag (s : Sample) (name : Text) : Atom := (Entries.get? s.tags name).getD .null

def hasTag (s : Sample) (t : Text × Atom) : Bool := (s.tag t.1).same t.2

end Sample

namespace Metrics

def samplesOf (m : Metrics) (name : Text) : List Sample :=
  (m.samples.get? name).getD []

def record (m : Metrics) (name : Text) (s : Sample) : Metrics :=
  ⟨m.samples.insert name (m.samplesOf name ++ [s])⟩

/-- The samples of a metric that carry all of the tags. -/
def tagged (m : Metrics) (name : Text) (tags : List (Text × Atom)) : List Sample :=
  (m.samplesOf name).filter fun s => tags.all s.hasTag

/-- Whether the number that one value counts as is less than that of another. -/
def less (a b : Data) : Bool :=
  match a.quantity?, b.quantity? with
  | some m, some n => m.less n
  | _, _ => false

/-- Of equal values the first counts. -/
def least (first : Data) (rest : List Data) : Data :=
  rest.foldl (fun best d => if less d best then d else best) first

def greatest (first : Data) (rest : List Data) : Data :=
  rest.foldl (fun best d => if less best d then d else best) first

def plus (sum : Number) (d : Data) : Except SumError Number :=
  match d.quantity? with
  | none => .error (.unsummable (Data.scalar sum.toScalar).kindName d.fullKindName)
  | some n =>
    match sum.add? n with
    | some total => .ok total
    | none => .error .tooLarge

/-- The sum from the left, starting with the integer zero. -/
def total (values : List Data) : Except SumError Number :=
  values.foldlM plus (.int 0)

/-- The summary of the samples of one metric. -/
def summaryOf (first : Sample) (rest : List Sample) : Except SumError MetricSummary :=
  (total (first.value :: rest.map (·.value))).map fun total =>
    let last := (first :: rest).getLast (by simp)
    { kind := last.kind
      count := rest.length + 1
      total
      least := least first.value (rest.map (·.value))
      greatest := greatest first.value (rest.map (·.value))
      last := last.value }

/-- The summaries of all metrics, or the first error. -/
def summary (m : Metrics) : Except SumError (List (Text × MetricSummary)) :=
  m.samples.entries.filterMapM fun entry =>
    match entry.2 with
    | [] => .ok none
    | first :: rest => (summaryOf first rest).map fun s => some (entry.1, s)

end Metrics

end Screening
