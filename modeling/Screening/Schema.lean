import Screening.Data.Display

/-!
# Checking data against a shape

A check turns data into a value of a domain type or gives every fault it finds, each with the path
that leads to it. Checks of the fields of a record are combined with `<*>`, which keeps the faults
of both sides, those of the left one first.
-/

namespace Screening

/-- A step on the way into data. -/
inductive Step where
  | field (name : String)
  | index (n : Nat)
  deriving DecidableEq

def Step.text : Step → String
  | .field name => name
  | .index n => toString n

inductive Cause where
  | missing
  | stringType
  | stringTooShort
  | stringUnicode
  | choice
  | literal
  | boolType
  | boolParsing
  | intType
  | intParsing
  | intParsingSize
  | intFromFloat
  | finiteNumber
  | floatType
  | floatParsing
  | atLeast
  | atMost
  | dateType
  | dateRange
  | dateParsing
  | dateInexact
  | datetimeType
  | datetimeParsing
  | datetimeFromDateParsing
  | listType
  | dictType
  | recordType
  | recordOrAttributes
  | tagNotFound
  | tagInvalid
  /-- A rule over several fields does not hold. -/
  | rule (message : String)
  /-- The data is no expression. It stands for all faults of the document that holds it. -/
  | expression (message : Text) (field : Option String)
  deriving DecidableEq

structure Fault where
  path : List Step
  cause : Cause
  input : Data

inductive Checked (α : Type) where
  | ok (value : α)
  | faulty (faults : List Fault)

namespace Checked

def map {α β : Type} (f : α → β) : Checked α → Checked β
  | ok a => ok (f a)
  | faulty fs => faulty fs

def seq {α β : Type} : Checked (α → β) → Checked α → Checked β
  | ok f, a => a.map f
  | faulty fs, ok _ => faulty fs
  | faulty fs, faulty gs => faulty (fs ++ gs)

instance : Applicative Checked where
  pure := ok
  map := map
  seq f a := seq f (a ())

/-- Go on with a value that passed. -/
def andThen {α β : Type} (c : Checked α) (next : α → Checked β) : Checked β :=
  match c with
  | ok a => next a
  | faulty fs => faulty fs

def fail {α : Type} (cause : Cause) (input : Data) : Checked α :=
  faulty [⟨[], cause, input⟩]

/-- Put the faults of a part below the step that leads to it. -/
def under {α : Type} (step : Step) : Checked α → Checked α
  | ok a => ok a
  | faulty fs => faulty (fs.map fun f => { f with path := step :: f.path })

/-- What passed first, or the faults of both. -/
def orElse {α : Type} : Checked α → Checked α → Checked α
  | faulty fs, faulty gs => faulty (fs ++ gs)
  | faulty _, ok a => ok a
  | ok a, _ => ok a

end Checked

/-- A check of a piece of data. -/
abbrev Check (α : Type) := Data → Checked α

namespace Check

def itemsFrom {α : Type} (check : Check α) : Nat → List Data → Checked (List α)
  | _, [] => .ok []
  | n, d :: ds => .cons <$> (check d).under (.index n) <*> itemsFrom check (n + 1) ds

/-- A list, each of whose items passes. -/
def list {α : Type} (check : Check α) : Check (List α)
  | .list items => itemsFrom check 0 items
  | d => .fail .listType d

/-- Null, or what passes. -/
def option {α : Type} (check : Check α) : Check (Option α)
  | .atom .null => .ok none
  | d => some <$> check d

/-- A map, from whose entries a record is read. -/
def record {α : Type} (read : List (Atom × Data) → Checked α) : Check α
  | .map entries => read entries
  | d => .fail .recordType d

/-- A value that must also meet a condition. -/
def satisfying {α : Type} (check : Check α) (condition : α → Bool) (cause : Cause) : Check α :=
  fun d => (check d).andThen fun a => if condition a then .ok a else .fail cause d

/-- A field that must be there. -/
def required {α : Type} (entries : List (Atom × Data)) (name : String) (check : Check α) :
    Checked α :=
  Checked.under (.field name) <|
    match Data.field? entries name with
    | some d => check d
    | none => .fail .missing (.map entries)

/-- A field with a value to take when it is not there. -/
def optional {α : Type} (entries : List (Atom × Data)) (name : String) (default : α)
    (check : Check α) : Checked α :=
  match Data.field? entries name with
  | some d => (check d).under (.field name)
  | none => .ok default

/-- A field that may be left out or null. -/
def nullable {α : Type} (entries : List (Atom × Data)) (name : String) (check : Check α) :
    Checked (Option α) :=
  optional entries name none (option check)

end Check

namespace Cause

/-- The name of a cause. -/
def code : Cause → String
  | missing => "missing"
  | stringType => "string_type"
  | stringTooShort => "string_too_short"
  | stringUnicode => "string_unicode"
  | choice => "enum"
  | literal => "literal_error"
  | boolType => "bool_type"
  | boolParsing => "bool_parsing"
  | intType => "int_type"
  | intParsing => "int_parsing"
  | intParsingSize => "int_parsing_size"
  | intFromFloat => "int_from_float"
  | finiteNumber => "finite_number"
  | floatType => "float_type"
  | floatParsing => "float_parsing"
  | atLeast => "greater_than_equal"
  | atMost => "less_than_equal"
  | dateType => "date_type"
  | dateRange => "date_parsing"
  | dateParsing => "date_from_datetime_parsing"
  | dateInexact => "date_from_datetime_inexact"
  | datetimeType => "datetime_type"
  | datetimeParsing => "datetime_parsing"
  | datetimeFromDateParsing => "datetime_from_date_parsing"
  | listType => "list_type"
  | dictType => "dict_type"
  | recordType => "model_type"
  | recordOrAttributes => "model_attributes_type"
  | tagNotFound => "union_tag_not_found"
  | tagInvalid => "union_tag_invalid"
  | rule _ => "value_error"
  | expression .. => "value_error"

/-- What is said of a text or a truth value that does not pass. -/
def message : Cause → String
  | stringType => "Input should be a valid string"
  | stringTooShort => "String should have at least 1 character"
  | stringUnicode => "Input should be a valid string, unable to parse raw data as a unicode string"
  | boolType => "Input should be a valid boolean"
  | rule message => "Value error, " ++ message
  | cause => cause.code

end Cause

/-- The message and the field of the first fault that stands for the whole document. -/
def Fault.refusal? (faults : List Fault) : Option (Text × Option String) :=
  faults.findSome? fun f =>
    match f.cause with
    | .expression message field => some (message, field)
    | _ => none

end Screening
