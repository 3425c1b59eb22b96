import Screening.Number
import Screening.Table
import Screening.Text
import Screening.Timestamp

/-!
# Decoded data

`Data` is what a document holds once it is decoded and before anything is known of its shape.
Values of parameters and operands of comparisons are `Scalar`s; the keys of a map are atoms, and in
most documents texts.
-/

namespace Screening

inductive Scalar where
  | bool (b : Bool)
  | int (n : Int)
  | float (x : Binary64)
  | text (t : Text)
  deriving DecidableEq

inductive Atom where
  | null
  | scalar (s : Scalar)
  | date (d : Date)
  /-- Bytes that have not been decoded to text. -/
  | bytes (bs : List UInt8)
  | moment (t : Timestamp)
  deriving DecidableEq

inductive Data where
  | atom (a : Atom)
  | list (items : List Data)
  | map (entries : List (Atom × Data))

/-- The number a scalar is. Truth values are no numbers. -/
def Scalar.number? : Scalar → Option Number
  | .int n => some (.int n)
  | .float x => some (.float x)
  | _ => none

namespace Atom

/-- The number that an atom counts as; truth values count as zero and one. -/
def number? : Atom → Option Number
  | .scalar (.bool b) => some (.int (if b then 1 else 0))
  | .scalar s => s.number?
  | _ => none

/-- Numbers of equal value are the same. -/
def same (a b : Atom) : Bool :=
  match a.number?, b.number? with
  | some m, some n => m.equal n
  | _, _ => a == b

end Atom

namespace Data

def null : Data := .atom .null

def scalar (s : Scalar) : Data := .atom (.scalar s)

def bool (b : Bool) : Data := .scalar (.bool b)

def int (n : Int) : Data := .scalar (.int n)

def float (x : Binary64) : Data := .scalar (.float x)

def text (t : Text) : Data := .scalar (.text t)

def date (d : Date) : Data := .atom (.date d)

/-- A map whose keys are texts. -/
def object (fields : List (Text × Data)) : Data :=
  .map (fields.map fun f => (.scalar (.text f.1), f.2))

def option {α : Type} (encode : α → Data) : Option α → Data
  | none => null
  | some a => encode a

def texts (ts : List Text) : Data :=
  .list (ts.map text)

/-- The entry of a map under a text. -/
def field? (entries : List (Atom × Data)) (name : Text) : Option Data :=
  Entries.get? entries (.scalar (.text name))

def isNull : Data → Bool
  | .atom .null => true
  | _ => false

/-- Empty, zero, false and null are not. -/
def isTruthy : Data → Bool
  | .atom .null => false
  | .atom (.scalar (.bool b)) => b
  | .atom (.scalar (.int n)) => n != 0
  | .atom (.scalar (.float x)) => !x.isZero
  | .atom (.scalar (.text t)) => !t.isEmpty
  | .atom (.date _) | .atom (.moment _) => true
  | .atom (.bytes bs) => !bs.isEmpty
  | .list items => !items.isEmpty
  | .map entries => !entries.isEmpty

/-- The name of the kind of a value, as messages give it. -/
def kindName : Data → String
  | .atom .null => "NoneType"
  | .atom (.scalar (.bool _)) => "bool"
  | .atom (.scalar (.int _)) => "int"
  | .atom (.scalar (.float _)) => "float"
  | .atom (.scalar (.text _)) => "str"
  | .atom (.date _) => "date"
  | .atom (.bytes _) => "bytes"
  | .atom (.moment _) => "datetime"
  | .list _ => "list"
  | .map _ => "dict"

/-- The name of the kind of a value, as messages about what cannot be done with it give it: kinds of
the calendar are named in full. -/
def fullKindName : Data → String
  | .atom (.date _) => "datetime.date"
  | .atom (.moment _) => "datetime.datetime"
  | d => d.kindName

end Data

end Screening
