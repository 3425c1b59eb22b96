import Screening.Data.Display
import Screening.ErrorKind
import Screening.Text.Numeral

/-!
# Failures

Why a screening, or a request about its results, is refused or breaks off. A failure can be made of
the arguments that its kind takes.
-/

namespace Screening

inductive Failure where
  | general (message : Text)
  /-- What is referred to does not exist. -/
  | notFound (entity : Text) (identifier : Data) (message : Option Text)
  /-- A criteria set of one client is used for another. -/
  | forbidden (message : Text)
  | badExpression (message : Text) (field : Option Text)
  | badRequest (message : Text) (field : Option Text)
  /-- The result could not be stored. -/
  | persistence (message : Text)
  /-- A text would hold an integer that is too long to be written. -/
  | overlong

namespace Failure

def kind : Failure → ErrorKind
  | general _ => .screening
  | notFound .. => .notFound
  | forbidden _ => .forbidden
  | badExpression .. => .badExpression
  | badRequest .. => .badRequest
  | persistence _ => .persistence
  | overlong => .value

/-- The word by which an outer layer tells failures apart. What is no failure of screening has
none. -/
def word? : Failure → Option String
  | general _ => some "error"
  | notFound .. => some "not_found"
  | forbidden _ => some "forbidden"
  | badExpression .. | badRequest .. => some "validation"
  | persistence _ => some "persistence"
  | overlong => none

/-- A failure to find something that has no message tells what was looked for. -/
def message : Failure → Text
  | notFound entity identifier message =>
    match message with
    | none => entity ++ " not found: " ++ identifier.display
    | some m => if m.isEmpty then entity ++ " not found: " ++ identifier.display else m
  | general m | forbidden m | badExpression m _ | badRequest m _ | persistence m => m
  | overlong => Text.Numeral.unwrittenMessage

/-- The field of a document that a failure is about. -/
def field? : Failure → Option Text
  | badExpression _ f | badRequest _ f => f
  | _ => none

/-! ### Making failures -/

/-- The arguments that are taken: the names of those that must be given, and how many more there may
be. The owner is the kind that takes them, or from which it is taken over. -/
structure Signature where
  owner : ErrorKind
  required : List Text
  optional : Nat

def signature : ErrorKind → Signature
  | .notFound => ⟨.notFound, ["entity", "identifier"], 1⟩
  | .badExpression => ⟨.badExpression, ["message"], 1⟩
  | .badRequest => ⟨.badRequest, ["message"], 1⟩
  | _ => ⟨.screening, ["message"], 0⟩

/-- What is wrong with the number of arguments that are given. -/
def Signature.misfit? (s : Signature) (given : Nat) : Option Text :=
  let missing := (s.required.drop given).map fun name => ("'" : Text) ++ name ++ "'"
  let least := s.required.length + 1
  if given < s.required.length then
    some (s.owner.name ++ ".__init__() missing " ++ toString missing.length ++
      " required positional argument" ++ (if missing.length = 1 then "" else "s") ++ ": " ++
      Text.intercalate " and " missing)
  else if s.required.length + s.optional < given then
    some (s.owner.name ++ ".__init__() takes " ++
      (if s.optional = 0 then toString least else s!"from {least} to {least + s.optional}") ++
      " positional arguments but " ++ toString (given + 1) ++ " were given")
  else none

/-- An argument that may be left out, or be false, or be a text. -/
def given? : Data → Option Text
  | .atom (.scalar (.text t)) => some t
  | d => if d.isTruthy then some d.display else none

/-- The failure of a kind that is made of some arguments, or the message about their number. -/
def make (kind : ErrorKind) (arguments : List Data) : Except Text Failure :=
  let argument (n : Nat) : Data := arguments.getD n .null
  let message := (argument 0).display
  match (signature kind).misfit? arguments.length with
  | some why => .error why
  | none => .ok <|
    match kind with
    | .notFound => .notFound message (argument 1) (given? (argument 2))
    | .forbidden => .forbidden message
    | .badExpression => .badExpression message (given? (argument 1))
    | .badRequest => .badRequest message (given? (argument 1))
    | .persistence => .persistence message
    | _ => .general message

end Failure

end Screening
