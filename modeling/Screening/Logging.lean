import Screening.ErrorKind
import Screening.Operator
import Screening.Text.Digit
import Screening.Text.Printable
import Screening.Text.Quoted

/-!
# Logging set-up

How log lines are laid out and from which level on they are shown. A layout must have at least one
field: a percent sign, a name in parentheses, perhaps flags, a width and a precision, and the letter
of a conversion.
-/

namespace Screening

inductive LogLevel where
  | warning
  | error
  deriving DecidableEq

def LogLevel.name : LogLevel → String
  | warning => "WARNING"
  | error => "ERROR"

structure LogLine where
  level : LogLevel
  text : Text
  deriving DecidableEq

/-! ### Layouts -/

namespace LogFormat

/-- Letters, digits and underscores; beyond ASCII whatever can be printed. -/
def isNameChar (c : Char) : Bool :=
  c.isAlphanum || c == '_' || (c.toNat > 127 && Text.isPrintable c)

/-- Letters of conversions, in any case, and a percent sign. -/
def isConversion (c : Char) : Bool :=
  "diouxefgcrsa%DIOUXEFGCRSA\u0130\u0131\u017f".toList.contains c

def isFlag (c : Char) : Bool := "#0+ -".toList.contains c

def isDigit (c : Char) : Bool := (Text.digitValue? c).isSome

/-- What follows a star or a number, if there is one. -/
def afterAmount : List Char → List Char
  | '*' :: rest => rest
  | cs => cs.dropWhile isDigit

/-- What follows a precision, if there is one; nothing when it has no amount. -/
def afterPrecision : List Char → List Char
  | '.' :: rest =>
    let after := afterAmount rest
    if after.length < rest.length then after else []
  | cs => cs

/-- Whether a field starts here. -/
def isField : List Char → Bool
  | '%' :: '(' :: rest =>
    match rest.takeWhile isNameChar, rest.dropWhile isNameChar with
    | _ :: _, ')' :: rest =>
      ((afterPrecision (afterAmount (rest.dropWhile isFlag))).head?.map isConversion).getD false
    | _, _ => false
  | _ => false

def hasField : List Char → Bool
  | [] => false
  | c :: cs => isField (c :: cs) || hasField cs

end LogFormat

/-! ### Levels -/

def levelNames : List (String × Int) := [
  ("CRITICAL", 50), ("FATAL", 50), ("ERROR", 40), ("WARN", 30), ("WARNING", 30), ("INFO", 20),
  ("DEBUG", 10), ("NOTSET", 0)]

inductive LogSetupError where
  | unknownLevel (name : Text)
  | noField (format : Text)

def LogSetupError.kind : LogSetupError → ErrorKind
  | unknownLevel _ | noField _ => .value

def LogSetupError.message : LogSetupError → Text
  | unknownLevel name => "Unknown level: " ++ name.quote
  | noField format => "Invalid format '" ++ format ++ "' for '%' style"

structure LogSetup where
  level : Int := 20
  format : Text := "%(asctime)s | %(levelname)-8s | %(name)s | %(message)s"
  dateFormat : Text := "%Y-%m-%d %H:%M:%S"
  deriving DecidableEq

namespace LogSetup

/-- Lay lines out in this way; an empty layout shows the message alone. -/
def withFormat (s : LogSetup) (format : Text) : Except LogSetupError LogSetup :=
  if format.isEmpty then .ok { s with format := "%(message)s" }
  else if LogFormat.hasField (format.points.map fun p => p.char?.getD '\x00') then
    .ok { s with format }
  else .error (.noField format)

/-- Show lines from the level of that name on. -/
def withLevel (s : LogSetup) (name : Text) : Except LogSetupError LogSetup :=
  match name.string?.bind fun n => levelNames.lookup n with
  | some level => .ok { s with level }
  | none => .error (.unknownLevel name)

/-- Set up a layout and a level, each only if it is given. A level is a number or a name. -/
def read (format level : Data) : Except LogSetupError LogSetup := do
  let setup ← match format.text? with
    | some t => ({} : LogSetup).withFormat t
    | none => .ok {}
  match level with
  | .atom (.scalar (.int n)) => return { setup with level := n }
  | .atom (.scalar (.text name)) => setup.withLevel name
  | _ => return setup

end LogSetup

end Screening
