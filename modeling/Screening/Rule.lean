import Screening.Expr.Reader

/-!
# Rules and criteria sets

The expression of a rule describes what must not be: a company for which it is true violates the
rule. A criteria set is a versioned list of rules, which belongs to everyone or to one client.
-/

namespace Screening

/-- Only a failed `exclude` rule makes a company fail. -/
inductive Severity where
  | exclude
  | warn
  | info
  deriving DecidableEq

namespace Severity

def name : Severity → String
  | exclude => "exclude"
  | warn => "warn"
  | info => "info"

def ofName? (s : String) : Option Severity :=
  [exclude, warn, info].find? fun v => v.name == s

end Severity

structure Rule where
  id : Text
  name : Text
  description : Option Text
  expression : Expr
  failureMessage : Option Text
  severity : Severity
  deriving DecidableEq

/-- A criteria set as the results of its use name it. -/
structure CriteriaSetRef where
  id : Text
  name : Text
  version : Int
  isGlobal : Bool
  ownerId : Option Text
  deriving DecidableEq

structure CriteriaSet where
  id : Text
  name : Text
  version : Int
  description : Option Text
  isGlobal : Bool
  /-- The client that owns a set that is not global. -/
  ownerId : Option Text
  rules : List Rule
  deriving DecidableEq

namespace Rule

/-- An expression as data, as JSON text or as bytes that encode such text. -/
def checkExpression : Check Expr := fun d =>
  match d with
  | .atom (.scalar (.text _)) | .atom (.bytes _) | .map _ =>
    match Expr.read d with
    | .ok e => .ok e
    | .error (.invalid why) => .fail (.expression why.message why.field?) d
    | .error (.oversized digits) => .fail (.rule (Text.Numeral.oversizedMessage digits)) d
    | .error (.nested bracket) => .fail (.rule bracket.nestedMessage) d
    | .error (.undecodable fault) => .fail (.rule fault.message) d
    | .error .untellable => .fail (.rule Text.Numeral.unwrittenMessage) d
  | d => .fail .recordOrAttributes d

def check : Check Rule :=
  Check.record fun entries =>
    Rule.mk
      <$> Check.required entries "id" Check.text
      <*> Check.required entries "name" Check.text
      <*> Check.nullable entries "description" Check.text
      <*> Check.required entries "expression" checkExpression
      <*> Check.nullable entries "failure_message" Check.text
      <*> Check.optional entries "severity" .exclude (Check.oneOf Severity.ofName?)

def isComparison (r : Rule) : Bool :=
  match r.expression with
  | .comparison _ => true
  | _ => false

end Rule

namespace CriteriaSetRef

def check : Check CriteriaSetRef :=
  Check.record fun entries =>
    CriteriaSetRef.mk
      <$> Check.required entries "id" Check.text
      <*> Check.required entries "name" Check.text
      <*> Check.required entries "version" Check.int
      <*> Check.required entries "is_global" Check.bool
      <*> Check.nullable entries "owner_id" Check.text

def toData (c : CriteriaSetRef) : Data :=
  .object [("id", .text c.id), ("name", .text c.name), ("version", .int c.version),
    ("is_global", .bool c.isGlobal), ("owner_id", .option .text c.ownerId)]

end CriteriaSetRef

namespace CriteriaSet

def check : Check CriteriaSet :=
  Check.record fun entries =>
    CriteriaSet.mk
      <$> Check.required entries "id" Check.text
      <*> Check.required entries "name" Check.text
      <*> Check.optional entries "version" 1 (Check.intFrom 1)
      <*> Check.nullable entries "description" Check.text
      <*> Check.optional entries "is_global" true Check.bool
      <*> Check.nullable entries "owner_id" Check.text
      <*> Check.optional entries "rules" [] (Check.list Rule.check)

def reference (c : CriteriaSet) : CriteriaSetRef :=
  ⟨c.id, c.name, c.version, c.isGlobal, c.ownerId⟩

/-- The fields of a criteria set apart from its rules. -/
def headData (c : CriteriaSet) : Data :=
  .object [("id", .text c.id), ("name", .text c.name), ("version", .int c.version),
    ("description", .option .text c.description), ("is_global", .bool c.isGlobal),
    ("owner_id", .option .text c.ownerId)]

end CriteriaSet

/-! ### Parameters that rules refer to -/

/-- What parameters are collected from: expressions, rules, and groups of these. -/
inductive Referrer where
  | expr (e : Expr)
  | rule (r : Rule)
  | group (members : List Referrer)

namespace Referrer

mutual

/-- The names referred to, with repeats. -/
def names : Referrer → List Text
  | .expr e => e.required
  | .rule r => r.expression.required
  | .group members => namesAll members

def namesAll : List Referrer → List Text
  | [] => []
  | r :: rs => r.names ++ namesAll rs

end

def required (r : Referrer) : List Text := sortedNames r.names

end Referrer

/-- The names of the parameters that a criteria set refers to. -/
def CriteriaSet.required (c : CriteriaSet) : List Text :=
  (Referrer.group (c.rules.map .rule)).required

end Screening
