import Screening.Data.Display
import Screening.Json.Writer
import Screening.Lookup
import Screening.Operator
import Screening.Text.Encoding

/-!
# Rule expressions

An expression is a tree of comparisons under conjunctions, disjunctions and negations. `toData`
gives its form as data, in which each node carries its kind under `type`; `json` is the text of
that form and `display` a shorter one for readers.
-/

namespace Screening

/-- What a parameter is compared with. -/
inductive Operand where
  | scalar (s : Scalar)
  | list (items : List Scalar)
  deriving DecidableEq

def Operand.toData : Operand → Data
  | .scalar s => .scalar s
  | .list items => .list (items.map Data.scalar)

/-- The texts that a comparison is made with. -/
def Operand.texts : Operand → List Text
  | .scalar (.text t) => [t]
  | .scalar _ => []
  | .list items => items.filterMap fun s =>
    match s with
    | .text t => some t
    | _ => none

structure Comparison where
  parameter : Text
  operator : Operator
  operand : Operand
  named : parameter.IsName
  deriving DecidableEq

namespace Comparison

def toData (c : Comparison) : Data :=
  .object [("type", .text "comparison"), ("parameter", .text c.parameter),
    ("operator", .text c.operator.token), ("value", c.operand.toData)]

def display (c : Comparison) : Text :=
  c.parameter ++ " " ++ c.operator.token ++ " " ++ c.operand.toData.literal

end Comparison

inductive Expr where
  | comparison (c : Comparison)
  | all (conditions : List Expr)
  | any (conditions : List Expr)
  | not (condition : Expr)

namespace Expr

mutual

def decEq : (a b : Expr) → Decidable (a = b)
  | .comparison c, .comparison d =>
    if h : c = d then isTrue (by rw [h]) else isFalse (by simp [h])
  | .all cs, .all ds =>
    match decEqList cs ds with
    | isTrue h => isTrue (by rw [h])
    | isFalse h => isFalse (by simp [h])
  | .any cs, .any ds =>
    match decEqList cs ds with
    | isTrue h => isTrue (by rw [h])
    | isFalse h => isFalse (by simp [h])
  | .not e, .not f =>
    match decEq e f with
    | isTrue h => isTrue (by rw [h])
    | isFalse h => isFalse (by simp [h])
  | .comparison _, .all _ | .comparison _, .any _ | .comparison _, .not _
  | .all _, .comparison _ | .all _, .any _ | .all _, .not _
  | .any _, .comparison _ | .any _, .all _ | .any _, .not _
  | .not _, .comparison _ | .not _, .all _ | .not _, .any _ => isFalse (by simp)

def decEqList : (as bs : List Expr) → Decidable (as = bs)
  | [], [] => isTrue rfl
  | [], _ :: _ | _ :: _, [] => isFalse (by simp)
  | a :: as, b :: bs =>
    match decEq a b, decEqList as bs with
    | isTrue h, isTrue hs => isTrue (by rw [h, hs])
    | isFalse h, _ => isFalse (by simp [h])
    | _, isFalse hs => isFalse (by simp [hs])

end

instance : DecidableEq Expr := decEq

/-- The form of a node that combines others. -/
def node (kind : Text) (conditions : List Data) : Data :=
  .object [("type", .text kind), ("conditions", .list conditions)]

mutual

def toData : Expr → Data
  | .comparison c => c.toData
  | .all cs => node "AND" (listData cs)
  | .any cs => node "OR" (listData cs)
  | .not e => node "NOT" [toData e]

def listData : List Expr → List Data
  | [] => []
  | e :: es => e.toData :: listData es

end

/-- The text an expression is stored as. -/
def json (e : Expr) : Text := ⟨Json.write Json.compact e.toData⟩

/-- Conditions in parentheses, joined by the kind of their node. -/
def joined (kind : Text) : List Text → Text
  | [] => kind ++ "()"
  | cs => Text.intercalate (" " ++ kind ++ " ") (cs.map fun c => "(" ++ c ++ ")")

mutual

def display : Expr → Text
  | .comparison c => c.display
  | .all cs => joined "AND" (displays cs)
  | .any cs => joined "OR" (displays cs)
  | .not e => "NOT (" ++ e.display ++ ")"

def displays : List Expr → List Text
  | [] => []
  | e :: es => e.display :: displays es

end

/-! ### Comparisons in an expression -/

mutual

/-- The comparisons of an expression from left to right. -/
def comparisons : Expr → List Comparison
  | .comparison c => [c]
  | .all cs => comparisonsAll cs
  | .any cs => comparisonsAll cs
  | .not e => e.comparisons

def comparisonsAll : List Expr → List Comparison
  | [] => []
  | e :: es => e.comparisons ++ comparisonsAll es

end

/-- Why the text of an expression has no encoding, if so: the first operand with surrogates. -/
def encodeFault? (e : Expr) : Option Text.EncodeFault :=
  e.comparisons.findSome? fun c => c.operand.texts.findSome? Text.encodeFault?

mutual

/-- The number of nodes. -/
def size : Expr → Nat
  | .comparison _ => 1
  | .all cs => sizeAll cs + 1
  | .any cs => sizeAll cs + 1
  | .not e => e.size + 1

def sizeAll : List Expr → Nat
  | [] => 0
  | e :: es => e.size + sizeAll es

end

theorem size_pos (e : Expr) : 0 < e.size := by
  cases e <;> simp [size]

@[simp] theorem sizeAll_append (cs ds : List Expr) :
    sizeAll (cs ++ ds) = sizeAll cs + sizeAll ds := by
  induction cs with
  | nil => simp [sizeAll]
  | cons c cs ih => simp [sizeAll, ih, Nat.add_assoc]

/-- Visit the nodes of the expressions on a stack, the conditions of a node taking its place. -/
def visit : List Expr → List Comparison
  | [] => []
  | .comparison c :: rest => c :: visit rest
  | .all cs :: rest => visit (cs ++ rest)
  | .any cs :: rest => visit (cs ++ rest)
  | .not e :: rest => visit (e :: rest)
termination_by stack => sizeAll stack
decreasing_by all_goals simp [sizeAll, size]

/-- The names of the parameters an expression refers to. -/
def required (e : Expr) : List Text :=
  sortedNames ((visit [e]).map (·.parameter))

end Expr

end Screening
