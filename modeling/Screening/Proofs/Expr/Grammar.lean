import Mathlib.Data.List.Forall2
import Screening.Expr.Problem
import Screening.Proofs.Table

/-!
# The grammar of expressions

`WellFormed` says what data is an expression, up to what may stand for a name and for an operand and
whether conditions may be left out. `Denotes` says which expression it is: what is well formed under
the strict grammar denotes one (`wellFormed_iff_denotes`).
-/

namespace Screening

/-- Decoded data is made of null, scalars, lists and maps. -/
inductive Data.Plain : Data → Prop
  | null : Plain .null
  | scalar (s : Scalar) : Plain (.scalar s)
  | list {items : List Data} (each : ∀ d ∈ items, Plain d) : Plain (.list items)
  | map {entries : List (Atom × Data)} (each : ∀ e ∈ entries, Plain e.2) : Plain (.map entries)

theorem Data.plain_object {fields : List (Text × Data)} (each : ∀ f ∈ fields, f.2.Plain) :
    (Data.object fields).Plain := by
  refine .map fun e member => ?_
  obtain ⟨f, field, rfl⟩ := List.mem_map.mp member
  exact each f field

namespace Expr

structure Grammar where
  name : Data → Prop
  operand : Data → Prop
  /-- Conditions that are left out count as none at all. -/
  omits : Bool

/-- A text that is not empty. -/
def NonEmptyText (d : Data) : Prop := ∃ t : Text, d = .text t ∧ t ≠ ""

def IsName (d : Data) : Prop := ∃ t : Text, d = .text t ∧ t.IsName

/-- A scalar or a flat list of scalars. -/
def IsOperand (d : Data) : Prop := ∃ o : Operand, d = o.toData

namespace Grammar

/-- Any text that is not empty counts as a name, even with surrogates. -/
def lax : Grammar := ⟨NonEmptyText, IsOperand, false⟩

def strict (omits : Bool) : Grammar := ⟨IsName, IsOperand, omits⟩

/-- The structure without the operands. -/
def outline : Grammar := ⟨NonEmptyText, (· ≠ .null), false⟩

end Grammar

/-- The conditions of a node that combines others. -/
def conditions? (omits : Bool) (entries : List (Atom × Data)) : Option (List Data) :=
  match Data.field? entries "conditions" with
  | some (.list cs) => some cs
  | some _ => none
  | none => if omits then some [] else none

inductive WellFormed (g : Grammar) : Data → Prop
  | comparison {entries : List (Atom × Data)} {name operand : Data} {op : Operator}
      (type : Data.field? entries "type" = some (.text "comparison"))
      (parameter : Data.field? entries "parameter" = some name) (named : g.name name)
      (operator : Data.field? entries "operator" = some (.text op.token))
      (value : Data.field? entries "value" = some operand) (compared : g.operand operand) :
      WellFormed g (.map entries)
  | combined {entries : List (Atom × Data)} {kind : Kind} {cs : List Data}
      (type : Data.field? entries "type" = some (.text kind.name))
      (conditions : conditions? g.omits entries = some cs)
      (single : kind = .not → cs.length = 1) (each : ∀ d ∈ cs, WellFormed g d) :
      WellFormed g (.map entries)

/-- The node of a kind with these conditions. -/
def Kind.node? : Kind → List Expr → Option Expr
  | .all, es => some (.all es)
  | .any, es => some (.any es)
  | .not, [e] => some (.not e)
  | .not, _ => none

inductive Denotes (omits : Bool) : Data → Expr → Prop
  | comparison {entries : List (Atom × Data)} {c : Comparison}
      (type : Data.field? entries "type" = some (.text "comparison"))
      (parameter : Data.field? entries "parameter" = some (.text c.parameter))
      (operator : Data.field? entries "operator" = some (.text c.operator.token))
      (value : Data.field? entries "value" = some c.operand.toData) :
      Denotes omits (.map entries) (.comparison c)
  | combined {entries : List (Atom × Data)} {kind : Kind} {cs : List Data} {es : List Expr}
      {e : Expr} (type : Data.field? entries "type" = some (.text kind.name))
      (conditions : conditions? omits entries = some cs)
      (each : List.Forall₂ (Denotes omits) cs es) (node : kind.node? es = some e) :
      Denotes omits (.map entries) e

variable {g g' : Grammar} {omits : Bool} {entries : List (Atom × Data)} {cs : List Data}
  {kind : Kind} {es : List Expr} {d : Data} {e : Expr}

/-! ### Conditions -/

theorem conditions?_omitting (found : conditions? omits entries = some cs) :
    conditions? true entries = some cs := by
  unfold conditions? at found ⊢
  split at found
  · exact found
  · cases found
  · split at found
    · exact found
    · cases found

theorem conditions?_lt (found : conditions? omits entries = some cs) (member : d ∈ cs) :
    sizeOf d < sizeOf (Data.map entries) := by
  unfold conditions? at found
  split at found
  · rename_i items field
    obtain rfl := Option.some.inj found
    have entry := List.sizeOf_lt_of_mem (Entries.mem_of_get? field)
    have item := List.sizeOf_lt_of_mem member
    simp only [Prod.mk.sizeOf_spec, Data.list.sizeOf_spec, Data.map.sizeOf_spec] at entry ⊢
    omega
  · cases found
  · split at found
    · obtain rfl := Option.some.inj found
      cases member
    · cases found

/-- An induction over the nodes of what may be an expression. -/
theorem byConditions {motive : Data → Prop}
    (node : ∀ d, (∀ omits entries cs, d = .map entries → conditions? omits entries = some cs →
      ∀ c ∈ cs, motive c) → motive d) (d : Data) : motive d := by
  induction size : sizeOf d using Nat.strongRecOn generalizing d with
  | _ n ih =>
    refine node d ?_
    rintro omits entries cs rfl found c member
    exact ih (sizeOf c) (size ▸ conditions?_lt found member) c rfl

theorem Kind.node?_eq_none : kind.node? es = none ↔ kind = .not ∧ es.length ≠ 1 := by
  match kind, es with
  | .all, es => simp [node?]
  | .any, es => simp [node?]
  | .not, [e] => simp [node?]
  | .not, [] => simp [node?]
  | .not, _ :: _ :: _ => simp [node?]

/-! ### Well-formed data and what it denotes -/

theorem WellFormed.mono (names : ∀ d, g.name d → g'.name d)
    (operands : ∀ d, g.operand d → g'.operand d)
    (conditions : ∀ entries cs, conditions? g.omits entries = some cs →
      conditions? g'.omits entries = some cs) (formed : WellFormed g d) : WellFormed g' d := by
  induction formed with
  | comparison type parameter named operator value compared =>
    exact .comparison type parameter (names _ named) operator value (operands _ compared)
  | combined type found single _ ih => exact .combined type (conditions _ _ found) single ih

theorem forall₂_of_each {α β : Type} {R : α → β → Prop} {as : List α}
    (each : ∀ a ∈ as, ∃ b, R a b) : ∃ bs, List.Forall₂ R as bs := by
  induction as with
  | nil => exact ⟨[], .nil⟩
  | cons a as ih =>
    obtain ⟨b, first⟩ := each a List.mem_cons_self
    obtain ⟨bs, others⟩ := ih fun a member => each a (List.mem_cons_of_mem _ member)
    exact ⟨b :: bs, .cons first others⟩

theorem exists_of_forall₂ {α β : Type} {R : α → β → Prop} {as : List α} {bs : List β} {a : α}
    (each : List.Forall₂ R as bs) (member : a ∈ as) : ∃ b, R a b := by
  induction each with
  | nil => cases member
  | @cons a' b _ _ first _ ih =>
    rcases List.mem_cons.mp member with rfl | later
    · exact ⟨b, first⟩
    · exact ih later

theorem forall₂_imp_of_mem {α β : Type} {R S : α → β → Prop} {as : List α} {bs : List β}
    (each : List.Forall₂ R as bs) (imp : ∀ a ∈ as, ∀ b, R a b → S a b) : List.Forall₂ S as bs := by
  induction each with
  | nil => exact .nil
  | @cons a b as bs first _ ih =>
    have others := ih fun a member => imp a (List.mem_cons_of_mem _ member)
    exact .cons (imp a List.mem_cons_self b first) others

theorem WellFormed.denotes (formed : WellFormed (.strict omits) d) : ∃ e, Denotes omits d e := by
  induction formed with
  | @comparison entries name operand op type parameter named operator value compared =>
    obtain ⟨t, rfl, named⟩ := named
    obtain ⟨o, rfl⟩ := compared
    exact ⟨.comparison ⟨t, op, o, named⟩, .comparison type parameter operator value⟩
  | @combined entries kind cs type conditions single _ ih =>
    obtain ⟨es, each⟩ := forall₂_of_each ih
    cases node : kind.node? es with
    | some e => exact ⟨e, .combined type conditions each node⟩
    | none =>
      obtain ⟨negation, count⟩ := Kind.node?_eq_none.mp node
      rw [← each.length_eq] at count
      exact absurd (single negation) count

theorem Denotes.wellFormed (denotes : Denotes omits d e) : WellFormed (.strict omits) d := by
  induction d using byConditions generalizing e with
  | node d ih =>
    cases denotes with
    | @comparison _ c type parameter operator value =>
      exact .comparison type parameter ⟨c.parameter, rfl, c.named⟩ operator value ⟨c.operand, rfl⟩
    | combined type conditions each node =>
      refine .combined type conditions ?_ ?_
      · rintro rfl
        by_contra count
        rw [each.length_eq] at count
        rw [Kind.node?_eq_none.mpr ⟨rfl, count⟩] at node
        cases node
      · intro c member
        obtain ⟨e', denoted⟩ := exists_of_forall₂ each member
        exact ih omits _ _ rfl conditions c member denoted

theorem wellFormed_iff_denotes : WellFormed (.strict omits) d ↔ ∃ e, Denotes omits d e :=
  ⟨WellFormed.denotes, fun ⟨_, denotes⟩ => denotes.wellFormed⟩

end Expr

end Screening
