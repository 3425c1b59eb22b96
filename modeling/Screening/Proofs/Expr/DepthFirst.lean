import Screening.Proofs.Expr.Structure
import Screening.Schema

/-!
# Nodes in depth-first order

A node comes before its conditions, and these come from left to right. `First` is the first node in
that order with some property, and `Leads` says where a path through the data ends. The structural
check finds what is wrong with the first node that has anything wrong with itself:
`find?_of_first`.
-/

namespace Screening.Expr

variable {P : Data → Prop} {d c x node : Data} {kind : Kind} {cs : List Data}
  {path steps : List Step} {problem : Problem}

/-- The data is a node of a kind over these conditions. -/
def Combines (d : Data) (kind : Kind) (cs : List Data) : Prop :=
  ∃ entries, d = .map entries ∧ Data.field? entries "type" = some (.text kind.name) ∧
    Data.field? entries "conditions" = some (.list cs)

/-- The way from a node of a kind to one of its conditions. -/
def Kind.wayTo (kind : Kind) (n : Nat) : List Step :=
  [.field kind.name, .field "conditions", .index n]

/-- Some node has the property. -/
inductive Occurs (P : Data → Prop) : Data → Prop
  | here {d : Data} (holds : P d) : Occurs P d
  | under {d c : Data} {kind : Kind} {cs : List Data} (combines : Combines d kind cs)
      (member : c ∈ cs) (inner : Occurs P c) : Occurs P d

/-- The first node with the property, and the path that leads to it. -/
inductive First (P : Data → Prop) : Data → List Step → Data → Prop
  | here {d : Data} (holds : P d) : First P d [] d
  | under {d c node : Data} {kind : Kind} {before after : List Data} {path : List Step}
      (own : ¬P d) (combines : Combines d kind (before ++ c :: after))
      (clear : ∀ b ∈ before, ¬Occurs P b) (inner : First P c path node) :
      First P d (kind.wayTo before.length ++ path) node

/-- Where a path ends. A kind names the node that it is at, and what follows `value` is a kind of
scalar that the operand might have been. -/
inductive Leads : Data → List Step → Data → Prop
  | here (d : Data) : Leads d [] d
  | condition {d c x : Data} {kind : Kind} {cs : List Data} {n : Nat} {path : List Step}
      (combines : Combines d kind cs) (nth : cs[n]? = some c) (rest : Leads c path x) :
      Leads d (kind.wayTo n ++ path) x
  | parameter {entries : List (Atom × Data)} {x : Data}
      (type : Data.field? entries "type" = some (.text "comparison"))
      (found : Data.field? entries "parameter" = some x) :
      Leads (.map entries) [.field "comparison", .field "parameter"] x
  | operand {entries : List (Atom × Data)} {x : Data}
      (type : Data.field? entries "type" = some (.text "comparison"))
      (found : Data.field? entries "value" = some x) :
      Leads (.map entries) [.field "comparison", .field "value", .field "bool"] x

/-! ### The first node -/

theorem Combines.conditions {entries : List (Atom × Data)} (combines : Combines (.map entries) kind cs) :
    conditions? false entries = some cs := by
  obtain ⟨_, same, _, found⟩ := combines
  cases same
  unfold conditions?
  rw [found]

theorem Combines.inj {kind' : Kind} {cs' : List Data} (combines : Combines d kind cs)
    (combines' : Combines d kind' cs') : kind = kind' ∧ cs = cs' := by
  obtain ⟨entries, rfl, type, found⟩ := combines
  obtain ⟨_, same, type', found'⟩ := combines'
  cases same
  have tags : Tag.combined kind = .combined kind' :=
    Tag.name_inj (Option.some.inj (type.symm.trans type'))
  have lists := Option.some.inj (found.symm.trans found')
  cases tags
  cases lists
  exact ⟨rfl, rfl⟩

theorem First.holds (first : First P d path node) : P node := by
  induction first with
  | here holds => exact holds
  | under _ _ _ _ ih => exact ih

/-- Of the elements with a property there is a first one. -/
theorem exists_first {α : Type} {P : α → Prop} {l : List α} {a : α} (member : a ∈ l) (holds : P a) :
    ∃ before b after, l = before ++ b :: after ∧ P b ∧ ∀ a ∈ before, ¬P a := by
  induction l with
  | nil => cases member
  | cons b rest ih =>
    by_cases own : P b
    · exact ⟨[], b, rest, rfl, own, fun _ => List.not_mem_nil.elim⟩
    · have later : a ∈ rest := by
        rcases List.mem_cons.mp member with rfl | later
        · exact absurd holds own
        · exact later
      obtain ⟨before, b', after, rfl, holds', clear⟩ := ih later
      exact ⟨b :: before, b', after, rfl, holds', List.forall_mem_cons.mpr ⟨own, clear⟩⟩

theorem Occurs.first (occurs : Occurs P d) : ∃ path node, First P d path node := by
  induction d using byConditions with
  | node d ih =>
    by_cases own : P d
    · exact ⟨[], d, .here own⟩
    · cases occurs with
      | here holds => exact absurd holds own
      | @under _ c kind cs combines member inner =>
        -- The first condition with such a node in it need not be the one that is given.
        obtain ⟨before, b, after, rfl, inner', clear⟩ := exists_first member inner
        obtain ⟨entries, rfl, _⟩ := id combines
        obtain ⟨path, node, first⟩ := ih false entries _ rfl combines.conditions b
          (List.mem_append_right _ List.mem_cons_self) inner'
        exact ⟨_, node, .under own combines clear first⟩

theorem First.leads (first : First P d path node) (leads : Leads node steps x) :
    Leads d (path ++ steps) x := by
  induction first with
  | here _ => exact leads
  | under _ combines _ _ ih =>
    rw [List.append_assoc]
    exact .condition combines (by simp) (ih leads)

/-! ### The first problem -/

namespace Problem

/-- What is wrong with a node itself. -/
def own? : Data → Option Problem
  | .map entries =>
    match Data.field? entries "type" with
    | none => some untyped
    | some type =>
      if !type.isTruthy then some untyped
      else match Tag.ofData? type with
        | none => some (unknown type)
        | some .comparison => ofComparison? entries
        | some (.combined kind) =>
          match Data.field? entries "conditions" with
          | some (.list cs) => if kind = .not ∧ cs.length ≠ 1 then some (arity cs.length) else none
          | _ => some noConditions
  | _ => some notObject

/-- Something is wrong with the node itself. -/
def Ill (d : Data) : Prop := own? d ≠ none

theorem own?_combined {entries : List (Atom × Data)}
    (type : Data.field? entries "type" = some (.text kind.name)) :
    own? (.map entries) = match Data.field? entries "conditions" with
      | some (.list cs) => if kind = .not ∧ cs.length ≠ 1 then some (arity cs.length) else none
      | _ => some noConditions := by
  have tag : Tag.ofData? (.text kind.name) = some (.combined kind) :=
    Tag.ofData?_name (.combined kind)
  have truthy : (Data.text kind.name).isTruthy = true := Tag.isTruthy (.combined kind)
  rw [own?, type]
  dsimp only
  rw [truthy, tag]
  rfl

/-- The problem of a node is its own, or else that of its conditions. -/
theorem find?_eq_own_or (d : Data) : find? d = own? d ∨
    own? d = none ∧ ∃ kind cs, Combines d kind cs ∧ find? d = firstOf? cs := by
  cases d with
  | atom a => exact Or.inl (by rw [find?, own?] <;> rintro _ ⟨⟩)
  | list items => exact Or.inl (by rw [find?, own?] <;> rintro _ ⟨⟩)
  | map entries =>
    by_cases node : ∃ kind : Kind, Data.field? entries "type" = some (.text kind.name)
    · obtain ⟨kind, type⟩ := node
      rw [find?_of_type (.combined kind) type, own?_combined type, ofTagged?, ofEntries?_eq]
      cases found : Data.field? entries "conditions" with
      | none => exact Or.inl rfl
      | some conditions =>
        cases conditions with
        | atom a => exact Or.inl rfl
        | map es => exact Or.inl rfl
        | list cs =>
          dsimp only
          rw [ofConditions?]
          split
          · exact Or.inl rfl
          · exact Or.inr ⟨rfl, kind, cs, ⟨entries, rfl, type, found⟩, rfl⟩
    · refine Or.inl ?_
      rw [find?, own?]
      cases type : Data.field? entries "type" with
      | none => rfl
      | some t =>
        dsimp only
        cases tag : Tag.ofData? t with
        | none => rfl
        | some tag' =>
          cases tag' with
          | comparison => rfl
          | combined kind =>
            exact absurd ⟨kind, by rw [type, Tag.ofData?_eq_some.mp tag]; rfl⟩ node

theorem find?_of_own (own : own? d = some problem) : find? d = some problem := by
  rcases find?_eq_own_or d with same | ⟨sound, _⟩
  · rw [same, own]
  · rw [sound] at own
    cases own

theorem find?_of_combines (sound : own? d = none) (combines : Combines d kind cs) :
    find? d = firstOf? cs := by
  obtain ⟨entries, rfl, type, listed⟩ := combines
  rcases find?_eq_own_or (.map entries) with same | ⟨_, kind', cs', combines', found⟩
  · rw [own?_combined type, listed] at sound
    dsimp only at sound
    split at sound
    · cases sound
    · rename_i arity
      rw [find?_of_type (.combined kind) type, ofTagged?, ofEntries?_eq, listed]
      exact if_neg arity
  · obtain ⟨rfl, rfl⟩ := Combines.inj ⟨entries, rfl, type, listed⟩ combines'
    exact found

/-- Nothing is wrong with the structure just when nothing is wrong with any node. -/
theorem find?_eq_none_iff_occurs : find? d = none ↔ ¬Occurs Ill d := by
  constructor
  · intro sound occurs
    induction occurs with
    | @here d ill =>
      cases own : own? d with
      | none => exact ill own
      | some problem =>
        rw [find?_of_own own] at sound
        cases sound
    | @under d c kind cs combines member _ ih =>
      cases own : own? d with
      | none =>
        rw [find?_of_combines own combines, firstOf?_eq_none] at sound
        exact ih (sound c member)
      | some problem =>
        rw [find?_of_own own] at sound
        cases sound
  · intro clear
    induction d using byConditions with
    | node d ih =>
      have own : own? d = none := by
        by_contra ill
        exact clear (.here ill)
      rcases find?_eq_own_or d with same | ⟨_, kind, cs, combines, found⟩
      · rw [same, own]
      · rw [found, firstOf?_eq_none]
        intro c member
        obtain ⟨entries, rfl, _⟩ := id combines
        exact ih false entries cs rfl combines.conditions c member fun inner =>
          clear (.under combines member inner)

theorem find?_of_first (first : First Ill d path node) (own : own? node = some problem) :
    find? d = some problem := by
  induction first with
  | here _ => exact find?_of_own own
  | under sound combines clear _ ih =>
    rw [find?_of_combines (not_not.mp sound) combines, firstOf?_eq_some]
    exact ⟨_, _, _, rfl, ih own, fun b member => find?_eq_none_iff_occurs.mpr (clear b member)⟩

end Problem

end Screening.Expr
