import Screening.Proofs.Expr.Grammar
import Screening.Proofs.Text.Characters

/-!
# The structural check of expressions

`Problem.find?` finds nothing wrong exactly with what is well formed up to its operands:
`find?_eq_none_iff`.
-/

namespace Screening

theorem Operator.ofToken?_eq_some {s : String} {op : Operator} :
    Operator.ofToken? s = some op ↔ s = op.token := by
  constructor
  · intro found
    have named := List.find?_some found
    exact (eq_of_beq named).symm
  · rintro rfl
    cases op <;> decide

namespace Expr

variable {entries : List (Atom × Data)} {d : Data} {kind : Kind} {tag : Tag} {s : String}

theorem Kind.ofName?_eq_some : Kind.ofName? s = some kind ↔ s = kind.name := by
  constructor
  · intro found
    have named := List.find?_some found
    exact (eq_of_beq named).symm
  · rintro rfl
    cases kind <;> decide

namespace Tag

theorem ofName?_eq_some : Tag.ofName? s = some tag ↔ s = tag.name := by
  unfold Tag.ofName?
  by_cases leaf : s = "comparison"
  · subst leaf
    match tag with
    | .comparison => simp [Tag.name]
    | .combined kind => cases kind <;> decide
  · rw [if_neg leaf, Option.map_eq_some_iff]
    match tag with
    | .comparison => simp [Tag.name, leaf]
    | .combined kind => simp [Tag.name, Kind.ofName?_eq_some]

theorem ofData?_eq_some : Tag.ofData? d = some tag ↔ d = .text tag.name := by
  constructor
  · intro found
    unfold Tag.ofData? at found
    split at found
    · rename_i t
      obtain ⟨s, spelled, named⟩ := Option.bind_eq_some_iff.mp found
      rw [Text.string?_eq_some.mp spelled, ofName?_eq_some.mp named]
      rfl
    · cases found
  · rintro rfl
    show ((tag.name : Text).string?).bind Tag.ofName? = some tag
    rw [Text.string?_ofString]
    exact ofName?_eq_some.mpr rfl

theorem ofData?_name (tag : Tag) : Tag.ofData? (.text tag.name) = some tag :=
  ofData?_eq_some.mpr rfl

theorem name_inj {tag' : Tag} (same : Data.text tag.name = .text tag'.name) : tag = tag' := by
  have found := ofData?_name tag
  rw [same, ofData?_name] at found
  exact (Option.some.inj found).symm

/-- A comparison combines no conditions. -/
theorem not_both (leaf : Data.field? entries "type" = some (.text "comparison"))
    (node : Data.field? entries "type" = some (.text kind.name)) : False := by
  have same : Data.text Tag.comparison.name = .text (Tag.combined kind).name :=
    Option.some.inj (leaf.symm.trans node)
  cases name_inj same

theorem isTruthy (tag : Tag) : (Data.text tag.name).isTruthy = true := by
  match tag with
  | .comparison => rfl
  | .combined kind => cases kind <;> rfl

end Tag

namespace Problem

theorem has_iff {name : Text} {test : Data → Bool} :
    has entries name test = true ↔ ∃ d, Data.field? entries name = some d ∧ test d = true := by
  unfold has
  cases Data.field? entries name <;> simp

theorem isName_iff : isName d = true ↔ NonEmptyText d := by
  constructor
  · intro named
    unfold isName at named
    split at named
    · rename_i t
      refine ⟨t, rfl, ?_⟩
      rintro rfl
      cases named
    · cases named
  · rintro ⟨t, rfl, filled⟩
    have points : t.points ≠ [] := fun none => filled (by cases t; exact congrArg Text.mk none)
    cases shape : t.points with
    | nil => exact absurd shape points
    | cons p ps =>
      show (!t.points.isEmpty) = true
      rw [shape]
      rfl

theorem isOperator_iff : isOperator d = true ↔ ∃ op : Operator, d = .text op.token := by
  constructor
  · intro valid
    unfold isOperator at valid
    split at valid
    · obtain ⟨op, found⟩ := Option.isSome_iff_exists.mp valid
      obtain ⟨s, spelled, token⟩ := Option.bind_eq_some_iff.mp found
      rw [Text.string?_eq_some.mp spelled, Operator.ofToken?_eq_some.mp token]
      exact ⟨op, rfl⟩
    · cases valid
  · rintro ⟨op, rfl⟩
    show (((op.token : Text).string?).bind Operator.ofToken?).isSome = true
    rw [Text.string?_ofString, Option.bind_some, Operator.ofToken?_eq_some.mpr rfl]
    rfl

theorem not_isNull_iff : (!d.isNull) = true ↔ d ≠ .null := by
  constructor
  · rintro filled rfl
    cases filled
  · intro filled
    unfold Data.isNull
    split
    · exact absurd rfl filled
    · rfl

theorem ofComparison?_eq_none : ofComparison? entries = none ↔
    (∃ name, Data.field? entries "parameter" = some name ∧ NonEmptyText name) ∧
    (∃ op : Operator, Data.field? entries "operator" = some (.text op.token)) ∧
    ∃ operand, Data.field? entries "value" = some operand ∧ operand ≠ .null := by
  have operators : has entries "operator" isOperator = true ↔
      ∃ op : Operator, Data.field? entries "operator" = some (.text op.token) := by
    rw [has_iff]
    constructor
    · rintro ⟨d, found, valid⟩
      obtain ⟨op, rfl⟩ := isOperator_iff.mp valid
      exact ⟨op, found⟩
    · rintro ⟨op, found⟩
      exact ⟨_, found, isOperator_iff.mpr ⟨op, rfl⟩⟩
  rw [← operators]
  simp only [← isName_iff, ← not_isNull_iff, ← has_iff]
  unfold ofComparison?
  split_ifs with named operator value <;> simp_all

theorem ofEntries?_eq : ofEntries? kind entries = match Data.field? entries "conditions" with
    | some d => ofConditions? kind d
    | none => some noConditions := by
  unfold Data.field?
  induction entries with
  | nil => rfl
  | cons entry rest ih =>
    obtain ⟨name, d⟩ := entry
    rw [ofEntries?, Entries.get?]
    split
    · rfl
    · exact ih

theorem firstOf?_eq_none {ds : List Data} : firstOf? ds = none ↔ ∀ d ∈ ds, find? d = none := by
  induction ds with
  | nil => simp [firstOf?]
  | cons d ds ih => simp [firstOf?, ih]

/-- The first problem among several is that of the first that has one. -/
theorem firstOf?_eq_some {ds : List Data} {problem : Problem} :
    firstOf? ds = some problem ↔ ∃ before c after, ds = before ++ c :: after ∧
      find? c = some problem ∧ ∀ b ∈ before, find? b = none := by
  induction ds with
  | nil => simp [firstOf?]
  | cons d ds ih =>
    rw [firstOf?, Option.or_eq_some_iff, ih]
    constructor
    · rintro (first | ⟨sound, before, c, after, rfl, found, clear⟩)
      · exact ⟨[], d, ds, rfl, first, fun _ => List.not_mem_nil.elim⟩
      · exact ⟨d :: before, c, after, rfl, found, List.forall_mem_cons.mpr ⟨sound, clear⟩⟩
    · rintro ⟨before, c, after, split, found, clear⟩
      cases before with
      | nil =>
        obtain ⟨rfl, _⟩ := List.cons.inj split
        exact Or.inl found
      | cons b before =>
        obtain ⟨rfl, rfl⟩ := List.cons.inj split
        obtain ⟨sound, others⟩ := List.forall_mem_cons.mp clear
        exact Or.inr ⟨sound, before, c, after, rfl, found, others⟩

theorem ofEntries?_eq_none : ofEntries? kind entries = none ↔
    ∃ cs, conditions? false entries = some cs ∧ (kind = .not → cs.length = 1) ∧
      ∀ d ∈ cs, find? d = none := by
  rw [ofEntries?_eq]
  unfold conditions?
  cases Data.field? entries "conditions" with
  | none => simp
  | some d =>
    cases d with
    | list cs =>
      simp only [ofConditions?, Option.some.injEq, exists_eq_left']
      split_ifs with arity
      · simp [arity]
      · rw [firstOf?_eq_none]
        constructor
        · intro each
          refine ⟨fun negation => ?_, each⟩
          by_contra count
          exact arity ⟨negation, count⟩
        · rintro ⟨_, each⟩
          exact each
    | atom a => simp [ofConditions?]
    | map es => simp [ofConditions?]

/-- The problem of a node of this kind. -/
def ofTagged? (entries : List (Atom × Data)) : Tag → Option Problem
  | .comparison => ofComparison? entries
  | .combined kind => ofEntries? kind entries

theorem find?_of_type (tag : Tag) (type : Data.field? entries "type" = some (.text tag.name)) :
    find? (.map entries) = ofTagged? entries tag := by
  rw [find?, type]
  dsimp only
  rw [Tag.isTruthy, Tag.ofData?_name]
  cases tag <;> rfl

theorem type_of_find? (sound : find? (.map entries) = none) :
    ∃ tag : Tag, Data.field? entries "type" = some (.text tag.name) := by
  rw [find?] at sound
  split at sound
  · cases sound
  · rename_i d found
    split at sound
    · cases sound
    · cases tag : Tag.ofData? d with
      | none =>
        rw [tag] at sound
        cases sound
      | some tag' => exact ⟨tag', by rw [found, Tag.ofData?_eq_some.mp tag]⟩

/-- Nothing is wrong with the structure of exactly what has the outline of an expression. -/
theorem find?_eq_none_iff : find? d = none ↔ WellFormed .outline d := by
  constructor
  · intro sound
    induction d using byConditions with
    | node d ih =>
      cases d with
      | atom a =>
        rw [find?] at sound
        · cases sound
        · intro entries same
          cases same
      | list items =>
        rw [find?] at sound
        · cases sound
        · intro entries same
          cases same
      | map entries =>
        obtain ⟨tag, type⟩ := type_of_find? sound
        rw [find?_of_type tag type] at sound
        cases tag with
        | comparison =>
          obtain ⟨⟨name, parameter, named⟩, ⟨op, operator⟩, operand, value, filled⟩ :=
            ofComparison?_eq_none.mp sound
          exact .comparison type parameter named operator value filled
        | combined kind =>
          obtain ⟨cs, conditions, single, each⟩ := ofEntries?_eq_none.mp sound
          exact .combined type conditions single fun c member =>
            ih false entries cs rfl conditions c member (each c member)
  · intro formed
    induction formed with
    | @comparison entries name operand op type parameter named operator value filled =>
      rw [find?_of_type .comparison type]
      exact ofComparison?_eq_none.mpr
        ⟨⟨name, parameter, named⟩, ⟨op, operator⟩, operand, value, filled⟩
    | @combined entries kind cs type conditions single _ ih =>
      rw [find?_of_type (.combined kind) type]
      exact ofEntries?_eq_none.mpr ⟨cs, conditions, single, ih⟩

end Problem

end Expr

end Screening
