import Screening.Expr.Reader
import Screening.Proofs.Expr.Structure
import Screening.Proofs.Schema

/-!
# Reading expressions

`check` gives the expression that data denotes, with conditions read as none where they are left
out (`check_ok_iff`); `ofData` takes no such data, and `read` looks into texts and bytes as well. So
what is read is what the grammar allows: `read_accepts_grammar`.
-/

namespace Screening.Expr

variable {entries : List (Atom × Data)} {d : Data} {kind : Kind} {cs : List Data} {es : List Expr}
  {e : Expr} {c : Comparison} {omits : Bool}

/-! ### Operands and comparisons -/

theorem scalar_ok_iff {s : Scalar} : Check.scalar d = .ok s ↔ d = .scalar s := by
  constructor
  · intro passed
    unfold Check.scalar at passed
    split at passed
    · obtain rfl := Checked.ok.inj passed
      rfl
    · cases passed
  · rintro rfl
    rfl

theorem scalars_ok_iff {items : List Data} {ss : List Scalar} :
    Check.itemsFrom Check.scalar 0 items = .ok ss ↔ items = ss.map .scalar := by
  rw [Check.itemsFrom_ok_iff]
  simp only [scalar_ok_iff]
  rw [← List.forall₂_map_right_iff, List.forall₂_eq_eq_eq]

theorem checkOperand_ok_iff {o : Operand} : checkOperand d = .ok o ↔ d = o.toData := by
  constructor
  · intro passed
    unfold checkOperand at passed
    split at passed
    · obtain rfl := Checked.ok.inj passed
      rfl
    · split at passed
      · rename_i items ss scalars
        obtain rfl := Checked.ok.inj passed
        exact congrArg Data.list (scalars_ok_iff.mp scalars)
      · cases passed
    · cases passed
  · rintro rfl
    cases o with
    | scalar s => rfl
    | list ss =>
      have scalars : Check.itemsFrom Check.scalar 0 (ss.map .scalar) = .ok ss :=
        scalars_ok_iff.mpr rfl
      simp only [checkOperand, Operand.toData, scalars]

theorem checkTag_comparison : checkTag (· = .comparison) (.text "comparison") = .ok .comparison := by
  rfl

/-- The fields of a comparison, none of which is given as bytes. -/
def Spells (entries : List (Atom × Data)) : Prop :=
  ∀ name ∈ ["parameter", "operator"], ∀ bs,
    Data.field? entries name ≠ some (.atom (.bytes bs))

theorem checkComparison_ok_iff (type : Data.field? entries "type" = some (.text "comparison"))
    (spells : Spells entries) : checkComparison entries = .ok c ↔
      Data.field? entries "parameter" = some (.text c.parameter) ∧
      Data.field? entries "operator" = some (.text c.operator.token) ∧
      Data.field? entries "value" = some c.operand.toData := by
  have tagged : Check.optional entries "type" .comparison (checkTag (· = .comparison)) =
      .ok .comparison := by
    rw [Check.optional_ok_iff, type]
    exact checkTag_comparison
  unfold checkComparison
  rw [tagged]
  simp only [Checked.seq_ok_iff, Checked.map_ok_iff, Check.required_ok_iff]
  constructor
  · rintro ⟨_, operand, ⟨_, op, ⟨_, name, ⟨_, _, rfl⟩, ⟨d, parameter, named⟩, rfl⟩,
      ⟨d', operator, chosen⟩, rfl⟩, ⟨d'', value, compared⟩, rfl⟩
    have spelled : ∀ bs, d ≠ .atom (.bytes bs) := by
      rintro bs rfl
      exact spells "parameter" (by simp) bs parameter
    have spelled' : ∀ bs, d' ≠ .atom (.bytes bs) := by
      rintro bs rfl
      exact spells "operator" (by simp) bs operator
    obtain ⟨s, written, token⟩ := (Check.oneOf_ok_iff spelled').mp chosen
    rw [parameter, operator, value, (Check.name_ok_iff spelled).mp named, written,
      Operator.ofToken?_eq_some.mp token, checkOperand_ok_iff.mp compared]
    exact ⟨rfl, rfl, rfl⟩
  · rintro ⟨parameter, operator, value⟩
    have named : Check.name (.text c.parameter) = .ok ⟨c.parameter, c.named⟩ :=
      (Check.name_ok_iff (by rintro _ ⟨⟩)).mpr rfl
    have chosen : Check.oneOf Operator.ofToken? (.text c.operator.token) = .ok c.operator :=
      (Check.oneOf_ok_iff (by rintro _ ⟨⟩)).mpr ⟨_, rfl, Operator.ofToken?_eq_some.mpr rfl⟩
    exact ⟨_, c.operand, ⟨_, c.operator, ⟨_, ⟨c.parameter, c.named⟩, ⟨_, rfl, rfl⟩,
      ⟨_, parameter, named⟩, rfl⟩, ⟨_, operator, chosen⟩, rfl⟩,
      ⟨_, value, checkOperand_ok_iff.mpr rfl⟩, rfl⟩

/-! ### Nodes -/

theorem combine_ok_iff : combine kind es d = .ok e ↔ kind.node? es = some e := by
  match kind, es with
  | .all, es => simp [combine, Kind.node?]
  | .any, es => simp [combine, Kind.node?]
  | .not, [e] => simp [combine, Kind.node?]
  | .not, [] => simp [combine, Kind.node?, Checked.fail]
  | .not, _ :: _ :: _ => simp [combine, Kind.node?, Checked.fail]

theorem checkFrom_eq (n : Nat) (ds : List Data) : checkFrom n ds = Check.itemsFrom check n ds := by
  induction ds generalizing n with
  | nil => rfl
  | cons d ds ih => rw [checkFrom, Check.itemsFrom, ih]

theorem checkEntries_eq : checkEntries entries = match Data.field? entries "conditions" with
    | some d => (checkList d).under (.field "conditions")
    | none => .ok [] := by
  unfold Data.field?
  induction entries with
  | nil => rfl
  | cons entry rest ih =>
    obtain ⟨name, d⟩ := entry
    rw [checkEntries, Entries.get?]
    split
    · rfl
    · exact ih

theorem checkEntries_ok_iff : checkEntries entries = .ok es ↔
    ∃ cs, conditions? true entries = some cs ∧
      List.Forall₂ (fun d e => check d = .ok e) cs es := by
  rw [checkEntries_eq]
  unfold conditions?
  cases Data.field? entries "conditions" with
  | none => simp [eq_comm]
  | some d =>
    cases d with
    | list cs =>
      dsimp only
      rw [Checked.under_ok_iff, checkList, checkFrom_eq, Check.itemsFrom_ok_iff]
      simp
    | atom a => simp [Checked.under_ok_iff, checkList, Checked.fail]
    | map es => simp [Checked.under_ok_iff, checkList, Checked.fail]

theorem check_comparison_ok_iff (type : Data.field? entries "type" = some (.text "comparison")) :
    check (.map entries) = .ok e ↔ ∃ c, checkComparison entries = .ok c ∧ .comparison c = e := by
  have tag : Tag.ofData? (.text "comparison") = some .comparison := Tag.ofData?_name .comparison
  rw [check, type]
  dsimp only
  rw [tag]
  dsimp only
  rw [Checked.under_ok_iff]
  exact Checked.map_ok_iff

theorem check_combined_ok_iff (type : Data.field? entries "type" = some (.text kind.name)) :
    check (.map entries) = .ok e ↔
      ∃ es, checkEntries entries = .ok es ∧ kind.node? es = some e := by
  have tag : Tag.ofData? (.text kind.name) = some (.combined kind) :=
    Tag.ofData?_name (.combined kind)
  rw [check, type]
  dsimp only
  rw [tag]
  dsimp only
  rw [Checked.under_ok_iff, Checked.andThen_ok_iff]
  simp only [combine_ok_iff]

theorem type_of_check (passed : check d = .ok e) : ∃ entries, d = .map entries ∧
    ∃ tag : Tag, Data.field? entries "type" = some (.text tag.name) := by
  unfold check at passed
  split at passed
  · rename_i entries
    refine ⟨entries, rfl, ?_⟩
    split at passed
    · cases passed
    · rename_i d found
      cases tag : Tag.ofData? d with
      | none =>
        rw [tag] at passed
        cases passed
      | some tag' => exact ⟨tag', by rw [found, Tag.ofData?_eq_some.mp tag]⟩
  · cases passed

/-! ### Trees -/

theorem check_of_denotes (denotes : Denotes omits d e) : check d = .ok e := by
  induction d using byConditions generalizing e with
  | node d ih =>
    cases denotes with
    | @comparison entries c type parameter operator value =>
      have spells : Spells entries := by
        intro name member bs
        rcases List.mem_cons.mp member with rfl | member
        · rw [parameter]
          rintro ⟨⟩
        · obtain rfl := List.mem_singleton.mp member
          rw [operator]
          rintro ⟨⟩
      have passed := (checkComparison_ok_iff type spells).mpr ⟨parameter, operator, value⟩
      exact (check_comparison_ok_iff type).mpr ⟨c, passed, rfl⟩
    | @combined entries kind cs es _ type conditions each node =>
      have passed : checkEntries entries = .ok es := by
        refine checkEntries_ok_iff.mpr ⟨cs, conditions?_omitting conditions, ?_⟩
        exact forall₂_imp_of_mem each fun c member e' denotes' =>
          ih omits entries cs rfl conditions c member denotes'
      exact (check_combined_ok_iff type).mpr ⟨es, passed, node⟩

/-- A property of data that leaves no doubt about names and conditions, and that conditions
inherit. -/
structure Readable (omits : Bool) (P : Data → Prop) : Prop where
  spells : ∀ entries, P (.map entries) →
    Data.field? entries "type" = some (.text "comparison") → Spells entries
  conditions : ∀ entries (kind : Kind) cs, P (.map entries) →
    Data.field? entries "type" = some (.text kind.name) → conditions? true entries = some cs →
    conditions? omits entries = some cs ∧ ∀ d ∈ cs, P d

theorem denotes_of_check {P : Data → Prop} (readable : Readable omits P) (holds : P d)
    (passed : check d = .ok e) : Denotes omits d e := by
  -- The check goes down the conditions that it reads, so the induction is on those with none left
  -- out; `readable` turns them into the conditions that the grammar has.
  induction d using byConditions generalizing e with
  | node d ih =>
    obtain ⟨entries, rfl, tag, type⟩ := type_of_check passed
    cases tag with
    | comparison =>
      obtain ⟨c, fields, rfl⟩ := (check_comparison_ok_iff type).mp passed
      obtain ⟨parameter, operator, value⟩ :=
        (checkComparison_ok_iff type (readable.spells entries holds type)).mp fields
      exact .comparison type parameter operator value
    | combined kind =>
      obtain ⟨es, checked, node⟩ := (check_combined_ok_iff type).mp passed
      obtain ⟨cs, found, each⟩ := checkEntries_ok_iff.mp checked
      obtain ⟨conditions, inherited⟩ := readable.conditions entries kind cs holds type found
      refine .combined type conditions ?_ node
      exact forall₂_imp_of_mem each fun c member e' passed' =>
        ih true entries cs rfl found c member (inherited c member) passed'

theorem readable_plain : Readable true Data.Plain where
  spells entries plain _ name _ bs found := by
    cases plain with
    | map each => cases each _ (Entries.mem_of_get? found)
  conditions entries kind cs plain _ found := by
    refine ⟨found, fun d member => ?_⟩
    cases plain with
    | map each =>
      unfold conditions? at found
      split at found
      · rename_i items field
        obtain rfl := Option.some.inj found
        cases each _ (Entries.mem_of_get? field) with
        | list inner => exact inner d member
      · cases found
      · obtain rfl := Option.some.inj found
        cases member

theorem readable_outline : Readable false (WellFormed .outline) where
  spells entries formed type name member bs := by
    cases formed with
    | comparison _ parameter named operator _ _ =>
      obtain ⟨t, rfl, _⟩ := named
      rcases List.mem_cons.mp member with rfl | member
      · rw [parameter]
        rintro ⟨⟩
      · obtain rfl := List.mem_singleton.mp member
        rw [operator]
        rintro ⟨⟩
    | combined type' _ _ _ =>
      exact (Tag.not_both type type').elim
  conditions entries kind cs formed type found := by
    cases formed with
    | comparison type' _ _ _ _ _ =>
      exact (Tag.not_both type' type).elim
    | combined _ conditions _ each =>
      have same := (conditions?_omitting conditions).symm.trans found
      obtain rfl := Option.some.inj same
      exact ⟨conditions, each⟩

/-- Where bytes are no part of data, it is checked just as the grammar has it, except that conditions
may be left out. -/
theorem check_ok_iff (plain : d.Plain) : check d = .ok e ↔ Denotes true d e :=
  ⟨denotes_of_check readable_plain plain, check_of_denotes⟩

theorem outline_of_denotes (denotes : Denotes false d e) : WellFormed .outline d := by
  refine denotes.wellFormed.mono ?_ ?_ ?_
  · rintro d ⟨t, rfl, named⟩
    exact ⟨t, rfl, named.1⟩
  · rintro d ⟨o, rfl⟩
    cases o <;> rintro ⟨⟩
  · exact fun _ _ conditions => conditions

/-! ### Documents -/

theorem ofData_ok_iff : ofData d = .ok e ↔ Denotes false d e := by
  constructor
  · intro read
    unfold ofData at read
    split at read
    · cases read
    · rename_i sound
      split at read
      · rename_i passed
        obtain rfl := Except.ok.inj read
        exact denotes_of_check readable_outline (Problem.find?_eq_none_iff.mp sound) passed
      · cases read
      · cases read
  · intro denotes
    unfold ofData
    rw [Problem.find?_eq_none_iff.mpr (outline_of_denotes denotes), check_of_denotes denotes]

/-- What a document holds: the value of JSON text, also in bytes, or the data itself. -/
def decoded? : Data → Option Data
  | .atom (.scalar (.text t)) => (Json.read t).toOption
  | .atom (.bytes bs) => (Text.decode bs).toOption.bind fun ps => (Json.readPoints ps).toOption
  | d => some d

theorem ofJson_ok_iff {document : Except Json.Fault Data} :
    ofJson document = .ok e ↔ ∃ v, document.toOption = some v ∧ Denotes false v e := by
  cases document with
  | error fault => cases fault <;> simp [ofJson, Except.toOption]
  | ok v => simp [ofJson, Except.toOption, ofData_ok_iff]

theorem read_ok_iff : read d = .ok e ↔ ∃ v, decoded? d = some v ∧ Denotes false v e := by
  unfold read
  split
  · exact ofJson_ok_iff
  · rename_i bs
    have decoded : decoded? (.atom (.bytes bs)) =
        (Text.decode bs).toOption.bind fun ps => (Json.readPoints ps).toOption := rfl
    rw [decoded]
    cases Text.decode bs with
    | error fault => simp [Except.toOption]
    | ok ps => exact ofJson_ok_iff
  · rename_i noText noBytes
    have decoded : decoded? d = some d := by
      unfold decoded?
      split
      · exact absurd rfl (noText _)
      · exact absurd rfl (noBytes _)
      · rfl
    rw [decoded, ofData_ok_iff]
    simp

/-- Reading accepts what is well formed, or is a text or bytes that spell it, and gives the expression
that it denotes. The structural check accepts the outline of such data, and the check of the form of
decoded data also leaves conditions out. -/
theorem read_accepts_grammar (d : Data) :
    (∀ e, read d = .ok e ↔ ∃ v, decoded? d = some v ∧ Denotes false v e) ∧
    ((∃ e, read d = .ok e) ↔ ∃ v, decoded? d = some v ∧ WellFormed (.strict false) v) ∧
    (Problem.find? d = none ↔ WellFormed .outline d) ∧
    (d.Plain → (∀ e, check d = .ok e ↔ Denotes true d e) ∧
      ((∃ e, check d = .ok e) ↔ WellFormed (.strict true) d)) := by
  refine ⟨fun e => read_ok_iff, ?_, Problem.find?_eq_none_iff, fun plain =>
    ⟨fun e => check_ok_iff plain, ?_⟩⟩
  · simp only [read_ok_iff, wellFormed_iff_denotes]
    constructor
    · rintro ⟨e, v, holds, denotes⟩
      exact ⟨v, holds, e, denotes⟩
    · rintro ⟨v, holds, e, denotes⟩
      exact ⟨e, v, holds, denotes⟩
  · simp only [check_ok_iff plain, wellFormed_iff_denotes]

/-- A negated comparison without further fields is read, and so is its form. -/
theorem read_accepts_grammar_negation :
    let compared : Data := .object [("type", .text "comparison"),
      ("parameter", .text "co2"), ("operator", .text ">="), ("value", .list [.int 1, .bool true])]
    let d : Data := .object [("type", .text "NOT"), ("conditions", .list [compared])]
    (∃ e, read d = .ok e) ∧ d.Plain ∧ ∃ e, check d = .ok e := by
  intro compared d
  have fields : ∀ f ∈ ([("type", .text "comparison"), ("parameter", .text "co2"),
      ("operator", .text ">="), ("value", .list [.int 1, .bool true])] : List (Text × Data)),
      f.2.Plain := by
    simp only [List.forall_mem_singleton, List.forall_mem_cons]
    refine ⟨.scalar _, .scalar _, .scalar _, .list ?_⟩
    simp only [List.forall_mem_singleton, List.forall_mem_cons]
    exact ⟨.scalar _, .scalar _⟩
  have plain : d.Plain := by
    refine Data.plain_object ?_
    simp only [List.forall_mem_singleton, List.forall_mem_cons]
    refine ⟨.scalar _, .list ?_⟩
    simp only [List.forall_mem_singleton]
    exact Data.plain_object fields
  have formed (omits : Bool) : WellFormed (.strict omits) d := by
    refine @WellFormed.combined _ _ .not _ rfl rfl (fun _ => rfl) ?_
    simp only [List.forall_mem_singleton]
    exact @WellFormed.comparison _ _ _ _ .ge rfl rfl ⟨_, rfl, by decide⟩ rfl rfl
      ⟨.list [.int 1, .bool true], rfl⟩
  obtain ⟨_, accepts, _, checks⟩ := read_accepts_grammar d
  exact ⟨accepts.mpr ⟨d, rfl, formed false⟩, plain, (checks plain).2.mpr (formed true)⟩

/-- A name with a surrogate is refused, and a text counts as the expression that it spells. -/
theorem read_not_lax :
    let surrogate : Data := .object [("type", .text "comparison"),
      ("parameter", .text ⟨[.surrogate 0]⟩), ("operator", .text "=="), ("value", .int 1)]
    let spelled : Data := .text "\x7b\"type\": \"OR\", \"conditions\": []\x7d"
    (surrogate.Plain ∧ WellFormed .lax surrogate ∧ ¬∃ e, read surrogate = .ok e) ∧
      spelled.Plain ∧ ¬WellFormed .lax spelled ∧ (read spelled).toOption = some (.any []) := by
  intro surrogate spelled
  refine ⟨⟨?_, ?_, ?_⟩, .scalar _, ?_, ?_⟩
  · refine Data.plain_object ?_
    simp only [List.forall_mem_singleton, List.forall_mem_cons]
    exact ⟨.scalar _, .scalar _, .scalar _, .scalar _⟩
  · exact @WellFormed.comparison _ _ _ _ .eq rfl rfl ⟨_, rfl, by decide⟩ rfl rfl
      ⟨.scalar (.int 1), rfl⟩
  · rintro ⟨e, accepted⟩
    have refused : read surrogate = .error (.invalid (.misplaced
      [.field "comparison", .field "parameter"] .stringUnicode)) := by rfl
    rw [refused] at accepted
    cases accepted
  · show ¬WellFormed .lax (.text _)
    rintro ⟨⟩
  · decide +kernel

end Screening.Expr
