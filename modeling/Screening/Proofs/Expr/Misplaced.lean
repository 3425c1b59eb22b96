import Screening.Proofs.Expr.DepthFirst
import Screening.Proofs.Expr.Reading
import Screening.Proofs.Expr.Refusals

/-!
# Where reading an expression fails

A document with a structural problem is refused for the first one. Otherwise the refusal points at
what does not belong there: the first comparison whose name holds a surrogate or whose operand is
none, and of these two in it the name. `refused_at_first`.
-/

namespace Screening

/-! ### The first fault of a check -/

namespace Checked

variable {α β : Type} {c : Checked α} {f : Fault}

/-- The first of its faults. -/
def FailsWith (c : Checked α) (f : Fault) : Prop := ∃ others, c = .faulty (f :: others)

theorem failsWith_fail {cause : Cause} {d : Data} :
    (fail cause d : Checked α).FailsWith ⟨[], cause, d⟩ :=
  ⟨[], rfl⟩

theorem FailsWith.under (fails : c.FailsWith f) (step : Step) :
    (c.under step).FailsWith { f with path := step :: f.path } := by
  obtain ⟨others, rfl⟩ := fails
  exact ⟨_, rfl⟩

theorem FailsWith.map (fails : c.FailsWith f) (g : α → β) : (g <$> c).FailsWith f := by
  obtain ⟨others, rfl⟩ := fails
  exact ⟨others, rfl⟩

theorem FailsWith.andThen (fails : c.FailsWith f) (next : α → Checked β) :
    (c.andThen next).FailsWith f := by
  obtain ⟨others, rfl⟩ := fails
  exact ⟨others, rfl⟩

theorem FailsWith.seq {g : Checked (α → β)} (fails : g.FailsWith f) (c : Checked α) :
    (g <*> c).FailsWith f := by
  obtain ⟨others, rfl⟩ := fails
  cases c <;> exact ⟨_, rfl⟩

theorem FailsWith.seq_right {g : α → β} (fails : c.FailsWith f) :
    ((.ok g : Checked (α → β)) <*> c).FailsWith f :=
  fails.map g

end Checked

theorem Check.failsWith_itemsFrom {α : Type} {check : Check α} {before : List Data} {d : Data}
    {f : Fault} (passed : ∀ b ∈ before, ∃ a, check b = .ok a) (fails : (check d).FailsWith f)
    (n : Nat) (after : List Data) : (itemsFrom check n (before ++ d :: after)).FailsWith
      { f with path := .index (n + before.length) :: f.path } := by
  induction before generalizing n with
  | nil => exact ((fails.under (.index n)).map List.cons).seq _
  | cons b rest ih =>
    obtain ⟨⟨a, first⟩, others⟩ := List.forall_mem_cons.mp passed
    have later := ih others (n + 1)
    have taken : itemsFrom check n (b :: rest ++ d :: after) =
        (.ok (List.cons a) : Checked _) <*> itemsFrom check (n + 1) (rest ++ d :: after) := by
      show _ <$> (check b).under (.index n) <*> _ = _
      rw [first]
      rfl
    rw [taken, List.length_cons, Nat.add_comm rest.length, ← Nat.add_assoc]
    exact later.seq_right

theorem Check.failsWith_required {α : Type} {check : Check α} {entries : List (Atom × Data)}
    {name : String} {d : Data} {f : Fault} (found : Data.field? entries name = some d)
    (fails : (check d).FailsWith f) :
    (required entries name check).FailsWith { f with path := .field name :: f.path } := by
  unfold required
  rw [found]
  exact fails.under (.field name)

namespace Expr

variable {P : Data → Prop} {d v x node c : Data} {entries : List (Atom × Data)} {kind : Kind} {cs : List Data}
  {path steps : List Step} {cause : Cause} {problem : Problem}

/-! ### Comparisons -/

/-- A comparison whose name holds a surrogate. -/
def Garbled (d : Data) : Prop :=
  ∃ entries, d = .map entries ∧ Data.field? entries "type" = some (.text "comparison") ∧
    ∃ t : Text, Data.field? entries "parameter" = some (.text t) ∧ t.isWhole = false

/-- A comparison whose operand is neither a scalar nor a flat list of scalars. -/
def Strange (d : Data) : Prop :=
  ∃ entries, d = .map entries ∧ Data.field? entries "type" = some (.text "comparison") ∧
    ∃ x, Data.field? entries "value" = some x ∧ ¬IsOperand x

def Flawed (d : Data) : Prop := Garbled d ∨ Strange d

/-- What does not belong in a flawed comparison, and the way to it from there. -/
inductive Flaw : Data → List Step → Cause → Data → Prop
  | name {entries : List (Atom × Data)} {t : Text}
      (type : Data.field? entries "type" = some (.text "comparison"))
      (parameter : Data.field? entries "parameter" = some (.text t)) (garbled : t.isWhole = false) :
      Flaw (.map entries) [.field "comparison", .field "parameter"] .stringUnicode (.text t)
  | operand {entries : List (Atom × Data)} {t : Text} {x : Data}
      (type : Data.field? entries "type" = some (.text "comparison"))
      (parameter : Data.field? entries "parameter" = some (.text t)) (whole : t.isWhole = true)
      (value : Data.field? entries "value" = some x) (strange : ¬IsOperand x) :
      Flaw (.map entries) [.field "comparison", .field "value", .field "bool"] .boolType x

theorem Flaw.leads (flaw : Flaw node steps cause x) : Leads node steps x := by
  cases flaw with
  | name type parameter _ => exact .parameter type parameter
  | operand type _ _ value _ => exact .operand type value

theorem Flaw.comparison (flaw : Flaw node steps cause x) :
    ∃ entries, node = .map entries ∧ Data.field? entries "type" = some (.text "comparison") := by
  cases flaw with
  | name type => exact ⟨_, rfl, type⟩
  | operand type => exact ⟨_, rfl, type⟩

theorem name_fails {t : Text} (garbled : t.isWhole = false) :
    (Check.name (.text t)).FailsWith ⟨[], .stringUnicode, .text t⟩ := by
  have chars : t.chars? = none := by
    by_contra spelled
    obtain ⟨cs, spelled⟩ := Option.ne_none_iff_exists'.mp spelled
    rw [Text.isWhole_iff.mpr ⟨cs, Text.chars?_eq_some.mp spelled⟩] at garbled
    cases garbled
  have writing : Check.writing? .stringUnicode (.text t) = some (.error .stringUnicode) := by
    simp only [Check.writing?, Data.text, Data.scalar, chars]
  unfold Check.name Check.written
  rw [writing]
  exact Checked.failsWith_fail

theorem operand_fails (strange : ¬IsOperand x) :
    (checkOperand x).FailsWith ⟨[.field "bool"], .boolType, x⟩ := by
  unfold checkOperand
  split
  · rename_i s
    exact absurd ⟨.scalar s, rfl⟩ strange
  · split
    · rename_i items ss scalars
      exact absurd ⟨.list ss, congrArg Data.list (scalars_ok_iff.mp scalars)⟩ strange
    · exact ⟨_, rfl⟩
  · exact ⟨_, rfl⟩

/-- The fields of a node that has the outline of a comparison. -/
theorem outline_comparison (formed : WellFormed .outline (.map entries))
    (type : Data.field? entries "type" = some (.text "comparison")) :
    (∃ t : Text, Data.field? entries "parameter" = some (.text t) ∧ t ≠ "") ∧
    (∃ op : Operator, Data.field? entries "operator" = some (.text op.token)) ∧
    ∃ x, Data.field? entries "value" = some x := by
  cases formed with
  | comparison _ parameter named operator value _ =>
    obtain ⟨t, rfl, filled⟩ := named
    exact ⟨⟨t, parameter, filled⟩, ⟨_, operator⟩, ⟨_, value⟩⟩
  | combined type' _ _ _ => exact (Tag.not_both type type').elim

theorem Flawed.flaw (formed : WellFormed .outline node) (flawed : Flawed node) :
    ∃ steps cause x, Flaw node steps cause x := by
  rcases flawed with ⟨entries, rfl, type, t, parameter, garbled⟩ | ⟨entries, rfl, type, x, value, strange⟩
  · exact ⟨_, _, _, .name type parameter garbled⟩
  · obtain ⟨⟨t, parameter, _⟩, _⟩ := outline_comparison formed type
    cases whole : t.isWhole with
    | true => exact ⟨_, _, _, .operand type parameter whole value strange⟩
    | false => exact ⟨_, _, _, .name type parameter whole⟩

/-- A comparison whose outline is right is refused for what does not belong there. -/
theorem check_fails (formed : WellFormed .outline node) (flaw : Flaw node steps cause x) :
    (check node).FailsWith ⟨steps, cause, x⟩ := by
  obtain ⟨entries, rfl, type⟩ := flaw.comparison
  obtain ⟨_, ⟨op, operator⟩, _⟩ := outline_comparison formed type
  have tag : Tag.ofData? (.text "comparison") = some .comparison := Tag.ofData?_name .comparison
  have tagged : Check.optional entries "type" .comparison (checkTag (· = .comparison)) =
      .ok .comparison := by
    rw [Check.optional_ok_iff, type]
    exact checkTag_comparison
  have chosen : Check.required entries "operator" (Check.oneOf Operator.ofToken?) = .ok op :=
    Check.required_ok_iff.mpr ⟨_, operator,
      (Check.oneOf_ok_iff (by rintro _ ⟨⟩)).mpr ⟨_, rfl, Operator.ofToken?_eq_some.mpr rfl⟩⟩
  rw [check, type]
  dsimp only
  rw [tag]
  cases flaw with
  | @name _ t _ parameter garbled =>
    have fields : (checkComparison entries).FailsWith
        ⟨[.field "parameter"], .stringUnicode, .text t⟩ := by
      unfold checkComparison
      rw [tagged]
      exact (((Check.failsWith_required parameter (name_fails garbled)).seq_right).seq _).seq _
    exact (fields.map Expr.comparison).under (.field "comparison")
  | operand _ parameter whole value strange =>
    obtain ⟨⟨t', parameter', filled⟩, _⟩ := outline_comparison formed type
    obtain rfl := Data.text_inj (Option.some.inj (parameter.symm.trans parameter'))
    have named : Check.required entries "parameter" Check.name = .ok ⟨_, filled, whole⟩ :=
      Check.required_ok_iff.mpr ⟨_, parameter, (Check.name_ok_iff (by rintro _ ⟨⟩)).mpr rfl⟩
    have fields : (checkComparison entries).FailsWith
        ⟨[.field "value", .field "bool"], .boolType, x⟩ := by
      unfold checkComparison
      rw [tagged, named, chosen]
      exact (Check.failsWith_required value (operand_fails strange)).seq_right
    exact (fields.map Expr.comparison).under (.field "comparison")

/-! ### Trees -/

theorem combines_of_conditions (type : Data.field? entries "type" = some (.text kind.name))
    (found : conditions? false entries = some cs) : Combines (.map entries) kind cs := by
  unfold conditions? at found
  split at found
  · rename_i items listed
    obtain rfl := Option.some.inj found
    exact ⟨entries, rfl, type, listed⟩
  · cases found
  · cases found

theorem strict_of_clear (formed : WellFormed .outline d) (clear : ¬Occurs Flawed d) :
    WellFormed (.strict false) d := by
  induction formed with
  | @comparison entries name operand op type parameter named operator value _ =>
    obtain ⟨t, rfl, filled⟩ := named
    have whole : t.isWhole = true := by
      by_contra garbled
      exact clear (.here (Or.inl ⟨entries, rfl, type, t, parameter, eq_false_of_ne_true garbled⟩))
    have compared : IsOperand operand := by
      by_contra strange
      exact clear (.here (Or.inr ⟨entries, rfl, type, operand, value, strange⟩))
    exact .comparison type parameter ⟨t, rfl, filled, whole⟩ operator value compared
  | combined type conditions single _ ih =>
    have combines := combines_of_conditions type conditions
    exact .combined type conditions single fun c member =>
      ih c member fun inner => clear (.under combines member inner)

theorem outline_of_combines (formed : WellFormed .outline d) (combines : Combines d kind cs)
    (member : c ∈ cs) : WellFormed .outline c := by
  cases formed with
  | comparison type =>
    obtain ⟨_, same, type', _⟩ := combines
    cases same
    exact (Tag.not_both type type').elim
  | combined type conditions _ each =>
    obtain ⟨_, rfl⟩ := (combines_of_conditions type conditions).inj combines
    exact each c member

theorem outline_of_first (formed : WellFormed .outline d) (first : First P d path node) :
    WellFormed .outline node := by
  induction first with
  | here _ => exact formed
  | under _ combines _ _ ih =>
    exact ih (outline_of_combines formed combines (List.mem_append_right _ List.mem_cons_self))

/-- Data whose outline is right is refused for what does not belong in the first flawed comparison. -/
theorem check_fails_first (formed : WellFormed .outline d) (first : First Flawed d path node)
    (flaw : Flaw node steps cause x) : (check d).FailsWith ⟨path ++ steps, cause, x⟩ := by
  induction first with
  | here _ => exact check_fails formed flaw
  | @under d c node kind before after path _ combines clear _ ih =>
    have below : ∀ b ∈ before ++ c :: after, WellFormed .outline b := fun b member =>
      outline_of_combines formed combines member
    -- The conditions before are without a flaw, so the fault of this one is the first.
    have passed : ∀ b ∈ before, ∃ e, check b = .ok e := by
      intro b member
      obtain ⟨e, denotes⟩ :=
        (strict_of_clear (below b (List.mem_append_left _ member)) (clear b member)).denotes
      exact ⟨e, check_of_denotes denotes⟩
    have inner := ih (below c (List.mem_append_right _ List.mem_cons_self)) flaw
    have conditions := Check.failsWith_itemsFrom passed inner 0 after
    rw [← checkFrom_eq, Nat.zero_add] at conditions
    obtain ⟨entries, rfl, type, listed⟩ := combines
    have tag : Tag.ofData? (.text kind.name) = some (.combined kind) :=
      Tag.ofData?_name (.combined kind)
    rw [check, type]
    dsimp only
    rw [tag]
    dsimp only
    rw [checkEntries_eq, listed]
    exact ((conditions.under (.field "conditions")).andThen _).under (.field kind.name)

/-! ### Documents -/

theorem read_eq_ofData (decoded : decoded? d = some v) : read d = ofData v := by
  have ofJson_eq : ∀ {document : Except Json.Fault Data}, document.toOption = some v →
      ofJson document = ofData v := by
    intro document read
    cases document with
    | error fault => cases read
    | ok w =>
      obtain rfl := Option.some.inj read
      rfl
  unfold decoded? at decoded
  split at decoded
  · exact ofJson_eq decoded
  · rename_i bs
    cases text : Text.decode bs with
    | error fault =>
      rw [text] at decoded
      cases decoded
    | ok ps =>
      rw [text] at decoded
      rw [read_bytes text]
      exact ofJson_eq decoded
  · rename_i noText noBytes
    obtain rfl := Option.some.inj decoded
    exact read_data noText noBytes

theorem ofData_of_problem (found : Problem.find? v = some problem)
    (told : problem.isTellable = true) : ofData v = .error (.invalid (.malformed problem)) := by
  unfold ofData
  rw [found]
  dsimp only
  rw [if_pos told]

theorem ofData_of_failsWith {f : Fault} (sound : Problem.find? v = none)
    (fails : (check v).FailsWith f) : ofData v = .error (.invalid (.misplaced f.path f.cause)) := by
  obtain ⟨others, faulty⟩ := fails
  unfold ofData
  rw [sound, faulty]

/-- A document whose data has problems in its structure is refused with the message of the first node
that has one, and no field. If the structure is right but some comparison is flawed, the refusal is for
what does not belong in the first one that is, and its field is the path that leads there. -/
theorem refused_at_first (decoded : decoded? d = some v) :
    (Occurs Problem.Ill v → ∃ path node problem, First Problem.Ill v path node ∧
      Problem.own? node = some problem ∧
      (problem.isTellable = true → ∃ why, read d = .error (.invalid why) ∧
        why.message = problem.message ∧ why.field? = none)) ∧
    (Problem.find? v = none → Occurs Flawed v → ∃ path node steps cause x,
      First Flawed v path node ∧ Flaw node steps cause x ∧ Leads v (path ++ steps) x ∧
      read d = .error (.invalid (.misplaced (path ++ steps) cause)) ∧
      (Invalid.misplaced (path ++ steps) cause).field? =
        some (Invalid.pathText (path ++ steps))) := by
  rw [read_eq_ofData decoded]
  constructor
  · intro occurs
    obtain ⟨path, node, first⟩ := occurs.first
    obtain ⟨problem, own⟩ := Option.ne_none_iff_exists'.mp first.holds
    have found := Problem.find?_of_first first own
    exact ⟨path, node, problem, first, own, fun told => ⟨_, ofData_of_problem found told, rfl, rfl⟩⟩
  · intro sound occurs
    have formed := Problem.find?_eq_none_iff.mp sound
    obtain ⟨path, node, first⟩ := occurs.first
    obtain ⟨steps, cause, x, flaw⟩ := first.holds.flaw (outline_of_first formed first)
    have refused := ofData_of_failsWith sound (check_fails_first formed first flaw)
    -- An empty path would be no field.
    have filled : (path ++ steps).isEmpty = false := by
      cases flaw <;> simp
    refine ⟨path, node, steps, cause, x, first, flaw, first.leads flaw.leads, refused, ?_⟩
    show (if (path ++ steps).isEmpty then _ else _) = _
    rw [filled]
    rfl

/-- The second of two conditions is the negation of a comparison with a list in a list. -/
theorem refused_at_first_nested :
    let compared (operand : Data) : Data := .object [("type", .text "comparison"),
      ("parameter", .text "co2"), ("operator", .text "in"), ("value", operand)]
    let negated : Data := .object [("type", .text "NOT"),
      ("conditions", .list [compared (.list [.list []])])]
    let d : Data := .object [("type", .text "AND"),
      ("conditions", .list [compared (.int 1), negated])]
    decoded? d = some d ∧ Problem.find? d = none ∧ Occurs Flawed d ∧
      ∃ path x why, Leads d path x ∧ ¬IsOperand x ∧ read d = .error (.invalid why) ∧
        why.field? = some (Invalid.pathText path) ∧
        Invalid.pathText path = "AND.conditions.1.NOT.conditions.0.comparison.value.bool" := by
  intro compared negated d
  have strange : ¬IsOperand (.list [.list []]) := by
    rintro ⟨o, same⟩
    cases checkOperand_ok_iff.mpr same
  have outer : Combines d .all [compared (.int 1), negated] := ⟨_, rfl, rfl, rfl⟩
  have inner : Combines negated .not [compared (.list [.list []])] := ⟨_, rfl, rfl, rfl⟩
  have occurs : Occurs Flawed d :=
    .under outer (List.mem_cons_of_mem _ List.mem_cons_self) (.under inner List.mem_cons_self
      (.here (Or.inr ⟨_, rfl, rfl, _, rfl, strange⟩)))
  have sound : Problem.find? d = none := by rfl
  obtain ⟨path, node, steps, cause, x, _, flaw, leads, refused, field⟩ :=
    (refused_at_first (d := d) rfl).2 sound occurs
  have spelled : read d = .error (.invalid (.misplaced [.field "AND", .field "conditions", .index 1,
      .field "NOT", .field "conditions", .index 0, .field "comparison", .field "value",
      .field "bool"] .boolType)) := by rfl
  obtain ⟨places, rfl⟩ := Invalid.misplaced.inj
    (ReadError.invalid.inj (Except.error.inj (refused.symm.trans spelled)))
  refine ⟨rfl, sound, occurs, path ++ steps, x, _, leads, ?_, refused, field, ?_⟩
  · cases flaw with
    | operand _ _ _ _ strange => exact strange
  · rw [places]
    rfl

/-- The field is not always the path to the first operand that is none: a name with a surrogate comes
before the operand of its comparison. -/
theorem not_refused_at_operand :
    ¬∀ d v, decoded? d = some v → Problem.find? v = none → Occurs Strange v →
      ∃ path node why, First Strange v path node ∧ read d = .error (.invalid why) ∧
        why.field? = some (Invalid.pathText
          (path ++ [.field "comparison", .field "value", .field "bool"])) := by
  intro always
  let d : Data := .object [("type", .text "comparison"), ("parameter", .text ⟨[.surrogate 0]⟩),
    ("operator", .text "=="), ("value", .list [.null])]
  have none : ¬IsOperand (.list [.null]) := by
    rintro ⟨o, same⟩
    cases checkOperand_ok_iff.mpr same
  have strange : Strange d := ⟨_, rfl, rfl, _, rfl, none⟩
  obtain ⟨path, node, why, first, refused, field⟩ := always d d rfl rfl (.here strange)
  have spelled : read d = .error (.invalid (.misplaced
      [.field "comparison", .field "parameter"] .stringUnicode)) := by rfl
  obtain rfl := ReadError.invalid.inj (Except.error.inj (refused.symm.trans spelled))
  cases first with
  | here _ => exact absurd (Option.some.inj field) (by decide)
  | under other _ _ _ => exact other strange

end Expr

end Screening
