import Screening.Proofs.Expr.Comparisons
import Screening.Proofs.Expr.Reading
import Screening.Proofs.Expr.Refusals
import Screening.Proofs.Json.Atoms

/-!
# Stored expressions

The text that an expression is stored as is read as the same expression, and as none at all when an
operand has a number in it that is not finite: `stored_reads_back`.
-/

namespace Screening

/-- No surrogate stands alone in a text. -/
def Scalar.isWhole : Scalar → Bool
  | .text t => t.isWhole
  | _ => true

def Scalar.isFinite : Scalar → Bool
  | .float x => x.isFinite
  | _ => true

def Operand.scalars : Operand → List Scalar
  | .scalar s => [s]
  | .list items => items

theorem Operand.mem_texts {o : Operand} {t : Text} : t ∈ o.texts ↔ .text t ∈ o.scalars := by
  cases o with
  | scalar s => cases s <;> simp [texts, scalars]
  | list items =>
    unfold texts scalars
    rw [List.mem_filterMap]
    constructor
    · rintro ⟨s, item, text⟩
      cases s with
      | text t' =>
        obtain rfl := Option.some.inj text
        exact item
      | _ => cases text
    · intro item
      exact ⟨.text t, item, rfl⟩

open Json

theorem Scalar.atomReads {s : Scalar} (short : s.isShort = true) :
    AtomReads compact (.scalar s) (compactForm (.scalar s)) := by
  cases s with
  | bool b => exact atomReads_bool b
  | int n => exact atomReads_int (of_decide_eq_true short)
  | float x => exact atomReads_compact
  | text t => exact atomReads_text (Or.inl rfl)

theorem Operand.legible_of_reads {style : Style} {f : Atom → Atom} {o : Operand}
    (reads : ∀ s ∈ o.scalars, AtomReads style (.scalar s) (f (.scalar s))) :
    Legible style f o.toData := by
  cases o with
  | scalar s => exact .atom (reads s List.mem_cons_self)
  | list items =>
    refine .list fun d member => ?_
    obtain ⟨s, item, rfl⟩ := List.mem_map.mp member
    exact .atom (reads s item)

theorem Operand.legible {o : Operand} (short : ∀ s ∈ o.scalars, s.isShort = true) :
    Legible compact compactForm o.toData :=
  legible_of_reads fun s scalar => Scalar.atomReads (short s scalar)

/-- Operands of finite numbers are read as what they are. -/
theorem Operand.mapAtoms_toData {o : Operand} (finite : ∀ s ∈ o.scalars, s.isFinite = true) :
    o.toData.mapAtoms compactForm = o.toData := by
  have same {s : Scalar} (finite : s.isFinite = true) :
      compactForm (.scalar s) = .scalar s := by
    cases s with
    | float x => exact if_pos finite
    | _ => rfl
  cases o with
  | scalar s => exact congrArg Data.atom (same (finite s List.mem_cons_self))
  | list items =>
    refine congrArg Data.list ?_
    rw [Data.mapItems_eq_map, List.map_map]
    exact List.map_congr_left fun s item => congrArg Data.atom (same (finite s item))

/-- An operand with another number in it is read as none. -/
theorem Operand.mapAtoms_ne {o : Operand} {s : Scalar} (scalar : s ∈ o.scalars)
    (other : s.isFinite = false) : ¬Expr.IsOperand (o.toData.mapAtoms compactForm) := by
  have lost : compactForm (.scalar s) = .null := by
    cases s with
    | float x =>
      refine if_neg ?_
      rw [show x.isFinite = false from other]
      exact Bool.false_ne_true
    | _ => cases other
  rintro ⟨o', same⟩
  cases o with
  | scalar t =>
    obtain rfl := List.mem_singleton.mp scalar
    have null : Data.atom .null = o'.toData := by
      rw [← same, ← lost]
      rfl
    cases o' <;> cases null
  | list items =>
    cases o' with
    | scalar t => cases same
    | list others =>
      have listed : Data.mapItems compactForm (items.map .scalar) = others.map .scalar :=
        Data.list.inj same
      have member : Data.atom .null ∈ others.map Data.scalar := by
        rw [← listed, Data.mapItems_eq_map, List.map_map, ← lost]
        exact List.mem_map.mpr ⟨s, scalar, rfl⟩
      obtain ⟨t, _, null⟩ := List.mem_map.mp member
      cases null

namespace Expr

variable {e : Expr} {c : Comparison} {cs : List Expr} {kind : Kind} {ds : List Data} {g : Grammar}

/-- The scalars that an expression compares with. -/
def scalars (e : Expr) : List Scalar := e.comparisons.flatMap fun c => c.operand.scalars

theorem mem_scalarsAll {s : Scalar} : s ∈ (comparisonsAll cs).flatMap (fun c => c.operand.scalars) ↔
    ∃ e ∈ cs, s ∈ e.scalars := by
  constructor
  · intro scalar
    obtain ⟨c, compared, operand⟩ := List.mem_flatMap.mp scalar
    obtain ⟨e, member, own⟩ := mem_comparisonsAll.mp compared
    exact ⟨e, member, List.mem_flatMap.mpr ⟨c, own, operand⟩⟩
  · rintro ⟨e, member, scalar⟩
    obtain ⟨c, own, operand⟩ := List.mem_flatMap.mp scalar
    exact List.mem_flatMap.mpr ⟨c, mem_comparisonsAll.mpr ⟨e, member, own⟩, operand⟩

theorem listData_eq (cs : List Expr) : listData cs = cs.map toData := by
  induction cs with
  | nil => rfl
  | cons e es ih => rw [listData, ih, List.map_cons]

/-! ### The form of an expression is legible -/

theorem legible_text (t : Text) : Legible compact compactForm (.text t) :=
  .atom (atomReads_text (Or.inl rfl))

theorem legible_object {fields : List (Text × Data)} (distinct : (fields.map Prod.fst).Nodup)
    (each : ∀ f ∈ fields, Legible compact compactForm f.2) :
    Legible compact compactForm (.object fields) := by
  refine .map ?_ ?_ ?_
  · intro e member
    obtain ⟨f, _, rfl⟩ := List.mem_map.mp member
    exact ⟨f.1, rfl, Or.inl rfl⟩
  · rw [List.map_map]
    have keys : (Prod.fst ∘ fun f : Text × Data => ((.scalar (.text f.1) : Atom), f.2)) =
        (fun t => .scalar (.text t)) ∘ Prod.fst := rfl
    rw [keys, ← List.map_map]
    refine List.Nodup.map ?_ distinct
    intro s t same
    cases same
    rfl
  · intro e member
    obtain ⟨f, field, rfl⟩ := List.mem_map.mp member
    exact each f field

theorem legible_node (name : Text) (each : ∀ d ∈ ds, Legible compact compactForm d) :
    Legible compact compactForm (node name ds) := by
  have distinct : (["type", "conditions"] : List Text).Nodup := by decide
  refine legible_object distinct ?_
  simp only [List.forall_mem_singleton, List.forall_mem_cons]
  exact ⟨legible_text name, .list each⟩

theorem legible_comparison (short : ∀ s ∈ c.operand.scalars, s.isShort = true) :
    Legible compact compactForm c.toData := by
  have distinct : (["type", "parameter", "operator", "value"] : List Text).Nodup := by decide
  refine legible_object distinct ?_
  simp only [List.forall_mem_singleton, List.forall_mem_cons]
  exact ⟨legible_text _, legible_text _, legible_text _, Operand.legible short⟩

theorem legible_listData (each : ∀ e ∈ cs, Legible compact compactForm e.toData) :
    ∀ d ∈ listData cs, Legible compact compactForm d := by
  intro d member
  rw [listData_eq] at member
  obtain ⟨e, condition, rfl⟩ := List.mem_map.mp member
  exact each e condition

theorem legible_toData (short : ∀ s ∈ e.scalars, s.isShort = true) :
    Legible compact compactForm e.toData := by
  induction e with
  | comparison c =>
    refine legible_comparison fun s scalar => short s ?_
    exact List.mem_flatMap.mpr ⟨c, List.mem_cons_self, scalar⟩
  | all cs ih =>
    refine legible_node "AND" (legible_listData fun e member => ih e member fun s scalar => ?_)
    exact short s (mem_scalarsAll.mpr ⟨e, member, scalar⟩)
  | any cs ih =>
    refine legible_node "OR" (legible_listData fun e member => ih e member fun s scalar => ?_)
    exact short s (mem_scalarsAll.mpr ⟨e, member, scalar⟩)
  | not e ih =>
    refine legible_node "NOT" fun d member => ?_
    obtain rfl := List.mem_singleton.mp member
    exact ih short

/-! ### What the form is read as -/

/-- The data that the text of an expression is read as. -/
def readForm (e : Expr) : Data := e.toData.mapAtoms compactForm

theorem map_readForm (cs : List Expr) :
    Data.mapItems compactForm (listData cs) = cs.map readForm := by
  rw [Data.mapItems_eq_map, listData_eq, List.map_map]
  rfl

theorem readForm_all (cs : List Expr) :
    (Expr.all cs).readForm = node Kind.all.name (cs.map readForm) := by
  rw [← map_readForm]
  rfl

theorem readForm_any (cs : List Expr) :
    (Expr.any cs).readForm = node Kind.any.name (cs.map readForm) := by
  rw [← map_readForm]
  rfl

theorem readForm_not (e : Expr) : (Expr.not e).readForm = node Kind.not.name [e.readForm] :=
  rfl

theorem denotes_node {es : List Expr} (each : List.Forall₂ (Denotes false) ds es)
    (made : kind.node? es = some e) : Denotes false (node kind.name ds) e :=
  .combined rfl rfl each made

theorem denotes_map (each : ∀ e ∈ cs, Denotes false e.readForm e) :
    List.Forall₂ (Denotes false) (cs.map readForm) cs := by
  rw [List.forall₂_map_left_iff, List.forall₂_same]
  exact each

theorem denotes_readForm (finite : ∀ s ∈ e.scalars, s.isFinite = true) :
    Denotes false e.readForm e := by
  induction e with
  | comparison c =>
    have operand : c.operand.toData.mapAtoms compactForm = c.operand.toData := by
      refine Operand.mapAtoms_toData fun s scalar => finite s ?_
      exact List.mem_flatMap.mpr ⟨c, List.mem_cons_self, scalar⟩
    exact .comparison rfl rfl rfl (congrArg some operand)
  | all cs ih =>
    have each : ∀ e ∈ cs, Denotes false e.readForm e := fun e member => ih e member fun s scalar =>
      finite s (mem_scalarsAll.mpr ⟨e, member, scalar⟩)
    rw [readForm_all]
    exact denotes_node (denotes_map each) rfl
  | any cs ih =>
    have each : ∀ e ∈ cs, Denotes false e.readForm e := fun e member => ih e member fun s scalar =>
      finite s (mem_scalarsAll.mpr ⟨e, member, scalar⟩)
    rw [readForm_any]
    exact denotes_node (denotes_map each) rfl
  | not e ih =>
    rw [readForm_not]
    exact denotes_node (.cons (ih finite) .nil) rfl

theorem each_of_node (formed : WellFormed g (node kind.name ds)) : ∀ d ∈ ds, WellFormed g d := by
  let entries : List (Atom × Data) :=
    [(.scalar (.text "type"), .text kind.name), (.scalar (.text "conditions"), .list ds)]
  have type : Data.field? entries "type" = some (.text kind.name) := rfl
  have shape : node kind.name ds = .map entries := rfl
  rw [shape] at formed
  cases formed with
  | comparison leaf _ _ _ _ _ => exact (Tag.not_both leaf type).elim
  | combined _ conditions _ each =>
    obtain rfl : ds = _ := Option.some.inj conditions
    exact each

/-- What is read is no expression, when a number is lost. -/
theorem not_wellFormed_readForm {s : Scalar} (scalar : s ∈ e.scalars) (other : s.isFinite = false) :
    ¬WellFormed (.strict false) e.readForm := by
  induction e with
  | comparison c =>
    have operand : s ∈ c.operand.scalars := by
      obtain ⟨c', member, own⟩ := List.mem_flatMap.mp scalar
      obtain rfl := List.mem_singleton.mp member
      exact own
    intro formed
    have shape : (Expr.comparison c).readForm = .map [(.scalar (.text "type"), .text "comparison"),
      (.scalar (.text "parameter"), .text c.parameter),
      (.scalar (.text "operator"), .text c.operator.token),
      (.scalar (.text "value"), c.operand.toData.mapAtoms compactForm)] := rfl
    rw [shape] at formed
    -- The lost number is null in the operand, which is no scalar.
    cases formed with
    | comparison _ _ _ _ value compared =>
      obtain rfl : c.operand.toData.mapAtoms compactForm = _ := Option.some.inj value
      exact Operand.mapAtoms_ne operand other compared
    | combined type _ _ _ => exact Tag.not_both rfl type
  | all cs ih =>
    obtain ⟨e, member, own⟩ := mem_scalarsAll.mp scalar
    rw [readForm_all]
    exact fun formed => ih e member own (each_of_node formed _ (List.mem_map_of_mem member))
  | any cs ih =>
    obtain ⟨e, member, own⟩ := mem_scalarsAll.mp scalar
    rw [readForm_any]
    exact fun formed => ih e member own (each_of_node formed _ (List.mem_map_of_mem member))
  | not e ih =>
    rw [readForm_not]
    exact fun formed => ih scalar (each_of_node formed _ List.mem_cons_self)

/-! ### Storing and reading -/

/-- The text that an expression is stored as, if it has an encoding. -/
def stored (e : Expr) : Except Text.EncodeFault Text :=
  match e.encodeFault? with
  | some fault => .error fault
  | none => .ok e.json

theorem encodeFault?_eq_none : e.encodeFault? = none ↔ ∀ s ∈ e.scalars, s.isWhole = true := by
  unfold encodeFault?
  simp only [List.findSome?_eq_none_iff, Text.encodeFault?_eq_none]
  constructor
  · intro whole s scalar
    obtain ⟨c, member, operand⟩ := List.mem_flatMap.mp scalar
    cases s with
    | text t => exact whole c member t (Operand.mem_texts.mpr operand)
    | _ => rfl
  · intro whole c member t text
    exact whole (.text t) (List.mem_flatMap.mpr ⟨c, member, Operand.mem_texts.mp text⟩)

theorem stored_eq_ok_iff {t : Text} :
    e.stored = .ok t ↔ (∀ s ∈ e.scalars, s.isWhole = true) ∧ t = e.json := by
  rw [← encodeFault?_eq_none]
  unfold stored
  cases e.encodeFault? <;> simp [eq_comm]

theorem read_json (short : ∀ s ∈ e.scalars, s.isShort = true) :
    Json.read e.json = .ok e.readForm :=
  read_write compact_standard (legible_toData short)

/-- An expression without lone surrogates is stored as a text, and this is read as the same
expression, unless a number in it is not finite: then it is no expression. -/
theorem stored_reads_back (short : ∀ s ∈ e.scalars, s.isShort = true) :
    (∀ t, e.stored = .ok t ↔ (∀ s ∈ e.scalars, s.isWhole = true) ∧ t = e.json) ∧
    ((∀ s ∈ e.scalars, s.isFinite = true) → read (.text e.json) = .ok e) ∧
    ((∃ s ∈ e.scalars, s.isFinite = false) →
      ∃ why, read (.text e.json) = .error (.invalid why)) := by
  have text : read (.text e.json) = ofData e.readForm := by
    show ofJson (Json.read e.json) = _
    rw [read_json short]
    rfl
  refine ⟨fun t => stored_eq_ok_iff, ?_, ?_⟩
  · intro finite
    rw [text]
    exact ofData_ok_iff.mpr (denotes_readForm finite)
  · rintro ⟨s, scalar, other⟩
    rw [text]
    cases outcome : ofData e.readForm with
    | ok e' =>
      have formed := (ofData_ok_iff.mp outcome).wellFormed
      exact absurd formed (not_wellFormed_readForm scalar other)
    | error err =>
      obtain ⟨why, rfl⟩ := ofData_error_of_isShort (isShort_of_read (read_json short)) outcome
      exact ⟨why, rfl⟩

/-- A negated comparison with scalars of each kind comes back, and one with no number does not. -/
theorem stored_reads_back_kinds :
    let compare (items : List Scalar) : Expr :=
      .not (.comparison ⟨"co2", .oneOf, .list items, by decide⟩)
    let kinds := compare [.bool false, .int 0, .float .zero, .text "0"]
    let broken := compare [.int 0, .float .nan]
    kinds.stored = .ok kinds.json ∧ read (.text kinds.json) = .ok kinds ∧
      ∃ why, read (.text broken.json) = .error (.invalid why) := by
  intro compare kinds broken
  have each {P : Scalar → Prop} (bool : P (.bool false)) (int : P (.int 0))
      (float : P (.float .zero)) (text : P (.text "0")) : ∀ s ∈ kinds.scalars, P s := by
    show ∀ s ∈ [Scalar.bool false, .int 0, .float .zero, .text "0"], P s
    simp only [List.forall_mem_singleton, List.forall_mem_cons]
    exact ⟨bool, int, float, text⟩
  have short : ∀ s ∈ broken.scalars, s.isShort = true := by
    show ∀ s ∈ [Scalar.int 0, .float .nan], s.isShort = true
    decide
  have nan : .float .nan ∈ broken.scalars := by
    show Scalar.float .nan ∈ [Scalar.int 0, .float .nan]
    exact List.mem_cons_of_mem _ List.mem_cons_self
  have kept := stored_reads_back (each (P := fun s => s.isShort = true) rfl (by decide) rfl rfl)
  exact ⟨(kept.1 _).mpr ⟨each rfl rfl rfl rfl, rfl⟩, kept.2.1 (each rfl rfl rfl rfl),
    (stored_reads_back short).2.2 ⟨_, nan, rfl⟩⟩

end Expr

end Screening
