import Screening.Operator
import Screening.Proofs.Number

/-!
# What the comparison operators mean

Which data an operator holds of is said by `Operator.eq_iff`, `Operator.lt_iff` and
`Operator.le_iff`. `compare_coherent` puts together the laws that follow, for numbers and for all
other data.
-/

namespace Screening

/-! ### Operators on data -/

namespace Data

theorem number?_eq_some {d : Data} {n : Number} : d.number? = some n ↔ d = n.data := by
  constructor
  · intro found
    unfold number? at found
    split at found
    · rename_i s
      cases s with
      | int k =>
        obtain rfl := Option.some.inj found
        rfl
      | float x =>
        obtain rfl := Option.some.inj found
        rfl
      | bool b => cases found
      | text t => cases found
    · cases found
  · rintro rfl
    cases n <;> rfl

theorem number?_data (n : Number) : n.data.number? = some n :=
  number?_eq_some.mpr rfl

theorem text?_eq_some {d : Data} {t : Text} : d.text? = some t ↔ d = .text t := by
  constructor
  · intro found
    unfold text? at found
    split at found
    · obtain rfl := Option.some.inj found
      rfl
    · cases found
  · rintro rfl
    rfl

theorem ordered_data (order : Number → Number → Bool) (m n : Number.Valued) :
    m.data.ordered order n.data = order m.1 n.1 := by
  rw [ordered, Number.Valued.data, Number.Valued.data, number?_data, number?_data]

theorem same_data (m n : Number.Valued) : m.data.same n.data = m.1.equal n.1 := by
  obtain ⟨m, _⟩ := m
  obtain ⟨n, _⟩ := n
  cases m <;> cases n <;> rfl

/-- An order of numbers that NaN has no part in holds of data just when it is that of two values. -/
theorem ordered_iff {order : Number → Number → Bool} {R : ExactValue → ExactValue → Prop}
    (valued : ∀ {m n}, order m n = true → m ≠ .float .nan ∧ n ≠ .float .nan)
    (exact : ∀ m n : Number.Valued, order m.1 n.1 = true ↔ R m.exact n.exact) {a b : Data} :
    a.ordered order b = true ↔
      ∃ m n : Number.Valued, a = m.data ∧ b = n.data ∧ R m.exact n.exact := by
  constructor
  · intro holds
    unfold ordered at holds
    split at holds
    · rename_i m n isM isN
      obtain ⟨numberM, numberN⟩ := valued holds
      exact ⟨⟨m, numberM⟩, ⟨n, numberN⟩, number?_eq_some.mp isM, number?_eq_some.mp isN,
        (exact _ _).mp holds⟩
    · cases holds
  · rintro ⟨m, n, rfl, rfl, holds⟩
    rw [ordered_data]
    exact (exact m n).mpr holds

theorem same_iff {a b : Data} : a.same b = true ↔
    (∃ x, a = .bool x ∧ b = .bool x) ∨ (∃ t, a = .text t ∧ b = .text t) ∨
      ∃ m n : Number.Valued, a = m.data ∧ b = n.data ∧ m.exact = n.exact := by
  constructor
  · intro holds
    unfold same at holds
    split at holds
    · obtain rfl := eq_of_beq holds
      exact Or.inl ⟨_, rfl, rfl⟩
    · split at holds
      · rename_i m n isM isN
        obtain ⟨numberM, numberN⟩ := Number.valued_of_equal holds
        exact Or.inr (Or.inr ⟨⟨m, numberM⟩, ⟨n, numberN⟩, number?_eq_some.mp isM,
          number?_eq_some.mp isN, (Number.equal_iff _ _).mp holds⟩)
      · split at holds
        · rename_i isS isT
          obtain rfl := eq_of_beq holds
          exact Or.inr (Or.inl ⟨_, text?_eq_some.mp isS, text?_eq_some.mp isT⟩)
        · cases holds
  · rintro (⟨x, rfl, rfl⟩ | ⟨t, rfl, rfl⟩ | ⟨m, n, rfl, rfl, exact⟩)
    · exact beq_self_eq_true x
    · exact beq_self_eq_true t
    · rw [same_data]
      exact (Number.equal_iff m n).mpr exact

theorem isPart_iff {part whole : List CodePoint} : isPart part whole = true ↔ part <:+: whole := by
  induction whole with
  | nil => simp [isPart]
  | cons p rest ih =>
    rw [isPart, Bool.or_eq_true, List.isPrefixOf_iff_prefix, ih, List.infix_cons_iff]

theorem containsText_iff {a b : Data} : a.containsText b = true ↔
    ∃ s t : Text, a = .text s ∧ b = .text t ∧ t.points <:+: s.points := by
  constructor
  · intro holds
    unfold containsText at holds
    split at holds
    · rename_i s t isS isT
      exact ⟨s, t, text?_eq_some.mp isS, text?_eq_some.mp isT, isPart_iff.mp holds⟩
    · cases holds
  · rintro ⟨s, t, rfl, rfl, part⟩
    exact isPart_iff.mpr part

end Data

/-! ### The laws of the operators -/

inductive ScalarKind where
  | bool
  | number
  | text

def Data.scalarKind? : Data → Option ScalarKind
  | .atom (.scalar (.bool _)) => some .bool
  | .atom (.scalar (.int _)) | .atom (.scalar (.float _)) => some .number
  | .atom (.scalar (.text _)) => some .text
  | _ => none

theorem Number.Valued.scalarKind? (n : Valued) : n.data.scalarKind? = some .number := by
  obtain ⟨n, _⟩ := n
  cases n <;> rfl

namespace Operator

open Number (Valued)

variable {m n : Valued} {a b : Data} {op : Operator}

theorem eq_iff : eq.compare a b = true ↔
    (∃ x, a = .bool x ∧ b = .bool x) ∨ (∃ t, a = .text t ∧ b = .text t) ∨
      ∃ m n : Valued, a = m.data ∧ b = n.data ∧ m.exact = n.exact :=
  Data.same_iff

theorem lt_iff : lt.compare a b = true ↔
    ∃ m n : Valued, a = m.data ∧ b = n.data ∧ m.exact < n.exact :=
  Data.ordered_iff Number.valued_of_less Number.less_iff

theorem le_iff : le.compare a b = true ↔
    ∃ m n : Valued, a = m.data ∧ b = n.data ∧ m.exact ≤ n.exact :=
  Data.ordered_iff Number.valued_of_lessOrEqual Number.lessOrEqual_iff

theorem eq_valued : eq.compare m.data n.data = true ↔ m.exact = n.exact := by
  rw [compare, Data.same_data, Number.equal_iff]

theorem lt_valued : lt.compare m.data n.data = true ↔ m.exact < n.exact := by
  rw [compare, Data.ordered_data, Number.less_iff]

theorem le_valued : le.compare m.data n.data = true ↔ m.exact ≤ n.exact := by
  rw [compare, Data.ordered_data, Number.lessOrEqual_iff]

/-- The operators that put numbers in an order. -/
def orders : List Operator := [lt, le, gt, ge]

theorem gt_eq (a b : Data) : gt.compare a b = lt.compare b a := rfl

theorem ge_eq (a b : Data) : ge.compare a b = le.compare b a := rfl

theorem valued_of_order (listed : op ∈ orders) (holds : op.compare a b = true) :
    ∃ m n : Valued, a = m.data ∧ b = n.data := by
  simp only [orders, List.mem_cons, List.not_mem_nil, or_false] at listed
  rcases listed with rfl | rfl | rfl | rfl
  · obtain ⟨m, n, isM, isN, -⟩ := lt_iff.mp holds
    exact ⟨m, n, isM, isN⟩
  · obtain ⟨m, n, isM, isN, -⟩ := le_iff.mp holds
    exact ⟨m, n, isM, isN⟩
  · obtain ⟨n, m, isN, isM, -⟩ := lt_iff.mp ((gt_eq a b).symm.trans holds)
    exact ⟨m, n, isM, isN⟩
  · obtain ⟨n, m, isN, isM, -⟩ := le_iff.mp ((ge_eq a b).symm.trans holds)
    exact ⟨m, n, isM, isN⟩

/-- The laws of numbers other than NaN. -/
structure OrdersNumbers (m n k : Valued) : Prop where
  eq_iff : eq.compare m.data n.data = true ↔ m.exact = n.exact
  lt_iff : lt.compare m.data n.data = true ↔ m.exact < n.exact
  le_iff : le.compare m.data n.data = true ↔ m.exact ≤ n.exact
  eq_refl : eq.compare m.data m.data = true
  eq_symm : eq.compare m.data n.data = eq.compare n.data m.data
  eq_trans : eq.compare m.data n.data = true → eq.compare n.data k.data = true →
    eq.compare m.data k.data = true
  le_trans : le.compare m.data n.data = true → le.compare n.data k.data = true →
    le.compare m.data k.data = true
  one_holds : ∃! op, op ∈ [lt, eq, gt] ∧ op.compare m.data n.data = true
  le_eq : le.compare m.data n.data = (lt.compare m.data n.data || eq.compare m.data n.data)
  gt_eq : gt.compare m.data n.data = lt.compare n.data m.data
  ge_eq : ge.compare m.data n.data = le.compare n.data m.data

/-- The laws of all data. -/
structure TellsKindsApart (a b : Data) : Prop where
  ne_eq : ne.compare a b = !eq.compare a b
  eq_kind : eq.compare a b = true → ∃ kind, a.scalarKind? = some kind ∧ b.scalarKind? = some kind
  order_number : ∀ op ∈ orders, op.compare a b = true →
    a.scalarKind? = some .number ∧ b.scalarKind? = some .number
  oneOf_iff : oneOf.compare a b = true ↔
    ∃ items, b = .list items ∧ ∃ d ∈ items, eq.compare a d = true
  noneOf_iff : noneOf.compare a b = true ↔
    ∃ items, b = .list items ∧ ∀ d ∈ items, eq.compare a d = false
  list_one : ∀ items, b = .list items → noneOf.compare a b = !oneOf.compare a b
  else_none : (∀ items, b ≠ .list items) → oneOf.compare a b = false ∧ noneOf.compare a b = false
  contains_iff : contains.compare a b = true ↔
    ∃ s t : Text, a = .text s ∧ b = .text t ∧ t.points <:+: s.points

/-- The operator that holds of two numbers in this order. -/
def ofOrdering : Ordering → Operator
  | .lt => lt
  | .eq => eq
  | .gt => gt

theorem mem_ofOrdering : op ∈ [lt, eq, gt] ↔ ∃ o, ofOrdering o = op := by
  constructor
  · intro listed
    simp only [List.mem_cons, List.not_mem_nil, or_false] at listed
    rcases listed with rfl | rfl | rfl
    · exact ⟨.lt, rfl⟩
    · exact ⟨.eq, rfl⟩
    · exact ⟨.gt, rfl⟩
  · rintro ⟨o, rfl⟩
    cases o <;> simp [ofOrdering]

theorem ofOrdering_valued (m n : Valued) (o : Ordering) :
    (ofOrdering o).compare m.data n.data = true ↔ cmp m.exact n.exact = o := by
  cases o with
  | lt => rw [ofOrdering, lt_valued, cmp_eq_lt_iff]
  | eq => rw [ofOrdering, eq_valued, cmp_eq_eq_iff]
  | gt => rw [ofOrdering, gt_eq, lt_valued, cmp_eq_gt_iff]

theorem one_holds (m n : Valued) : ∃! op, op ∈ [lt, eq, gt] ∧ op.compare m.data n.data = true := by
  refine ⟨ofOrdering (cmp m.exact n.exact), ⟨mem_ofOrdering.mpr ⟨_, rfl⟩, ?_⟩, ?_⟩
  · exact (ofOrdering_valued m n _).mpr rfl
  · rintro op ⟨listed, holds⟩
    obtain ⟨o, rfl⟩ := mem_ofOrdering.mp listed
    rw [(ofOrdering_valued m n o).mp holds]

theorem ordersNumbers (m n k : Valued) : OrdersNumbers m n k where
  eq_iff := eq_valued
  lt_iff := lt_valued
  le_iff := le_valued
  eq_refl := eq_valued.mpr rfl
  eq_symm := by rw [Bool.eq_iff_iff, eq_valued, eq_valued, eq_comm]
  eq_trans mn nk := eq_valued.mpr ((eq_valued.mp mn).trans (eq_valued.mp nk))
  le_trans mn nk := le_valued.mpr ((le_valued.mp mn).trans (le_valued.mp nk))
  one_holds := one_holds m n
  le_eq := by
    rw [Bool.eq_iff_iff, Bool.or_eq_true, le_valued, lt_valued, eq_valued, le_iff_lt_or_eq]
  gt_eq := rfl
  ge_eq := rfl

theorem tellsKindsApart (a b : Data) : TellsKindsApart a b where
  ne_eq := rfl
  eq_kind holds := by
    rcases eq_iff.mp holds with ⟨x, rfl, rfl⟩ | ⟨t, rfl, rfl⟩ | ⟨m, n, rfl, rfl, -⟩
    · exact ⟨.bool, rfl, rfl⟩
    · exact ⟨.text, rfl, rfl⟩
    · exact ⟨.number, m.scalarKind?, n.scalarKind?⟩
  order_number op listed holds := by
    obtain ⟨m, n, rfl, rfl⟩ := valued_of_order listed holds
    exact ⟨m.scalarKind?, n.scalarKind?⟩
  oneOf_iff := by
    cases b with
    | list items => simp [compare]
    | atom _ | map _ => simp [compare]
  noneOf_iff := by
    cases b with
    | list items => simp [compare]
    | atom _ | map _ => simp [compare]
  list_one := by
    rintro items rfl
    rfl
  else_none noList := by
    cases b with
    | list items => exact absurd rfl (noList items)
    | atom _ | map _ => exact ⟨rfl, rfl⟩
  contains_iff := Data.containsText_iff

theorem valued_of_holds (listed : op ∈ eq :: orders) (holds : op.compare a b = true)
    (number : a.scalarKind? = some .number ∨ b.scalarKind? = some .number) :
    ∃ m n : Valued, a = m.data ∧ b = n.data := by
  rcases List.mem_cons.mp listed with rfl | listed
  · rcases eq_iff.mp holds with ⟨x, rfl, rfl⟩ | ⟨t, rfl, rfl⟩ | ⟨m, n, isM, isN, -⟩
    · rcases number with number | number <;> cases number
    · rcases number with number | number <;> cases number
    · exact ⟨m, n, isM, isN⟩
  · exact valued_of_order listed holds

theorem nan_unordered (listed : op ∈ eq :: orders) (d : Data) :
    op.compare (.float .nan) d = false ∧ op.compare d (.float .nan) = false := by
  constructor
  · rw [Bool.eq_false_iff]
    intro holds
    obtain ⟨m, n, isM, -⟩ := valued_of_holds listed holds (Or.inl rfl)
    exact Number.nan_ne_data m isM
  · rw [Bool.eq_false_iff]
    intro holds
    obtain ⟨m, n, -, isN⟩ := valued_of_holds listed holds (Or.inr rfl)
    exact Number.nan_ne_data n isN

/-- The operators are coherent: numbers stand in the order of their exact values, NaN in none, and
whatever else is compared keeps to its kind. -/
theorem compare_coherent (m n k : Valued) (a b : Data) :
    OrdersNumbers m n k ∧
      (∀ op ∈ eq :: orders, op.compare (.float .nan) a = false ∧ op.compare a (.float .nan) = false) ∧
      TellsKindsApart a b :=
  ⟨ordersNumbers m n k, fun _ listed => nan_unordered listed a, tellsKindsApart a b⟩

/-- The least positive integer that no binary64 number is equal to stays apart from its neighbour,
which is the same as an integer and as a float. -/
theorem compare_coherent_unrounded :
    let below : Valued := ⟨.int 9007199254740992, by simp⟩
    let float : Valued := ⟨.float (.ofRatio false 9007199254740992 1), by decide +kernel⟩
    let above : Valued := ⟨.int 9007199254740993, by simp⟩
    (le.compare below.data float.data = true ∧ le.compare float.data above.data = true ∧
      le.compare below.data above.data = true) ∧
      eq.compare below.data float.data = true ∧ eq.compare float.data above.data = false := by
  intro below float above
  have first : le.compare below.data float.data = true := by decide +kernel
  have second : le.compare float.data above.data = true := by decide +kernel
  have coherent := compare_coherent below float above .null .null
  exact ⟨⟨first, second, coherent.1.le_trans first second⟩, by decide +kernel, by decide +kernel⟩

end Operator

end Screening
