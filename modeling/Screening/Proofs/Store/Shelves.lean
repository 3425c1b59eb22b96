import Screening.Proofs.Lookups
import Screening.Proofs.Store.AsOf

/-!
# Rows of one company, day and name

What is looked up in the values of a company depends on the order of its rows only where several are
of one day and bear one name, in whatever letter case: `sameLookups_of_shelves`.
-/

namespace Screening.Store

open Resolution

/-- The rows of a company that are of a day and bear a name, in their order. -/
def shelf (rows : List ParameterValue) (id : Text) (day : Date) (name : Text) :
    List ParameterValue :=
  rows.filter fun row =>
    row.companyId == id && (row.effective == day && Text.sameFold row.parameterName name)

def SameShelves (rows others : List ParameterValue) : Prop :=
  ∀ id day name, shelf rows id day name = shelf others id day name

variable {rows others : List ParameterValue} {id name : Text} {day : Date} {row : ParameterValue}

theorem mem_shelf : row ∈ shelf rows id day name ↔ row ∈ rows ∧ row.companyId = id ∧
    row.effective = day ∧ Text.fold row.parameterName = Text.fold name := by
  simp [shelf, Text.sameFold]

theorem SameShelves.mem_iff (same : SameShelves rows others) (row : ParameterValue) :
    row ∈ rows ↔ row ∈ others := by
  have own : ∀ rows, row ∈ shelf rows row.companyId row.effective row.parameterName ↔ row ∈ rows :=
    fun rows => mem_shelf.trans ⟨And.left, fun member => ⟨member, rfl, rfl, rfl⟩⟩
  rw [← own rows, same, own]

/-- Nothing is known of the company on the day. -/
def nothingKnown (rows : List ParameterValue) (id : Text) (day : Date) : Bool :=
  rows.all fun row => !(row.companyId == id && decide (row.effective ≤ day))

theorem SameShelves.nothingKnown (same : SameShelves rows others) (id : Text) (day : Date) :
    nothingKnown rows id day = nothingKnown others id day := by
  rw [Bool.eq_iff_iff, Store.nothingKnown, Store.nothingKnown, List.all_eq_true, List.all_eq_true]
  exact forall_congr' fun row => by rw [same.mem_iff row]

theorem scope_eq (rows : List ParameterValue) (id : Text) (day : Date) :
    scope rows id day = rows.filter fun row =>
      row.companyId == id && (nothingKnown rows id day || decide (row.effective ≤ day)) := by
  have known : ((rows.filter (·.companyId == id)).filter fun row =>
      decide (row.effective ≤ day)).isEmpty = nothingKnown rows id day := by
    rw [Bool.eq_iff_iff, List.isEmpty_iff, nothingKnown, List.filter_filter, List.filter_eq_nil_iff,
      List.all_eq_true]
    simp only [Bool.and_comm, Bool.not_eq_true']
    exact forall_congr' fun row => by simp
  unfold scope
  dsimp only
  rw [known, List.filter_filter]
  cases nothingKnown rows id day with
  | true => simp
  | false =>
    rw [if_neg Bool.false_ne_true]
    refine List.filter_congr fun row _ => ?_
    rw [Bool.false_or, Bool.and_comm]

/-- Rows that a name selects are the same in both, latest first. -/
theorem SameShelves.filter_scope (same : SameShelves rows others) {wanted : ParameterValue → Bool}
    (named : ∀ row, wanted row = true → Text.sameFold row.parameterName name = true) :
    (latestFirst (scope rows id day)).filter wanted =
      (latestFirst (scope others id day)).filter wanted := by
  have shelved : ∀ rows date, onDay ((scope rows id day).filter wanted) date =
      (shelf rows id date name).filter fun row =>
        wanted row && (Store.nothingKnown rows id day || decide (row.effective ≤ day)) := by
    intro rows date
    rw [scope_eq, onDay, shelf, List.filter_filter, List.filter_filter, List.filter_filter]
    refine List.filter_congr fun row _ => ?_
    cases selected : wanted row with
    | true => rw [named row selected]; grind
    | false => simp
  rw [filter_latestFirst, filter_latestFirst]
  refine latestFirst_congr fun date => ?_
  rw [shelved, shelved, same, same.nothingKnown]

theorem SameShelves.shown? (same : SameShelves rows others) (id : Text) (day : Date) (name : Text) :
    shown? (latestFirst (scope rows id day)) name = shown? (latestFirst (scope others id day)) name := by
  have exactly : ∀ row : ParameterValue, (row.parameterName == name) = true →
      Text.sameFold row.parameterName name = true := by
    intro row spelled
    rw [eq_of_beq spelled]
    exact Text.sameFold_iff.mpr rfl
  have folded : ∀ row : ParameterValue, Text.sameFold row.parameterName name = true →
      Text.sameFold row.parameterName name = true := fun _ same => same
  unfold Store.shown?
  rw [← List.head?_filter, ← List.head?_filter, ← List.head?_filter, ← List.head?_filter,
    same.filter_scope exactly, same.filter_scope folded]

/-! ### Where a row comes from does not matter -/

/-- A row without its source. -/
def content (row : ParameterValue) : ParameterValue := { row with source := none }

theorem scope_content (rows : List ParameterValue) (id : Text) (day : Date) :
    scope (rows.map content) id day = (scope rows id day).map content := by
  have known : nothingKnown (rows.map content) id day = nothingKnown rows id day := by
    rw [nothingKnown, List.all_map]
    rfl
  rw [scope_eq, scope_eq, known, List.filter_map]
  rfl

theorem shown?_content (rows : List ParameterValue) (name : Text) :
    shown? (rows.map content) name = (shown? rows name).map content := by
  unfold shown?
  rw [List.find?_map, List.find?_map]
  have exactly : ((fun row : ParameterValue => row.parameterName == name) ∘ content) =
      fun row => row.parameterName == name := rfl
  have folded : ((fun row : ParameterValue => Text.sameFold row.parameterName name) ∘ content) =
      fun row => Text.sameFold row.parameterName name := rfl
  rw [exactly, folded]
  cases rows.find? fun row => row.parameterName == name <;> rfl

theorem lookup_content (s : Store) (id : Text) (day : Date) (name : Text) :
    lookup (s.valuesAsOf id day) name =
      (shown? (latestFirst (scope (s.values.values.map content) id day)) name).map
        fun row => .scalar row.value := by
  have days : ∀ row, (content row).effective = row.effective := fun _ => rfl
  rw [lookup_valuesAsOf, countingRows, scope_content, ← map_latestFirst days, shown?_content,
    Option.map_map]
  rfl

theorem sameLookups_of_shelves {s t : Store}
    (same : SameShelves (s.values.values.map content) (t.values.values.map content)) (id : Text)
    (day : Date) : (s.valuesAsOf id day).SameLookups (t.valuesAsOf id day) := by
  intro name
  rw [lookup_content, lookup_content, same.shown?]

end Screening.Store
