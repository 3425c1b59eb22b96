import Screening.Proofs.Chronology
import Screening.Proofs.Latest

/-!
# What a store knows of a company on a day

A company's values as of a day are those of its rows that count, and it does not matter which other
companies are asked for with it: `resolve_valuesOf`. `lookup_valuesAsOf` says which row is found
under a name.
-/

namespace Screening.Store

open Resolution

/-- The rows of a company that count on a day, latest first. -/
def countingRows (s : Store) (companyId : Text) (day : Date) : List ParameterValue :=
  latestFirst (scope s.values.values companyId day)

def valuesAsOf (s : Store) (companyId : Text) (day : Date) : Values :=
  (resolve s.valuesOf [companyId] day).of companyId

/-- The row that is shown under a name: one with that spelling, or else one in other letter case. -/
def shown? (rows : List ParameterValue) (name : Text) : Option ParameterValue :=
  (rows.find? (·.parameterName == name)).or (rows.find? fun row => Text.sameFold row.parameterName name)

/-! ### A company among others -/

variable {ids : List Text} {id : Text}

theorem valuesOf_own (s : Store) (asked : id ∈ ids) (until? : Option Date) :
    (s.valuesOf ids until?).filter (·.companyId == id) =
      latestFirst ((s.values.values.filter (·.companyId == id)).filter
        fun row => until?.all fun day => decide (row.effective ≤ day)) := by
  have sorted : s.valuesOf ids until? = latestFirst (s.values.values.filter fun row =>
      ids.contains row.companyId && until?.all fun day => decide (row.effective ≤ day)) := by
    refine congrArg latestFirst (List.filter_congr fun row _ => ?_)
    cases until? <;> rfl
  rw [sorted, filter_latestFirst, List.filter_filter, List.filter_filter]
  congr 1
  refine List.filter_congr fun row _ => ?_
  by_cases own : row.companyId = id
  · cases until? <;> simp [own, asked]
  · simp [beq_eq_false_iff_ne.mpr own]

/-- Of the rows that are entered, those of a company are its rows that count. -/
theorem entered_own (s : Store) (asked : id ∈ ids) (day : Date) :
    (entered s.valuesOf ids day).filter (·.companyId == id) = s.countingRows id day := by
  have member := mem_distinct.mpr asked
  have dated := s.valuesOf_own member (some day)
  unfold entered countingRows scope
  dsimp only [Option.all_some] at dated ⊢
  rw [List.filter_append, filter_latestFirst, dated,
    latestFirst_of_sorted (latestFirst_sorted _)]
  by_cases none : ((s.values.values.filter (·.companyId == id)).filter fun row =>
      decide (row.effective ≤ day)) = []
  · have empty : latestFirst [] = [] := List.mergeSort_nil
    have rest : id ∈ without (distinct ids) (s.valuesOf (distinct ids) (some day)) :=
      mem_without.mpr ⟨member, by rw [dated, none, empty]⟩
    have all := s.valuesOf_own rest Option.none
    rw [none, empty, List.nil_append, if_neg (by simpa using List.ne_nil_of_mem rest),
      filter_latestFirst, all, latestFirst_of_sorted (latestFirst_sorted _)]
    simp
  · have rest : id ∉ without (distinct ids) (s.valuesOf (distinct ids) (some day)) := by
      intro listed
      have nothing := (mem_without.mp listed).2
      rw [dated] at nothing
      exact none (nothing ▸ latestFirst_perm _).symm.eq_nil
    have others : (if (without (distinct ids) (s.valuesOf (distinct ids) (some day))).isEmpty then []
        else latestFirst (s.valuesOf (without (distinct ids) (s.valuesOf (distinct ids) (some day)))
          Option.none)).filter (·.companyId == id) = [] := by
      split
      · rfl
      · rw [filter_latestFirst, s.serves_valuesOf.of_not_asked rest]
        exact List.mergeSort_nil
    rw [others, List.append_nil, if_neg (by simpa using none)]

/-- Among others a company has the values that it has alone. -/
theorem resolve_valuesOf (s : Store) (asked : id ∈ ids) (day : Date) :
    (resolve s.valuesOf ids day).of id = s.valuesAsOf id day := by
  rw [valuesAsOf, resolve_of asked, resolve_of (List.mem_singleton_self id), s.entered_own asked,
    s.entered_own (List.mem_singleton_self id)]

theorem valuesAsOf_eq (s : Store) (companyId : Text) (day : Date) :
    s.valuesAsOf companyId day = (s.countingRows companyId day).foldl enterValue [] := by
  rw [valuesAsOf, resolve_of (List.mem_singleton_self _), s.entered_own (List.mem_singleton_self _)]

/-! ### Looking up a name -/

theorem lookup_valuesAsOf (s : Store) (companyId : Text) (day : Date) (name : Text) :
    lookup (s.valuesAsOf companyId day) name =
      (shown? (s.countingRows companyId day) name).map fun row => .scalar row.value := by
  rw [valuesAsOf_eq, lookup, get?_foldl_enterValue, find?_foldl_enterValue (Text.sameFold · name)]
  unfold shown?
  cases (s.countingRows companyId day).find? (·.parameterName == name) <;> simp

end Screening.Store
