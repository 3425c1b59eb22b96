import Screening.Proofs.Names
import Screening.Session

/-!
# Values as of a day

A resolution enters rows latest first, and the first row of a parameter stays. The rows of other
companies do not matter: a company's values are those of its own rows, entered in that order
(`resolve_of`).
-/

namespace Screening

/-! ### Distinct ids -/

theorem mem_distinct {id : Text} {ids : List Text} : id ∈ distinct ids ↔ id ∈ ids :=
  List.mem_eraseDups

theorem nodup_distinct (ids : List Text) : (distinct ids).Nodup :=
  nodup_eraseDups ids

theorem idxOf_lt_of_filter {keep : Text → Bool} {ids : List Text} {a b : Text} (ha : keep a = true)
    (hb : keep b = true) (first : (ids.filter keep).idxOf a < (ids.filter keep).idxOf b) :
    ids.idxOf a < ids.idxOf b := by
  induction ids with
  | nil => exact first
  | cons id rest ih =>
    by_cases kept : keep id = true
    · rw [List.filter_cons_of_pos kept] at first
      by_cases hida : id = a
      · subst hida
        by_cases hidb : id = b
        · exact absurd (hidb ▸ first) (Nat.lt_irrefl _)
        · rw [List.idxOf_cons_self, List.idxOf_cons_ne _ hidb]
          exact Nat.succ_pos _
      · by_cases hidb : id = b
        · subst hidb
          rw [List.idxOf_cons_self] at first
          exact absurd first (Nat.not_lt_zero _)
        · rw [List.idxOf_cons_ne _ hida, List.idxOf_cons_ne _ hidb] at first ⊢
          exact Nat.succ_lt_succ (ih (Nat.lt_of_succ_lt_succ first))
    · rw [List.filter_cons_of_neg kept] at first
      have hida : id ≠ a := fun same => kept (same ▸ ha)
      have hidb : id ≠ b := fun same => kept (same ▸ hb)
      rw [List.idxOf_cons_ne _ hida, List.idxOf_cons_ne _ hidb]
      exact Nat.succ_lt_succ (ih first)

theorem distinct_ordered (ids : List Text) :
    (distinct ids).Pairwise fun a b => ids.idxOf a < ids.idxOf b := by
  -- The ids after the first are those of a filtered list, so the induction is on the length.
  induction n : ids.length using Nat.strongRecOn generalizing ids with
  | ind n ih =>
    cases ids with
    | nil => exact List.Pairwise.nil
    | cons id rest =>
      subst n
      have kept : ∀ a ∈ distinct (rest.filter fun b => !b == id), (!a == id) = true :=
        fun a member => (List.mem_filter.mp (mem_distinct.mp member)).2
      have apart : ∀ a ∈ distinct (rest.filter fun b => !b == id), id ≠ a := by
        intro a member same
        have := kept a member
        simp [same] at this
      have later := ih _ (Nat.lt_succ_of_le (List.length_filter_le (fun b => !b == id) rest)) _ rfl
      rw [distinct, List.eraseDups_cons, List.pairwise_cons]
      refine ⟨fun a member => ?_, later.imp_of_mem fun {a b} ha hb first => ?_⟩
      · rw [List.idxOf_cons_self, List.idxOf_cons_ne _ (apart a member)]
        exact Nat.succ_pos _
      · rw [List.idxOf_cons_ne _ (apart a ha), List.idxOf_cons_ne _ (apart b hb)]
        exact Nat.succ_lt_succ (idxOf_lt_of_filter (kept a ha) (kept b hb) first)

/-! ### Latest first -/

theorem Date.le_total (a b : Date) : a ≤ b ∨ b ≤ a :=
  Nat.le_total a.day b.day

theorem Date.le_trans {a b c : Date} (hab : a ≤ b) (hbc : b ≤ c) : a ≤ c :=
  Nat.le_trans hab hbc

theorem Date.le_antisymm {a b : Date} (hab : a ≤ b) (hba : b ≤ a) : a = b := by
  obtain ⟨m, _⟩ := a
  obtain ⟨n, _⟩ := b
  obtain rfl : m = n := Nat.le_antisymm hab hba
  rfl

namespace Resolution

theorem latestFirst_perm (rows : List ParameterValue) : (latestFirst rows).Perm rows :=
  List.mergeSort_perm rows _

theorem later_trans (a b c : ParameterValue) (hab : decide (b.effective ≤ a.effective) = true)
    (hbc : decide (c.effective ≤ b.effective) = true) :
    decide (c.effective ≤ a.effective) = true :=
  decide_eq_true (Date.le_trans (of_decide_eq_true hbc) (of_decide_eq_true hab))

theorem later_total (a b : ParameterValue) :
    (decide (b.effective ≤ a.effective) || decide (a.effective ≤ b.effective)) = true := by
  simpa using Date.le_total b.effective a.effective

theorem latestFirst_sorted (rows : List ParameterValue) :
    (latestFirst rows).Pairwise fun a b => b.effective ≤ a.effective :=
  (List.pairwise_mergeSort later_trans later_total rows).imp of_decide_eq_true

/-- In an ordered list, whatever is found first is before all others that are looked for. -/
theorem find?_first {α : Type} {R : α → α → Prop} {l : List α} {p : α → Bool} {a b : α}
    (sorted : l.Pairwise R) (found : l.find? p = some a) (member : b ∈ l) (wanted : p b = true) :
    a = b ∨ R a b := by
  obtain ⟨_, before, after, rfl, skipped⟩ := List.find?_eq_some_iff_append.mp found
  rcases List.mem_append.mp member with early | late
  · have := skipped b early
    simp [wanted] at this
  · rcases List.mem_cons.mp late with same | later
    · exact Or.inl same.symm
    · exact Or.inr ((List.pairwise_cons.mp (List.pairwise_append.mp sorted).2.1).1 b later)

theorem exists_latest {rows : List ParameterValue} {p : ParameterValue → Bool}
    (wantedRow : ∃ row ∈ rows, p row = true) :
    ∃ row ∈ rows, p row = true ∧ ∀ other ∈ rows, p other = true →
      other.effective ≤ row.effective := by
  obtain ⟨witness, member, wanted⟩ := wantedRow
  have perm := latestFirst_perm rows
  cases found : (latestFirst rows).find? p with
  | none => exact absurd wanted (List.find?_eq_none.mp found witness (perm.mem_iff.mpr member))
  | some row =>
    refine ⟨row, perm.mem_iff.mp (List.mem_of_find?_eq_some found), List.find?_some found, ?_⟩
    intro other otherMember otherWanted
    rcases find?_first (latestFirst_sorted rows) found (perm.mem_iff.mpr otherMember) otherWanted with
      rfl | before
    · exact Nat.le_refl _
    · exact before

/-! ### The first row of a parameter stays -/

/-- Enter the value of a row unless its parameter has one. -/
def enterValue (values : Values) (row : ParameterValue) : Values :=
  match Entries.get? values row.parameterName with
  | some _ => values
  | none => Entries.put values row.parameterName (.scalar row.value)

theorem enterValue_of_mem {values : Values} {row : ParameterValue}
    (present : row.parameterName ∈ values.map Prod.fst) : enterValue values row = values := by
  unfold enterValue
  split
  · rfl
  · rename_i absent
    exact absurd present (Entries.get?_eq_none_iff.mp absent)

theorem enterValue_of_not_mem {values : Values} {row : ParameterValue}
    (absent : row.parameterName ∉ values.map Prod.fst) :
    enterValue values row = values ++ [(row.parameterName, .scalar row.value)] := by
  rw [enterValue, Entries.get?_eq_none_iff.mpr absent]
  exact Entries.put_of_not_mem absent _

theorem names_foldl_enterValue (rows : List ParameterValue) (values : Values) (name : Text) :
    name ∈ (rows.foldl enterValue values).map Prod.fst ↔
      name ∈ values.map Prod.fst ∨ ∃ row ∈ rows, row.parameterName = name := by
  induction rows generalizing values with
  | nil => simp
  | cons row rest ih =>
    rw [List.foldl_cons, ih]
    by_cases present : row.parameterName ∈ values.map Prod.fst
    · rw [enterValue_of_mem present]
      grind
    · rw [enterValue_of_not_mem present]
      grind

theorem nodup_foldl_enterValue (rows : List ParameterValue) {values : Values}
    (distinct : (values.map Prod.fst).Nodup) :
    ((rows.foldl enterValue values).map Prod.fst).Nodup := by
  induction rows generalizing values with
  | nil => exact distinct
  | cons row rest ih =>
    refine ih ?_
    unfold enterValue
    split
    · exact distinct
    · exact Entries.nodup_put distinct _ _

/-- Of the entered values, the first under a name of some kind is that of the first row. -/
theorem find?_foldl_enterValue (p : Text → Bool) (rows : List ParameterValue) (values : Values) :
    ((rows.foldl enterValue values).find? fun e => p e.1).map Prod.snd =
      ((values.find? fun e => p e.1).map Prod.snd).or
        ((rows.find? fun row => p row.parameterName).map fun row => .scalar row.value) := by
  induction rows generalizing values with
  | nil => simp
  | cons row rest ih =>
    rw [List.foldl_cons, ih]
    by_cases present : row.parameterName ∈ values.map Prod.fst
    · rw [enterValue_of_mem present]
      by_cases wanted : p row.parameterName = true
      · obtain ⟨e, member, same⟩ := List.mem_map.mp present
        cases found : values.find? fun e => p e.1 with
        | none => exact absurd (same ▸ wanted) (List.find?_eq_none.mp found e member)
        | some e => simp
      · simp [wanted]
    · rw [enterValue_of_not_mem present, List.find?_append]
      by_cases wanted : p row.parameterName = true <;>
        cases values.find? (fun e => p e.1) <;> simp [wanted]

theorem get?_foldl_enterValue (rows : List ParameterValue) (name : Text) :
    Entries.get? (rows.foldl enterValue []) name =
      (rows.find? fun row => row.parameterName == name).map fun row => .scalar row.value := by
  rw [Entries.get?_eq_find?, find?_foldl_enterValue (· == name)]
  rfl

/-! ### One company among others -/

theorem get?_enter (resolved : List (Text × Values)) (row : ParameterValue) (id : Text) :
    Entries.get? (enter resolved row) id =
      if row.companyId = id then (Entries.get? resolved id).map (enterValue · row)
      else Entries.get? resolved id := by
  unfold enter
  split
  · rename_i absent
    by_cases same : row.companyId = id
    · subst same; simp [absent]
    · simp [same]
  · rename_i values found
    unfold enterValue
    cases present : Entries.get? values row.parameterName with
    | some v =>
      by_cases same : row.companyId = id
      · subst same; simp [found, present]
      · simp [same]
    | none =>
      rw [Entries.get?_put]
      by_cases same : row.companyId = id
      · subst same; simp [found, present]
      · simp [same]

theorem keys_enter (resolved : List (Text × Values)) (row : ParameterValue) :
    (enter resolved row).map Prod.fst = resolved.map Prod.fst := by
  unfold enter
  split
  · rfl
  · rename_i values found
    split
    · rfl
    · refine Entries.keys_put_of_mem ?_ _
      exact List.mem_map_of_mem (Entries.mem_of_get? found)

theorem keys_foldl_enter (rows : List ParameterValue) (resolved : List (Text × Values)) :
    (rows.foldl enter resolved).map Prod.fst = resolved.map Prod.fst := by
  induction rows generalizing resolved with
  | nil => rfl
  | cons row rest ih => rw [List.foldl_cons, ih, keys_enter]

/-- The rows of other companies do not matter. -/
theorem get?_foldl_enter (rows : List ParameterValue) (resolved : List (Text × Values)) (id : Text) :
    Entries.get? (rows.foldl enter resolved) id =
      (Entries.get? resolved id).map fun values =>
        (rows.filter (·.companyId == id)).foldl enterValue values := by
  induction rows generalizing resolved with
  | nil => simp
  | cons row rest ih =>
    rw [List.foldl_cons, ih, get?_enter]
    by_cases same : row.companyId = id <;> simp [same, Function.comp_def]

theorem get?_blank {ids : List Text} {id : Text} (asked : id ∈ ids) :
    Entries.get? (ids.map fun id => (id, ([] : Values))) id = some [] := by
  induction ids with
  | nil => cases asked
  | cons first rest ih =>
    by_cases same : first = id
    · simp [Entries.get?, same]
    · have later : id ∈ rest := by simpa [Ne.symm same] using asked
      simp [Entries.get?, same, ih later]

/-- The rows that a resolution enters, in that order. -/
def entered (source : ValueSource) (ids : List Text) (day : Date) : List ParameterValue :=
  let dated := source (distinct ids) (some day)
  let rest := without (distinct ids) dated
  latestFirst dated ++ if rest.isEmpty then [] else latestFirst (source rest none)

theorem resolve_values (source : ValueSource) (ids : List Text) (day : Date) :
    (resolve source ids day).values =
      if (distinct ids).isEmpty then []
      else (entered source ids day).foldl enter ((distinct ids).map fun id => (id, [])) := by
  unfold resolve entered enterAll
  dsimp only
  split
  · rfl
  · split <;> simp [List.foldl_append]

theorem resolve_keys (source : ValueSource) (ids : List Text) (day : Date) :
    (resolve source ids day).values.map Prod.fst = distinct ids := by
  rw [resolve_values]
  split
  · rename_i none
    simpa using none.symm
  · simp [keys_foldl_enter, Function.comp_def]

/-- What a company's values are: its rows among those that are entered, the first of each name. -/
theorem resolve_of {source : ValueSource} {ids : List Text} {day : Date} {id : Text} (asked : id ∈ ids) :
    (resolve source ids day).of id =
      ((entered source ids day).filter (·.companyId == id)).foldl enterValue [] := by
  have member := mem_distinct.mpr asked
  rw [of, resolve_values, if_neg (by simpa using List.ne_nil_of_mem member), get?_foldl_enter,
    get?_blank member]
  rfl

theorem resolve_fallbacks (source : ValueSource) (ids : List Text) (day : Date) :
    (resolve source ids day).fallbacks =
      without (distinct ids) (source (distinct ids) (some day)) := by
  unfold resolve
  dsimp only
  split
  · rename_i none
    simp [List.isEmpty_iff.mp none, without]
  · split
    · rename_i none
      exact (List.isEmpty_iff.mp none).symm
    · rfl

end Resolution

end Screening
