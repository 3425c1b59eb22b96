import Mathlib.Data.List.Find
import Screening.Proofs.Store.AsOf
import Screening.Proofs.Store.History

/-!
# Values of parameters that change their names

A row bears the name that its parameter had when it was recorded, and a resolution goes by that
name. So under the present name of a parameter it may show no value, an old one or that of another
parameter: `lookup_after_renaming` says when it shows the right one.
-/

namespace Screening

open Resolution

namespace Store

/-! ### The rows of a history -/

/-- The row is one of the company's that count on a day: one known by then, or any if none was. -/
def Counts (h : List Action) (companyId : Text) (day : Date) (row : ParameterValue) : Prop :=
  row.companyId = companyId ∧ (row.effective ≤ day ∨
    ∀ other ∈ recorded h, other.companyId = companyId → ¬other.effective ≤ day)

/-- The row is the one of a parameter that is effective for a company on a day: the last one that
was recorded for the latest day that counts. -/
structure Effective (h : List Action) (companyId parameterId : Text) (day : Date)
    (row : ParameterValue) : Prop where
  last : lastRecorded h row.key = some row
  counts : Counts h companyId day row
  parameter : row.parameterId = parameterId
  latest : ∀ other ∈ recorded h, Counts h companyId day other → other.parameterId = parameterId →
    other.effective ≤ row.effective

variable {h : List Action} {p : Parameter} {companyId parameterId : Text} {day : Date}
  {row : ParameterValue}

theorem exists_kept (member : row ∈ recorded h) :
    ∃ kept ∈ (after h).values.values, kept.companyId = row.companyId ∧
      kept.parameterId = row.parameterId ∧ kept.effective = row.effective := by
  obtain ⟨kept, last⟩ := exists_lastRecorded member
  obtain ⟨_, sameKey⟩ := lastRecorded_mem last
  obtain ⟨company, rest⟩ := Prod.mk.inj sameKey
  obtain ⟨parameter, date⟩ := Prod.mk.inj rest
  exact ⟨kept, mem_rows_after.mpr (sameKey ▸ last), company, parameter, date⟩

theorem mem_countingRows :
    row ∈ (after h).countingRows companyId day ↔
      lastRecorded h row.key = some row ∧ Counts h companyId day row := by
  rw [countingRows, (latestFirst_perm _).mem_iff, ← mem_rows_after]
  unfold scope Counts
  dsimp only
  split
  · rename_i empty
    have none := List.filter_eq_nil_iff.mp (List.isEmpty_iff.mp empty)
    have early : ∀ other ∈ recorded h, other.companyId = companyId → ¬other.effective ≤ day := by
      intro other member company known
      obtain ⟨kept, stored, company', _, date⟩ := exists_kept member
      exact none kept (List.mem_filter.mpr ⟨stored, by simp [company', company]⟩)
        (by simpa [date] using known)
    simp only [List.mem_filter, beq_iff_eq]
    exact and_congr_right fun _ => ⟨fun company => ⟨company, Or.inr early⟩, And.left⟩
  · rename_i known
    obtain ⟨first, member⟩ := List.exists_mem_of_ne_nil _ fun none => known (List.isEmpty_iff.mpr none)
    simp only [List.mem_filter, beq_iff_eq, decide_eq_true_eq] at member ⊢
    obtain ⟨⟨stored, company⟩, date⟩ := member
    have some := (lastRecorded_mem (mem_rows_after.mp stored)).1
    rw [and_assoc]
    refine and_congr_right fun _ => and_congr_right fun _ => ⟨Or.inl, fun counts => ?_⟩
    rcases counts with known | none
    · exact known
    · exact absurd date (none first some company)

theorem countingRows_sorted (s : Store) (companyId : Text) (day : Date) :
    (s.countingRows companyId day).Pairwise fun a b => b.effective ≤ a.effective :=
  latestFirst_sorted _

theorem counts_congr {kept : ParameterValue} (company : kept.companyId = row.companyId)
    (date : kept.effective = row.effective) :
    Counts h companyId day kept ↔ Counts h companyId day row := by
  rw [Counts, Counts, company, date]

/-- The effective row of a parameter is the first of its rows that count, latest first. -/
theorem effective_iff :
    Effective h companyId parameterId day row ↔
      ((after h).countingRows companyId day).find? (·.parameterId == parameterId) = some row := by
  constructor
  · intro effective
    have member := mem_countingRows.mpr ⟨effective.last, effective.counts⟩
    cases found : ((after h).countingRows companyId day).find? (·.parameterId == parameterId) with
    | none => simpa [effective.parameter] using List.find?_eq_none.mp found row member
    | some first =>
      have own : first.parameterId = parameterId := by simpa using List.find?_some found
      obtain ⟨last, counts⟩ := mem_countingRows.mp (List.mem_of_find?_eq_some found)
      have notLater := effective.latest first (lastRecorded_mem last).1 counts own
      rcases find?_first (countingRows_sorted _ _ _) found member (by simp [effective.parameter]) with
        same | notEarlier
      · rw [same]
      · have sameKey : first.key = row.key := by
          unfold ParameterValue.key
          rw [counts.1, effective.counts.1, own, effective.parameter,
            Date.le_antisymm notLater notEarlier]
        rw [sameKey, effective.last] at last
        exact last.symm
  · intro found
    obtain ⟨last, counts⟩ := mem_countingRows.mp (List.mem_of_find?_eq_some found)
    refine ⟨last, counts, by simpa using List.find?_some found, ?_⟩
    intro other member otherCounts own
    obtain ⟨kept, stored, company, parameter, date⟩ := exists_kept member
    have listed := mem_countingRows.mpr
      ⟨mem_rows_after.mp stored, (counts_congr company date).mpr otherCounts⟩
    rw [← date]
    rcases find?_first (countingRows_sorted _ _ _) found listed (by simp [parameter, own]) with
      rfl | notLater
    · exact Nat.le_refl _
    · exact notLater

theorem no_effective_iff :
    ((after h).countingRows companyId day).find? (·.parameterId == parameterId) = none ↔
      ∀ row ∈ recorded h, Counts h companyId day row → row.parameterId ≠ parameterId := by
  rw [List.find?_eq_none]
  constructor
  · intro none row member counts own
    obtain ⟨kept, stored, company, parameter, date⟩ := exists_kept member
    have listed := mem_countingRows.mpr
      ⟨mem_rows_after.mp stored, (counts_congr company date).mpr counts⟩
    exact none kept listed (by simp [parameter, own])
  · intro none row member own
    obtain ⟨last, counts⟩ := mem_countingRows.mp member
    exact none row (lastRecorded_mem last).1 counts (by simpa using own)

theorem accepts_of_mem (registered : (after h).parameters.get? p.id = some p)
    (member : row ∈ (after h).countingRows companyId day) (own : row.parameterId = p.id) :
    p.accepts (.scalar row.value) = true := by
  have kept := get?_after h row.key
  rw [(mem_countingRows.mp member).1] at kept
  obtain ⟨q, found, fits⟩ := (consistent_after h).fits _ row kept
  rw [own, registered] at found
  obtain rfl := Option.some.inj found
  exact fits

/-! ### Following a parameter -/

/-- The values of a company show under this name what was recorded for the parameter. -/
def ShownUnder (h : List Action) (companyId parameterId : Text) (day : Date) (name : Text) : Prop :=
  ∃ row, lastRecorded h row.key = some row ∧ Counts h companyId day row ∧
    row.parameterId = parameterId ∧ row.parameterName = name ∧
    Entries.get? ((after h).valuesAsOf companyId day) name = some (.scalar row.value)

/-- A company's value of a parameter, looked up by its present name, is that of its effective row.
It fits the parameter, and the company has no other value of the parameter. -/
structure Follows (h : List Action) (p : Parameter) (companyId : Text) (day : Date) : Prop where
  value : ∀ row, Effective h companyId p.id day row →
    lookup ((after h).valuesAsOf companyId day) p.name = some (.scalar row.value)
  missing : (∀ row ∈ recorded h, Counts h companyId day row → row.parameterId ≠ p.id) →
    lookup ((after h).valuesAsOf companyId day) p.name = none
  fits : ∀ v, lookup ((after h).valuesAsOf companyId day) p.name = some v → p.accepts v = true
  single : ∀ name name', ShownUnder h companyId p.id day name →
    ShownUnder h companyId p.id day name' → name = name'

/-- What is shown under the present name of the parameter has the value of its latest row. -/
def ShowsLatest (rows : List ParameterValue) (p : Parameter) : Prop :=
  (shown? rows p.name).map (·.value) = (rows.find? (·.parameterId == p.id)).map (·.value)

/-- The first row of this name has the value of the row. -/
def Leads (rows : List ParameterValue) (row : ParameterValue) : Prop :=
  (rows.find? (·.parameterName == row.parameterName)).map (·.value) = some row.value

/-- Rows of the parameter lead under one name at most. -/
def OneName (rows : List ParameterValue) (p : Parameter) : Prop :=
  ∀ row ∈ rows, ∀ row' ∈ rows, row.parameterId = p.id → row'.parameterId = p.id →
    Leads rows row → Leads rows row' → row.parameterName = row'.parameterName

/-- No parameter is ever registered under two names. -/
def NeverRenames (h : List Action) : Prop :=
  ∀ q q', .parameter q ∈ h → .parameter q' ∈ h → q.id = q'.id → q.name = q'.name

theorem scalar_map_inj {a b : Option ParameterValue} :
    (a.map fun row => Data.scalar row.value) = (b.map fun row => Data.scalar row.value) ↔
      a.map (·.value) = b.map (·.value) := by
  cases a <;> cases b <;> simp [Data.scalar]

theorem showsLatest_iff :
    ShowsLatest ((after h).countingRows companyId day) p ↔
      lookup ((after h).valuesAsOf companyId day) p.name =
        (((after h).countingRows companyId day).find? (·.parameterId == p.id)).map
          fun row => .scalar row.value := by
  rw [lookup_valuesAsOf, scalar_map_inj]
  rfl

theorem shownUnder_iff {name : Text} :
    ShownUnder h companyId parameterId day name ↔
      ∃ row ∈ (after h).countingRows companyId day, row.parameterId = parameterId ∧
        row.parameterName = name ∧ Leads ((after h).countingRows companyId day) row := by
  have shown : ∀ row : ParameterValue, row.parameterName = name →
      (Entries.get? ((after h).valuesAsOf companyId day) name = some (.scalar row.value) ↔
        Leads ((after h).countingRows companyId day) row) := by
    rintro row rfl
    rw [valuesAsOf_eq, get?_foldl_enterValue]
    exact scalar_map_inj (b := some row)
  constructor
  · rintro ⟨row, last, counts, own, named, value⟩
    exact ⟨row, mem_countingRows.mpr ⟨last, counts⟩, own, named, (shown row named).mp value⟩
  · rintro ⟨row, member, own, named, leads⟩
    obtain ⟨last, counts⟩ := mem_countingRows.mp member
    exact ⟨row, last, counts, own, named, (shown row named).mpr leads⟩

theorem follows_iff (registered : (after h).parameters.get? p.id = some p) :
    Follows h p companyId day ↔
      ShowsLatest ((after h).countingRows companyId day) p ∧
        OneName ((after h).countingRows companyId day) p := by
  rw [showsLatest_iff]
  constructor
  · intro follows
    constructor
    · cases found : ((after h).countingRows companyId day).find? (·.parameterId == p.id) with
      | none => exact follows.missing (no_effective_iff.mp found)
      | some row => exact follows.value row (effective_iff.mpr found)
    · intro row member row' member' own own' leads leads'
      exact follows.single _ _ (shownUnder_iff.mpr ⟨row, member, own, rfl, leads⟩)
        (shownUnder_iff.mpr ⟨row', member', own', rfl, leads'⟩)
  · rintro ⟨latest, oneName⟩
    constructor
    · intro row effective
      rw [latest, effective_iff.mp effective]
      rfl
    · intro none
      rw [latest, no_effective_iff.mpr none]
      rfl
    · intro v found
      rw [latest] at found
      obtain ⟨row, first, rfl⟩ := Option.map_eq_some_iff.mp found
      exact accepts_of_mem registered (List.mem_of_find?_eq_some first)
        (by simpa using List.find?_some first)
    · intro name name' shown shown'
      obtain ⟨row, member, own, rfl, leads⟩ := shownUnder_iff.mp shown
      obtain ⟨row', member', own', rfl, leads'⟩ := shownUnder_iff.mp shown'
      exact oneName row member row' member' own own' leads leads'

/-- Where names are kept, a row bears the name of its parameter, in whatever way it is found. -/
theorem named_of_neverRenames (kept : NeverRenames h)
    (registered : (after h).parameters.get? p.id = some p)
    (member : row ∈ (after h).countingRows companyId day) :
    (row.parameterId = p.id → row.parameterName = p.name) ∧
      (Text.fold row.parameterName = Text.fold p.name → row.parameterId = p.id) := by
  have found := get?_after h row.key
  rw [(mem_countingRows.mp member).1] at found
  obtain ⟨parameters, rows⟩ := offered_after h
  obtain ⟨q, offered, sameId, sameName⟩ := rows _ row found
  constructor
  · intro own
    rw [← sameName]
    exact kept q p offered (parameters _ p registered) (sameId.trans own)
  · intro sameFold
    obtain ⟨r, registered', _⟩ := (consistent_after h).fits _ row found
    have rOwn := (consistent_after h).own _ r registered'
    have rNamed := kept q r offered (parameters _ r registered') (sameId.trans rOwn.symm)
    -- The parameter of the row is in the index under the name of `p`, which leads to one id only.
    have index := (consistent_after h).indexed _ r registered'
    rw [← rNamed, sameName, sameFold, (consistent_after h).indexed _ p registered] at index
    exact (Option.some.inj index).symm

theorem follows_of_neverRenames (kept : NeverRenames h)
    (registered : (after h).parameters.get? p.id = some p) : Follows h p companyId day := by
  refine (follows_iff registered).mpr ⟨?_, ?_⟩
  · have spelt : ((after h).countingRows companyId day).find? (·.parameterName == p.name) =
        ((after h).countingRows companyId day).find? (·.parameterId == p.id) := by
      refine List.find?_congr fun row member => Bool.eq_iff_iff.mpr ?_
      obtain ⟨named, own⟩ := named_of_neverRenames kept registered member
      rw [beq_iff_eq, beq_iff_eq]
      exact ⟨fun same => own (congrArg Text.fold same), named⟩
    have folded : (((after h).countingRows companyId day).find?
          fun row => Text.sameFold row.parameterName p.name) =
        ((after h).countingRows companyId day).find? (·.parameterId == p.id) := by
      refine List.find?_congr fun row member => Bool.eq_iff_iff.mpr ?_
      obtain ⟨named, own⟩ := named_of_neverRenames kept registered member
      rw [Text.sameFold_iff, beq_iff_eq]
      exact ⟨own, fun same => congrArg Text.fold (named same)⟩
    rw [ShowsLatest, shown?, spelt, folded, Option.or_self]
  · intro row member row' member' own own' _ _
    rw [(named_of_neverRenames kept registered member).1 own,
      (named_of_neverRenames kept registered member').1 own']

/-- When resolution follows a parameter: when the row that is shown under its present name has the
value of its latest row, and its rows lead under no other name. It does where names are kept. -/
theorem lookup_after_renaming (h : List Action) {p : Parameter}
    (registered : (after h).parameters.get? p.id = some p) (companyId : Text) (day : Date) :
    let rows := (after h).countingRows companyId day
    (lookup ((after h).valuesAsOf companyId day) p.name =
      (shown? rows p.name).map fun row => .scalar row.value) ∧
    (Follows h p companyId day ↔ ShowsLatest rows p ∧ OneName rows p) ∧
    (NeverRenames h → Follows h p companyId day) := by
  intro rows
  refine ⟨lookup_valuesAsOf _ _ _ _, follows_iff registered, fun kept => ?_⟩
  exact follows_of_neverRenames kept registered

section Emissions

def co2 : Parameter := ⟨"p-1", "co2", .number, none, none, .global, none, by decide⟩

def emissions : Parameter := { co2 with name := "emissions", named := by decide }

def acme : Company := ⟨"acme", "Acme", none, none, none, none⟩

def measured : List Action :=
  [.parameter co2, .company acme, .value "acme" "co2" (.int 5) Date.epoch none]

theorem lookup_after_renaming_measured :
    (after measured).parameters.get? co2.id = some co2 ∧
      Follows measured co2 acme.id Date.epoch := by
  have registered : (after measured).parameters.get? co2.id = some co2 := by rfl
  refine ⟨registered, (lookup_after_renaming measured registered acme.id Date.epoch).2.2 ?_⟩
  intro q q' offered offered' _
  simp only [measured, List.mem_cons, Action.parameter.injEq, reduceCtorEq, List.not_mem_nil,
    or_false] at offered offered'
  rw [offered, offered']

def renamed : List Action := measured ++ [.parameter emissions]

/-- Once the parameter has got another name, its value is not found. -/
theorem not_follows_emissions :
    (after renamed).parameters.get? emissions.id = some emissions ∧
      (after renamed).companies.contains acme.id = true ∧
      lookup ((after renamed).valuesAsOf acme.id Date.epoch) emissions.name = none ∧
      ¬Follows renamed emissions acme.id Date.epoch := by
  have registered : (after renamed).parameters.get? emissions.id = some emissions := by rfl
  have counting : scope (after renamed).values.values acme.id Date.epoch =
      [⟨"acme", "p-1", "co2", .int 5, Date.epoch, none⟩] := by rfl
  have rows : (after renamed).countingRows acme.id Date.epoch =
      [⟨"acme", "p-1", "co2", .int 5, Date.epoch, none⟩] := by
    rw [countingRows, counting]
    exact List.mergeSort_singleton _
  refine ⟨registered, by rfl, ?_, fun follows => ?_⟩
  · rw [lookup_valuesAsOf, rows]
    rfl
  · have latest := ((follows_iff registered).mp follows).1
    rw [rows] at latest
    exact absurd latest (by unfold ShowsLatest; decide)

end Emissions

end Store

end Screening
