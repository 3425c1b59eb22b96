import Screening.Proofs.Resolution
import Screening.Store.Demo

/-!
# The latest values that count

Of the rows that a source has for a company, those known on a day count, or all if none was known.
`resolve_latest` says that a resolution gives each company the values of its latest rows that count,
in whatever order the source gives its rows and the companies are asked for.
-/

namespace Screening

def ParameterValue.slot (row : ParameterValue) : Text × Text × Date :=
  (row.companyId, row.parameterName, row.effective)

/-- The source answers with all rows that are asked for and no others, in any order. -/
def ValueSource.Serves (source : ValueSource) (rows : List ParameterValue) : Prop :=
  ∀ ids until?, (source ids until?).Perm (ofRows rows false ids until?)

theorem ValueSource.serves_ofRows (rows : List ParameterValue) : (ofRows rows false).Serves rows :=
  fun _ _ => List.Perm.refl _

theorem ValueSource.Serves.of_asked {source : ValueSource} {rows : List ParameterValue}
    (serves : source.Serves rows) {ids : List Text} {id : Text} (asked : id ∈ ids)
    (until? : Option Date) :
    ((source ids until?).filter (·.companyId == id)).Perm
      ((rows.filter (·.companyId == id)).filter fun row =>
        until?.all fun day => decide (row.effective ≤ day)) := by
  refine ((serves ids until?).filter _).trans (List.Perm.of_eq ?_)
  simp only [ofRows, List.filter_filter]
  refine List.filter_congr fun row _ => ?_
  by_cases own : row.companyId = id
  · cases until? <;> simp [own, asked]
  · simp [beq_eq_false_iff_ne.mpr own]

theorem ValueSource.Serves.of_not_asked {source : ValueSource} {rows : List ParameterValue}
    (serves : source.Serves rows) {ids : List Text} {id : Text} (unasked : id ∉ ids)
    (until? : Option Date) : (source ids until?).filter (·.companyId == id) = [] := by
  rw [List.filter_eq_nil_iff]
  intro row member own
  have company : row.companyId = id := by simpa using own
  have asked := (List.mem_filter.mp ((serves ids until?).mem_iff.mp member)).2
  simp [company, unasked] at asked

theorem Store.serves_valuesOf (s : Store) : ValueSource.Serves s.valuesOf s.values.values := by
  intro ids until?
  refine (List.mergeSort_perm _ _).trans (List.Perm.of_eq (List.filter_congr fun row _ => ?_))
  cases until? <;> rfl

namespace Resolution

/-- The rows of a company that count on a day: those that are known, or all if none is. -/
def scope (rows : List ParameterValue) (companyId : Text) (day : Date) : List ParameterValue :=
  let own := rows.filter (·.companyId == companyId)
  let known := own.filter fun row => decide (row.effective ≤ day)
  if known.isEmpty then own else known

/-- The values are those of the latest rows that count, one for each name. -/
structure LatestOf (rows : List ParameterValue) (companyId : Text) (day : Date) (values : Values) :
    Prop where
  nodup : (values.map Prod.fst).Nodup
  mem_names : ∀ name, name ∈ values.map Prod.fst ↔
    ∃ row ∈ scope rows companyId day, row.parameterName = name
  latest : ∀ row ∈ scope rows companyId day,
    (∀ other ∈ scope rows companyId day, other.parameterName = row.parameterName →
      other.effective ≤ row.effective) →
    Entries.get? values row.parameterName = some (.scalar row.value)

/-- The resolutions have the same companies, each with the same values by name. -/
def SameValues (r other : Resolution) : Prop :=
  (r.values.map Prod.fst).Perm (other.values.map Prod.fst) ∧
    ∀ id, (r.of id).Perm (other.of id)

variable {source : ValueSource} {rows : List ParameterValue} {ids : List Text} {day : Date} {id : Text}

theorem mem_scope {row : ParameterValue} (member : row ∈ scope rows id day) :
    row ∈ rows ∧ row.companyId = id := by
  unfold scope at member
  dsimp only at member
  split at member
  · simpa using member
  · simp only [List.mem_filter, beq_iff_eq, decide_eq_true_eq] at member
    exact member.1

/-- The latest rows that count leave no choice, up to the order of the names. -/
theorem LatestOf.perm {values others : Values} (h : LatestOf rows id day values)
    (h' : LatestOf rows id day others) : values.Perm others := by
  refine Entries.perm_of_get?_eq h.nodup h'.nodup fun name => ?_
  by_cases present : ∃ row ∈ scope rows id day, row.parameterName = name
  · obtain ⟨row, member, named, later⟩ :=
      exists_latest (p := fun row => row.parameterName == name) (by simpa using present)
    have same : row.parameterName = name := by simpa using named
    subst same
    have latest : ∀ other ∈ scope rows id day, other.parameterName = row.parameterName →
        other.effective ≤ row.effective := fun other otherMember otherNamed =>
      later other otherMember (by simpa using otherNamed)
    rw [h.latest row member latest, h'.latest row member latest]
  · rw [Entries.get?_eq_none_iff.mpr fun member => present ((h.mem_names name).mp member),
      Entries.get?_eq_none_iff.mpr fun member => present ((h'.mem_names name).mp member)]

theorem latestOf_foldl_enterValue {ordered : List ParameterValue}
    (unique : (rows.map ParameterValue.slot).Nodup) (perm : ordered.Perm (scope rows id day))
    (sorted : ordered.Pairwise fun a b => b.effective ≤ a.effective) :
    LatestOf rows id day (ordered.foldl enterValue []) where
  nodup := nodup_foldl_enterValue ordered (by simp)
  mem_names name := by simp [names_foldl_enterValue, perm.mem_iff]
  latest row member latest := by
    rw [get?_foldl_enterValue]
    cases found : ordered.find? fun other => other.parameterName == row.parameterName with
    | none => simpa using List.find?_eq_none.mp found row (perm.mem_iff.mpr member)
    | some first =>
      have firstMember := perm.mem_iff.mp (List.mem_of_find?_eq_some found)
      have named : first.parameterName = row.parameterName := by simpa using List.find?_some found
      have same : first = row := by
        rcases find?_first sorted found (perm.mem_iff.mpr member) (by simp) with same | before
        · exact same
        · -- Two rows of one day and name would be in one slot.
          have sameDay := Date.le_antisymm (latest first firstMember named) before
          obtain ⟨stored, company⟩ := mem_scope firstMember
          obtain ⟨stored', company'⟩ := mem_scope member
          have sameSlot : first.slot = row.slot := by
            unfold ParameterValue.slot
            rw [company, company', named, sameDay]
          exact List.inj_on_of_nodup_map unique stored stored' sameSlot
      rw [same]
      rfl

theorem mem_without {rows : List ParameterValue} :
    id ∈ without ids rows ↔ id ∈ ids ∧ rows.filter (·.companyId == id) = [] := by
  simp [without, List.filter_eq_nil_iff]

/-- Of the rows that are entered, those of a company are its rows that count, latest first. -/
theorem entered_of (serves : source.Serves rows) (asked : id ∈ ids) (day : Date) :
    ((entered source ids day).filter (·.companyId == id)).Perm (scope rows id day) ∧
      ((entered source ids day).filter (·.companyId == id)).Pairwise
        fun a b => b.effective ≤ a.effective := by
  have member := mem_distinct.mpr asked
  have dated := serves.of_asked member (some day)
  have datedFirst := ((latestFirst_perm (source (distinct ids) (some day))).filter _).trans dated
  unfold entered scope
  dsimp only [Option.all_some] at dated datedFirst ⊢
  rw [List.filter_append]
  by_cases known : ((rows.filter (·.companyId == id)).filter fun row =>
      decide (row.effective ≤ day)) = []
  · rw [known] at dated datedFirst
    have without : id ∈ without (distinct ids) (source (distinct ids) (some day)) :=
      mem_without.mpr ⟨member, dated.eq_nil⟩
    rw [datedFirst.eq_nil, List.nil_append, known, if_neg (by simpa using List.ne_nil_of_mem without)]
    have all := ((latestFirst_perm _).filter _).trans (serves.of_asked without none)
    exact ⟨by simpa using all, (latestFirst_sorted _).filter _⟩
  · have rest : id ∉ without (distinct ids) (source (distinct ids) (some day)) := fun member =>
      known ((mem_without.mp member).2 ▸ dated).symm.eq_nil
    have none : (if (without (distinct ids) (source (distinct ids) (some day))).isEmpty then []
        else latestFirst (source (without (distinct ids) (source (distinct ids) (some day)))
          none)).filter (·.companyId == id) = [] := by
      split
      · rfl
      · exact (((latestFirst_perm _).filter _).trans
          (List.Perm.of_eq (serves.of_not_asked rest none))).eq_nil
    rw [none, List.append_nil, if_neg (by simpa using known)]
    exact ⟨datedFirst, (latestFirst_sorted _).filter _⟩

theorem mem_resolve_keys : id ∈ (resolve source ids day).values.map Prod.fst ↔ id ∈ ids := by
  rw [resolve_keys, mem_distinct]

theorem resolve_of_not_asked (unasked : id ∉ ids) : (resolve source ids day).of id = [] := by
  rw [of, Entries.get?_eq_none_iff.mpr fun member => unasked (mem_resolve_keys.mp member)]
  rfl

theorem latestOf_resolve (serves : source.Serves rows)
    (unique : (rows.map ParameterValue.slot).Nodup) (asked : id ∈ ids) :
    LatestOf rows id day ((resolve source ids day).of id) := by
  obtain ⟨perm, sorted⟩ := entered_of serves asked day
  rw [resolve_of asked]
  exact latestOf_foldl_enterValue unique perm sorted

theorem sameValues_resolve {source' : ValueSource} {ids' : List Text} (serves : source.Serves rows)
    (serves' : source'.Serves rows) (unique : (rows.map ParameterValue.slot).Nodup)
    (perm : ids'.Perm ids) : (resolve source' ids' day).SameValues (resolve source ids day) := by
  constructor
  · rw [resolve_keys, resolve_keys, List.perm_ext_iff_of_nodup (nodup_distinct _) (nodup_distinct _)]
    intro id
    rw [mem_distinct, mem_distinct, perm.mem_iff]
  · intro id
    by_cases asked : id ∈ ids
    · exact (latestOf_resolve serves' unique (perm.mem_iff.mpr asked)).perm
        (latestOf_resolve serves unique asked)
    · rw [resolve_of_not_asked asked, resolve_of_not_asked fun member => asked (perm.mem_iff.mp member)]

theorem mem_fallbacks (serves : source.Serves rows) :
    id ∈ (resolve source ids day).fallbacks ↔
      id ∈ ids ∧ ∀ row ∈ rows, row.companyId = id → ¬row.effective ≤ day := by
  rw [resolve_fallbacks, mem_without, mem_distinct]
  refine and_congr_right fun asked => ?_
  have dated := serves.of_asked (mem_distinct.mpr asked) (some day)
  dsimp only [Option.all_some] at dated
  constructor
  · intro none row member own known
    rw [none] at dated
    have present : row ∈ (rows.filter (·.companyId == id)).filter fun row =>
        decide (row.effective ≤ day) := by simp [member, own, known]
    rw [dated.symm.eq_nil] at present
    cases present
  · intro later
    have none : ((rows.filter (·.companyId == id)).filter fun row =>
        decide (row.effective ≤ day)) = [] := by
      rw [List.filter_eq_nil_iff]
      intro row member known
      have own := List.mem_filter.mp member
      exact later row own.1 (by simpa using own.2) (by simpa using known)
    exact (dated.trans (List.Perm.of_eq none)).eq_nil

theorem fallbacks_ordered (source : ValueSource) (ids : List Text) (day : Date) :
    (resolve source ids day).fallbacks.Pairwise fun a b => ids.idxOf a < ids.idxOf b := by
  rw [resolve_fallbacks]
  exact (distinct_ordered ids).filter _

end Resolution

theorem Recorder.events_recordAll (recorder : Recorder) (events : List AuditEvent) :
    (recorder.recordAll events).events =
      recorder.events ++ events.map fun event => ⟨recorder.correlationId, event⟩ := by
  unfold recordAll
  induction events generalizing recorder with
  | nil => simp
  | cons event rest ih =>
    rw [List.foldl_cons, ih]
    simp [record]

/-- Values as of a day are right whatever order the rows come in: a company has the values of its
latest rows that count, alone as among others, and those that fall back are told in order. -/
theorem resolve_latest {source : ValueSource} {rows : List ParameterValue}
    (serves : source.Serves rows) (unique : (rows.map ParameterValue.slot).Nodup) (ids : List Text)
    (day : Date) :
    let r := resolve source ids day
    ((r.values.map Prod.fst).Nodup ∧ ∀ id, id ∈ r.values.map Prod.fst ↔ id ∈ ids) ∧
    (∀ id ∈ ids, Resolution.LatestOf rows id day (r.of id)) ∧
    (∀ source' ids', ValueSource.Serves source' rows → ids'.Perm ids →
      (resolve source' ids' day).SameValues r) ∧
    (∀ id ∈ ids, (r.of id).Perm ((resolve source [id] day).of id)) ∧
    (∀ id, id ∈ r.fallbacks ↔
      id ∈ ids ∧ ∀ row ∈ rows, row.companyId = id → ¬row.effective ≤ day) ∧
    (r.fallbacks.Pairwise fun a b => ids.idxOf a < ids.idxOf b) ∧
    (∀ recorder : Recorder, (recorder.recordAll (Session.fallbackEvents day r.fallbacks)).events =
      recorder.events ++ r.fallbacks.map fun id => ⟨recorder.correlationId, .fallback id day.iso⟩) ∧
    ∀ s : Session, s.store.valuesOf = source → (s.resolveValues ids day).1.recorder =
      s.recorder.recordAll (Session.fallbackEvents day r.fallbacks) := by
  intro r
  refine ⟨⟨?_, fun id => Resolution.mem_resolve_keys⟩, ?_, ?_, ?_, ?_, ?_, ?_, ?_⟩
  · rw [Resolution.resolve_keys]
    exact nodup_distinct ids
  · exact fun id asked => Resolution.latestOf_resolve serves unique asked
  · exact fun source' ids' serves' perm => Resolution.sameValues_resolve serves serves' unique perm
  · exact fun id asked => (Resolution.latestOf_resolve serves unique asked).perm
      (Resolution.latestOf_resolve serves unique (List.mem_singleton_self id))
  · exact fun id => Resolution.mem_fallbacks serves
  · exact Resolution.fallbacks_ordered source ids day
  · intro recorder
    rw [Recorder.events_recordAll, Session.fallbackEvents, List.map_map]
    rfl
  · rintro s rfl
    rfl

/-- Of two companies one has a value known on the day, and the other only a later one. -/
theorem resolve_latest_demo :
    let later : Date := ⟨739251, by decide⟩
    let rows : List ParameterValue := [
      ⟨"oilco", "p-carbon", "carbon_emissions", .int 5000, Store.Demo.day, none⟩,
      ⟨"greentech", "p-carbon", "carbon_emissions", .int 50, later, none⟩,
      ⟨"oilco", "p-carbon", "carbon_emissions", .int 4000, later, none⟩]
    let r := resolve (ValueSource.ofRows rows false) ["oilco", "greentech", "oilco"] Store.Demo.day
    Entries.get? (r.of "oilco") "carbon_emissions" = some (.scalar (.int 5000)) ∧
      Entries.get? (r.of "greentech") "carbon_emissions" = some (.scalar (.int 50)) ∧
      ("greentech" : Text) ∈ r.fallbacks := by
  intro later rows r
  obtain ⟨-, latest, -, -, fallbacks, -⟩ := resolve_latest (ValueSource.serves_ofRows rows)
    (by decide) ["oilco", "greentech", "oilco"] Store.Demo.day
  refine ⟨?_, ?_, (fallbacks "greentech").mpr (by decide)⟩
  · exact (latest "oilco" (by decide)).latest rows[0] (by decide) (by decide)
  · exact (latest "greentech" (by decide)).latest rows[1] (by decide) (by decide)

end Screening
