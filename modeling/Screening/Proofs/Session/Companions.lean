import Screening.Proofs.Acceptance
import Screening.Proofs.Selection
import Screening.Proofs.Session.Evaluation
import Screening.Proofs.Store.Integrity

/-!
# Companies that are screened together

What a company gets in a screening does not depend on the companies that are screened with it, on
what is recorded for them, on how the companies were selected or on how many workers share them out:
`record_alone`.
-/

namespace Screening

/-! ### Edits of recorded values -/

namespace Store

/-- A recorded value is added or changed, or it is removed. -/
inductive Edit where
  | put (row : ParameterValue)
  | remove (k : ValueKey)

def Edit.companyId : Edit → Text
  | .put row => row.companyId
  | .remove k => k.1

def edit (s : Store) : Edit → Store
  | .put row => { s with values := s.values.insert row.key row }
  | .remove k => { s with values := s.values.erase k }

variable {s t : Store} {id : Text}

def Keyed (s : Store) : Prop := s.values.Each fun k row => row.key = k

theorem keyed_edit (keyed : s.Keyed) (e : Edit) : (s.edit e).Keyed := by
  cases e with
  | put row => exact Table.Each.insert keyed rfl
  | remove k => exact Table.Each.erase keyed

theorem rows_eq (s : Store) (id : Text) :
    s.values.values.filter (·.companyId == id) =
      (s.values.entries.filter fun e => e.2.companyId == id).map Prod.snd :=
  List.filter_map

/-- An edit for another company leaves the rows of a company alone. -/
theorem rows_edit (keyed : s.Keyed) {e : Edit} (other : e.companyId ≠ id) :
    (s.edit e).values.values.filter (·.companyId == id) =
      s.values.values.filter (·.companyId == id) := by
  rw [rows_eq, rows_eq]
  congr 1
  cases e with
  | put row =>
    have new : (row.companyId == id) = false := beq_eq_false_iff_ne.mpr other
    refine Entries.filter_put new fun old found => ?_
    have company : old.companyId = row.companyId := congrArg Prod.fst (keyed row.key old found)
    rw [company]
    exact new
  | remove k =>
    refine Entries.filter_drop fun old found => ?_
    have company : old.companyId = k.1 := congrArg Prod.fst (keyed k old found)
    rw [company]
    exact beq_eq_false_iff_ne.mpr other

theorem rows_edits (keyed : s.Keyed) {edits : List Edit} (others : ∀ e ∈ edits, e.companyId ≠ id) :
    (edits.foldl edit s).values.values.filter (·.companyId == id) =
      s.values.values.filter (·.companyId == id) := by
  induction edits generalizing s with
  | nil => rfl
  | cons e rest ih =>
    rw [List.foldl_cons, ih (keyed_edit keyed e) fun e member => others e (List.mem_cons_of_mem _ member),
      rows_edit keyed (others e List.mem_cons_self)]

/-- A company's values depend on its own rows only. -/
theorem valuesAsOf_congr (rows : t.values.values.filter (·.companyId == id) =
      s.values.values.filter (·.companyId == id)) (day : Date) :
    t.valuesAsOf id day = s.valuesAsOf id day := by
  rw [valuesAsOf_eq, valuesAsOf_eq, countingRows, countingRows, Resolution.scope, Resolution.scope, rows]

end Store

theorem ScreeningResult.company?_of_unique {r : ScreeningResult} {record : CompanyResult}
    (present : record ∈ r.results)
    (unique : ∀ other ∈ r.results, other.companyId = record.companyId → other = record) :
    r.company? record.companyId = some record := by
  unfold company?
  cases first : r.results.find? (·.companyId == record.companyId) with
  | none =>
    exact absurd (beq_self_eq_true record.companyId) (List.find?_eq_none.mp first record present)
  | some other =>
    have same : other.companyId = record.companyId := by simpa using List.find?_some first
    rw [unique other (List.mem_of_find?_eq_some first) same]

namespace Session

variable {s s' : Session} {call call' : Call} {c c' : Circumstances} {a a' : Accepted}
  {r r' : ScreeningResult} {id : Text}

/-- The sessions evaluate alike, and their stores have the same companies and criteria sets; what is
recorded may differ for other companies than this one. -/
structure Beside (s s' : Session) (id : Text) : Prop where
  evaluation : s'.settings.evaluation = s.settings.evaluation
  companies : s'.store.companies = s.store.companies
  criteriaSets : s'.store.criteriaSets = s.store.criteriaSets
  edited : ∃ edits : List Store.Edit, (∀ e ∈ edits, e.companyId ≠ id) ∧
    s'.store.values = (edits.foldl Store.edit s.store).values

/-- The calls are for the same criteria set and the same day. -/
structure Alike (call call' : Call) (c c' : Circumstances) : Prop where
  criteriaSet : call'.criteriaSet = call.criteriaSet
  day : call'.asOf.getD c'.today = call.asOf.getD c.today

/-- A screening succeeds, and the company is one of those that it is about. -/
structure Screens (s : Session) (call : Call) (c : Circumstances) (a : Accepted) (r : ScreeningResult)
    (id : Text) : Prop where
  accepted : (s.accept call c).2 = .ok a
  screened : (s.screen call c).2 = .ok r
  selected : id ∈ a.selection.companyIds

theorem Screens.results (screens : s.Screens call c a r id) : r.results = s.evaluate a := by
  obtain ⟨b, accepted, rfl⟩ := screened_parts screens.screened
  rw [screens.accepted] at accepted
  obtain rfl := Except.ok.inj accepted
  rfl

theorem mem_selection (own : s.store.companies.Each fun id c => c.id = id)
    (accepted : (s.accept call c).2 = .ok a) {company : Company}
    (member : company ∈ a.selection.companies) :
    s.store.companies.get? company.id = some company := by
  obtain ⟨⟨selector, _, resolved⟩, _⟩ := accepted_parts accepted
  exact Selector.resolve_known own resolved member

/-- There is one record of a selected company, however often it is listed. -/
theorem Screens.record (own : s.store.companies.Each fun id c => c.id = id)
    (screens : s.Screens call c a r id) :
    ∃ company, s.store.companies.get? id = some company ∧ company.id = id ∧
      r.company? id = some (s.recordOf a company) ∧
      ∀ record ∈ r.results, record.companyId = id → record = s.recordOf a company := by
  obtain ⟨company, selected, rfl⟩ := List.mem_map.mp screens.selected
  have results : r.results = a.selection.companies.map (s.recordOf a) :=
    screens.results.trans (s.evaluate_eq a)
  have found := mem_selection own screens.accepted selected
  have unique : ∀ record ∈ r.results, record.companyId = company.id →
      record = s.recordOf a company := by
    intro record member same
    rw [results] at member
    obtain ⟨other, selected', rfl⟩ := List.mem_map.mp member
    have found' := mem_selection own screens.accepted selected'
    have sameId : other.id = company.id := same
    rw [sameId, found] at found'
    rw [Option.some.inj found']
  have present : s.recordOf a company ∈ r.results := by
    rw [results]
    exact List.mem_map_of_mem selected
  exact ⟨company, found, rfl, ScreeningResult.company?_of_unique present unique, unique⟩

/-- What a company gets depends on itself only: on a store that can be reached, two screenings that
succeed have the same record of it, whichever companies they select beside it and whatever is
recorded for these. Any number of workers comes to the same results. -/
theorem record_alone {ops : List Store.Operation} (reached : s.store = Store.reached ops)
    (beside : s.Beside s' id) (alike : Alike call call' c c') (screens : s.Screens call c a r id)
    (screens' : s'.Screens call' c' a' r' id) :
    (∃ record, r.company? id = some record ∧ r'.company? id = some record ∧
      ∀ other ∈ r.results ++ r'.results, other.companyId = id → other = record) ∧
    (∀ results, s.Evaluates a results ↔ results = r.results) ∧
    ∀ results, s'.Evaluates a' results ↔ results = r'.results := by
  have sound := Store.sound_reached ops
  rw [← reached] at sound
  have own' : s'.store.companies.Each fun id c => c.id = id := by
    rw [beside.companies]
    exact sound.companies
  refine ⟨?_, ?_, ?_⟩
  · obtain ⟨company, found, named, record, unique⟩ := screens.record sound.companies
    obtain ⟨company', found', _, record', unique'⟩ := screens'.record own'
    rw [beside.companies, found] at found'
    obtain rfl := Option.some.inj found'
    obtain ⟨edits, others, edited⟩ := beside.edited
    have rows := Store.rows_edits sound.keyed others
    rw [← edited] at rows
    have same : s'.recordOf a' company = s.recordOf a company := by
      obtain ⟨set, day⟩ := accepted_set beside.criteriaSets alike.criteriaSet alike.day
        screens.accepted screens'.accepted
      unfold recordOf
      rw [set, day, beside.evaluation, named, Store.valuesAsOf_congr rows]
    rw [same] at record' unique'
    refine ⟨s.recordOf a company, record, record', fun other member => ?_⟩
    rcases List.mem_append.mp member with first | second
    · exact unique other first
    · exact unique' other second
  · intro results
    rw [evaluates_iff, screens.results]
  · intro results
    rw [evaluates_iff, screens'.results]

/-- A company is screened alone, and with another one whose value has been changed. -/
theorem record_alone_greentech :
    let greentech := Store.Demo.company "greentech" "GreenTech Corp" "GTC" "Technology"
    let oilco := Store.Demo.company "oilco" "OilCo Industries" "OCI" "Energy"
    let carbon := Store.Demo.parameter "p-carbon" "carbon_emissions" .number none "Emissions"
    let ops : List Store.Operation := [.record (.parameter carbon), .record (.company greentech),
      .record (.company oilco), .criteriaSet Store.Demo.standard,
      .record (.value "greentech" "carbon_emissions" (.int 50) Store.Demo.day none),
      .record (.value "oilco" "carbon_emissions" (.int 5000) Store.Demo.day none)]
    let s : Session := { store := Store.reached ops }
    let changed := Store.Edit.put
      ⟨"oilco", "p-carbon", "carbon_emissions", .int 20, Store.Demo.day, none⟩
    let s' : Session := { store := s.store.edit changed, settings := { workers := { maxWorkers := 4 } } }
    let alone : Call :=
      ⟨.company (.text "greentech") .null, .text "standard-esg", some Store.Demo.day, .null⟩
    let both : Call := ⟨.companies [.text "oilco", .text "greentech"] .null, .text "standard-esg",
      some Store.Demo.day, .null⟩
    let c : Circumstances :=
      ⟨Store.Demo.day, .startOfDay Store.Demo.day, "c-1", "r-1", .ofRatio false 1 1,
        .ofRatio false 2 1⟩
    ∃ r r' record, (s.screen alone c).2 = .ok r ∧ (s'.screen both c).2 = .ok r' ∧
      r.company? "greentech" = some record ∧ r'.company? "greentech" = some record := by
  intro greentech oilco carbon ops s changed s' alone both c
  have accepted : (s.accept alone c).2 = .ok ⟨⟨"standard-esg", Store.Demo.day,
      (Selector.company "greentech" none).describe, none, "c-1", by decide⟩, Store.Demo.standard,
      ⟨[greentech], none, (Selector.company "greentech" none).describe, []⟩⟩ := by
    rw [accept_outcome, receive_outcome]
    rfl
  have accepted' : (s'.accept both c).2 = .ok ⟨⟨"standard-esg", Store.Demo.day,
      (Selector.companies ["oilco", "greentech"] none).describe, none, "c-1", by decide⟩,
      Store.Demo.standard, ⟨[oilco, greentech], none,
      (Selector.companies ["oilco", "greentech"] none).describe, []⟩⟩ := by
    rw [accept_outcome, receive_outcome]
    rfl
  obtain ⟨r, screened⟩ : ∃ r, (s.screen alone c).2 = .ok r :=
    ⟨_, screen_of_accepted accepted (by decide +kernel) rfl (by decide +kernel)⟩
  obtain ⟨r', screened'⟩ : ∃ r', (s'.screen both c).2 = .ok r' :=
    ⟨_, screen_of_accepted accepted' (by decide +kernel) rfl (by decide +kernel)⟩
  have beside : s.Beside s' "greentech" :=
    ⟨rfl, rfl, rfl, [changed], by simpa using (by decide : changed.companyId ≠ "greentech"), rfl⟩
  have alike : Alike alone both c c := ⟨rfl, rfl⟩
  have screens := Screens.mk accepted screened (List.mem_singleton_self greentech.id)
  have screens' := Screens.mk accepted' screened'
    (List.mem_cons_of_mem oilco.id (List.mem_singleton_self greentech.id))
  obtain ⟨⟨record, found, found', _⟩, _⟩ := record_alone rfl beside alike screens screens'
  exact ⟨r, r', record, screened, screened', found, found'⟩

end Session

end Screening
