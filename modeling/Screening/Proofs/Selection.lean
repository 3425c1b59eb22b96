import Screening.Proofs.Names
import Screening.Selector

/-!
# What a selector selects

A store finds the companies of some ids in the order of the ids (`companiesOf_ids`), and those that a
filter matches in its own order. A selection is described as belonging to its owner
(`Selector.resolve_owner`), and its companies are those that the store has under their ids
(`Selector.resolve_known`), each once (`Selector.resolve_nodup`).
-/

namespace Screening

namespace Store

variable {s : Store} {company : Company}

theorem mem_companiesOf (own : s.companies.Each fun id c => c.id = id) {ids : List Text}
    (member : company ∈ s.companiesOf ids) : s.companies.get? company.id = some company := by
  obtain ⟨id, _, found⟩ := List.mem_filterMap.mp member
  rw [own id company found, found]

theorem mem_findCompanies (own : s.companies.Each fun id c => c.id = id) {sector region : Option Text}
    (member : company ∈ s.findCompanies sector region) :
    s.companies.get? company.id = some company := by
  obtain ⟨⟨id, c⟩, entry, rfl⟩ := List.mem_map.mp (List.mem_of_mem_filter member)
  have found : s.companies.get? id = some c := (Entries.mem_iff_get? s.companies.nodup).mp entry
  rw [own id c found, found]

theorem companiesOf_ids (own : s.companies.Each fun id c => c.id = id) (ids : List Text) :
    (s.companiesOf ids).map (·.id) = ids.filter s.companies.contains := by
  unfold companiesOf
  induction ids with
  | nil => rfl
  | cons id rest ih =>
    cases found : s.companies.get? id with
    | none =>
      have unknown : ¬s.companies.contains id = true := by simp [Table.contains, found]
      rw [List.filterMap_cons_none found, ih, List.filter_cons_of_neg unknown]
    | some c =>
      rw [List.filterMap_cons_some found, List.map_cons, ih, own id c found,
        List.filter_cons_of_pos (Table.contains_of_get? found)]

theorem companiesOf_sublist (own : s.companies.Each fun id c => c.id = id) (ids : List Text) :
    ((s.companiesOf ids).map (·.id)).Sublist ids := by
  rw [companiesOf_ids own]
  exact List.filter_sublist

theorem values_ids (own : s.companies.Each fun id c => c.id = id) :
    s.companies.values.map (·.id) = s.companies.keys := by
  unfold Table.values Table.keys
  rw [List.map_map]
  refine List.map_congr_left fun entry member => ?_
  exact own entry.1 entry.2 ((Entries.mem_iff_get? s.companies.nodup).mp member)

/-- The companies that a filter finds come in the order of the store. -/
theorem findCompanies_sublist (own : s.companies.Each fun id c => c.id = id)
    (sector region : Option Text) :
    ((s.findCompanies sector region).map (·.id)).Sublist s.companies.keys := by
  rw [← values_ids own]
  exact List.filter_sublist.map _

theorem findCompanies_nodup (own : s.companies.Each fun id c => c.id = id)
    (sector region : Option Text) : ((s.findCompanies sector region).map (·.id)).Nodup :=
  (findCompanies_sublist own sector region).nodup s.companies.nodup

theorem mem_findCompanies_ids (own : s.companies.Each fun id c => c.id = id)
    {sector region : Option Text} {id : Text} :
    id ∈ (s.findCompanies sector region).map (·.id) ↔ ∃ c, s.companies.get? id = some c ∧
      matchesFilter c.sector sector = true ∧ matchesFilter c.region region = true := by
  rw [List.mem_map]
  constructor
  · rintro ⟨c, member, rfl⟩
    exact ⟨c, mem_findCompanies own member, by simpa using (List.mem_filter.mp member).2⟩
  · rintro ⟨c, found, matched⟩
    have stored : c ∈ s.companies.values :=
      List.mem_map.mpr ⟨(id, c), Entries.mem_of_get? found, rfl⟩
    exact ⟨c, List.mem_filter.mpr ⟨stored, by simpa using matched⟩, own id c found⟩

theorem findCompanies_all (s : Store) : s.findCompanies none none = s.companies.values :=
  List.filter_eq_self.mpr fun _ _ => rfl

theorem matchesFilter_none (actual : Option Text) : matchesFilter actual none = true := rfl

theorem matchesFilter_some {actual : Option Text} {wanted : Text} :
    matchesFilter actual (some wanted) = true ↔
      ∃ a, actual = some a ∧ Text.fold a = Text.fold wanted := by
  cases actual with
  | none => simp [matchesFilter]
  | some a => simp [matchesFilter, Text.sameFold_iff]

end Store

namespace Selector

variable {selector : Selector} {store : Store} {selection : Selection}

theorem resolve_owner (resolved : selector.resolve store = .ok selection) :
    selection.subject.ownerId = selection.ownerId := by
  cases selector <;> simp only [resolve] at resolved <;> split at resolved <;> cases resolved <;> rfl

theorem resolve_mode (resolved : selector.resolve store = .ok selection) :
    selection.subject.mode = selector.describe.mode := by
  cases selector <;> simp only [resolve] at resolved <;> split at resolved <;> cases resolved <;> rfl

theorem resolve_known (own : store.companies.Each fun id c => c.id = id)
    (resolved : selector.resolve store = .ok selection) {company : Company}
    (member : company ∈ selection.companies) : store.companies.get? company.id = some company := by
  cases selector with
  | portfolio id =>
    simp only [resolve] at resolved
    split at resolved <;> cases resolved
    exact Store.mem_companiesOf own member
  | company id client =>
    simp only [resolve] at resolved
    split at resolved <;> cases resolved
    rename_i c found
    obtain rfl := List.mem_singleton.mp member
    rw [own id company found, found]
  | companies ids client =>
    simp only [resolve] at resolved
    split at resolved <;> cases resolved
    exact Store.mem_companiesOf own member
  | sector _ _ | region _ _ | all _ =>
    simp only [resolve] at resolved
    split at resolved <;> cases resolved
    exact Store.mem_findCompanies own member

theorem resolve_nodup (own : store.companies.Each fun id c => c.id = id)
    (resolved : selector.resolve store = .ok selection) : selection.companyIds.Nodup := by
  cases selector with
  | portfolio id =>
    simp only [resolve] at resolved
    split at resolved <;> cases resolved
    exact (nodup_eraseDups _).sublist (Store.companiesOf_sublist own _)
  | company id client =>
    simp only [resolve] at resolved
    split at resolved <;> cases resolved
    exact List.nodup_singleton _
  | companies ids client =>
    simp only [resolve] at resolved
    split at resolved <;> cases resolved
    exact (nodup_eraseDups _).sublist (Store.companiesOf_sublist own _)
  | sector _ _ | region _ _ | all _ =>
    simp only [resolve] at resolved
    split at resolved <;> cases resolved
    exact Store.findCompanies_nodup own _ _

end Selector

end Screening
