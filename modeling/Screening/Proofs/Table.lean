import Mathlib.Data.List.Nodup
import Screening.Table

/-!
# Entries as mappings

A list of entries without repeated keys is a mapping: an entry is in it just when its key is looked
up with its value (`mem_iff_get?`), and two such lists with the same look-ups differ in order only
(`perm_of_get?_eq`).
-/

namespace Screening

namespace Entries

variable {κ α : Type} [DecidableEq κ]

theorem get?_eq_find? (entries : List (κ × α)) (k : κ) :
    get? entries k = (entries.find? fun e => e.1 == k).map Prod.snd := by
  induction entries with
  | nil => rfl
  | cons e rest ih =>
    obtain ⟨l, v⟩ := e
    by_cases h : l = k <;> simp [get?, h, ih]

theorem mem_of_get? {entries : List (κ × α)} {k : κ} {v : α} (found : get? entries k = some v) :
    (k, v) ∈ entries := by
  rw [get?_eq_find?, Option.map_eq_some_iff] at found
  obtain ⟨⟨l, w⟩, hit, rfl⟩ := found
  have same : l = k := by simpa using List.find?_some hit
  exact same ▸ List.mem_of_find?_eq_some hit

theorem mem_iff_get? {entries : List (κ × α)} (distinct : (entries.map Prod.fst).Nodup) {k : κ}
    {v : α} : (k, v) ∈ entries ↔ get? entries k = some v := by
  refine ⟨fun member => ?_, mem_of_get?⟩
  cases found : get? entries k with
  | none => exact absurd (List.mem_map_of_mem member) (get?_eq_none_iff.mp found)
  | some w =>
    have same := List.inj_on_of_nodup_map distinct (mem_of_get? found) member rfl
    exact congrArg some (Prod.mk.inj same).2

theorem perm_of_get?_eq {entries others : List (κ × α)} (distinct : (entries.map Prod.fst).Nodup)
    (distinct' : (others.map Prod.fst).Nodup) (same : ∀ k, get? entries k = get? others k) :
    entries.Perm others := by
  rw [List.perm_ext_iff_of_nodup (List.Nodup.of_map _ distinct) (List.Nodup.of_map _ distinct')]
  intro ⟨k, v⟩
  rw [mem_iff_get? distinct, mem_iff_get? distinct', same]

theorem get?_of_perm {entries others : List (κ × α)} (same : entries.Perm others)
    (distinct : (others.map Prod.fst).Nodup) (k : κ) : get? entries k = get? others k := by
  have distinct' : (entries.map Prod.fst).Nodup := (same.map Prod.fst).nodup_iff.mpr distinct
  refine Option.ext fun v => ?_
  rw [← mem_iff_get? distinct', ← mem_iff_get? distinct, same.mem_iff]

theorem keys_put_of_mem {entries : List (κ × α)} {k : κ} (member : k ∈ entries.map Prod.fst)
    (v : α) : (put entries k v).map Prod.fst = entries.map Prod.fst := by
  induction entries with
  | nil => simp at member
  | cons e rest ih =>
    obtain ⟨l, w⟩ := e
    by_cases h : l = k
    · simp [put, h]
    · have later : k ∈ rest.map Prod.fst := by simpa [Ne.symm h] using member
      simp [put, h, ih later]

theorem put_of_not_mem {entries : List (κ × α)} {k : κ} (absent : k ∉ entries.map Prod.fst)
    (v : α) : put entries k v = entries ++ [(k, v)] := by
  induction entries with
  | nil => rfl
  | cons e rest ih =>
    obtain ⟨l, w⟩ := e
    simp only [List.map_cons, List.mem_cons, not_or] at absent
    simp [put, Ne.symm absent.1, ih absent.2]

/-- Writing to a key leaves alone what is selected by other keys. -/
theorem filter_put {keep : κ × α → Bool} {entries : List (κ × α)} {k : κ} {v : α}
    (new : keep (k, v) = false) (old : ∀ w, get? entries k = some w → keep (k, w) = false) :
    (put entries k v).filter keep = entries.filter keep := by
  induction entries with
  | nil => simp [put, new]
  | cons e rest ih =>
    obtain ⟨l, w⟩ := e
    by_cases same : l = k
    · subst same
      have replaced : keep (l, w) = false := old w (by simp [get?])
      simp [put, new, replaced]
    · have later := ih fun w found => old w (by simpa [get?, same] using found)
      simp only [put, if_neg same, List.filter_cons, later]

theorem drop_eq_filter {entries : List (κ × α)} (distinct : (entries.map Prod.fst).Nodup) (k : κ) :
    drop entries k = entries.filter fun e => decide (e.1 ≠ k) := by
  induction entries with
  | nil => rfl
  | cons e rest ih =>
    obtain ⟨l, v⟩ := e
    obtain ⟨absent, later⟩ := List.nodup_cons.mp distinct
    by_cases same : l = k
    · subst same
      rw [drop, if_pos rfl, List.filter_cons_of_neg (by simp)]
      refine (List.filter_eq_self.mpr fun e member => ?_).symm
      simpa using fun again : e.1 = l => absent (List.mem_map.mpr ⟨e, member, again⟩)
    · simp [drop, same, ih later]

theorem filter_drop {keep : κ × α → Bool} {entries : List (κ × α)} {k : κ}
    (old : ∀ w, get? entries k = some w → keep (k, w) = false) :
    (drop entries k).filter keep = entries.filter keep := by
  induction entries with
  | nil => rfl
  | cons e rest ih =>
    obtain ⟨l, w⟩ := e
    by_cases same : l = k
    · subst same
      have dropped : keep (l, w) = false := old w (by simp [get?])
      simp [drop, dropped]
    · have later := ih fun w found => old w (by simpa [get?, same] using found)
      simp only [drop, if_neg same, List.filter_cons, later]

end Entries

/-! ### Tables -/

namespace Table

variable {κ α : Type} [DecidableEq κ] {t : Table κ α} {P Q : κ → α → Prop} {k : κ} {v : α}

def Each (t : Table κ α) (P : κ → α → Prop) : Prop := ∀ k v, t.get? k = some v → P k v

theorem each_empty : (empty : Table κ α).Each P := by
  intro k v found
  cases found

theorem Each.mono (each : t.Each P) (weaker : ∀ k v, P k v → Q k v) : t.Each Q :=
  fun k v found => weaker k v (each k v found)

theorem Each.insert (each : t.Each P) (new : P k v) : (t.insert k v).Each P := by
  intro l w found
  rw [get?_insert] at found
  split at found
  · rename_i same
    obtain rfl := Option.some.inj found
    exact same ▸ new
  · exact each l w found

theorem Each.erase (each : t.Each P) : (t.erase k).Each P := by
  intro l w found
  rw [get?_erase] at found
  split at found
  · cases found
  · exact each l w found

omit [DecidableEq κ] in
theorem eq_of_entries {t u : Table κ α} (same : t.entries = u.entries) : t = u := by
  cases t
  cases u
  cases same
  rfl

theorem entries_insert (absent : t.get? k = none) (v : α) :
    (t.insert k v).entries = t.entries ++ [(k, v)] :=
  Entries.put_of_not_mem (Entries.get?_eq_none_iff.mp absent) v

theorem entries_erase (t : Table κ α) (k : κ) :
    (t.erase k).entries = t.entries.filter fun e => decide (e.1 ≠ k) :=
  Entries.drop_eq_filter t.nodup k

theorem contains_of_get? (found : t.get? k = some v) : t.contains k = true := by
  rw [contains, found]
  rfl

theorem contains_insert (known : t.contains k = true) (l : κ) : (t.insert l v).contains k = true := by
  unfold contains at known ⊢
  rw [get?_insert]
  split
  · rfl
  · exact known

end Table

end Screening
