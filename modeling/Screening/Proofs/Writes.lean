import Mathlib.Data.List.Induction
import Screening.Proofs.Table

/-!
# Writing many entries

What is written to keys that have an entry takes its place, and other keys follow in the order in
which they come first. So if two lists of writes agree on what they write to each key last, they
lead to the same entries up to the order of the new ones: `putAll_reordered`.
-/

namespace Screening.Entries

variable {κ α β : Type} [DecidableEq κ]

theorem get?_append (entries others : List (κ × α)) (k : κ) :
    get? (entries ++ others) k = (get? entries k).or (get? others k) := by
  rw [get?_eq_find?, get?_eq_find?, get?_eq_find?, List.find?_append]
  cases entries.find? fun e => e.1 == k <;> rfl

theorem put_append (entries others : List (κ × α)) (k : κ) (v : α) :
    put (entries ++ others) k v =
      if k ∈ entries.map Prod.fst then put entries k v ++ others else entries ++ put others k v := by
  induction entries with
  | nil => rfl
  | cons e rest ih =>
    obtain ⟨l, w⟩ := e
    by_cases same : l = k
    · simp [put, same]
    · simp only [List.cons_append, put, if_neg same, ih, List.map_cons, List.mem_cons,
        Ne.symm same, false_or]
      split <;> rfl

theorem map_put (f : α → β) (entries : List (κ × α)) (k : κ) (v : α) :
    (put entries k v).map (fun e => (e.1, f e.2)) = put (entries.map fun e => (e.1, f e.2)) k (f v) := by
  induction entries with
  | nil => rfl
  | cons e rest ih =>
    obtain ⟨l, w⟩ := e
    by_cases same : l = k
    · simp [put, same]
    · simp [put, same, ih]

def putAll (entries pairs : List (κ × α)) : List (κ × α) :=
  pairs.foldl (fun entries p => put entries p.1 p.2) entries

theorem map_putAll (f : α → β) (entries pairs : List (κ × α)) :
    (putAll entries pairs).map (fun e => (e.1, f e.2)) =
      putAll (entries.map fun e => (e.1, f e.2)) (pairs.map fun e => (e.1, f e.2)) := by
  induction pairs generalizing entries with
  | nil => rfl
  | cons p rest ih =>
    have step : putAll entries (p :: rest) = putAll (put entries p.1 p.2) rest := rfl
    rw [step, ih, map_put]
    rfl

/-- The value that is written to a key last. -/
def last? (pairs : List (κ × α)) (k : κ) : Option α :=
  (pairs.reverse.find? fun p => decide (p.1 = k)).map Prod.snd

theorem last?_cons (p : κ × α) (rest : List (κ × α)) (k : κ) :
    last? (p :: rest) k = (last? rest k).or (if p.1 = k then some p.2 else none) := by
  unfold last?
  rw [List.reverse_cons, List.find?_append, List.find?_singleton]
  cases rest.reverse.find? fun p => decide (p.1 = k) with
  | some q => rfl
  | none => by_cases same : p.1 = k <;> simp [same]

theorem mem_of_last? {pairs : List (κ × α)} {k : κ} {v : α} (last : last? pairs k = some v) :
    (k, v) ∈ pairs := by
  obtain ⟨⟨l, w⟩, found, rfl⟩ := Option.map_eq_some_iff.mp last
  have same : l = k := by simpa using List.find?_some found
  exact same ▸ List.mem_reverse.mp (List.mem_of_find?_eq_some found)

theorem get?_putAll (entries pairs : List (κ × α)) (k : κ) :
    get? (putAll entries pairs) k = (last? pairs k).or (get? entries k) := by
  induction pairs generalizing entries with
  | nil => rfl
  | cons p rest ih =>
    rw [show putAll entries (p :: rest) = putAll (put entries p.1 p.2) rest from rfl, ih, last?_cons,
      get?_put, Option.or_assoc]
    by_cases same : p.1 = k <;> simp [same]

theorem nodup_putAll {entries : List (κ × α)} (distinct : (entries.map Prod.fst).Nodup)
    (pairs : List (κ × α)) : ((putAll entries pairs).map Prod.fst).Nodup := by
  induction pairs generalizing entries with
  | nil => exact distinct
  | cons p rest ih => exact ih (nodup_put distinct p.1 p.2)

/-- The entries stay in their places, and entries for other keys follow them. -/
theorem putAll_parts (entries pairs : List (κ × α)) :
    ∃ old new, putAll entries pairs = old ++ new ∧ old.map Prod.fst = entries.map Prod.fst ∧
      ∀ e ∈ new, e.1 ∉ entries.map Prod.fst := by
  induction pairs using List.reverseRecOn with
  | nil => exact ⟨entries, [], by simp [putAll], rfl, by simp⟩
  | append_singleton pairs p ih =>
    obtain ⟨old, new, parts, keys, apart⟩ := ih
    have step : putAll entries (pairs ++ [p]) = put (old ++ new) p.1 p.2 := by
      rw [putAll, List.foldl_append]
      exact congrArg (put · p.1 p.2) parts
    rw [step, put_append]
    split
    · rename_i present
      exact ⟨put old p.1 p.2, new, rfl, (keys_put_of_mem present _).trans keys, apart⟩
    · rename_i absent
      refine ⟨old, put new p.1 p.2, rfl, keys, fun e member => ?_⟩
      rw [keys] at absent
      rcases (mem_keys_put new p.1 e.1 p.2).mp (List.mem_map_of_mem member) with same | before
      · rw [same]
        exact absent
      · obtain ⟨e', member', same⟩ := List.mem_map.mp before
        rw [← same]
        exact apart e' member'

theorem eq_of_keys {entries others : List (κ × α)} (distinct : (entries.map Prod.fst).Nodup)
    (keys : others.map Prod.fst = entries.map Prod.fst)
    (same : ∀ k ∈ entries.map Prod.fst, get? others k = get? entries k) : others = entries := by
  induction entries generalizing others with
  | nil => exact List.map_eq_nil_iff.mp keys
  | cons e rest ih =>
    obtain ⟨k, v⟩ := e
    obtain ⟨⟨k', v'⟩, rest', rfl, first, restKeys⟩ := List.map_eq_cons_iff.mp keys
    obtain rfl : k' = k := first
    obtain ⟨absent, restDistinct⟩ := List.nodup_cons.mp distinct
    have sameValue : v' = v := by simpa [get?] using same k' List.mem_cons_self
    have restSame : rest' = rest := ih restDistinct restKeys fun l member => by
      have other : k' ≠ l := fun equal => absent (equal ▸ member)
      simpa [get?, other] using same l (List.mem_cons_of_mem _ member)
    rw [sameValue, restSame]

/-- Writing in another order, with the same last value for each key, changes at most the order of
the entries that are new. -/
theorem putAll_reordered {entries pairs others : List (κ × α)}
    (distinct : (entries.map Prod.fst).Nodup) (agree : ∀ k, last? pairs k = last? others k) :
    ∃ old new new', putAll entries pairs = old ++ new ∧ putAll entries others = old ++ new' ∧
      new.Perm new' ∧ (new.map Prod.fst).Nodup ∧ ∀ e ∈ new, e ∈ pairs := by
  obtain ⟨old, new, parts, keys, apart⟩ := putAll_parts entries pairs
  obtain ⟨old', new', parts', keys', apart'⟩ := putAll_parts entries others
  have nodup := nodup_putAll distinct pairs
  have nodup' := nodup_putAll distinct others
  rw [parts, List.map_append] at nodup
  rw [parts', List.map_append] at nodup'
  have same : ∀ k, (get? old k).or (get? new k) = (get? old' k).or (get? new' k) := by
    intro k
    rw [← get?_append, ← get?_append, ← parts, ← parts', get?_putAll, get?_putAll, agree]
  have unwritten : ∀ {fresh : List (κ × α)}, (∀ e ∈ fresh, e.1 ∉ entries.map Prod.fst) →
      ∀ k ∈ entries.map Prod.fst, get? fresh k = none := by
    intro fresh apart k present
    refine get?_eq_none_iff.mpr fun listed => ?_
    obtain ⟨e, member, rfl⟩ := List.mem_map.mp listed
    exact apart e member present
  have sameOld : old' = old := by
    refine eq_of_keys (nodup.sublist (List.sublist_append_left _ _)) (keys'.trans keys.symm) ?_
    intro k present
    rw [keys] at present
    have both := same k
    rw [unwritten apart k present, unwritten apart' k present, Option.or_none, Option.or_none] at both
    exact both.symm
  subst sameOld
  refine ⟨old', new, new', parts, parts', ?_, nodup.sublist (List.sublist_append_right _ _), ?_⟩
  · refine perm_of_get?_eq (nodup.sublist (List.sublist_append_right _ _))
      (nodup'.sublist (List.sublist_append_right _ _)) fun k => ?_
    by_cases present : k ∈ entries.map Prod.fst
    · rw [unwritten apart k present, unwritten apart' k present]
    · have none : get? old' k = none := get?_eq_none_iff.mpr (by rw [keys]; exact present)
      have both := same k
      rwa [none, Option.none_or, Option.none_or] at both
  · intro e member
    have found : get? (putAll entries pairs) e.1 = some e.2 := by
      refine (mem_iff_get? (nodup_putAll distinct pairs)).mp ?_
      rw [parts]
      exact List.mem_append_right old' member
    rw [get?_putAll, get?_eq_none_iff.mpr (apart e member), Option.or_none] at found
    exact mem_of_last? found

end Screening.Entries
