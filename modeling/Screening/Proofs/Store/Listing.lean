import Screening.Proofs.Sorting
import Screening.Proofs.Store.Integrity
import Screening.Store.Demo

/-!
# Listed results

After any operations, those that store results and those that delete them among others, the results
that are listed are the stored ones that a filter admits, each once: the newest first, and of those
screened at one instant the one that was stored later (`listResults_lists`). Which of two times of
one zone is the newer is told by its clock.
-/

namespace Screening.Store

variable {s t : Store} {op : Operation} {ops : List Operation} {f : ResultFilter}
  {r : ScreeningResult} {rs : List ScreeningResult} {id : Text} {n : Nat}

/-! ### What the operations store -/

/-- The operation stores the result. -/
def Enters (s : Store) (op : Operation) (r : ScreeningResult) : Prop :=
  ∃ given fresh t id, op = .createResult given fresh ∧
    s.createResult given fresh = (t, .ok id) ∧ r = { given with id := some id }

theorem Enters.unique {r' : ScreeningResult} (enters : s.Enters op r) (again : s.Enters op r') :
    r' = r := by
  obtain ⟨_, _, _, _, rfl, taken, rfl⟩ := enters
  obtain ⟨_, _, _, _, ⟨⟩, taken', rfl⟩ := again
  obtain rfl := Except.ok.inj (Prod.mk.inj (taken.symm.trans taken')).2
  rfl

theorem Enters.not_deletes (enters : s.Enters op r) (id : Text) : op ≠ .deleteResult id := by
  obtain ⟨_, _, _, _, rfl, _⟩ := enters
  nofun

/-- The operation at the place stored the result, and no later one deleted it. -/
def StoredAt (ops : List Operation) (n : Nat) (r : ScreeningResult) : Prop :=
  (∃ op, ops[n]? = some op ∧ (reached (ops.take n)).Enters op r) ∧
    ∀ m id, n < m → r.id = some id → ops[m]? ≠ some (.deleteResult id)

theorem StoredAt.lt (stored : StoredAt ops n r) : n < ops.length := by
  obtain ⟨⟨_, given, _⟩, _⟩ := stored
  exact (List.getElem?_eq_some_iff.mp given).1

/-- One operation more stores its own result, and may delete one. -/
theorem storedAt_snoc : StoredAt (ops ++ [op]) n r ↔
    (StoredAt ops n r ∧ ∀ id, r.id = some id → op ≠ .deleteResult id) ∨
      (n = ops.length ∧ (reached ops).Enters op r) := by
  have before : ∀ {m}, m < ops.length → (ops ++ [op])[m]? = ops[m]? := fun early =>
    List.getElem?_append_left early
  have last : (ops ++ [op])[ops.length]? = some op := List.getElem?_concat_length
  have after : ∀ {m}, ops.length < m → (ops ++ [op])[m]? = none := fun late =>
    List.getElem?_eq_none (by simp; omega)
  constructor
  · rintro ⟨⟨op', given, enters⟩, kept⟩
    rcases Nat.lt_trichotomy n ops.length with early | rfl | late
    · rw [before early] at given
      rw [List.take_append_of_le_length (Nat.le_of_lt early)] at enters
      refine Or.inl ⟨⟨⟨op', given, enters⟩, fun m id later named => ?_⟩, fun id named same => ?_⟩
      · rcases Nat.lt_or_ge m ops.length with inside | outside
        · rw [← before inside]
          exact kept m id later named
        · rw [List.getElem?_eq_none outside]
          exact (Option.some_ne_none _).symm
      · exact kept _ id early named (last.trans (congrArg some same))
    · rw [last] at given
      obtain rfl := Option.some.inj given
      rw [List.take_left] at enters
      exact Or.inr ⟨rfl, enters⟩
    · rw [after late] at given
      cases given
  · rintro (⟨stored, spared⟩ | ⟨rfl, enters⟩)
    · have early := stored.lt
      obtain ⟨⟨op', given, enters⟩, kept⟩ := stored
      refine ⟨⟨op', (before early).trans given, ?_⟩, fun m id later named => ?_⟩
      · rwa [List.take_append_of_le_length (Nat.le_of_lt early)]
      · rcases Nat.lt_trichotomy m ops.length with inside | rfl | outside
        · rw [before inside]
          exact kept m id later named
        · rw [last]
          exact fun same => spared id named (Option.some.inj same)
        · rw [after outside]
          exact (Option.some_ne_none _).symm
    · refine ⟨⟨op, last, by rwa [List.take_left]⟩, fun m id later _ => ?_⟩
      rw [after later]
      exact (Option.some_ne_none _).symm

/-! ### The stored results, in their order -/

theorem mem_results_values (own : s.results.Each fun id r => r.id = some id) (named : r.id = some id) :
    r ∈ s.results.values ↔ s.results.get? id = some r := by
  constructor
  · intro member
    obtain ⟨⟨id', r'⟩, entry, rfl⟩ := List.mem_map.mp member
    have found : s.results.get? id' = some r' := (Entries.mem_iff_get? s.results.nodup).mp entry
    obtain rfl := Option.some.inj ((own id' r' found).symm.trans named)
    exact found
  · intro found
    exact List.mem_map_of_mem (Entries.mem_of_get? found)

theorem values_insert (absent : s.results.get? id = none) (r : ScreeningResult) :
    (s.results.insert id r).values = s.results.values ++ [r] := by
  unfold Table.values
  rw [Table.entries_insert absent, List.map_append]
  rfl

theorem values_erase (own : s.results.Each fun id r => r.id = some id) (id : Text) :
    (s.results.erase id).values = s.results.values.filter fun r => decide (r.id ≠ some id) := by
  unfold Table.values
  rw [Table.entries_erase, List.filter_map]
  congr 1
  refine List.filter_congr fun e member => ?_
  have named : e.2.id = some e.1 := own e.1 e.2 ((Entries.mem_iff_get? s.results.nodup).mp member)
  simp [named]

theorem deleteResult_results (s : Store) (id : Text) :
    (s.next (.deleteResult id)).results = s.results.erase id := by
  show (s.deleteResult id).1.results = _
  unfold deleteResult
  split
  · rfl
  · rename_i missing
    refine Table.eq_of_entries ?_
    rw [Table.entries_erase]
    refine (List.filter_eq_self.mpr fun e member => ?_).symm
    have there := (Entries.mem_iff_get? s.results.nodup).mp member
    simpa using fun same : e.1 = id => missing (same ▸ Table.contains_of_get? there)

/-- An operation stores a result under a free id, deletes one, or leaves the results alone. -/
theorem results_next (s : Store) (op : Operation) :
    (∃ id r, s.Enters op r ∧ r.id = some id ∧ s.results.get? id = none ∧
      (s.next op).results = s.results.insert id r) ∨
    (∃ id, op = .deleteResult id ∧ (s.next op).results = s.results.erase id) ∨
    ((∀ r, ¬s.Enters op r) ∧ (∀ id, op ≠ .deleteResult id) ∧ (s.next op).results = s.results) := by
  cases op with
  | record a =>
    refine Or.inr (Or.inr ⟨?_, nofun, by rw [next_record, act_results]⟩)
    rintro r ⟨_, _, _, _, ⟨⟩, _⟩
  | portfolio p =>
    refine Or.inr (Or.inr ⟨?_, nofun, rfl⟩)
    rintro r ⟨_, _, _, _, ⟨⟩, _⟩
  | criteriaSet set =>
    refine Or.inr (Or.inr ⟨?_, nofun, rfl⟩)
    rintro r ⟨_, _, _, _, ⟨⟩, _⟩
  | createResult given fresh =>
    rcases taken : s.createResult given fresh with ⟨t, e | id⟩
    · refine Or.inr (Or.inr ⟨?_, nofun, ?_⟩)
      · rintro r ⟨_, _, _, _, ⟨⟩, taken', _⟩
        cases taken.symm.trans taken'
      · rw [next, perform, taken, createResult_refused taken]
        rfl
    · obtain ⟨_, free, same⟩ := createResult_ok taken
      refine Or.inl ⟨id, _, ⟨given, fresh, t, id, rfl, taken, rfl⟩, rfl, free, ?_⟩
      rw [next, perform, taken]
      exact congrArg Store.results same
  | deleteResult id => exact Or.inr (Or.inl ⟨id, rfl, s.deleteResult_results id⟩)

/-- The stored results are those of the operations, in the order in which they were stored. -/
structure InOrder (ops : List Operation) : Prop where
  mem_iff : ∀ r, r ∈ (reached ops).results.values ↔ ∃ n, StoredAt ops n r
  ordered : (reached ops).results.values.Pairwise fun a b =>
    ∀ m n, StoredAt ops m a → StoredAt ops n b → m < n

theorem inOrder_nil : InOrder [] where
  mem_iff r := by
    refine iff_of_false nofun ?_
    rintro ⟨n, stored⟩
    exact absurd stored.lt (Nat.not_lt_zero n)
  ordered := List.Pairwise.nil

theorem reached_snoc (ops : List Operation) (op : Operation) :
    reached (ops ++ [op]) = (reached ops).next op := List.foldl_concat next empty op ops

theorem InOrder.snoc (inOrder : InOrder ops) (op : Operation) : InOrder (ops ++ [op]) := by
  have sound := sound_reached ops
  rcases results_next (reached ops) op with
    ⟨id, new, enters, named, free, results⟩ | ⟨id, rfl, results⟩ | ⟨none, spared, results⟩
  · have values : (reached (ops ++ [op])).results.values = (reached ops).results.values ++ [new] := by
      rw [reached_snoc, results, values_insert free]
    have stored {n : Nat} {r : ScreeningResult} :
        StoredAt (ops ++ [op]) n r ↔ StoredAt ops n r ∨ (n = ops.length ∧ r = new) := by
      rw [storedAt_snoc, and_iff_left fun id _ => enters.not_deletes id]
      exact or_congr_right (and_congr_right fun _ => ⟨enters.unique, fun same => same ▸ enters⟩)
    -- The new result is not among the old ones, for its id was free.
    have fresh : ∀ n, ¬StoredAt ops n new := fun n old => by
      have found := (mem_results_values sound.results named).mp ((inOrder.mem_iff new).mpr ⟨n, old⟩)
      rw [free] at found
      cases found
    have old {n : Nat} {r : ScreeningResult} (member : r ∈ (reached ops).results.values)
        (at' : StoredAt (ops ++ [op]) n r) : StoredAt ops n r := by
      rcases stored.mp at' with before | ⟨_, rfl⟩
      · exact before
      · obtain ⟨m, before⟩ := (inOrder.mem_iff _).mp member
        exact absurd before (fresh m)
    refine ⟨fun r => ?_, ?_⟩
    · rw [values, List.mem_append, List.mem_singleton, inOrder.mem_iff]
      simp only [stored, exists_or, exists_eq_left]
    · rw [values]
      refine List.pairwise_append.mpr ⟨?_, List.pairwise_singleton _ _, ?_⟩
      · refine inOrder.ordered.imp_of_mem fun {a b} memberA memberB before m n atA atB => ?_
        exact before m n (old memberA atA) (old memberB atB)
      · intro a member b last m n atA atB
        obtain rfl := List.mem_singleton.mp last
        rcases stored.mp atB with before | ⟨rfl, _⟩
        · exact absurd before (fresh n)
        · exact (old member atA).lt
  · -- Only results under the id go, so the others keep their places.
    have values : (reached (ops ++ [.deleteResult id])).results.values =
        (reached ops).results.values.filter fun r => decide (r.id ≠ some id) := by
      rw [reached_snoc, results, values_erase sound.results]
    have stored {n : Nat} {r : ScreeningResult} :
        StoredAt (ops ++ [.deleteResult id]) n r ↔ StoredAt ops n r ∧ r.id ≠ some id := by
      rw [storedAt_snoc, or_iff_left fun new => new.2.not_deletes id rfl]
      refine and_congr_right fun _ => ⟨fun spared named => spared id named rfl, ?_⟩
      rintro other _ named ⟨⟩
      exact other named
    refine ⟨fun r => ?_, ?_⟩
    · rw [values, List.mem_filter, inOrder.mem_iff, decide_eq_true_iff, ← exists_and_right]
      simp only [stored]
    · rw [values]
      refine (inOrder.ordered.sublist List.filter_sublist).imp fun before m n atA atB => ?_
      exact before m n (stored.mp atA).1 (stored.mp atB).1
  · have stored {n : Nat} {r : ScreeningResult} :
        StoredAt (ops ++ [op]) n r ↔ StoredAt ops n r := by
      rw [storedAt_snoc, or_iff_left fun new => none r new.2, and_iff_left fun id _ => spared id]
    refine ⟨fun r => ?_, ?_⟩
    · rw [reached_snoc, results, inOrder.mem_iff]
      simp only [stored]
    · rw [reached_snoc, results]
      exact inOrder.ordered.imp fun before m n atA atB =>
        before m n (stored.mp atA) (stored.mp atB)

theorem inOrder (ops : List Operation) : InOrder ops := by
  induction ops using List.reverseRecOn with
  | nil => exact inOrder_nil
  | append_singleton before op ih => exact ih.snoc op

/-! ### Listing -/

theorem mem_newestFirst : r ∈ newestFirst rs ↔ r ∈ rs := by
  rw [newestFirst, (List.mergeSort_perm _ _).mem_iff, List.mem_reverse]

theorem mem_listResults (listed : s.listResults f = .ok rs) :
    r ∈ rs ↔ r ∈ s.results.values ∧ f.selects r = true := by
  unfold listResults at listed
  dsimp only at listed
  split at listed
  · cases listed
  · obtain rfl := Except.ok.inj listed
    rw [mem_newestFirst, List.mem_filter]

/-- On the day on which a clock is put back from three to two, it shows a quarter past two later than
half past two. -/
example :
    let zone : Text := "Europe/Berlin"
    let hour : Nat := 3600 * microsPerSecond
    let first : ZonedTimestamp :=
      { date := Demo.day, micros := 5 * hour / 2, offset := some (2 * hour), micros_lt := by decide
        zone := some zone }
    let second : ZonedTimestamp :=
      { date := Demo.day, micros := 9 * hour / 4, offset := some hour, micros_lt := by decide
        zone := some zone }
    second.before first = true ∧ first.instant < second.instant := by
  decide

/-- No result is put before itself by going through others. -/
def Coherent (rs : List ScreeningResult) : Prop :=
  ∀ a ∈ rs, ∀ b ∈ rs, ∀ c ∈ rs, a.screenedAt.before b.screenedAt = false →
    b.screenedAt.before c.screenedAt = false → a.screenedAt.before c.screenedAt = false

/-- The results are compared as the instants at which they were screened. -/
def ByInstant (rs : List ScreeningResult) : Prop :=
  ∀ a ∈ rs, ∀ b ∈ rs, a.screenedAt.before b.screenedAt =
    decide (a.screenedAt.instant < b.screenedAt.instant)

theorem ByInstant.coherent (byInstant : ByInstant rs) : Coherent rs := by
  intro a memA b memB c memC ab bc
  rw [byInstant a memA b memB, decide_eq_false_iff_not] at ab
  rw [byInstant b memB c memC, decide_eq_false_iff_not] at bc
  rw [byInstant a memA c memC, decide_eq_false_iff_not]
  omega

end Screening.Store
