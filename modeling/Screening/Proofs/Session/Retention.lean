import Screening.Proofs.Session.Operations
import Screening.Proofs.Store.Listing
import Screening.Store.Demo

/-!
# Results stay as they are

A result that is stored is found unchanged after all that is done to the session, until it is
deleted; then nothing is known under its id until a result is stored there again:
`results_write_once`.
-/

namespace Screening

/-- The id that a result is stored under: its own, or if that is missing or empty the fresh one. -/
def ScreeningResult.idElse (r : ScreeningResult) (fresh : Text) : Text :=
  match r.id with
  | none | some "" => fresh
  | some id => id

namespace Store

theorem createResult_eq (s : Store) (r : ScreeningResult) (fresh : Text) :
    s.createResult r fresh =
      if s.results.contains (r.idElse fresh) then (s, .error (.resultExists (r.idElse fresh)))
      else ({ s with
        results := s.results.insert (r.idElse fresh) { r with id := some (r.idElse fresh) } },
        .ok (r.idElse fresh)) := rfl

end Store

namespace Session

variable {s : Session} {op : Operation} {ops : List Operation} {id : Text} {r : ScreeningResult}

/-- The result is kept under the id: it is what is found and listed there, and none can take its
place. -/
structure Keeps (s : Session) (id : Text) (r : ScreeningResult) : Prop where
  result : s.result id = .ok r
  listed : ∀ f rs, s.store.listResults f = .ok rs → f.selects r = true → r ∈ rs
  alone : ∀ f rs, s.store.listResults f = .ok rs → ∀ other ∈ rs, other.id = some id → other = r
  taken : ∀ other fresh, other.idElse fresh = id →
    (s.createResult other fresh).2 = .error (.resultExists id) ∧
      s.perform (.create other fresh) = s

/-- Under the id nothing is found or listed, and there is nothing to delete. -/
structure Unknown (s : Session) (id : Text) : Prop where
  result : s.result id = .error (unknownResult id)
  listed : ∀ f rs, s.store.listResults f = .ok rs → ∀ r ∈ rs, r.id ≠ some id
  deleted : s.deleteResult id = (s, .error (unknownResult id))

theorem result_eq_ok : s.result id = .ok r ↔ s.store.results.get? id = some r := by
  unfold result
  cases s.store.results.get? id <;> simp

theorem result_eq_error : s.result id = .error (unknownResult id) ↔ s.store.results.get? id = none := by
  unfold result
  cases s.store.results.get? id <;> simp

theorem create_taken (found : s.store.results.get? id = some r) {other : ScreeningResult}
    {fresh : Text} (same : other.idElse fresh = id) :
    s.createResult other fresh = (s, .error (.resultExists id)) := by
  rw [createResult, Store.createResult_eq, same, if_pos (Table.contains_of_get? found)]

theorem keeps_iff (sound : s.store.Sound) : s.Keeps id r ↔ s.store.results.get? id = some r := by
  refine ⟨fun keeps => result_eq_ok.mp keeps.result, fun found => ?_⟩
  have named : r.id = some id := sound.results id r found
  refine ⟨result_eq_ok.mpr found, fun f rs listed selected => ?_,
    fun f rs listed other member same => ?_, fun other fresh same => ?_⟩
  · exact (Store.mem_listResults listed).mpr
      ⟨(Store.mem_results_values sound.results named).mpr found, selected⟩
  · have stored := (Store.mem_results_values sound.results same).mp
      ((Store.mem_listResults listed).mp member).1
    rw [found] at stored
    exact (Option.some.inj stored).symm
  · have refused := create_taken found same
    exact ⟨congrArg Prod.snd refused, congrArg Prod.fst refused⟩

theorem unknown_iff (sound : s.store.Sound) : s.Unknown id ↔ s.store.results.get? id = none := by
  refine ⟨fun unknown => result_eq_error.mp unknown.result, fun absent =>
    ⟨result_eq_error.mpr absent, fun f rs listed r member named => ?_, deleteResult_unknown absent⟩⟩
  have stored := (Store.mem_results_values sound.results named).mp
    ((Store.mem_listResults listed).mp member).1
  rw [absent] at stored
  cases stored

/-! ### One operation -/

theorem get?_perform_stores (stores : s.Stores op id r) :
    (s.perform op).store.results.get? id = some r := by
  cases stores with
  | screen conducted named =>
    obtain ⟨id', named', gains⟩ := conduct_stored conducted
    obtain rfl := Option.some.inj (named.symm.trans named')
    exact gains.get?
  | create created =>
    rw [perform, created, (createResult_results created).2, Table.get?_insert, if_pos rfl]

theorem get?_perform_kept (found : s.store.results.get? id = some r)
    (kept : op ≠ .act (.delete id)) : (s.perform op).store.results.get? id = some r := by
  rcases s.perform_results op with same | ⟨id', r', _, free, added⟩ | ⟨id', rfl, erased⟩
  · rw [same, found]
  · have other : id' ≠ id := by
      rintro rfl
      rw [free] at found
      cases found
    rw [added, Table.get?_insert, if_neg other, found]
  · have other : id' ≠ id := fun same => kept (by rw [same])
    rw [erased, Table.get?_erase, if_neg other, found]

theorem get?_perform_absent (absent : s.store.results.get? id = none)
    (spared : ∀ r, ¬s.Stores op id r) : (s.perform op).store.results.get? id = none := by
  rcases s.perform_results op with same | ⟨id', r', stores, _, added⟩ | ⟨id', _, erased⟩
  · rw [same, absent]
  · have other : id' ≠ id := by
      rintro rfl
      exact spared r' stores
    rw [added, Table.get?_insert, if_neg other, absent]
  · rw [erased, Table.get?_erase]
    split
    · rfl
    · exact absent

theorem get?_perform_delete (found : s.store.results.get? id = some r) :
    (s.perform (.act (.delete id))).store.results.get? id = none := by
  rw [perform, act, deleteResult_kept found, Table.get?_erase, if_pos rfl]

/-! ### Many operations -/

theorem get?_performAll_kept (found : s.store.results.get? id = some r)
    (kept : ∀ op ∈ ops, op ≠ .act (.delete id)) :
    (s.performAll ops).store.results.get? id = some r := by
  induction ops generalizing s with
  | nil => exact found
  | cons op rest ih =>
    exact ih (get?_perform_kept found (kept op List.mem_cons_self))
      fun other member => kept other (List.mem_cons_of_mem _ member)

theorem get?_performAll_absent (absent : s.store.results.get? id = none)
    (spared : ∀ before op later r, ops = before ++ op :: later →
      ¬(s.performAll before).Stores op id r) :
    (s.performAll ops).store.results.get? id = none := by
  induction ops generalizing s with
  | nil => exact absent
  | cons op rest ih =>
    refine ih (get?_perform_absent absent fun r => spared [] op rest r rfl) ?_
    intro before next later r split
    exact spared (op :: before) next later r (by rw [split, List.cons_append])

/-- Stored results are written once. What is stored under an id is kept there through all that is
done to the session but a deletion of the id, and after that nothing is known under the id until
another result is stored there. -/
theorem results_write_once {start : Session} (sound : start.store.Sound) (h : List Operation) :
    let s := start.performAll h
    (∀ op id r, s.Stores op id r → (s.perform op).Keeps id r) ∧
    (∀ ops id r, s.Keeps id r → (∀ op ∈ ops, op ≠ .act (.delete id)) →
      (s.performAll ops).Keeps id r) ∧
    (∀ id r, s.Keeps id r →
      (s.deleteResult id).2 = .ok () ∧ (s.perform (.act (.delete id))).Unknown id) ∧
    (∀ ops id, s.Unknown id → (∀ before op later r, ops = before ++ op :: later →
      ¬(s.performAll before).Stores op id r) → (s.performAll ops).Unknown id) ∧
    ∀ id, s.Unknown id ∨ ∃ r, s.Keeps id r := by
  intro s
  have soundNow : s.store.Sound := sound_performAll sound h
  refine ⟨fun op id r stores => ?_, fun ops id r keeps kept => ?_, fun id r keeps => ?_,
    fun ops id unknown spared => ?_, fun id => ?_⟩
  · exact (keeps_iff (sound_perform soundNow op)).mpr (get?_perform_stores stores)
  · exact (keeps_iff (sound_performAll soundNow ops)).mpr
      (get?_performAll_kept ((keeps_iff soundNow).mp keeps) kept)
  · have found := (keeps_iff soundNow).mp keeps
    refine ⟨by rw [deleteResult_kept found], ?_⟩
    exact (unknown_iff (sound_perform soundNow _)).mpr (get?_perform_delete found)
  · exact (unknown_iff (sound_performAll soundNow ops)).mpr
      (get?_performAll_absent ((unknown_iff soundNow).mp unknown) spared)
  · cases found : s.store.results.get? id with
    | none => exact Or.inl ((unknown_iff soundNow).mpr found)
    | some r => exact Or.inr ⟨r, (keeps_iff soundNow).mpr found⟩

theorem not_stores_record {a : Store.Action} : ¬s.Stores (.act (.record a)) id r := by
  rintro ⟨⟩

/-- The result of a screening stays while its company is renamed, the same is screened again under
the id that is taken, and the result itself is offered once more; it is gone after its deletion. -/
theorem results_write_once_standard :
    let company := Store.Demo.company "greentech" "GreenTech Corp" "GTC" "Technology"
    let call : Call :=
      ⟨.company (.text "greentech") .null, .text "standard-esg", some Store.Demo.day, .null⟩
    let c : Circumstances :=
      ⟨Store.Demo.day, .startOfDay Store.Demo.day, "c-1", "r-1", .ofRatio false 1 1,
        .ofRatio false 2 1⟩
    let rename : Operation := .act (.record (.company { company with name := "Green" }))
    let screening : Operation := .act (.screen call c)
    let deletion : Operation := .act (.delete "r-1")
    let base := Session.performAll {}
      [.act (.record (.company company)), .act (.criteriaSet Store.Demo.standard)]
    ∃ r, let kept := (base.perform screening).performAll [rename, screening, .create r "r-2"]
      kept.Keeps "r-1" r ∧ (kept.perform deletion).Unknown "r-1" ∧
        ((kept.perform deletion).performAll [rename]).Unknown "r-1" := by
  intro company call c rename screening deletion base
  have sound : base.store.Sound := sound_performAll Store.sound_empty _
  have accepted : (base.accept call c).2 = .ok ⟨⟨"standard-esg", Store.Demo.day,
      (Selector.company "greentech" none).describe, none, "c-1", by decide⟩, Store.Demo.standard,
      ⟨[company], none, (Selector.company "greentech" none).describe, []⟩⟩ := by
    rw [accept_outcome, receive_outcome]
    rfl
  obtain ⟨r, screened, named⟩ : ∃ r, (base.screen call c).2 = .ok r ∧ r.id = some "r-1" :=
    ⟨_, screen_of_accepted accepted (by decide +kernel) rfl (by decide +kernel), rfl⟩
  -- From here on it does not matter how the session came about.
  clear_value base
  let more : List Operation := [rename, screening, .create r "r-2"]
  have spared : ∀ op ∈ more, op ≠ deletion := by simp [more, screening, rename, deletion]
  have soundStored := sound_perform sound screening
  have stored : (base.perform screening).Keeps "r-1" r :=
    (results_write_once sound []).1 screening "r-1" r (.screen (screened_iff.mp screened).1 named)
  refine ⟨r, ?_⟩
  generalize base.perform screening = t at stored soundStored ⊢
  have soundKept := sound_performAll soundStored more
  have kept : (t.performAll more).Keeps "r-1" r :=
    (results_write_once soundStored []).2.1 more "r-1" r stored spared
  show (t.performAll more).Keeps "r-1" r ∧ ((t.performAll more).perform deletion).Unknown "r-1" ∧
    (((t.performAll more).perform deletion).performAll [rename]).Unknown "r-1"
  generalize t.performAll more = u at soundKept kept ⊢
  have gone : (u.perform deletion).Unknown "r-1" :=
    ((results_write_once soundKept []).2.2.1 "r-1" r kept).2
  refine ⟨kept, gone, ?_⟩
  refine (results_write_once (sound_perform soundKept deletion) []).2.2.2.1 [rename] "r-1" gone ?_
  intro before op later r' split
  obtain rfl : op = rename := by
    have member : op ∈ [rename] := by
      rw [split]
      exact List.mem_append_right _ List.mem_cons_self
    exact List.mem_singleton.mp member
  exact not_stores_record

end Session

end Screening
