import Screening.Proofs.Session.Refusal
import Screening.Proofs.Store.Integrity

/-!
# What calls leave in the store

A screening adds its result to the store under an id that was free, or is refused or breaks off and
leaves the store as it was; a validation leaves it as it was in any case: `screen_all_or_nothing`. A
screening that has stored its result may still fail to log it.
-/

namespace Screening

/-- One more result is stored, under an id that was free; all else is as before. -/
structure Store.Gains (before after : Store) (id : Text) (r : ScreeningResult) : Prop where
  free : before.results.get? id = none
  added : after.results.entries = before.results.entries ++ [(id, r)]
  others : after = { before with results := after.results }

theorem Store.Gains.get? {before after : Store} {id : Text} {r : ScreeningResult}
    (gains : before.Gains after id r) : after.results.get? id = some r := by
  have member : (id, r) ∈ after.results.entries := by
    rw [gains.added]
    exact List.mem_append_right _ (List.mem_singleton_self _)
  exact (Entries.mem_iff_get? after.results.nodup).mp member

theorem Store.gains_createResult {s t : Store} {r : ScreeningResult} {fresh id : Text}
    (unnamed : r.id = none) (created : s.createResult r fresh = (t, .ok id)) :
    id = fresh ∧ s.Gains t id { r with id := some id } := by
  obtain ⟨named, absent, rfl⟩ := createResult_ok created
  exact ⟨named unnamed, absent, Table.entries_insert absent _, rfl⟩

namespace Session

variable {s t : Session} {call : Call} {c : Circumstances}

theorem accept_store (s : Session) (call : Call) (c : Circumstances) :
    (s.accept call c).1.store = s.store := by
  obtain ⟨recorder, log, frame⟩ := accept_frame s call c
  rw [frame]

/-! ### Storing a result -/

theorem createResult_parts {r : ScreeningResult} {fresh id : Text}
    (created : s.createResult r fresh = (t, .ok id)) :
    s.store.createResult r fresh = (t.store, .ok id) ∧ t = { s with store := t.store } := by
  obtain ⟨rfl, outcome⟩ := Prod.mk.inj created
  exact ⟨Prod.ext rfl outcome, rfl⟩

theorem createResult_refused {r : ScreeningResult} {fresh : Text} {e : StoreError}
    (refused : s.createResult r fresh = (t, .error e)) : t = s := by
  obtain ⟨rfl, outcome⟩ := Prod.mk.inj refused
  have same : (s.store.createResult r fresh).1 = s.store :=
    Store.createResult_refused (Prod.ext rfl outcome)
  show { s with store := (s.store.createResult r fresh).1 } = s
  rw [same]

theorem keep_created {r : ScreeningResult} {fresh id : Text}
    (kept : s.keep r fresh = (t, .ok id)) : s.createResult r fresh = (t, .ok id) := by
  unfold keep at kept
  split at kept
  · cases (Prod.mk.inj kept).2
  · rcases created : s.createResult r fresh with ⟨u, e | id'⟩
    · rw [created] at kept
      cases (Prod.mk.inj kept).2
    · rw [created] at kept
      obtain ⟨rfl, same⟩ := Prod.mk.inj kept
      obtain rfl := Except.ok.inj same
      rfl

/-- A result that cannot be stored leaves the session as it was. -/
theorem keep_refused {r : ScreeningResult} {fresh why : Text}
    (refused : s.keep r fresh = (t, .error why)) : t = s := by
  unfold keep at refused
  split at refused
  · exact (Prod.mk.inj refused).1.symm
  · rcases created : s.createResult r fresh with ⟨u, e | id⟩
    · rw [created] at refused
      obtain ⟨rfl, _⟩ := Prod.mk.inj refused
      exact createResult_refused created
    · rw [created] at refused
      cases (Prod.mk.inj refused).2

theorem keep_gains {r : ScreeningResult} {fresh id : Text} (unnamed : r.id = none)
    (kept : s.keep r fresh = (t, .ok id)) :
    s.store.Gains t.store id { r with id := some id } :=
  (Store.gains_createResult unnamed (createResult_parts (keep_created kept)).1).2

/-! ### Calls -/

theorem tellMissing_store (s : Session) (set : CriteriaSet) (report : Completeness) :
    (s.tellMissing set report).store = s.store := by
  unfold tellMissing
  split <;> rfl

theorem validate_store (s : Session) (call : Call) (c : Circumstances) :
    (s.validate call c).1.store = s.store := by
  have accepted := accept_store s call c
  unfold validate
  split
  · rename_i h
    rw [h] at accepted
    exact accepted
  · rename_i h
    rw [h] at accepted
    dsimp only
    rw [tellMissing_store]
    exact accepted

theorem conclude_gains {a : Accepted} {r stored : ScreeningResult} (unnamed : r.id = none)
    (concluded : (s.conclude a r c).2 = .ok stored) :
    ∃ id, stored.id = some id ∧ s.store.Gains (s.conclude a r c).1.store id stored := by
  unfold conclude at concluded ⊢
  split at concluded
  · cases concluded
  · rename_i t id kept
    obtain rfl := Except.ok.inj concluded
    have gains := keep_gains unnamed kept
    exact ⟨id, rfl, gains⟩

theorem conclude_fails {a : Accepted} {r : ScreeningResult} {f : Failure}
    (failed : (s.conclude a r c).2 = .error f) :
    (∃ why, f = .persistence why) ∧ (s.conclude a r c).1.store = s.store := by
  unfold conclude at failed ⊢
  split at failed
  · rename_i t why refused
    refine ⟨⟨_, (Except.error.inj failed).symm⟩, ?_⟩
    rw [keep_refused refused]
    rfl
  · cases failed

/-- What comes of a screening: a result that the store has gained, or a store that is as it was after
a refusal, a text that could not be written or a result that could not be stored. -/
theorem conduct_cases (s : Session) (call : Call) (c : Circumstances) :
    (∃ r id, (s.conduct call c).2 = .ok r ∧ r.id = some id ∧
      s.store.Gains (s.screen call c).1.store id r) ∨
    (∃ f, (s.conduct call c).2 = .error f ∧ (s.screen call c).1.store = s.store ∧
      (f.isRefusal = true ∨ (∃ why, f = .persistence why) ∨
        (f = .overlong ∧ ∃ a, (s.accept call c).2 = .ok a ∧ ¬s.WritesAll a))) := by
  obtain ⟨recorder, log, frame⟩ := accept_frame s call c
  rw [screen_session]
  unfold conduct
  split
  · rename_i s' f h
    have refused := accept_refusal (congrArg Prod.snd h)
    rw [h] at frame
    subst frame
    exact Or.inr ⟨f, rfl, rfl, Or.inl refused⟩
  · rename_i s' a h
    rw [h] at frame ⊢
    subst frame
    dsimp only
    split
    · cases concluded : (conclude (tellEvaluation { s with recorder, log } a c) a
        (assemble { s with recorder, log } a c) c).2 with
      | ok r =>
        obtain ⟨id, named, gains⟩ := conclude_gains (by rfl) concluded
        exact Or.inl ⟨r, id, rfl, named, gains⟩
      | error f =>
        obtain ⟨persistence, same⟩ := conclude_fails concluded
        exact Or.inr ⟨f, rfl, same, Or.inr (Or.inl persistence)⟩
    · rename_i unwritten
      exact Or.inr ⟨.overlong, rfl, rfl, Or.inr (Or.inr ⟨rfl, a, rfl, unwritten⟩)⟩

theorem conduct_stored {r : ScreeningResult} (conducted : (s.conduct call c).2 = .ok r) :
    ∃ id, r.id = some id ∧ s.store.Gains (s.screen call c).1.store id r := by
  rcases conduct_cases s call c with ⟨r', id, given, named, gains⟩ | ⟨f, failed, _⟩
  · obtain rfl := Except.ok.inj (conducted.symm.trans given)
    exact ⟨id, named, gains⟩
  · cases conducted.symm.trans failed

theorem screen_stored {r : ScreeningResult} (screened : (s.screen call c).2 = .ok r) :
    ∃ id, r.id = some id ∧ (s.screen call c).1.store.results.get? id = some r := by
  obtain ⟨id, named, gains⟩ := conduct_stored (screened_iff.mp screened).1
  exact ⟨id, named, gains.get?⟩

theorem result_of_gains {id : Text} {r : ScreeningResult} (gains : s.store.Gains t.store id r) :
    t.result id = .ok r := by
  unfold result
  rw [gains.get?]

/-- The call fails although its result is stored, because the version of the criteria set is too long
for the line that would be logged. -/
structure Withholds (s : Session) (call : Call) (c : Circumstances) (id : Text)
    (r : ScreeningResult) : Prop where
  version : (Scalar.int r.criteriaSet.version).isShort = false
  named : r.id = some id
  gains : s.store.Gains (s.screen call c).1.store id r
  found : (s.screen call c).1.result id = .ok r

theorem screen_of_conducted {r : ScreeningResult} (conducted : (s.conduct call c).2 = .ok r) :
    (s.screen call c).2 = .ok r ∨
      ((s.screen call c).2 = .error .overlong ∧ ∃ id, s.Withholds call c id r) := by
  obtain ⟨id, named, gains⟩ := conduct_stored conducted
  rw [screen_outcome, conducted]
  dsimp only [Except.bind, give]
  split
  · exact Or.inl rfl
  · rename_i long
    exact Or.inr ⟨rfl, id, Bool.eq_false_iff.mpr long, named, gains, result_of_gains gains⟩

/-- A screening is all or nothing on the store, and a validation is nothing. What a failure that is
about an integer in a text leaves depends on when it comes: nothing if the text is part of the result,
and the result if it is the line that is logged of it. -/
theorem screen_all_or_nothing (s : Session) (call : Call) (c : Circumstances) :
    (match (s.screen call c).2 with
      | .error .overlong =>
          (∃ a, (s.accept call c).2 = .ok a ∧ ¬s.WritesAll a ∧
            (s.screen call c).1.store = s.store) ∨ ∃ id r, s.Withholds call c id r
      | .error f => (f.isRefusal = true ∨ ∃ why, f = .persistence why) ∧
          (s.screen call c).1.store = s.store
      | .ok r => ∃ id, r.id = some id ∧ s.store.Gains (s.screen call c).1.store id r ∧
          (s.screen call c).1.result id = .ok r) ∧
    (s.validate call c).1.store = s.store := by
  refine ⟨?_, validate_store s call c⟩
  rcases conduct_cases s call c with ⟨r, id, conducted, named, gains⟩ | ⟨f, failed, same, kind⟩
  · rcases screen_of_conducted conducted with given | ⟨failed, id', withholds⟩
    · rw [given]
      exact ⟨id, named, gains, result_of_gains gains⟩
    · rw [failed]
      exact Or.inr ⟨id', r, withholds⟩
  · have outcome : (s.screen call c).2 = .error f := by
      rw [screen_outcome, failed]
      rfl
    rw [outcome]
    rcases kind with refused | ⟨why, rfl⟩ | ⟨rfl, a, accepted, unwritten⟩
    · cases f with
      | badRequest _ _ | notFound _ _ _ | forbidden _ => exact ⟨Or.inl refused, same⟩
      | general _ | badExpression _ _ | persistence _ | overlong =>
        exact absurd refused Bool.false_ne_true
    · exact ⟨Or.inr ⟨why, rfl⟩, same⟩
    · exact Or.inl ⟨a, accepted, unwritten, same⟩

end Session

end Screening
