import Screening.Proofs.Session.History

/-!
# Operations of a session

Beside what happens in a history, results can be stored without a screening, settings can be read,
values resolved and companies selected. An operation stores one result under a free id, or takes one
away, or leaves the results alone: `perform_results`. The store stays sound: `sound_performAll`.
-/

namespace Screening

theorem Store.Gains.results {before after : Store} {id : Text} {r : ScreeningResult}
    (gains : before.Gains after id r) : after.results = before.results.insert id r :=
  Table.eq_of_entries (gains.added.trans (Table.entries_insert gains.free r).symm)

namespace Session

inductive Operation where
  | act (a : Action)
  /-- Store a result as it is given. -/
  | create (r : ScreeningResult) (fresh : Text)
  | configure (d : Data)
  | resolve (ids : List Text) (asOf : Date)
  | select (form : SelectorForm)

/-- The session after an operation. What is refused may still be told in the log. -/
def perform (s : Session) : Operation → Session
  | .act a => s.act a
  | .create r fresh => (s.createResult r fresh).1
  | .configure d => (s.configure d).1
  | .resolve ids asOf => (s.resolveValues ids asOf).1
  | .select form => (s.select form).1

def performAll (s : Session) (ops : List Operation) : Session := ops.foldl perform s

/-- The operation stores this result under this id. -/
inductive Stores (s : Session) : Operation → Text → ScreeningResult → Prop where
  | screen {call : Call} {c : Circumstances} {r : ScreeningResult} {id : Text}
    (conducted : (s.conduct call c).2 = .ok r) (named : r.id = some id) :
    Stores s (.act (.screen call c)) id r
  | create {r : ScreeningResult} {fresh id : Text} {t : Session}
    (created : s.createResult r fresh = (t, .ok id)) :
    Stores s (.create r fresh) id { r with id := some id }

variable {s t : Session} {op : Operation} {ops : List Operation} {id : Text} {r : ScreeningResult}

theorem Stores.named (stores : s.Stores op id r) : r.id = some id := by
  cases stores with
  | screen _ named => exact named
  | create _ => rfl

/-! ### The store in a session -/

theorem createResult_results {fresh : Text} (created : s.createResult r fresh = (t, .ok id)) :
    s.store.results.get? id = none ∧
      t.store = { s.store with results := s.store.results.insert id { r with id := some id } } := by
  obtain ⟨stored, _⟩ := createResult_parts created
  obtain ⟨_, free, same⟩ := Store.createResult_ok stored
  exact ⟨free, same⟩

/-- All that notes change is the log. -/
theorem notes_frame (warnings : List Text) (s : Session) :
    ∃ log, warnings.foldl (fun s text => s.note .warning text) s = { s with log } := by
  induction warnings generalizing s with
  | nil => exact ⟨s.log, rfl⟩
  | cons text rest ih =>
    obtain ⟨log, noted⟩ := ih (s.note .warning text)
    exact ⟨log, noted⟩

theorem configure_store (s : Session) (d : Data) : (s.configure d).1.store = s.store := by
  obtain ⟨log, noted⟩ := notes_frame (Settings.read d).1 s
  unfold configure
  dsimp only
  rw [noted]
  split
  · rfl
  · rw [withSettings_store]

theorem select_store (s : Session) (form : SelectorForm) : (s.select form).1.store = s.store := by
  unfold select
  split
  · rfl
  · split
    · rfl
    · split <;> rfl

theorem deleteResult_kept (found : s.store.results.get? id = some r) : s.deleteResult id =
    ({ s with store := { s.store with results := s.store.results.erase id } }, .ok ()) := by
  rw [deleteResult, Store.deleteResult, if_pos (Table.contains_of_get? found)]
  rfl

theorem deleteResult_unknown (absent : s.store.results.get? id = none) :
    s.deleteResult id = (s, .error (unknownResult id)) := by
  have missing : ¬s.store.results.contains id = true := by
    rw [Table.contains, absent]
    simp
  rw [deleteResult, Store.deleteResult, if_neg missing]
  rfl

theorem deleteResult_store (s : Session) (id : Text) :
    (s.deleteResult id).1.store = s.store ∨
      (s.deleteResult id).1.store = { s.store with results := s.store.results.erase id } := by
  cases found : s.store.results.get? id with
  | none => exact Or.inl (by rw [deleteResult_unknown found])
  | some r => exact Or.inr (by rw [deleteResult_kept found])

theorem perform_create (s : Session) (r : ScreeningResult) (fresh : Text) :
    (∃ t id, s.createResult r fresh = (t, .ok id) ∧ s.perform (.create r fresh) = t) ∨
      ((∃ e, (s.createResult r fresh).2 = .error e) ∧ s.perform (.create r fresh) = s) := by
  rcases created : s.createResult r fresh with ⟨t, e | id⟩
  · refine Or.inr ⟨⟨e, rfl⟩, ?_⟩
    rw [perform, created, createResult_refused created]
  · exact Or.inl ⟨t, id, rfl, by rw [perform, created]⟩

/-- What an operation does to the results. -/
theorem perform_results (s : Session) (op : Operation) :
    (s.perform op).store.results = s.store.results ∨
    (∃ id r, s.Stores op id r ∧ s.store.results.get? id = none ∧
      (s.perform op).store.results = s.store.results.insert id r) ∨
    (∃ id, op = .act (.delete id) ∧
      (s.perform op).store.results = s.store.results.erase id) := by
  cases op with
  | act a =>
    cases a with
    | record a => exact Or.inl (Store.act_results s.store a)
    | portfolio _ | criteriaSet _ | writes _ => exact Or.inl rfl
    | settings settings => exact Or.inl (congrArg Store.results (withSettings_store s settings))
    | screen call c =>
      rcases conduct_cases s call c with ⟨r, id, given, named, gains⟩ | ⟨f, _, same, _⟩
      · exact Or.inr (Or.inl ⟨id, r, .screen given named, gains.free, gains.results⟩)
      · exact Or.inl (congrArg Store.results same)
    | validate call c => exact Or.inl (congrArg Store.results (validate_store s call c))
    | delete id =>
      rcases deleteResult_store s id with same | erased
      · exact Or.inl (congrArg Store.results same)
      · exact Or.inr (Or.inr ⟨id, rfl, congrArg Store.results erased⟩)
  | create r fresh =>
    rcases s.perform_create r fresh with ⟨t, id, created, performed⟩ | ⟨_, same⟩
    · obtain ⟨free, added⟩ := createResult_results created
      rw [performed]
      exact Or.inr (Or.inl ⟨id, _, .create created, free, congrArg Store.results added⟩)
    · exact Or.inl (by rw [same])
  | configure d => exact Or.inl (congrArg Store.results (configure_store s d))
  | resolve ids asOf => exact Or.inl rfl
  | select form => exact Or.inl (congrArg Store.results (select_store s form))

theorem sound_act (sound : s.store.Sound) (a : Action) : (s.act a).store.Sound := by
  cases a with
  | record a =>
    have next := sound.next (.record a)
    rw [Store.next_record] at next
    exact next
  | portfolio p => exact sound.next (.portfolio p)
  | criteriaSet set => exact sound.next (.criteriaSet set)
  | settings settings =>
    rw [act, withSettings_store]
    exact sound
  | writes fault => exact sound
  | screen call c =>
    rw [act]
    rcases conduct_cases s call c with ⟨r, id, _, named, gains⟩ | ⟨f, _, same, _⟩
    · rw [gains.others, gains.results]
      exact sound.withResults (sound.results.insert named)
    · rw [same]
      exact sound
  | validate call c =>
    rw [act, validate_store]
    exact sound
  | delete id =>
    rw [act]
    rcases deleteResult_store s id with same | erased
    · rw [same]
      exact sound
    · rw [erased]
      exact sound.withResults sound.results.erase

theorem sound_perform (sound : s.store.Sound) (op : Operation) : (s.perform op).store.Sound := by
  cases op with
  | act a => exact sound_act sound a
  | create r fresh =>
    rcases s.perform_create r fresh with ⟨t, id, created, performed⟩ | ⟨_, same⟩
    · rw [performed, (createResult_results created).2]
      exact sound.withResults (sound.results.insert rfl)
    · rw [same]
      exact sound
  | configure d =>
    rw [perform, configure_store]
    exact sound
  | resolve ids asOf => exact sound
  | select form =>
    rw [perform, select_store]
    exact sound

theorem sound_performAll (sound : s.store.Sound) (ops : List Operation) :
    (s.performAll ops).store.Sound := by
  induction ops generalizing s with
  | nil => exact sound
  | cons op rest ih => exact ih (sound_perform sound op)

end Session

end Screening
