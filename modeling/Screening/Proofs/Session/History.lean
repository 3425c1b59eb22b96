import Screening.Proofs.Session.Storage
import Screening.Proofs.Store.History

/-!
# Histories of a session

In a session the store is updated while calls come in between. Results are stored by screenings
only, so a result that is there after a history was there before or is what some screening stored:
`stored_origin`.
-/

namespace Screening

namespace Session

/-- What can happen in a session. -/
inductive Action where
  | record (a : Store.Action)
  | portfolio (p : Portfolio)
  | criteriaSet (set : CriteriaSet)
  | settings (settings : Settings)
  /-- From now on results cannot be stored for this reason, or can be again. -/
  | writes (fault : Option Text)
  | screen (call : Call) (c : Circumstances)
  | validate (call : Call) (c : Circumstances)
  | delete (id : Text)

def act (s : Session) : Action → Session
  | .record a => { s with store := s.store.act a }
  | .portfolio p => { s with store := s.store.addPortfolio p }
  | .criteriaSet set => { s with store := s.store.addCriteriaSet set }
  | .settings settings => s.withSettings settings
  | .writes fault => { s with writeFault := fault }
  | .screen call c => (s.screen call c).1
  | .validate call c => (s.validate call c).1
  | .delete id => (s.deleteResult id).1

def after (s : Session) (h : List Action) : Session := h.foldl act s

variable {s : Session} {a : Action} {h : List Action} {id : Text} {r : ScreeningResult}

theorem withSettings_store (s : Session) (settings : Settings) :
    (s.withSettings settings).store = s.store := by
  unfold withSettings
  split <;> rfl

theorem deleteResult_stored {id' : Text}
    (stored : (s.deleteResult id).1.store.results.get? id' = some r) :
    s.store.results.get? id' = some r := by
  unfold deleteResult Store.deleteResult at stored
  by_cases there : s.store.results.contains id = true
  · simp only [there, if_true, Table.get?_erase] at stored
    split at stored
    · cases stored
    · exact stored
  · rw [if_neg there] at stored
    exact stored

/-- A result that is stored after an action was stored before, or the action is the screening that
stored it. -/
theorem stored_act (stored : (s.act a).store.results.get? id = some r) :
    s.store.results.get? id = some r ∨
      ∃ call c, a = .screen call c ∧ (s.conduct call c).2 = .ok r := by
  cases a with
  | record a =>
    have kept : (s.act (.record a)).store.results = s.store.results := Store.act_results s.store a
    rw [kept] at stored
    exact Or.inl stored
  | portfolio p => exact Or.inl stored
  | criteriaSet set => exact Or.inl stored
  | settings settings =>
    have kept : (s.act (.settings settings)).store = s.store := withSettings_store s settings
    rw [kept] at stored
    exact Or.inl stored
  | writes fault => exact Or.inl stored
  | screen call c =>
    have unfolded : (s.act (.screen call c)).store = (s.screen call c).1.store := rfl
    rw [unfolded] at stored
    rcases conduct_cases s call c with ⟨r', id', given, named, gains⟩ | ⟨f, _, same, _⟩
    -- An entry of the store was there before, or it is the one that the screening added.
    · have entry := Entries.mem_of_get? stored
      rw [gains.added] at entry
      rcases List.mem_append.mp entry with old | new
      · exact Or.inl ((Entries.mem_iff_get? s.store.results.nodup).mp old)
      · have pair := List.mem_singleton.mp new
        obtain ⟨rfl, rfl⟩ := Prod.mk.inj pair
        exact Or.inr ⟨call, c, rfl, given⟩
    · rw [same] at stored
      exact Or.inl stored
  | validate call c =>
    have kept : (s.act (.validate call c)).store = s.store := validate_store s call c
    rw [kept] at stored
    exact Or.inl stored
  | delete id' => exact Or.inl (deleteResult_stored stored)

theorem after_cons (s : Session) (a : Action) (rest : List Action) :
    s.after (a :: rest) = (s.act a).after rest := rfl

/-- A result that is stored after a history was there before, or some screening in between stored
it. -/
theorem stored_origin (stored : (s.after h).store.results.get? id = some r) :
    s.store.results.get? id = some r ∨ ∃ before call c later,
      h = before ++ .screen call c :: later ∧ ((s.after before).conduct call c).2 = .ok r := by
  induction h generalizing s with
  | nil => exact Or.inl stored
  | cons a rest ih =>
    rw [after_cons] at stored
    rcases ih stored with early | ⟨before, call, c, later, rfl, given⟩
    · rcases stored_act early with old | ⟨call, c, rfl, given⟩
      · exact Or.inl old
      · exact Or.inr ⟨[], call, c, rest, rfl, given⟩
    · exact Or.inr ⟨a :: before, call, c, later, rfl, given⟩

/-- What holds of all results that screenings store holds of all that are stored in a session. -/
theorem stored_after {P : ScreeningResult → Prop} (conducted : ∀ (s : Session) call c r,
      (s.conduct call c).2 = .ok r → P r)
    (before : ∀ id r, s.store.results.get? id = some r → P r) (h : List Action) :
    ∀ id r, (s.after h).store.results.get? id = some r → P r := by
  intro id r stored
  rcases stored_origin stored with old | ⟨early, call, c, _, _, given⟩
  · exact before id r old
  · exact conducted (s.after early) call c r given

end Session

end Screening
