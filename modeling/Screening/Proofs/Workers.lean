import Mathlib.Data.List.Sigma
import Mathlib.Logic.Relation
import Screening.Proofs.Table

/-!
# Work that is shared out

Tasks wait in the order in which they are submitted. Workers take them up and finish them, each at
its own pace. As long as tasks are left some worker can go on, and in the end the results in the
order of the tasks are those of one task after the other: `Pool.collects_iff`.
-/

namespace Screening

/-- The tasks and the results carry the number under which a task was submitted. -/
structure Pool (α β : Type) where
  waiting : List (α × Nat)
  running : List (α × Nat)
  done : List (Nat × β)

namespace Pool

variable {α β : Type} {f : α → β} {workers : Nat} {tasks : List α} {p q : Pool α β} {results : List β}

def submit (tasks : List α) : Pool α β := ⟨tasks.zipIdx, [], []⟩

/-- A worker that is free takes the next task, or one finishes its task. -/
inductive Step (f : α → β) (workers : Nat) : Pool α β → Pool α β → Prop where
  | take (task : α × Nat) (waiting running : List (α × Nat)) (done : List (Nat × β))
      (free : running.length < workers) :
      Step f workers ⟨task :: waiting, running, done⟩ ⟨waiting, task :: running, done⟩
  | finish (task : α × Nat) (waiting before after : List (α × Nat)) (done : List (Nat × β)) :
      Step f workers ⟨waiting, before ++ task :: after, done⟩
        ⟨waiting, before ++ after, (task.2, f task.1) :: done⟩

def Run (f : α → β) (workers : Nat) : Pool α β → Pool α β → Prop :=
  Relation.ReflTransGen (Step f workers)

def Finished (p : Pool α β) : Prop := p.waiting = [] ∧ p.running = []

/-- These are the results that are there, in the order of the tasks. -/
def Collects (p : Pool α β) (results : List β) : Prop := ∀ i, results[i]? = Entries.get? p.done i

/-! ### What the results will be -/

def outcome (f : α → β) (task : α × Nat) : Nat × β := (task.2, f task.1)

/-- The results of all tasks, finished or not. -/
def outcomes (f : α → β) (p : Pool α β) : List (Nat × β) :=
  p.waiting.map (outcome f) ++ (p.running.map (outcome f) ++ p.done)

theorem Step.outcomes_perm (step : Step f workers p q) : (q.outcomes f).Perm (p.outcomes f) := by
  cases step with
  | take task waiting running done free =>
    exact List.perm_middle
  | finish task waiting before after done =>
    refine List.Perm.append_left _ ?_
    rw [List.map_append, List.map_append, List.append_assoc, List.append_assoc]
    exact List.Perm.append_left _ List.perm_middle

theorem Run.outcomes_perm (run : Run f workers p q) : (q.outcomes f).Perm (p.outcomes f) := by
  induction run with
  | refl => exact List.Perm.refl _
  | tail _ step ih => exact step.outcomes_perm.trans ih

theorem keys_outcomes_submit (f : α → β) (tasks : List α) :
    (((submit tasks).outcomes f).map Prod.fst).Nodup := by
  have numbers : ((submit tasks).outcomes f).map Prod.fst = tasks.zipIdx.map Prod.snd := by
    simp [outcomes, submit, outcome, Function.comp_def]
  rw [numbers]
  exact List.nodup_zipIdx_map_snd tasks

theorem get?_outcomes_submit (f : α → β) (tasks : List α) (i : Nat) :
    Entries.get? ((submit tasks).outcomes f) i = (tasks.map f)[i]? := by
  refine Option.ext fun b => ?_
  rw [← Entries.mem_iff_get? (keys_outcomes_submit f tasks), List.getElem?_map,
    Option.map_eq_some_iff]
  have member : (i, b) ∈ (submit tasks).outcomes f ↔ ∃ t ∈ tasks.zipIdx, outcome f t = (i, b) := by
    simp [outcomes, submit]
  rw [member]
  constructor
  · rintro ⟨⟨a, j⟩, numbered, same⟩
    obtain ⟨rfl, rfl⟩ := Prod.mk.inj same
    exact ⟨a, List.mem_zipIdx_iff_getElem?.mp numbered, rfl⟩
  · rintro ⟨a, found, rfl⟩
    exact ⟨(a, i), List.mem_zipIdx_iff_getElem?.mpr found, rfl⟩

theorem Finished.get?_done (finished : p.Finished) (run : Run f workers (submit tasks) p) (i : Nat) :
    Entries.get? p.done i = (tasks.map f)[i]? := by
  have all : p.outcomes f = p.done := by
    unfold outcomes
    rw [finished.1, finished.2]
    rfl
  have same := run.outcomes_perm
  rw [all] at same
  rw [Entries.get?_of_perm same (keys_outcomes_submit f tasks), get?_outcomes_submit]

/-! ### Workers can go on until all is done -/

/-- The steps that are left. -/
def work (p : Pool α β) : Nat := 2 * p.waiting.length + p.running.length

theorem Step.work_eq (step : Step f workers p q) : p.work = q.work + 1 := by
  cases step with
  | take task waiting running done free =>
    simp only [work, List.length_cons]
    omega
  | finish task waiting before after done =>
    simp only [work, List.length_append, List.length_cons]
    omega

theorem exists_step (f : α → β) (some : 0 < workers) (unfinished : ¬p.Finished) :
    ∃ q, Step f workers p q := by
  obtain ⟨waiting, running, done⟩ := p
  cases running with
  | cons task rest => exact ⟨_, Step.finish task waiting [] rest done⟩
  | nil =>
    cases waiting with
    | nil => exact absurd ⟨rfl, rfl⟩ unfinished
    | cons task rest => exact ⟨_, Step.take task rest [] done some⟩

theorem exists_finished (f : α → β) (some : 0 < workers) (p : Pool α β) :
    ∃ q, Run f workers p q ∧ q.Finished := by
  induction left : p.work using Nat.strongRecOn generalizing p with
  | ind n ih =>
    by_cases finished : p.Finished
    · exact ⟨p, Relation.ReflTransGen.refl, finished⟩
    · obtain ⟨next, step⟩ := exists_step f some finished
      have fewer : next.work < n := by
        have := step.work_eq
        omega
      obtain ⟨q, run, done⟩ := ih next.work fewer next rfl
      exact ⟨q, run.head step, done⟩

/-- However the work is shared out, it comes to what one worker would do alone. -/
theorem collects_iff (some : 0 < workers) :
    (∃ p, Run f workers (submit tasks) p ∧ p.Finished ∧ p.Collects results) ↔
      results = tasks.map f := by
  constructor
  · rintro ⟨p, run, finished, collects⟩
    refine List.ext_getElem? fun i => ?_
    rw [collects i, finished.get?_done run]
  · rintro rfl
    obtain ⟨p, run, finished⟩ := exists_finished f some (submit tasks)
    exact ⟨p, run, finished, fun i => (finished.get?_done run i).symm⟩

end Pool

end Screening
