import Screening.Proofs.Resolution
import Screening.Proofs.Sorting

/-!
# Rows in the order of their days

A list of rows that is sorted, latest first, is known by its rows of each day (`eq_of_onDay`).
Sorting keeps the rows of a day in their order, so it does not matter whether rows are selected
before they are sorted or after: `filter_latestFirst`.
-/

namespace Screening.Resolution

/-- The rows of one day, in their order. -/
def onDay (rows : List ParameterValue) (day : Date) : List ParameterValue :=
  rows.filter (·.effective == day)

variable {rows others : List ParameterValue} {day : Date}

theorem mem_onDay {row : ParameterValue} : row ∈ onDay rows day ↔ row ∈ rows ∧ row.effective = day := by
  simp [onDay]

theorem onDay_filter (keep : ParameterValue → Bool) (rows : List ParameterValue) (day : Date) :
    onDay (rows.filter keep) day = (onDay rows day).filter keep :=
  List.filter_comm _ _ _

theorem onDay_cons_of_eq {row : ParameterValue} (same : row.effective = day) :
    onDay (row :: rows) day = row :: onDay rows day :=
  List.filter_cons_of_pos (by simpa using same)

theorem onDay_cons_of_ne {row : ParameterValue} (other : row.effective ≠ day) :
    onDay (row :: rows) day = onDay rows day :=
  List.filter_cons_of_neg (by simpa using other)

/-- Of a sorted list no row is later than the first. -/
theorem notLater_of_sorted {first row : ParameterValue}
    (sorted : (first :: rows).Pairwise fun a b => b.effective ≤ a.effective)
    (member : row ∈ first :: rows) : row.effective ≤ first.effective := by
  rcases List.mem_cons.mp member with rfl | later
  · exact Nat.le_refl _
  · exact (List.pairwise_cons.mp sorted).1 row later

theorem mem_congr_onDay (days : ∀ day, onDay rows day = onDay others day) (row : ParameterValue) :
    row ∈ rows ↔ row ∈ others := by
  have same : row ∈ onDay rows row.effective ↔ row ∈ onDay others row.effective := by rw [days]
  simpa [mem_onDay] using same

theorem eq_of_onDay (sorted : rows.Pairwise fun a b => b.effective ≤ a.effective)
    (sorted' : others.Pairwise fun a b => b.effective ≤ a.effective)
    (days : ∀ day, onDay rows day = onDay others day) : rows = others := by
  have members := mem_congr_onDay days
  induction rows generalizing others with
  | nil =>
    cases others with
    | nil => rfl
    | cons other rest => exact absurd ((members other).mpr List.mem_cons_self) List.not_mem_nil
  | cons row rest ih =>
    cases others with
    | nil => exact absurd ((members row).mp List.mem_cons_self) List.not_mem_nil
    | cons other rest' =>
      -- Both first rows are of the latest day, so each is the first row of that day.
      have before := notLater_of_sorted sorted' ((members row).mp List.mem_cons_self)
      have after := notLater_of_sorted sorted ((members other).mpr List.mem_cons_self)
      have sameDay : other.effective = row.effective := Date.le_antisymm after before
      have first := days row.effective
      rw [onDay_cons_of_eq rfl, onDay_cons_of_eq sameDay] at first
      obtain ⟨rfl, restDay⟩ := List.cons.inj first
      have restDays : ∀ day, onDay rest day = onDay rest' day := by
        intro day
        by_cases same : row.effective = day
        · subst same
          exact restDay
        · have both := days day
          rwa [onDay_cons_of_ne same, onDay_cons_of_ne same] at both
      rw [ih (List.pairwise_cons.mp sorted).2 (List.pairwise_cons.mp sorted').2 restDays
        (mem_congr_onDay restDays)]

/-- Sorting keeps the rows of a day in their order. -/
theorem onDay_latestFirst (rows : List ParameterValue) (day : Date) :
    onDay (latestFirst rows) day = onDay rows day := by
  apply filter_mergeSort later_trans later_total
  intro a b ofA ofB
  rw [beq_iff_eq] at ofA ofB
  rw [ofA, ofB]
  exact decide_eq_true (Nat.le_refl _)

theorem latestFirst_congr (days : ∀ day, onDay rows day = onDay others day) :
    latestFirst rows = latestFirst others := by
  refine eq_of_onDay (latestFirst_sorted rows) (latestFirst_sorted others) fun day => ?_
  rw [onDay_latestFirst, onDay_latestFirst, days]

theorem latestFirst_of_sorted (sorted : rows.Pairwise fun a b => b.effective ≤ a.effective) :
    latestFirst rows = rows :=
  List.mergeSort_of_pairwise (sorted.imp decide_eq_true)

theorem filter_latestFirst (keep : ParameterValue → Bool) (rows : List ParameterValue) :
    (latestFirst rows).filter keep = latestFirst (rows.filter keep) := by
  refine eq_of_onDay ((latestFirst_sorted rows).filter _) (latestFirst_sorted _) fun day => ?_
  rw [onDay_filter, onDay_latestFirst, onDay_latestFirst, onDay_filter]

theorem map_latestFirst {f : ParameterValue → ParameterValue}
    (days : ∀ row, (f row).effective = row.effective) (rows : List ParameterValue) :
    (latestFirst rows).map f = latestFirst (rows.map f) :=
  List.map_mergeSort fun a _ b _ => by rw [days, days]

end Screening.Resolution
