import Mathlib.Data.List.DropRight
import Screening.Text.Blank

/-!
# Runs at the ends of lists

A list whose start passes a test, and whose rest fails it at once, is taken apart there. What is left
after blanks are cut off both ends has no blank at an end, and of such a list nothing is cut off.
-/

namespace Screening.Text

variable {α : Type} {blank : α → Bool} {cs start rest : List α}

/-- Neither end is blank. -/
structure IsTrimmed (blank : α → Bool) (cs : List α) : Prop where
  head : ∀ c, cs.head? = some c → blank c = false
  last : ∀ c, cs.getLast? = some c → blank c = false

theorem head_dropWhile (blank : α → Bool) (cs : List α) :
    ∀ c, (cs.dropWhile blank).head? = some c → blank c = false := by
  intro c head
  have stops := List.head?_dropWhile_not blank cs
  rw [head] at stops
  exact stops

theorem dropWhile_of_head (head : ∀ c, cs.head? = some c → blank c = false) :
    cs.dropWhile blank = cs := by
  cases cs with
  | nil => rfl
  | cons c cs => exact List.dropWhile_cons_of_neg (by simp [head c rfl])

theorem takeWhile_append_of_stops (passes : ∀ c ∈ start, blank c = true)
    (stops : ∀ c, rest.head? = some c → blank c = false) :
    (start ++ rest).takeWhile blank = start := by
  rw [List.takeWhile_append_of_pos passes]
  cases rest with
  | nil => simp
  | cons c cs => simp [stops c rfl]

theorem dropWhile_append_of_stops (passes : ∀ c ∈ start, blank c = true)
    (stops : ∀ c, rest.head? = some c → blank c = false) :
    (start ++ rest).dropWhile blank = rest := by
  rw [List.dropWhile_append_of_pos passes, dropWhile_of_head stops]

theorem isTrimmed_stripBy (blank : α → Bool) (cs : List α) : IsTrimmed blank (stripBy blank cs) := by
  constructor
  · intro c head
    obtain ⟨after, parts⟩ : stripBy blank cs <+: cs.dropWhile blank := List.rdropWhile_prefix _ _
    refine head_dropWhile blank cs c ?_
    rw [← parts, List.head?_append, head]
    rfl
  · intro c last
    unfold stripBy at last
    rw [List.getLast?_reverse] at last
    exact head_dropWhile _ _ c last

theorem stripBy_of_isTrimmed (trimmed : IsTrimmed blank cs) : stripBy blank cs = cs := by
  have reversed : ∀ c, cs.reverse.head? = some c → blank c = false := by
    intro c head
    rw [List.head?_reverse] at head
    exact trimmed.last c head
  unfold stripBy
  rw [dropWhile_of_head trimmed.head, dropWhile_of_head reversed, List.reverse_reverse]

end Screening.Text
