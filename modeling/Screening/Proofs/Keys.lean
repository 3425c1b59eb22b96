import Mathlib.Data.List.Nodup
import Screening.Data.Keys

/-!
# Maps under their keys

`under?_put` says what stands under a key after a value has been put into a map; under the key of a
text stands the field of that name: `under?_text`.
-/

namespace Screening

theorem key_text (t : Text) : (Atom.scalar (.text t)).key = .other (.scalar (.text t)) := rfl

/-- No other key is the same as a text. -/
theorem key_eq_text {a : Atom} {t : Text} :
    a.key = (Atom.scalar (.text t)).key ↔ a = .scalar (.text t) := by
  refine ⟨fun same => ?_, fun same => same ▸ rfl⟩
  rw [key_text] at same
  unfold Atom.key at same
  split at same
  · cases same
  · split at same
    · cases same
    · exact Key.other.inj same
  · exact Key.other.inj same

namespace Data

variable {entries : List (Atom × Data)} {name : Atom} {k : Key} {d : Data}

theorem under?_text (entries : List (Atom × Data)) (name : Text) :
    under? entries (Atom.scalar (.text name)).key = field? entries name := by
  unfold field?
  induction entries with
  | nil => rfl
  | cons e rest ih =>
    rw [under?, Entries.get?, ih]
    exact if_congr key_eq_text rfl rfl

theorem under?_put (entries : List (Atom × Data)) (name : Atom) (d : Data) (k : Key) :
    under? (put entries name d) k = if name.key = k then some d else under? entries k := by
  induction entries with
  | nil => rfl
  | cons e rest ih =>
    obtain ⟨m, w⟩ := e
    by_cases here : m.key = name.key
    · rw [put, if_pos here, under?, under?, here]
      split <;> rfl
    · rw [put, if_neg here, under?, under?, ih]
      by_cases there : m.key = k
      · rw [if_pos there, if_pos there, if_neg fun same => here (there.trans same.symm)]
      · rw [if_neg there, if_neg there]

theorem under?_eq_none_iff : under? entries k = none ↔ ∀ e ∈ entries, e.1.key ≠ k := by
  induction entries with
  | nil => simp [under?]
  | cons e rest ih =>
    obtain ⟨l, w⟩ := e
    by_cases here : l.key = k <;> simp [under?, here, ih]

theorem under?_of_mem (distinct : (entries.map (·.1.key)).Nodup) (member : (name, d) ∈ entries) :
    under? entries name.key = some d := by
  induction entries with
  | nil => cases member
  | cons e rest ih =>
    obtain ⟨absent, later⟩ := List.nodup_cons.mp distinct
    rcases List.mem_cons.mp member with rfl | there
    · exact if_pos rfl
    · have other : e.1.key ≠ name.key := fun same =>
        absent (List.mem_map.mpr ⟨(name, d), there, same.symm⟩)
      rw [under?, if_neg other, ih later there]

theorem mem_of_under? (found : under? entries k = some d) :
    ∃ name, (name, d) ∈ entries ∧ name.key = k := by
  induction entries with
  | nil => cases found
  | cons e rest ih =>
    obtain ⟨l, w⟩ := e
    rw [under?] at found
    split at found
    · rename_i same
      exact ⟨l, Option.some.inj found ▸ List.mem_cons_self, same⟩
    · obtain ⟨name, member, same⟩ := ih found
      exact ⟨name, List.mem_cons_of_mem _ member, same⟩

/-- Putting a value where it stands changes nothing. -/
theorem put_of_under? (found : under? entries name.key = some d) : put entries name d = entries := by
  induction entries with
  | nil => cases found
  | cons e rest ih =>
    obtain ⟨l, w⟩ := e
    rw [under?] at found
    by_cases here : l.key = name.key
    · rw [if_pos here] at found
      rw [put, if_pos here, Option.some.inj found]
    · rw [if_neg here] at found
      rw [put, if_neg here, ih found]

theorem put_of_new (new : under? entries name.key = none) :
    put entries name d = entries ++ [(name, d)] := by
  induction entries with
  | nil => rfl
  | cons e rest ih =>
    obtain ⟨here, later⟩ := List.forall_mem_cons.mp (under?_eq_none_iff.mp new)
    rw [put, if_neg here, ih (under?_eq_none_iff.mpr later), List.cons_append]

/-- The names stay as they are, and a new one comes last. -/
theorem names_put (entries : List (Atom × Data)) (name : Atom) (d : Data) :
    (put entries name d).map Prod.fst =
      entries.map Prod.fst ++ if (under? entries name.key).isSome then [] else [name] := by
  induction entries with
  | nil => rfl
  | cons e rest ih =>
    obtain ⟨l, w⟩ := e
    by_cases here : l.key = name.key
    · simp [put, under?, here]
    · simp [put, under?, here, ih]

/-- Names stay apart by whatever tells apart names of different keys. -/
theorem nodup_put {β : Type} {f : Atom → β} (finer : ∀ a b, f a = f b → a.key = b.key)
    (nodup : (entries.map fun e => f e.1).Nodup) (name : Atom) (d : Data) :
    ((put entries name d).map fun e => f e.1).Nodup := by
  have named (entries : List (Atom × Data)) :
      (entries.map fun e => f e.1) = (entries.map Prod.fst).map f := by
    rw [List.map_map]
    rfl
  rw [named] at nodup ⊢
  rw [names_put]
  cases found : under? entries name.key with
  | some d => simpa using nodup
  | none =>
    rw [Option.isSome_none, if_neg Bool.false_ne_true, List.map_append]
    refine nodup.append (List.nodup_singleton _) fun image old new => ?_
    obtain ⟨_, there, rfl⟩ := List.mem_map.mp old
    obtain ⟨e, member, rfl⟩ := List.mem_map.mp there
    exact under?_eq_none_iff.mp found e member (finer _ _ (List.mem_singleton.mp new))

end Data

end Screening
