import Screening.Lookup
import Screening.Proofs.Table

/-!
# Names

Texts are in a total order, so a list of names in that order without repeats is determined by its
members: `sortedNames_congr`. `lookup_eq_none_iff` says that a look-up fails just when no entry has
the name in any letter case. Where no two entries have the same name but for letter case, a look-up
is one up to letter case and does not depend on the order of the entries: `lookup_congr`.
-/

namespace Screening

/-! ### The order of texts -/

namespace Text

theorem values_inj {a b : Text} (same : a.values = b.values) : a = b := by
  obtain ⟨ps⟩ := a
  obtain ⟨qs⟩ := b
  exact congrArg Text.mk ((List.map_inj_right fun _ _ => CodePoint.value_inj).mp same)

theorem le_total (a b : Text) : a ≤ b ∨ b ≤ a := by
  by_cases h : b < a
  · exact Or.inr (List.lt_asymm h)
  · exact Or.inl h

theorem le_iff {a b : Text} : a ≤ b ↔ ¬b.values < a.values := Iff.rfl

theorem le_trans {a b c : Text} (hab : a ≤ b) (hbc : b ≤ c) : a ≤ c := by
  rw [le_iff, List.not_lt] at hab hbc ⊢
  exact List.le_trans hab hbc

theorem le_antisymm {a b : Text} (hab : a ≤ b) (hba : b ≤ a) : a = b := by
  rw [le_iff, List.not_lt] at hab hba
  exact values_inj (List.le_antisymm hab hba)

theorem sameFold_iff {a b : Text} : sameFold a b = true ↔ fold a = fold b := by
  simp [sameFold]

end Text

/-! ### Names in order -/

theorem nodup_eraseDups {α : Type} [DecidableEq α] (l : List α) : l.eraseDups.Nodup := by
  induction n : l.length using Nat.strongRecOn generalizing l with
  | ind n ih =>
    cases l with
    | nil => exact List.nodup_nil
    | cons a rest =>
      subst n
      rw [List.eraseDups_cons, List.nodup_cons]
      refine ⟨fun again => ?_, ih _ (Nat.lt_succ_of_le (List.length_filter_le _ rest)) _ rfl⟩
      simpa using (List.mem_filter.mp (List.mem_eraseDups.mp again)).2

@[simp] theorem mem_sortedNames {name : Text} {names : List Text} :
    name ∈ sortedNames names ↔ name ∈ names := by
  simp [sortedNames, List.mem_eraseDups]

theorem nodup_sortedNames (names : List Text) : (sortedNames names).Nodup :=
  (List.mergeSort_perm _ _).nodup_iff.mpr (nodup_eraseDups names)

theorem sortedNames_sorted (names : List Text) : (sortedNames names).Pairwise (· ≤ ·) := by
  have sorted := @List.pairwise_mergeSort Text (fun a b => decide (a ≤ b))
    (fun a b c hab hbc => decide_eq_true (Text.le_trans (of_decide_eq_true hab)
      (of_decide_eq_true hbc)))
    (fun a b => by simpa using Text.le_total a b) names.eraseDups
  exact sorted.imp of_decide_eq_true

/-- A list of names in order and without repeats is known by its members. -/
theorem eq_sortedNames {names others : List Text} (sorted : names.Pairwise (· ≤ ·))
    (distinct : names.Nodup) (members : ∀ name, name ∈ names ↔ name ∈ others) :
    names = sortedNames others := by
  have perm : names.Perm (sortedNames others) :=
    (List.perm_ext_iff_of_nodup distinct (nodup_sortedNames others)).mpr fun name =>
      (members name).trans mem_sortedNames.symm
  exact perm.eq_of_pairwise (fun _ _ _ _ => Text.le_antisymm) sorted (sortedNames_sorted others)

theorem sortedNames_congr {names others : List Text}
    (members : ∀ name, name ∈ names ↔ name ∈ others) : sortedNames names = sortedNames others :=
  eq_sortedNames (sortedNames_sorted names) (nodup_sortedNames names) fun name =>
    mem_sortedNames.trans (members name)

/-- A selection of names in order, in the form of the names that are selected. -/
theorem filter_sortedNames (keep : Text → Bool) (names : List Text) :
    (sortedNames names).filter keep = sortedNames (names.filter keep) :=
  eq_sortedNames ((sortedNames_sorted names).filter _) ((nodup_sortedNames names).filter _) (by simp)

/-! ### Looking names up -/

section Lookup

variable {α : Type} {values : List (Text × α)} {name : Text}

theorem lookup_eq_none_iff :
    lookup values name = none ↔ ∀ e ∈ values, Text.fold e.1 ≠ Text.fold name := by
  unfold lookup
  cases found : Entries.get? values name with
  | some v =>
    rw [Entries.get?_eq_find?, Option.map_eq_some_iff] at found
    obtain ⟨e, hit, _⟩ := found
    have same : e.1 = name := by simpa using List.find?_some hit
    simp only [reduceCtorEq, false_iff]
    exact fun apart => apart e (List.mem_of_find?_eq_some hit) (by rw [same])
  | none => simp [Text.sameFold]

/-- No two names are the same but for letter case. -/
def FoldApart (values : List (Text × α)) : Prop := (values.map fun e => Text.fold e.1).Nodup

instance : Decidable (FoldApart values) :=
  inferInstanceAs (Decidable (values.map fun e => Text.fold e.1).Nodup)

theorem exists_of_lookup {v : α} (found : lookup values name = some v) :
    ∃ e ∈ values, Text.fold e.1 = Text.fold name ∧ e.2 = v := by
  unfold lookup at found
  split at found
  · rename_i w spelt
    obtain rfl := Option.some.inj found
    exact ⟨(name, w), Entries.mem_of_get? spelt, rfl, rfl⟩
  · obtain ⟨e, hit, rfl⟩ := Option.map_eq_some_iff.mp found
    have folded : Text.fold e.1 = Text.fold name := by simpa [Text.sameFold] using List.find?_some hit
    exact ⟨e, List.mem_of_find?_eq_some hit, folded, rfl⟩

theorem lookup_eq_some_iff (apart : FoldApart values) {v : α} :
    lookup values name = some v ↔ ∃ e ∈ values, Text.fold e.1 = Text.fold name ∧ e.2 = v := by
  refine ⟨exists_of_lookup, ?_⟩
  rintro ⟨e, member, folded, rfl⟩
  cases found : lookup values name with
  | none => exact absurd folded (lookup_eq_none_iff.mp found e member)
  | some w =>
    obtain ⟨e', member', folded', rfl⟩ := exists_of_lookup found
    have same : e' = e := List.inj_on_of_nodup_map apart member' member (folded'.trans folded.symm)
    rw [same]

theorem FoldApart.perm {others : List (Text × α)} (apart : FoldApart values)
    (reordered : values.Perm others) : FoldApart others :=
  (reordered.map _).nodup_iff.mp apart

/-- Neither the order of the entries nor the letter case of the name makes a difference. -/
theorem lookup_congr {others : List (Text × α)} {other : Text} (apart : FoldApart values)
    (reordered : values.Perm others) (same : Text.fold name = Text.fold other) :
    lookup values name = lookup others other := by
  refine Option.ext fun v => ?_
  rw [lookup_eq_some_iff apart, lookup_eq_some_iff (apart.perm reordered), same]
  exact exists_congr fun e => and_congr_left fun _ => reordered.mem_iff

-- Names that differ only in letter case are told apart by their spelling, or else by their order.
example :
    let values : List (Text × Nat) := [("Scope", 1), ("scope", 2)]
    lookup values "scope" = some 2 ∧ lookup values "SCOPE" = some 1 ∧
      lookup values.reverse "SCOPE" = some 2 := by
  decide +kernel

end Lookup

end Screening
