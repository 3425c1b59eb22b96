import Screening.Proofs.Store.Integrity

/-!
# Looking parameters up by name

A look-up goes from a folded name through the index to an id, and from the id to a parameter. After
any operations it finds the registered parameter that has the name in some letter case, but for one
whose id is empty: `parameter?_finds`. A registration that is taken is found under the name that it
gives, and what its id stood for before is no longer found: `Renames`.
-/

namespace Screening

namespace Store

variable {s t : Store} {p q : Parameter} {name : Text}

/-- The parameter is registered, and the text is its name in some letter case. -/
def IsNamed (s : Store) (p : Parameter) (name : Text) : Prop :=
  s.parameters.get? p.id = some p ∧ Text.fold p.name = Text.fold name

structure Finds (s : Store) (name : Text) : Prop where
  found : ∀ p, s.parameter? name = some p ↔ s.IsNamed p name
  missing : s.parameter? name = none ↔ ∀ p, ¬s.IsNamed p name

theorem IsNamed.unique (consistent : s.Consistent) (first : s.IsNamed p name)
    (second : s.IsNamed q name) : p = q := by
  have ids := consistent.names_distinct first.1 second.1 (first.2.trans second.2.symm)
  have registered := first.1
  rw [ids, second.1] at registered
  exact (Option.some.inj registered).symm

/-! ### Through the index -/

theorem Sound.isNamed_of_index (sound : s.Sound) {id : Text}
    (indexed : s.nameIndex.get? (Text.fold name) = some id) :
    ∃ p, s.parameters.get? id = some p ∧ p.id = id ∧ s.IsNamed p name := by
  obtain ⟨p, registered, named⟩ := sound.named _ _ indexed
  have own := sound.own id p registered
  refine ⟨p, registered, own, ?_, named⟩
  rw [own]
  exact registered

theorem IsNamed.index (consistent : s.Consistent) (isNamed : s.IsNamed p name) :
    s.nameIndex.get? (Text.fold name) = some p.id := by
  rw [← isNamed.2]
  exact consistent.indexed p.id p isNamed.1

theorem Sound.parameter?_eq_some_iff (sound : s.Sound) :
    s.parameter? name = some p ↔ s.IsNamed p name ∧ p.id ≠ "" := by
  constructor
  · intro found
    unfold parameter? at found
    split at found
    · rename_i id indexed
      split at found
      · cases found
      · rename_i followed
        obtain ⟨q, registered, own, isNamed⟩ := sound.isNamed_of_index indexed
        rw [registered] at found
        obtain rfl := Option.some.inj found
        exact ⟨isNamed, own ▸ followed⟩
    · cases found
  · rintro ⟨isNamed, followed⟩
    simp only [parameter?, isNamed.index sound.toConsistent, if_neg followed]
    exact isNamed.1

theorem Sound.parameter?_eq_none_iff (sound : s.Sound) :
    s.parameter? name = none ↔ ∀ p, s.IsNamed p name → p.id = "" := by
  simp only [Option.eq_none_iff_forall_ne_some, ne_eq, sound.parameter?_eq_some_iff, not_and,
    Decidable.not_not]

/-- The empty id alone stands in the way of a look-up. -/
theorem Sound.finds_iff (sound : s.Sound) :
    s.Finds name ↔ ∀ p, s.IsNamed p name → p.id ≠ "" := by
  constructor
  · intro finds p isNamed
    exact (sound.parameter?_eq_some_iff.mp ((finds.found p).mpr isNamed)).2
  · intro followed
    have found : ∀ p, s.parameter? name = some p ↔ s.IsNamed p name := by
      intro p
      rw [sound.parameter?_eq_some_iff]
      exact and_iff_left_of_imp (followed p)
    refine ⟨found, ?_⟩
    simp only [Option.eq_none_iff_forall_ne_some, ne_eq, found]

/-! ### Once a registration is taken -/

/-- What look-ups find once a parameter takes the place of what its id stood for. -/
structure Renames (s t : Store) (p : Parameter) : Prop where
  anyCase : p.id ≠ "" → ∀ name, Text.fold name = Text.fold p.name → t.parameter? name = some p
  nowhereElse : ∀ name q, t.parameter? name = some q → q.id = p.id →
    q = p ∧ Text.fold name = Text.fold p.name
  former : ∀ q, s.parameters.get? p.id = some q → ∀ name, Text.fold name = Text.fold q.name →
    Text.fold name ≠ Text.fold p.name → t.parameter? name = none

theorem registered_of_taken (taken : s.addParameter p = (t, .ok ())) :
    t.parameters.get? p.id = some p := by
  obtain ⟨_, _, parameters, _⟩ := addParameter_ok taken
  rw [parameters, Table.get?_insert, if_pos rfl]

theorem former_of_taken (taken : s.addParameter p = (t, .ok ()))
    (before : s.parameters.get? p.id = some q) (named : Text.fold name = Text.fold q.name)
    (other : Text.fold name ≠ Text.fold p.name) : t.parameter? name = none := by
  obtain ⟨_, _, _, _, index⟩ := addParameter_ok taken
  have pruned : t.nameIndex.get? (Text.fold name) = none := by
    rw [index, if_neg (Ne.symm other), if_pos]
    simp [before, named]
  simp only [parameter?, pruned]

theorem Sound.renames (sound : s.Sound) (taken : s.addParameter p = (t, .ok ())) : s.Renames t p where
  anyCase := by
    intro followed name same
    apply (sound.addParameter taken).parameter?_eq_some_iff.mpr
    exact ⟨⟨registered_of_taken taken, same.symm⟩, followed⟩
  nowhereElse := by
    intro name q found own
    obtain ⟨⟨registered, named⟩, _⟩ :=
      (sound.addParameter taken).parameter?_eq_some_iff.mp found
    rw [own, registered_of_taken taken] at registered
    obtain rfl := Option.some.inj registered
    exact ⟨rfl, named.symm⟩
  former := by
    intro q before name named other
    exact former_of_taken taken before named other

/-- After any operations a look-up by name finds the registered parameter that has the name in some
letter case, of which there is one at most, and nothing else; only a parameter with an empty id is
not found. A registration that is taken is found under its name, and not under any other. -/
theorem parameter?_finds (ops : List Operation) :
    (∀ name p, (reached ops).parameter? name = some p ↔ (reached ops).IsNamed p name ∧ p.id ≠ "") ∧
    (∀ name, (reached ops).Finds name ↔ ∀ p, (reached ops).IsNamed p name → p.id ≠ "") ∧
    (∀ name p q, (reached ops).IsNamed p name → (reached ops).IsNamed q name → p = q) ∧
    ∀ p t, (reached ops).addParameter p = (t, .ok ()) → (reached ops).Renames t p := by
  have sound := sound_reached ops
  refine ⟨fun name p => sound.parameter?_eq_some_iff, fun name => sound.finds_iff, ?_, ?_⟩
  · intro name p q first second
    exact first.unique sound.toConsistent second
  · intro p t taken
    exact sound.renames taken

/-- A parameter that gets another name is found under it, and under the former one no more. -/
theorem parameter?_finds_renamed :
    let water : Parameter := ⟨"p", "Water", .number, none, none, .global, none, by decide⟩
    let waste : Parameter := { water with name := "Waste", named := by decide }
    let s := reached [.record (.parameter water)]
    s.parameter? "WATER" = some water ∧ ∃ t, s.addParameter waste = (t, .ok ()) ∧
      t.parameter? "wASTE" = some waste ∧ t.parameter? "water" = none := by
  intro water waste s
  obtain ⟨finds, _, _, renames⟩ := parameter?_finds [.record (.parameter water)]
  have registered : s.parameters.get? "p" = some water := by rfl
  obtain ⟨t, taken⟩ : ∃ t, s.addParameter waste = (t, .ok ()) := ⟨_, rfl⟩
  have renamed := renames waste t taken
  refine ⟨(finds _ _).mpr ⟨⟨registered, by decide +kernel⟩, by decide⟩, t, taken, ?_, ?_⟩
  · exact renamed.anyCase (by decide) _ (by decide +kernel)
  · exact renamed.former water registered _ (by decide +kernel) (by decide +kernel)

/-- The only parameter there is has an empty id, and is not found under its own name. -/
theorem not_finds_co2 :
    let co2 : Parameter := ⟨"", "co2", .number, none, none, .global, none, by decide⟩
    let s := reached [.record (.parameter co2)]
    s.IsNamed co2 "CO2" ∧ s.parameter? "CO2" = none ∧ ¬s.Finds "CO2" := by
  intro co2 s
  have isNamed : s.IsNamed co2 "CO2" := ⟨rfl, by decide +kernel⟩
  have sound := sound_reached [.record (.parameter co2)]
  have missing : s.parameter? "CO2" = none := by
    apply sound.parameter?_eq_none_iff.mpr
    intro p named
    rw [named.unique sound.toConsistent isNamed]
  exact ⟨isNamed, missing, fun finds => finds.missing.mp missing co2 isNamed⟩

end Store

end Screening
