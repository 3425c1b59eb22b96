import Mathlib.Data.List.Induction
import Screening.Proofs.Table
import Screening.Store

/-!
# Histories of a store

A store is filled by actions, of which it refuses some without a change. After any history the index
of names is that of the registered parameters, and each row is kept under its own key and fits the
parameter it was recorded for: `consistent_after`. What is kept for a key is the row that was
recorded for it last: `get?_after`.
-/

namespace Screening

def ParameterValue.key (row : ParameterValue) : ValueKey :=
  (row.companyId, row.parameterId, row.effective)

namespace Store

inductive Action where
  | parameter (p : Parameter)
  | company (c : Company)
  | value (companyId parameterName : Text) (value : Data) (effective : Date) (source : Option Text)

/-- The store after an action, which may have been refused. -/
def act (s : Store) : Action → Store
  | .parameter p => (s.addParameter p).1
  | .company c => s.addCompany c
  | .value companyId name value day source => (s.addValue companyId name value day source).1

def row? (s : Store) : Action → Option ParameterValue
  | .value companyId name value day source =>
    (s.addValue companyId name value day source).2.toOption
  | _ => none

def afterFrom (s : Store) (h : List Action) : Store := h.foldl act s

def recordedFrom (s : Store) : List Action → List ParameterValue
  | [] => []
  | a :: rest => (s.row? a).toList ++ recordedFrom (s.act a) rest

def after (h : List Action) : Store := afterFrom empty h

/-- The rows that a history records, one after the other. -/
def recorded (h : List Action) : List ParameterValue := recordedFrom empty h

/-- The row that a history recorded last for a key. -/
def lastRecorded (h : List Action) (k : ValueKey) : Option ParameterValue :=
  (recorded h).reverse.find? (·.key == k)

variable {s t : Store} {p q : Parameter} {a : Action} {h : List Action} {row : ParameterValue}

theorem after_snoc (h : List Action) (a : Action) : after (h ++ [a]) = (after h).act a :=
  List.foldl_append

theorem recordedFrom_snoc (s : Store) (h : List Action) (a : Action) :
    recordedFrom s (h ++ [a]) = recordedFrom s h ++ ((afterFrom s h).row? a).toList := by
  induction h generalizing s with
  | nil => simp [recordedFrom, afterFrom]
  | cons b rest ih => simp [recordedFrom, afterFrom, ih]

theorem recorded_snoc (h : List Action) (a : Action) :
    recorded (h ++ [a]) = recorded h ++ ((after h).row? a).toList :=
  recordedFrom_snoc empty h a

/-! ### What an action does -/

/-- A registration that is taken: the name is free, the type is kept, the index follows, and all else
is as before. -/
theorem addParameter_ok (taken : s.addParameter p = (t, .ok ())) :
    (∀ id, s.nameIndex.get? (Text.fold p.name) = some id → id = p.id) ∧
    (∀ q, s.parameters.get? p.id = some q → q.dataType = p.dataType) ∧
    t.parameters = s.parameters.insert p.id p ∧
    t = { s with parameters := t.parameters, nameIndex := t.nameIndex } ∧
    ∀ key, t.nameIndex.get? key = if Text.fold p.name = key then some p.id
      else if (s.parameters.get? p.id).any (fun q => Text.fold q.name == key) then none
      else s.nameIndex.get? key := by
  unfold addParameter at taken
  dsimp only at taken
  have own : ∀ id, s.nameIndex.get? (Text.fold p.name) = some id → id = p.id := by
    intro id found
    by_contra other
    simp [found, other] at taken
  rw [if_neg (by split <;> simp_all)] at taken
  split at taken
  · rename_i new
    obtain ⟨rfl, _⟩ := Prod.mk.inj taken
    refine ⟨own, by simp [new], rfl, rfl, fun key => ?_⟩
    simp [Table.get?_insert, new]
  · rename_i q found
    split at taken
    · cases taken
    · rename_i same
      obtain ⟨rfl, _⟩ := Prod.mk.inj taken
      refine ⟨own, by simpa [found] using same, rfl, rfl, fun key => ?_⟩
      rw [Table.get?_insert]
      by_cases new : Text.fold p.name = key
      · simp [new]
      · by_cases kept : Text.fold q.name = Text.fold p.name
        · have other : Text.fold q.name ≠ key := fun same => new (kept ▸ same)
          simp [new, kept, found]
        · simp [new, kept, found, Table.get?_erase]

/-- A registration that is refused changes nothing. -/
theorem addParameter_refused {e : StoreError} (refused : s.addParameter p = (t, .error e)) :
    t = s := by
  unfold addParameter at refused
  dsimp only at refused
  split_ifs at refused
  · exact (Prod.mk.inj refused).1.symm
  · split at refused
    · cases (Prod.mk.inj refused).2
    · split at refused
      · exact (Prod.mk.inj refused).1.symm
      · cases (Prod.mk.inj refused).2

theorem values_addParameter (taken : s.addParameter p = (t, .ok ())) : t.values = s.values := by
  rw [(addParameter_ok taken).2.2.2.1]

theorem registered_addParameter (taken : s.addParameter p = (t, .ok ())) {id : Text}
    (registered : t.parameters.get? id = some q) :
    (id = p.id ∧ q = p) ∨ (id ≠ p.id ∧ s.parameters.get? id = some q) := by
  obtain ⟨_, _, parameters, _⟩ := addParameter_ok taken
  rw [parameters, Table.get?_insert] at registered
  split at registered
  · rename_i same
    exact Or.inl ⟨same.symm, (Option.some.inj registered).symm⟩
  · rename_i other
    exact Or.inr ⟨Ne.symm other, registered⟩

/-- A value that is taken is recorded for the parameter that has the name, and fits it. -/
theorem addValue_ok {companyId name : Text} {value : Data} {day : Date} {source : Option Text}
    (taken : s.addValue companyId name value day source = (t, .ok row)) :
    ∃ p v, s.parameter? name = some p ∧ s.companies.contains companyId = true ∧
      value = .scalar v ∧ p.accepts value = true ∧ row = ⟨companyId, p.id, p.name, v, day, source⟩ ∧
      t = { s with values := s.values.insert row.key row } := by
  unfold addValue at taken
  split at taken
  · cases taken
  · rename_i p named
    split at taken
    · cases taken
    · rename_i known
      split at taken
      · cases taken
      · rename_i v fits
        obtain ⟨rfl, made⟩ := Prod.mk.inj taken
        obtain rfl := Except.ok.inj made
        unfold fitting? at fits
        split at fits
        · split at fits
          · rename_i accepted
            obtain rfl := Option.some.inj fits
            exact ⟨p, _, named, by simpa using known, rfl, accepted, rfl, rfl⟩
          · cases fits
        · cases fits

theorem addValue_refused {companyId name : Text} {value : Data} {day : Date} {source : Option Text}
    {e : StoreError} (refused : s.addValue companyId name value day source = (t, .error e)) :
    t = s := by
  unfold addValue at refused
  split at refused
  · exact (Prod.mk.inj refused).1.symm
  · split at refused
    · exact (Prod.mk.inj refused).1.symm
    · split at refused
      · exact (Prod.mk.inj refused).1.symm
      · cases (Prod.mk.inj refused).2

theorem parameter?_eq_some {name : Text} (named : s.parameter? name = some p) :
    ∃ id, s.nameIndex.get? (Text.fold name) = some id ∧ s.parameters.get? id = some p := by
  unfold parameter? at named
  split at named
  · rename_i id found
    split at named
    · cases named
    · exact ⟨id, found, named⟩
  · cases named

theorem act_results (s : Store) (a : Action) : (s.act a).results = s.results := by
  cases a with
  | parameter p =>
    show (s.addParameter p).1.results = _
    rcases added : s.addParameter p with ⟨t, e | ⟨⟩⟩
    · rw [addParameter_refused added]
    · rw [(addParameter_ok added).2.2.2.1]
  | company c => rfl
  | value companyId name value day source =>
    show (s.addValue companyId name value day source).1.results = _
    rcases added : s.addValue companyId name value day source with ⟨t, e | row⟩
    · rw [addValue_refused added]
    · obtain ⟨_, _, _, _, _, _, _, same⟩ := addValue_ok added
      rw [same]

/-- What an action can do: register a parameter, record a row, or leave parameters and rows alone. -/
theorem act_cases (s : Store) (a : Action) :
    (∃ p, a = .parameter p ∧ s.row? a = none ∧ s.addParameter p = (s.act a, .ok ())) ∨
    (∃ row id p, s.row? a = some row ∧ s.parameters.get? id = some p ∧
      p.accepts (.scalar row.value) = true ∧ row.parameterId = p.id ∧ row.parameterName = p.name ∧
      s.act a = { s with values := s.values.insert row.key row }) ∨
    (s.row? a = none ∧ (s.act a).parameters = s.parameters ∧
      (s.act a).nameIndex = s.nameIndex ∧ (s.act a).values = s.values) := by
  cases a with
  | parameter p =>
    rcases added : s.addParameter p with ⟨t, e | ⟨⟩⟩
    · have same : s.act (.parameter p) = s := by rw [act, added, addParameter_refused added]
      exact Or.inr (Or.inr (by rw [same]; exact ⟨rfl, rfl, rfl, rfl⟩))
    · exact Or.inl ⟨p, rfl, rfl, by rw [act, added]⟩
  | company c => exact Or.inr (Or.inr ⟨rfl, rfl, rfl, rfl⟩)
  | value companyId name value day source =>
    rcases added : s.addValue companyId name value day source with ⟨t, e | row⟩
    · have same : s.act (.value companyId name value day source) = s := by
        rw [act, added, addValue_refused added]
      exact Or.inr (Or.inr (by rw [same]; exact ⟨by rw [row?, added]; rfl, rfl, rfl, rfl⟩))
    · obtain ⟨p, v, named, _, rfl, fits, made, rfl⟩ := addValue_ok added
      obtain ⟨id, _, registered⟩ := parameter?_eq_some named
      have bears : row.value = v ∧ row.parameterId = p.id ∧ row.parameterName = p.name := by
        rw [made]
        exact ⟨rfl, rfl, rfl⟩
      exact Or.inr (Or.inl ⟨row, id, p, by rw [row?, added]; rfl, registered, by rw [bears.1]; exact fits,
        bears.2.1, bears.2.2, by rw [act, added]⟩)

/-! ### What holds after any history -/

structure Consistent (s : Store) : Prop where
  own : ∀ id p, s.parameters.get? id = some p → p.id = id
  indexed : ∀ id p, s.parameters.get? id = some p → s.nameIndex.get? (Text.fold p.name) = some id
  keyed : ∀ k row, s.values.get? k = some row → row.key = k
  fits : ∀ k row, s.values.get? k = some row →
    ∃ p, s.parameters.get? row.parameterId = some p ∧ p.accepts (.scalar row.value) = true

/-- The index goes by names, of which no two registered parameters have the same. -/
theorem Consistent.indexed_addParameter (consistent : s.Consistent)
    (taken : s.addParameter p = (t, .ok ())) {id : Text} (registered : t.parameters.get? id = some q) :
    t.nameIndex.get? (Text.fold q.name) = some id := by
  obtain ⟨free, _, _, _, index⟩ := addParameter_ok taken
  rw [index]
  rcases registered_addParameter taken registered with ⟨rfl, rfl⟩ | ⟨other, before⟩
  · rw [if_pos rfl]
  · have indexed := consistent.indexed id q before
    have new : Text.fold p.name ≠ Text.fold q.name := fun same =>
      other (free id (by rw [same]; exact indexed))
    rw [if_neg new, if_neg, indexed]
    -- What leaves the index is the former name of `p`, which is the name of no other parameter.
    cases current : s.parameters.get? p.id with
    | none => simp
    | some r =>
      intro same
      have former : Text.fold r.name = Text.fold q.name := by simpa using same
      have former' := consistent.indexed p.id r current
      rw [former, indexed] at former'
      exact other (Option.some.inj former')

theorem Consistent.addParameter (consistent : s.Consistent) (taken : s.addParameter p = (t, .ok ())) :
    t.Consistent := by
  obtain ⟨_, type, parameters, _⟩ := addParameter_ok taken
  have values := values_addParameter taken
  refine ⟨fun id q registered => ?_, fun id q => consistent.indexed_addParameter taken,
    by rw [values]; exact consistent.keyed, fun k row kept => ?_⟩
  · rcases registered_addParameter taken registered with ⟨rfl, rfl⟩ | ⟨_, before⟩
    · rfl
    · exact consistent.own id q before
  · rw [values] at kept
    obtain ⟨q, registered, accepted⟩ := consistent.fits k row kept
    rw [parameters, Table.get?_insert]
    split
    · rename_i same
      refine ⟨p, rfl, ?_⟩
      rw [← same] at registered
      rwa [Parameter.accepts, ← type q registered]
    · exact ⟨q, registered, accepted⟩

theorem Consistent.act (consistent : s.Consistent) (a : Action) : (s.act a).Consistent := by
  rcases act_cases s a with ⟨p, _, _, taken⟩ | ⟨row, id, p, _, registered, fits, sameId, _, after⟩ |
    ⟨_, parameters, index, values⟩
  · exact consistent.addParameter taken
  · rw [after]
    refine ⟨consistent.own, consistent.indexed, fun k row' kept => ?_, fun k row' kept => ?_⟩
    · rw [Table.get?_insert] at kept
      split at kept
      · obtain rfl := Option.some.inj kept
        assumption
      · exact consistent.keyed k row' kept
    · rw [Table.get?_insert] at kept
      split at kept
      · obtain rfl := Option.some.inj kept
        have own := consistent.own id p registered
        exact ⟨p, by rw [sameId, own]; exact registered, fits⟩
      · exact consistent.fits k row' kept
  · constructor
    · rw [parameters]; exact consistent.own
    · rw [parameters, index]; exact consistent.indexed
    · rw [values]; exact consistent.keyed
    · rw [parameters, values]; exact consistent.fits

theorem consistent_after (h : List Action) : (after h).Consistent := by
  induction h using List.reverseRecOn with
  | nil => constructor <;> intro _ _ none <;> cases none
  | append_singleton h a ih =>
    rw [after_snoc]
    exact ih.act a

/-- What is kept for a key is the row that was recorded for it last. -/
theorem get?_after (h : List Action) (k : ValueKey) :
    (after h).values.get? k = lastRecorded h k := by
  unfold lastRecorded
  induction h using List.reverseRecOn with
  | nil => rfl
  | append_singleton h a ih =>
    rw [after_snoc, recorded_snoc, List.reverse_append, List.find?_append, ← ih]
    rcases act_cases (after h) a with ⟨p, _, none, taken⟩ | ⟨row, id, p, recorded, _, _, _, _, kept⟩ |
      ⟨none, _, _, values⟩
    · rw [none, values_addParameter taken]
      rfl
    · rw [recorded, kept, Table.get?_insert]
      by_cases same : row.key = k <;> simp [same]
    · rw [none, values]
      rfl

theorem lastRecorded_mem {k : ValueKey} (last : lastRecorded h k = some row) :
    row ∈ recorded h ∧ row.key = k :=
  ⟨List.mem_reverse.mp (List.mem_of_find?_eq_some last), by simpa using List.find?_some last⟩

theorem exists_lastRecorded (member : row ∈ recorded h) :
    ∃ last, lastRecorded h row.key = some last := by
  cases found : lastRecorded h row.key with
  | some last => exact ⟨last, rfl⟩
  | none => simpa using List.find?_eq_none.mp found row (List.mem_reverse.mpr member)

theorem mem_rows_after : row ∈ (after h).values.values ↔ lastRecorded h row.key = some row := by
  rw [← get?_after]
  constructor
  · intro member
    obtain ⟨⟨k, r⟩, entry, rfl⟩ := List.mem_map.mp member
    have found := (Entries.mem_iff_get? (after h).values.nodup).mp entry
    rw [(consistent_after h).keyed k _ found]
    exact found
  · intro found
    exact List.mem_map_of_mem (Entries.mem_of_get? found)

/-- The rows of a store bear the names under which their parameters were registered at some time. -/
theorem offered_after (h : List Action) :
    (∀ id p, (after h).parameters.get? id = some p → .parameter p ∈ h) ∧
    ∀ k row, (after h).values.get? k = some row →
      ∃ p, .parameter p ∈ h ∧ p.id = row.parameterId ∧ p.name = row.parameterName := by
  induction h using List.reverseRecOn with
  | nil => constructor <;> intro _ _ none <;> cases none
  | append_singleton h a ih =>
    obtain ⟨registered, recorded⟩ := ih
    have earlier : ∀ {p}, .parameter p ∈ h → .parameter p ∈ h ++ [a] := List.mem_append_left [a]
    have kept : ∀ k row, (after h).values.get? k = some row →
        ∃ p, .parameter p ∈ h ++ [a] ∧ p.id = row.parameterId ∧ p.name = row.parameterName := by
      intro k row found
      obtain ⟨p, offered, same⟩ := recorded k row found
      exact ⟨p, earlier offered, same⟩
    rw [after_snoc]
    rcases act_cases (after h) a with ⟨p, rfl, _, taken⟩ |
      ⟨row, id, p, _, found, _, sameId, sameName, after⟩ | ⟨_, parameters, _, values⟩
    · refine ⟨fun id q found => ?_, by rw [values_addParameter taken]; exact kept⟩
      rcases registered_addParameter taken found with ⟨_, rfl⟩ | ⟨_, before⟩
      · exact List.mem_append_right h (List.mem_singleton_self _)
      · exact earlier (registered id q before)
    · rw [after]
      refine ⟨fun id q found => earlier (registered id q found), fun k row' found' => ?_⟩
      rw [Table.get?_insert] at found'
      split at found'
      · obtain rfl := Option.some.inj found'
        exact ⟨p, earlier (registered id p found), sameId.symm, sameName.symm⟩
      · exact kept k row' found'
    · rw [parameters, values]
      exact ⟨fun id q found => earlier (registered id q found), kept⟩

end Store

end Screening
