import Screening.Proofs.Store.History

/-!
# The integrity of a store

Whatever is done to a store, it keeps its objects under their own ids, its index goes from the folded
names of its parameters to their ids and nowhere else, and its rows are of companies and parameters
that it knows: `reached_sound`. A parameter that is registered stays registered, with the same type.
-/

namespace Screening

namespace Store

/-! ### What is done to a store -/

inductive Operation where
  | record (a : Action)
  | portfolio (p : Portfolio)
  | criteriaSet (set : CriteriaSet)
  | createResult (r : ScreeningResult) (fresh : Text)
  | deleteResult (id : Text)

/-- The store and whether it is done, whatever else the outcome tells. -/
def done {α : Type} : Store × Except StoreError α → Store × Except StoreError Unit
  | (t, outcome) => (t, outcome.map fun _ => ())

/-- What an operation makes of a store. There may be no result to delete, which is no error. -/
def perform (s : Store) : Operation → Store × Except StoreError Unit
  | .record (.parameter p) => s.addParameter p
  | .record (.company c) => (s.addCompany c, .ok ())
  | .record (.value companyId name value day source) =>
    done (s.addValue companyId name value day source)
  | .portfolio p => (s.addPortfolio p, .ok ())
  | .criteriaSet set => (s.addCriteriaSet set, .ok ())
  | .createResult r fresh => done (s.createResult r fresh)
  | .deleteResult id => ((s.deleteResult id).1, .ok ())

/-- The store after an operation, which may have been refused. -/
def next (s : Store) (op : Operation) : Store := (s.perform op).1

def reachedFrom (s : Store) (ops : List Operation) : Store := ops.foldl next s

def reached (ops : List Operation) : Store := reachedFrom empty ops

variable {s t : Store} {p q : Parameter} {op : Operation} {ops : List Operation} {id : Text}

theorem done_ok {α : Type} {r : Store × Except StoreError α} (finished : done r = (t, .ok ())) :
    ∃ a, r = (t, .ok a) := by
  rcases r with ⟨u, e | a⟩
  · cases (Prod.mk.inj finished).2
  · obtain rfl := (Prod.mk.inj finished).1
    exact ⟨a, rfl⟩

theorem done_error {α : Type} {r : Store × Except StoreError α} {e : StoreError}
    (refused : done r = (t, .error e)) : r = (t, .error e) := by
  rcases r with ⟨u, e' | a⟩
  · obtain ⟨rfl, same⟩ := Prod.mk.inj refused
    obtain rfl := Except.error.inj same
    rfl
  · cases (Prod.mk.inj refused).2

theorem createResult_ok {r : ScreeningResult} {fresh : Text}
    (created : s.createResult r fresh = (t, .ok id)) :
    (r.id = none → id = fresh) ∧ s.results.get? id = none ∧
      t = { s with results := s.results.insert id { r with id := some id } } := by
  unfold createResult at created
  dsimp only at created
  split_ifs at created with taken
  · cases (Prod.mk.inj created).2
  · obtain ⟨rfl, same⟩ := Prod.mk.inj created
    obtain rfl := Except.ok.inj same
    exact ⟨fun unnamed => by rw [unnamed], Option.not_isSome_iff_eq_none.mp taken, rfl⟩

theorem createResult_refused {r : ScreeningResult} {fresh : Text} {e : StoreError}
    (refused : s.createResult r fresh = (t, .error e)) : t = s := by
  unfold createResult at refused
  dsimp only at refused
  split_ifs at refused
  · exact (Prod.mk.inj refused).1.symm
  · cases (Prod.mk.inj refused).2

theorem deleteResult_eq (s : Store) (id : Text) :
    (s.deleteResult id).1 = s ∨
      (s.deleteResult id).1 = { s with results := s.results.erase id } := by
  unfold deleteResult
  split
  · exact Or.inr rfl
  · exact Or.inl rfl

/-- What is refused changes nothing. -/
theorem perform_refused {e : StoreError} (refused : s.perform op = (t, .error e)) : t = s := by
  cases op with
  | record a =>
    cases a with
    | parameter p => exact addParameter_refused refused
    | company c => cases (Prod.mk.inj refused).2
    | value companyId name value day source => exact addValue_refused (done_error refused)
  | createResult r fresh => exact createResult_refused (done_error refused)
  | portfolio _ | criteriaSet _ | deleteResult _ => cases (Prod.mk.inj refused).2

theorem next_of_refused {e : StoreError} (refused : (s.perform op).2 = .error e) : s.next op = s :=
  perform_refused (e := e) (Prod.ext rfl refused)

/-- What holds of a store and is kept by all operations that are taken holds after all operations. -/
theorem next_induction {P : Store → Prop} (before : P s)
    (kept : ∀ t, s.perform op = (t, .ok ()) → P t) : P (s.next op) := by
  show P (s.perform op).1
  rcases performed : s.perform op with ⟨t, e | ⟨⟩⟩
  · rw [perform_refused performed]
    exact before
  · exact kept t performed

theorem next_record (s : Store) (a : Action) : s.next (.record a) = s.act a := by
  cases a <;> rfl

/-! ### What all operations keep -/

structure Sound (s : Store) : Prop extends Consistent s where
  named : s.nameIndex.Each fun name id =>
    ∃ p, s.parameters.get? id = some p ∧ Text.fold p.name = name
  known : s.values.Each fun _ row => s.companies.contains row.companyId = true
  companies : s.companies.Each fun id c => c.id = id
  portfolios : s.portfolios.Each fun id p => p.id = id
  criteriaSets : s.criteriaSets.Each fun id set => set.id = id
  results : s.results.Each fun id r => r.id = some id

theorem sound_empty : empty.Sound where
  own := Table.each_empty
  indexed := Table.each_empty
  keyed := Table.each_empty
  fits := Table.each_empty
  named := Table.each_empty
  known := Table.each_empty
  companies := Table.each_empty
  portfolios := Table.each_empty
  criteriaSets := Table.each_empty
  results := Table.each_empty

/-- The index leads to registered parameters only, whose former names leave it. -/
theorem Sound.named_addParameter (sound : s.Sound) (taken : s.addParameter p = (t, .ok ())) :
    t.nameIndex.Each fun name id => ∃ q, t.parameters.get? id = some q ∧ Text.fold q.name = name := by
  obtain ⟨_, _, parameters, _, index⟩ := addParameter_ok taken
  intro name id found
  rw [index] at found
  rw [parameters, Table.get?_insert]
  split at found
  · rename_i same
    obtain rfl := Option.some.inj found
    exact ⟨p, if_pos rfl, same⟩
  · split at found
    · cases found
    · rename_i kept
      obtain ⟨q, registered, named⟩ := sound.named name id found
      -- An entry that led to `p` would be that of its former name.
      have other : p.id ≠ id := by
        rintro rfl
        rw [registered] at kept
        exact kept (by simpa using named)
      exact ⟨q, by rw [if_neg other, registered], named⟩

theorem Sound.addParameter (sound : s.Sound) (taken : s.addParameter p = (t, .ok ())) : t.Sound := by
  have consistent := sound.toConsistent.addParameter taken
  have named := sound.named_addParameter taken
  obtain ⟨_, _, _, frame, _⟩ := addParameter_ok taken
  refine ⟨consistent, named, ?_, ?_, ?_, ?_, ?_⟩
  · rw [frame]; exact sound.known
  · rw [frame]; exact sound.companies
  · rw [frame]; exact sound.portfolios
  · rw [frame]; exact sound.criteriaSets
  · rw [frame]; exact sound.results

theorem Sound.addCompany (sound : s.Sound) (c : Company) : (s.addCompany c).Sound where
  toConsistent := sound.toConsistent.act (.company c)
  named := sound.named
  known := sound.known.mono fun _ _ known => Table.contains_insert known c.id
  companies := sound.companies.insert rfl
  portfolios := sound.portfolios
  criteriaSets := sound.criteriaSets
  results := sound.results

theorem Sound.addValue (sound : s.Sound) {companyId name : Text} {value : Data} {day : Date}
    {source : Option Text} {row : ParameterValue}
    (taken : s.addValue companyId name value day source = (t, .ok row)) : t.Sound := by
  have consistent := sound.toConsistent.act (.value companyId name value day source)
  rw [act, taken] at consistent
  obtain ⟨p, v, _, known, _, _, made, rfl⟩ := addValue_ok taken
  have company : s.companies.contains row.companyId = true := by
    rw [made]
    exact known
  exact ⟨consistent, sound.named, sound.known.insert company, sound.companies, sound.portfolios,
    sound.criteriaSets, sound.results⟩

theorem Sound.withResults (sound : s.Sound) {results : Table Text ScreeningResult}
    (own : results.Each fun id r => r.id = some id) : { s with results }.Sound where
  own := sound.own
  indexed := sound.indexed
  keyed := sound.keyed
  fits := sound.fits
  named := sound.named
  known := sound.known
  companies := sound.companies
  portfolios := sound.portfolios
  criteriaSets := sound.criteriaSets
  results := own

theorem Sound.perform (sound : s.Sound) (taken : s.perform op = (t, .ok ())) : t.Sound := by
  cases op with
  | record a =>
    cases a with
    | parameter p => exact sound.addParameter taken
    | company c =>
      obtain ⟨rfl, _⟩ := Prod.mk.inj taken
      exact sound.addCompany c
    | value companyId name value day source =>
      obtain ⟨row, added⟩ := done_ok taken
      exact sound.addValue added
  | portfolio p =>
    obtain ⟨rfl, _⟩ := Prod.mk.inj taken
    exact { sound with portfolios := sound.portfolios.insert rfl }
  | criteriaSet set =>
    obtain ⟨rfl, _⟩ := Prod.mk.inj taken
    exact { sound with criteriaSets := sound.criteriaSets.insert rfl }
  | createResult r fresh =>
    obtain ⟨id, created⟩ := done_ok taken
    obtain ⟨_, _, rfl⟩ := createResult_ok created
    exact sound.withResults (sound.results.insert rfl)
  | deleteResult id =>
    obtain ⟨rfl, _⟩ := Prod.mk.inj taken
    rcases s.deleteResult_eq id with same | erased
    · rw [same]
      exact sound
    · rw [erased]
      exact sound.withResults sound.results.erase

theorem Sound.next (sound : s.Sound) (op : Operation) : (s.next op).Sound :=
  next_induction sound fun _ taken => sound.perform taken

theorem Sound.reachedFrom (sound : s.Sound) (ops : List Operation) : (s.reachedFrom ops).Sound := by
  induction ops generalizing s with
  | nil => exact sound
  | cons op rest ih => exact ih (sound.next op)

theorem sound_reached (ops : List Operation) : (reached ops).Sound :=
  sound_empty.reachedFrom ops

/-! ### The index of names -/

theorem Consistent.names_distinct (consistent : s.Consistent) {id' : Text}
    (registered : s.parameters.get? id = some p) (registered' : s.parameters.get? id' = some q)
    (same : Text.fold p.name = Text.fold q.name) : id = id' := by
  have found := consistent.indexed id p registered
  rw [same, consistent.indexed id' q registered'] at found
  exact (Option.some.inj found).symm

/-- The entries of the index are those of the parameters, by their folded names. -/
theorem Sound.nameIndex_perm (sound : s.Sound) :
    s.nameIndex.entries.Perm (s.parameters.entries.map fun e => (Text.fold e.2.name, e.1)) := by
  have ids : ((s.parameters.entries.map fun e => (Text.fold e.2.name, e.1)).map Prod.snd).Nodup := by
    rw [List.map_map]
    exact s.parameters.nodup
  rw [List.perm_ext_iff_of_nodup s.nameIndex.nodup.of_map ids.of_map]
  rintro ⟨name, id⟩
  rw [Entries.mem_iff_get? s.nameIndex.nodup, List.mem_map]
  constructor
  · intro found
    obtain ⟨p, registered, named⟩ := sound.named name id found
    exact ⟨(id, p), Entries.mem_of_get? registered, by rw [named]⟩
  · rintro ⟨⟨id', p⟩, entry, same⟩
    obtain ⟨rfl, rfl⟩ := Prod.mk.inj same
    exact sound.indexed id' p ((Entries.mem_iff_get? s.parameters.nodup).mp entry)

/-! ### Parameters stay -/

/-- The parameters of the one store are registered in the other, with the same types. -/
def Retains (s t : Store) : Prop :=
  s.parameters.Each fun id p => ∃ q, t.parameters.get? id = some q ∧ q.dataType = p.dataType

theorem retains_of_eq (same : t.parameters = s.parameters) : s.Retains t := by
  intro id p registered
  exact ⟨p, by rw [same, registered], rfl⟩

theorem Retains.trans {u : Store} (first : s.Retains t) (second : t.Retains u) : s.Retains u := by
  intro id p registered
  obtain ⟨q, registered', same⟩ := first id p registered
  obtain ⟨r, registered'', same'⟩ := second id q registered'
  exact ⟨r, registered'', same'.trans same⟩

theorem retains_addParameter (taken : s.addParameter p = (t, .ok ())) : s.Retains t := by
  obtain ⟨_, type, parameters, _⟩ := addParameter_ok taken
  intro id q registered
  rw [parameters, Table.get?_insert]
  split
  · rename_i same
    exact ⟨p, rfl, (type q (same ▸ registered)).symm⟩
  · exact ⟨q, registered, rfl⟩

theorem retains_perform (taken : s.perform op = (t, .ok ())) : s.Retains t := by
  cases op with
  | record a =>
    cases a with
    | parameter p => exact retains_addParameter taken
    | company c =>
      obtain ⟨rfl, _⟩ := Prod.mk.inj taken
      exact retains_of_eq rfl
    | value companyId name value day source =>
      obtain ⟨row, added⟩ := done_ok taken
      obtain ⟨_, _, _, _, _, _, _, rfl⟩ := addValue_ok added
      exact retains_of_eq rfl
  | portfolio _ | criteriaSet _ =>
    obtain ⟨rfl, _⟩ := Prod.mk.inj taken
    exact retains_of_eq rfl
  | createResult r fresh =>
    obtain ⟨id, created⟩ := done_ok taken
    obtain ⟨_, _, rfl⟩ := createResult_ok created
    exact retains_of_eq rfl
  | deleteResult id =>
    obtain ⟨rfl, _⟩ := Prod.mk.inj taken
    rcases s.deleteResult_eq id with same | erased
    · exact retains_of_eq (congrArg parameters same)
    · exact retains_of_eq (by rw [erased])

theorem retains_reachedFrom (s : Store) (ops : List Operation) : s.Retains (s.reachedFrom ops) := by
  induction ops generalizing s with
  | nil => exact retains_of_eq rfl
  | cons op rest ih =>
    have step : s.Retains (s.next op) :=
      next_induction (retains_of_eq rfl) fun _ taken => retains_perform taken
    exact step.trans (ih (s.next op))

/-- A store that is reached by operations, taken or refused, is sound: in particular its index has
one entry for each parameter, no two of which have the same name. What is refused changes nothing,
and parameters keep their types for good. -/
theorem reached_sound (ops : List Operation) :
    (reached ops).Sound ∧
    (reached ops).nameIndex.entries.Perm
      ((reached ops).parameters.entries.map fun e => (Text.fold e.2.name, e.1)) ∧
    (∀ id id' p q, (reached ops).parameters.get? id = some p →
      (reached ops).parameters.get? id' = some q → Text.fold p.name = Text.fold q.name → id = id') ∧
    (∀ op e, ((reached ops).perform op).2 = .error e → (reached ops).next op = reached ops) ∧
    ∀ more, (reached ops).Retains (reached (ops ++ more)) := by
  have sound := sound_reached ops
  refine ⟨sound, sound.nameIndex_perm, ?_, fun op e => next_of_refused, fun more => ?_⟩
  · intro id id' p q registered registered' same
    exact sound.names_distinct registered registered' same
  · have split : reached (ops ++ more) = (reached ops).reachedFrom more := List.foldl_append
    rw [split]
    exact retains_reachedFrom (reached ops) more

/-- A parameter that is renamed leaves its former name to others, and keeps the new one. -/
theorem reached_sound_renamed :
    let named (id name : Text) (h : name.IsName) : Parameter :=
      ⟨id, name, .number, none, none, .global, none, h⟩
    let ops : List Operation := [.record (.parameter (named "p" "Water" (by decide))),
      .record (.parameter (named "p" "Waste" (by decide))),
      .record (.parameter (named "q" "WASTE" (by decide))),
      .record (.parameter (named "q" "WATER" (by decide)))]
    let again : List Operation := [.record (.parameter (named "p" "Soil" (by decide)))]
    (reached ops).nameIndex.entries = ([("waste", "p"), ("water", "q")] : List (Text × Text)) ∧
      (reached ops).Sound ∧
      ∃ p, (reached (ops ++ again)).parameters.get? "p" = some p ∧ p.dataType = .number := by
  intro named ops again
  obtain ⟨sound, _, _, _, retains⟩ := reached_sound ops
  have known : ((reached ops).parameters.get? "p").map (·.dataType) = some .number := by
    decide +kernel
  obtain ⟨p, registered, number⟩ := Option.map_eq_some_iff.mp known
  obtain ⟨q, kept, type⟩ := retains again "p" p registered
  exact ⟨by decide +kernel, sound, q, kept, type.trans number⟩

end Store

end Screening
