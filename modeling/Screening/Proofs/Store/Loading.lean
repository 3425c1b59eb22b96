import Screening.Proofs.Store.Integrity
import Screening.Proofs.Store.Shelves
import Screening.Proofs.Writes

/-!
# Loading values

Values are loaded one after the other, and some may be refused. Two loads that record the same last
value for each company, parameter and day leave stores in which every look-up gives the same:
`sameLookups_of_loads`. The rows that are new may be in another order, but no two of them are of the
same company and day and of parameters with the same name.
-/

namespace Screening.Store

open Entries

def Action.isValue : Action → Bool
  | .value .. => true
  | _ => false

/-- The row that is recorded last for a key, if any is. -/
def lastFrom (s : Store) (h : List Action) (k : ValueKey) : Option ParameterValue :=
  (recordedFrom s h).reverse.find? (·.key == k)

def withRows (s : Store) (rows : List ParameterValue) : Store :=
  { s with values := rows.foldl (fun t row => t.insert row.key row) s.values }

/-- The row bears the name of a registered parameter. -/
def Bears (s : Store) (row : ParameterValue) : Prop :=
  ∃ p, s.parameters.get? row.parameterId = some p ∧ row.parameterName = p.name

variable {s : Store} {a : Action} {h h' : List Action} {row other : ParameterValue}
  {rows rows' : List ParameterValue}

/-! ### What a load leaves -/

theorem act_value (sound : s.Sound) (kind : a.isValue = true) :
    (s.row? a = none ∧ s.act a = s) ∨ ∃ row, s.row? a = some row ∧ s.Bears row ∧
      s.act a = { s with values := s.values.insert row.key row } := by
  cases a with
  | parameter p => cases kind
  | company c => cases kind
  | value companyId name value day source =>
    rcases added : s.addValue companyId name value day source with ⟨t, e | row⟩
    · exact Or.inl ⟨by rw [row?, added]; rfl, by rw [act, added, addValue_refused added]⟩
    · obtain ⟨p, v, named, _, _, _, made, rfl⟩ := addValue_ok added
      obtain ⟨id, _, registered⟩ := parameter?_eq_some named
      have own := sound.own id p registered
      have bears : s.Bears row := by
        rw [made]
        exact ⟨p, by rw [own]; exact registered, rfl⟩
      exact Or.inr ⟨row, by rw [row?, added]; rfl, bears, by rw [act, added]⟩

theorem afterFrom_values (sound : s.Sound) (values : ∀ a ∈ h, a.isValue = true) :
    s.afterFrom h = s.withRows (s.recordedFrom h) ∧ ∀ row ∈ s.recordedFrom h, s.Bears row := by
  induction h generalizing s with
  | nil => exact ⟨rfl, fun row member => absurd member List.not_mem_nil⟩
  | cons a rest ih =>
    have next : (s.act a).Sound := by
      rw [← next_record]
      exact sound.next (.record a)
    obtain ⟨after, bear⟩ := ih next fun a member => values a (List.mem_cons_of_mem _ member)
    have unfolded : s.afterFrom (a :: rest) = (s.act a).afterFrom rest := rfl
    rw [unfolded, after, recordedFrom]
    rcases act_value sound (values a List.mem_cons_self) with ⟨none, same⟩ | ⟨row, some, bears, same⟩
    · rw [none]
      rw [same] at bear ⊢
      exact ⟨rfl, bear⟩
    · rw [some]
      rw [same] at bear ⊢
      refine ⟨rfl, fun other member => ?_⟩
      rcases List.mem_cons.mp member with rfl | later
      · exact bears
      · exact bear other later

/-- The keys and the rows that are written, without their sources. -/
def pairs (rows : List ParameterValue) : List (ValueKey × ParameterValue) :=
  rows.map fun row => (row.key, content row)

def contents (s : Store) : List (ValueKey × ParameterValue) :=
  s.values.entries.map fun e => (e.1, content e.2)

theorem contents_withRows (s : Store) (rows : List ParameterValue) :
    (s.withRows rows).contents = putAll s.contents (pairs rows) := by
  have entries : (s.withRows rows).values.entries =
      putAll s.values.entries (rows.map fun row => (row.key, row)) := by
    induction rows generalizing s with
    | nil => rfl
    | cons row rest ih => exact ih { s with values := s.values.insert row.key row }
  rw [contents, entries, map_putAll, List.map_map]
  rfl

theorem rows_contents (s : Store) : s.values.values.map content = s.contents.map Prod.snd := by
  rw [Table.values, contents, List.map_map, List.map_map]
  rfl

theorem last?_pairs (rows : List ParameterValue) (k : ValueKey) :
    last? (pairs rows) k = (rows.reverse.find? (·.key == k)).map content := by
  have keyed : ((fun p : ValueKey × ParameterValue => decide (p.1 = k)) ∘
      fun row => (row.key, content row)) = fun row => row.key == k := by
    funext row
    exact Bool.eq_iff_iff.mpr (by simp)
  rw [last?, pairs, ← List.map_reverse, List.find?_map, keyed, Option.map_map]
  rfl

/-! ### Rows of registered parameters -/

theorem content_congr (bears : s.Bears row) (bears' : s.Bears other) (key : row.key = other.key)
    (value : row.value = other.value) : content row = content other := by
  obtain ⟨company, rest⟩ := Prod.mk.inj key
  obtain ⟨parameter, day⟩ := Prod.mk.inj rest
  obtain ⟨p, registered, named⟩ := bears
  obtain ⟨q, registered', named'⟩ := bears'
  rw [parameter, registered'] at registered
  obtain rfl := Option.some.inj registered
  unfold content
  rw [company, parameter, named, named', value, day]

/-- Rows that bear present names and lie on one shelf are kept under one key. -/
theorem Sound.key_congr (sound : s.Sound) (bears : s.Bears row) (bears' : s.Bears other)
    (company : row.companyId = other.companyId) (day : row.effective = other.effective)
    (name : Text.fold row.parameterName = Text.fold other.parameterName) : row.key = other.key := by
  obtain ⟨p, registered, named⟩ := bears
  obtain ⟨q, registered', named'⟩ := bears'
  rw [named, named'] at name
  have parameter := sound.names_distinct registered registered' name
  unfold ParameterValue.key
  rw [company, parameter, day]

theorem last?_congr (bear : ∀ row ∈ rows, s.Bears row) (bear' : ∀ row ∈ rows', s.Bears row)
    {k : ValueKey} (agree : (rows.reverse.find? (·.key == k)).map (·.value) =
      (rows'.reverse.find? (·.key == k)).map (·.value)) :
    last? (pairs rows) k = last? (pairs rows') k := by
  have found : ∀ {rows : List ParameterValue} {row}, (∀ row ∈ rows, s.Bears row) →
      rows.reverse.find? (·.key == k) = some row → s.Bears row ∧ row.key = k := by
    intro rows row bear found
    have member := List.mem_reverse.mp (List.mem_of_find?_eq_some found)
    exact ⟨bear row member, by simpa using List.find?_some found⟩
  rw [last?_pairs, last?_pairs]
  cases last : rows.reverse.find? (·.key == k) with
  | none =>
    rw [last, Option.map_none, eq_comm, Option.map_eq_none_iff] at agree
    rw [agree]
  | some row =>
    rw [last, Option.map_some, eq_comm, Option.map_eq_some_iff] at agree
    obtain ⟨other, last', value⟩ := agree
    obtain ⟨bears, key⟩ := found bear last
    obtain ⟨bears', key'⟩ := found bear' last'
    rw [last', Option.map_some, Option.map_some,
      content_congr bears bears' (key.trans key'.symm) value.symm]

/-! ### The order of a load does not matter -/

theorem shelf_append (rows rows' : List ParameterValue) (id : Text) (day : Date) (name : Text) :
    shelf (rows ++ rows') id day name = shelf rows id day name ++ shelf rows' id day name :=
  List.filter_append _ _

theorem sameShelves_of_pairs (sound : s.Sound) (bear : ∀ row ∈ rows, s.Bears row)
    (agree : ∀ k, last? (pairs rows) k = last? (pairs rows') k) :
    SameShelves ((s.withRows rows).values.values.map content)
      ((s.withRows rows').values.values.map content) := by
  have distinct : (s.contents.map Prod.fst).Nodup := by
    rw [contents, List.map_map]
    exact s.values.nodup
  obtain ⟨old, new, new', parts, parts', perm, keys, written⟩ := putAll_reordered distinct agree
  intro id day name
  rw [rows_contents, rows_contents, contents_withRows, contents_withRows, parts, parts',
    List.map_append, List.map_append, shelf_append, shelf_append]
  congr 1
  -- There is one new row on a shelf at most.
  have once : ∀ row other, row ∈ shelf (new.map Prod.snd) id day name →
      other ∈ shelf (new.map Prod.snd) id day name → row = other := by
    intro row other onShelf onShelf'
    obtain ⟨listed, company, date, named⟩ := mem_shelf.mp onShelf
    obtain ⟨listed', company', date', named'⟩ := mem_shelf.mp onShelf'
    obtain ⟨e, member, rfl⟩ := List.mem_map.mp listed
    obtain ⟨e', member', rfl⟩ := List.mem_map.mp listed'
    obtain ⟨row, recorded, rfl⟩ := List.mem_map.mp (written e member)
    obtain ⟨row', recorded', rfl⟩ := List.mem_map.mp (written e' member')
    have key : row.key = row'.key := sound.key_congr (bear row recorded) (bear row' recorded')
      (company.trans company'.symm) (date.trans date'.symm) (named.trans named'.symm)
    exact congrArg Prod.snd (List.inj_on_of_nodup_map keys member member' key)
  have shelves : (shelf (new.map Prod.snd) id day name).Perm (shelf (new'.map Prod.snd) id day name) :=
    (perm.map Prod.snd).filter _
  have unordered : ∀ rows : List ParameterValue, rows.Pairwise fun _ _ => True :=
    fun _ => List.pairwise_of_forall fun _ _ => trivial
  refine shelves.eq_of_pairwise ?_ (unordered _) (unordered _)
  intro row other onShelf onShelf' _ _
  exact once row other onShelf (shelves.mem_iff.mpr onShelf')

/-- Two loads that record the same last value for each key leave the same look-ups. -/
theorem sameLookups_of_loads (sound : s.Sound) (values : ∀ a ∈ h, a.isValue = true)
    (values' : ∀ a ∈ h', a.isValue = true)
    (agree : ∀ k, (s.lastFrom h k).map (·.value) = (s.lastFrom h' k).map (·.value)) (id : Text)
    (day : Date) :
    ((s.afterFrom h).valuesAsOf id day).SameLookups ((s.afterFrom h').valuesAsOf id day) := by
  obtain ⟨after, bear⟩ := afterFrom_values sound values
  obtain ⟨after', bear'⟩ := afterFrom_values sound values'
  rw [after, after']
  exact sameLookups_of_shelves
    (sameShelves_of_pairs sound bear fun k => last?_congr bear bear' (agree k)) id day

end Screening.Store
