import Screening.Files

/-!
# Paths through a tree

A name without a slash is a single step (`steps_of_isStep`), and a directory holds it just when
something stands there (`mem_namesAt_iff`). So where a path ends in a name and leads to a file or a
directory, the name is one of those in the directory before it: `mem_names_of_find`.
-/

namespace Screening

/-! ### Single steps -/

namespace FilePath

variable {name : String}

structure IsStep (name : String) : Prop where
  noSlash : '/' ∉ name.toList
  ne_empty : name ≠ ""
  ne_dot : name ≠ "."

theorem steps_of_isStep (isStep : IsStep name) : steps name = [name] := by
  simp [steps, List.splitOn_eq_singleton isStep.noSlash, isStep.ne_empty, isStep.ne_dot]

theorem not_startsWith_slash (isStep : IsStep name) : name.startsWith "/" = false := by
  rw [String.startsWith_string_eq_false_iff]
  intro starts
  exact isStep.noSlash (starts.subset (List.mem_singleton_self '/'))

theorem append_inside (isStep : IsStep name) (ss : List String) :
    append (.inside ss) name = .inside (ss ++ [name]) := by
  simp [append, not_startsWith_slash isStep, steps_of_isStep isStep]

theorem append_outside (isStep : IsStep name) (slashes : String) (ss : List String) :
    append (.outside slashes ss) name = .outside slashes (ss ++ [name]) := by
  simp [append, not_startsWith_slash isStep, steps_of_isStep isStep]

theorem parent_inside (ss : List String) (name : String) :
    parent (.inside (ss ++ [name])) = .inside ss := by
  cases ss with
  | nil => rfl
  | cons step rest =>
    show FilePath.inside ((step :: rest) ++ [name]).dropLast = _
    rw [List.dropLast_concat]

end FilePath

namespace FileTree

variable {t : FileTree} {place ss dir : List String} {name text : String}

/-! ### What a directory holds -/

theorem foundAt_ne_missing_iff (below : place ≠ []) :
    t.foundAt place ≠ .missing ↔ ∃ e ∈ t.entries, place <+: e.1 := by
  unfold foundAt
  cases found : t.entries.lookup place with
  | none => simp [below]
  | some entry =>
    obtain ⟨before, after, entries, -⟩ := List.lookup_eq_some_iff.mp found
    have there : ∃ e ∈ t.entries, place <+: e.1 :=
      ⟨(place, entry), by simp [entries], List.prefix_rfl⟩
    cases entry <;> simpa using there

theorem mem_namesAt_iff : name ∈ t.namesAt place ↔ t.foundAt (place ++ [name]) ≠ .missing := by
  rw [foundAt_ne_missing_iff (by simp), namesAt, List.mem_eraseDups, List.mem_filterMap]
  refine exists_congr fun e => and_congr_right fun _ => ?_
  constructor
  · intro first
    split at first
    · rename_i within
      obtain ⟨rest, whole⟩ := List.isPrefixOf_iff_prefix.mp within
      rw [← whole, List.drop_left, List.head?_eq_some_iff] at first
      obtain ⟨more, rfl⟩ := first
      exact ⟨more, by simp [← whole]⟩
    · cases first
  · intro ⟨more, whole⟩
    simp [← whole]

theorem foundAt_ne_tooLong : t.foundAt place ≠ .tooLong := by
  unfold foundAt
  split
  · simp
  · simp
  · split <;> simp

/-! ### Following a path -/

theorem foundOutside_ne_file : foundOutside ss ≠ .file text := by
  unfold foundOutside
  split
  · simp
  · split <;> simp

theorem foundOutside_ne_directory (down : name ≠ "..") :
    foundOutside (ss ++ [name]) ≠ .directory := by
  unfold foundOutside
  split
  · rename_i up
    simp [down] at up
  · split <;> simp

/-- Steps lead from a place to a directory, and a walk goes on from there. -/
structure Leads (t : FileTree) (place ss dir : List String) : Prop where
  isPlace : t.placeOf? place ss = some dir
  isDirectory : t.foundAt dir = .directory
  walk_append : ∀ more, t.walk place (ss ++ more) = t.walk dir more

/-- The steps and one more lead to a file or a directory; not up, which may lead above the root,
where nothing that a directory holds is known. -/
def Arrives (t : FileTree) (place ss : List String) (name : String) : Prop :=
  (∃ text, t.walk place (ss ++ [name]) = .file text) ∨
    name ≠ ".." ∧ t.walk place (ss ++ [name]) = .directory

/-- Only from a directory does a step lead on. -/
theorem walk_cons (isDirectory : t.foundAt place = .directory) (step : String) :
    t.walk place (step :: ss) =
      if step = ".." then (if place.isEmpty then foundOutside ss else t.walk place.dropLast ss)
      else if nameLimit < step.utf8ByteSize then .tooLong
      else t.walk (place ++ [step]) ss := by
  rw [walk, isDirectory]

theorem long_of_walk_name (tooLong : t.walk place [name] = .tooLong) :
    nameLimit < name.utf8ByteSize := by
  cases found : t.foundAt place with
  | directory =>
    rw [walk_cons found] at tooLong
    split at tooLong
    · split at tooLong
      · cases tooLong
      · exact absurd tooLong foundAt_ne_tooLong
    · split at tooLong
      · assumption
      · exact absurd tooLong foundAt_ne_tooLong
  | tooLong => exact absurd found foundAt_ne_tooLong
  | _ => simp [walk, found] at tooLong

theorem foundAt_of_arrives (arrives : t.Arrives place ss name) : t.foundAt place = .directory := by
  obtain ⟨step, rest, steps⟩ : ∃ step rest, ss ++ [name] = step :: rest := by
    cases ss <;> simp
  cases here : t.foundAt place with
  | directory => rfl
  | _ => simp [Arrives, steps, walk, here] at arrives

theorem Leads.ofUp (here : t.foundAt place = .directory) (below : place ≠ [])
    (leads : t.Leads place.dropLast ss dir) : t.Leads place (".." :: ss) dir where
  isPlace := by simpa [placeOf?, here, below] using leads.isPlace
  isDirectory := leads.isDirectory
  walk_append more := by
    rw [List.cons_append, walk_cons here]
    simpa [below] using leads.walk_append more

theorem Leads.ofDown (here : t.foundAt place = .directory) (down : name ≠ "..")
    (short : ¬nameLimit < name.utf8ByteSize) (leads : t.Leads (place ++ [name]) ss dir) :
    t.Leads place (name :: ss) dir where
  isPlace := by simpa [placeOf?, here, down] using leads.isPlace
  isDirectory := leads.isDirectory
  walk_append more := by
    rw [List.cons_append, walk_cons here, if_neg down, if_neg short]
    exact leads.walk_append more

theorem exists_leads (arrives : t.Arrives place ss name) : ∃ dir, t.Leads place ss dir := by
  induction ss generalizing place with
  | nil =>
    have here := foundAt_of_arrives arrives
    exact ⟨place, by simp [placeOf?, here], here, fun more => rfl⟩
  | cons step rest ih =>
    have here := foundAt_of_arrives arrives
    simp only [Arrives, List.cons_append, walk_cons here] at arrives
    by_cases up : step = ".."
    · by_cases top : place = []
      · rcases arrives with ⟨text, file⟩ | ⟨down, directory⟩
        · simp [up, top, foundOutside_ne_file] at file
        · simp [up, top, foundOutside_ne_directory down] at directory
      · simp only [up, List.isEmpty_iff, top, if_true, if_false] at arrives
        obtain ⟨dir, leads⟩ := ih arrives
        exact ⟨dir, up ▸ leads.ofUp here top⟩
    · by_cases long : nameLimit < step.utf8ByteSize
      · simp [up, long] at arrives
      · simp only [up, long, if_false] at arrives
        obtain ⟨dir, leads⟩ := ih arrives
        exact ⟨dir, leads.ofDown here up long⟩

theorem Leads.walk_name (leads : t.Leads place ss dir) (down : name ≠ "..") :
    t.walk place (ss ++ [name]) =
      if nameLimit < name.utf8ByteSize then .tooLong else t.foundAt (dir ++ [name]) := by
  rw [leads.walk_append, walk_cons leads.isDirectory, if_neg down]
  rfl

/-- What is found under a name is one of the names of the directory. -/
theorem mem_names_of_find {p : FilePath} (isStep : FilePath.IsStep name) (down : name ≠ "..")
    (found : (∃ text, t.find (p.append name) = .file text) ∨
      t.find (p.append name) = .directory) : name ∈ t.names p := by
  cases p with
  | inside ss =>
    rw [FilePath.append_inside isStep] at found
    obtain ⟨dir, leads⟩ := exists_leads (found.imp_right fun directory => ⟨down, directory⟩)
    rw [names, leads.isPlace]
    apply mem_namesAt_iff.mpr
    intro missing
    simp only [find, leads.walk_name down, missing] at found
    split at found <;> simp at found
  | outside slashes ss =>
    rw [FilePath.append_outside isStep] at found
    rcases found with ⟨text, file⟩ | directory
    · exact absurd file foundOutside_ne_file
    · exact absurd directory (foundOutside_ne_directory down)

end FileTree

end Screening
