import Screening.Proofs.Settings.Paths
import Screening.Proofs.Settings.Sections
import Screening.Settings.Profiles

/-!
# Settings that are laid over one another

Where both layers have a section its fields are merged, and elsewhere the upper one counts, so a field
of the merged sections is what the last layer that sets it says (`sectionField?_merge`,
`view_mergeAll`). Of the two names of the section with the number of workers however the first counts
wherever it comes from, so that number is not always the one that was set last: `settings_of_layers`,
`not_followsLast`.
-/

namespace Screening

/-- The value; one map stands for all. -/
def Data.flat : Data → Data
  | .map _ => .map []
  | d => d

namespace Settings

variable {base overlay : Layer} {overlays layers : List Layer} {name field : String} {s : Settings}

/-! ### Merging two layers -/

theorem flat_mergeValue (current : Option Data) (d : Data) : (mergeValue current d).flat = d.flat := by
  unfold mergeValue
  split
  · split <;> rfl
  · rfl

/-- What stands under a name in merged layers. -/
theorem field?_merge_eq {overlay : Layer} (nodup : (overlay.map Prod.fst).Nodup) (base : Layer)
    (name : Text) :
    Data.field? (merge base overlay) name =
      match Data.field? overlay name with
      | some d => some (mergeValue (Data.field? base name) d)
      | none => Data.field? base name := by
  have once : overlay.Pairwise fun e e' =>
      e.1.key = (Atom.scalar (.text name)).key → e'.1.key ≠ (Atom.scalar (.text name)).key :=
    (List.pairwise_map.mp nodup).imp fun apart same same' =>
      apart ((key_eq_text.mp same).trans (key_eq_text.mp same').symm)
  have merged := under?_merge once base
  simp only [Data.under?_text] at merged
  exact merged

/-- The upper value of a field counts, if there is one. -/
theorem field?_merge {base overlay : Layer} (nodup : (overlay.map Prod.fst).Nodup) (field : Text) :
    (Data.field? (merge base overlay) field).map Data.flat =
      ((Data.field? overlay field).or (Data.field? base field)).map Data.flat := by
  rw [field?_merge_eq nodup]
  cases Data.field? overlay field with
  | none => rfl
  | some d => exact congrArg some (flat_mergeValue _ d)

/-- A section of merged layers: it is merged in turn if both have it. -/
theorem section_merge (lower : IsLayer base) (upper : IsLayer overlay) (known : name ∈ sectionKeys) :
    Data.field? (merge base overlay) name =
      match Data.field? overlay name, Data.field? base name with
      | some (.map higher), some (.map deeper) => some (.map (merge deeper higher))
      | some higher, _ => some higher
      | none, deeper => deeper := by
  rw [field?_merge_eq upper.nodup]
  cases above : Data.field? overlay name with
  | none => rfl
  | some higher =>
    obtain ⟨entries, rfl, _⟩ := upper.found known above
    cases below : Data.field? base name with
    | none => exact congrArg some (mergeValue_none _)
    | some deeper =>
      obtain ⟨entries', rfl, _⟩ := lower.found known below
      exact congrArg some (mergeValue_of_map entries' entries)

theorem isLayer_merge (lower : IsLayer base) (upper : IsLayer overlay) :
    IsLayer (merge base overlay) where
  nodup := nodup_merge (fun _ _ => congrArg Atom.key) lower.nodup overlay
  sections name known d found := by
    rw [section_merge lower upper known] at found
    split at found
    · rename_i higher deeper above below
      obtain ⟨_, same, nodup⟩ := lower.found known below
      cases same
      exact isSection_iff.mpr ⟨_, (Option.some.inj found).symm, nodup_merge (fun _ _ => congrArg Atom.key) nodup higher⟩
    · rename_i higher above _
      exact upper.sections name known d (above.trans found)
    · exact lower.sections name known d found

theorem sectionField?_merge (lower : IsLayer base) (upper : IsLayer overlay)
    (known : name ∈ sectionKeys) (field : String) :
    (sectionField? name field (merge base overlay)).map Data.flat =
      ((sectionField? name field overlay).or (sectionField? name field base)).map Data.flat := by
  unfold sectionField?
  rw [section_merge lower upper known]
  cases above : Data.field? overlay name with
  | none => rfl
  | some higher =>
    obtain ⟨entries, rfl, nodup⟩ := upper.found known above
    cases below : Data.field? base name with
    | none => simp
    | some deeper =>
      obtain ⟨entries', rfl, _⟩ := lower.found known below
      exact field?_merge nodup field

/-! ### Many layers -/

/-- What the last layer that sets something sets it to. -/
def last (view : Layer → Option Data) (layers : List Layer) : Option Data :=
  layers.reverse.findSome? view

theorem last_cons (view : Layer → Option Data) (layer : Layer) (above : List Layer) :
    last view (layer :: above) = (last view above).or (view layer) := by
  have alone : [layer].findSome? view = view layer := by
    rw [List.findSome?_cons]
    cases view layer <;> rfl
  rw [last, List.reverse_cons, List.findSome?_append, alone]
  rfl

/-- What is merged for two layers so that the upper value counts is merged so for all of them. -/
theorem view_mergeAll (view : Layer → Option Data)
    (two : ∀ base overlay, IsLayer base → IsLayer overlay →
      (view (merge base overlay)).map Data.flat = ((view overlay).or (view base)).map Data.flat)
    (lower : IsLayer base) (uppers : ∀ layer ∈ overlays, IsLayer layer) :
    (view (mergeAll base overlays)).map Data.flat =
      (last view (base :: overlays)).map Data.flat := by
  induction overlays generalizing base with
  | nil =>
    rw [last_cons]
    rfl
  | cons overlay rest ih =>
    obtain ⟨upper, others⟩ := List.forall_mem_cons.mp uppers
    have first := two base overlay lower upper
    have later := ih (isLayer_merge lower upper) others
    rw [last_cons, Option.map_or] at later
    rw [last_cons, last_cons, Option.or_assoc, Option.map_or, ← first]
    exact later

/-! ### Values that stand for others -/

/-- No map passes. -/
def RefusesMaps {α : Type} (check : Check α) : Prop := ∀ entries a, check (.map entries) ≠ .ok a

section Taken

variable {α : Type} {given given' : Option Data} {default a : α} {check : Check α}

theorem taken_flat (refuses : RefusesMaps check) :
    Taken (given.map Data.flat) default check a ↔ Taken given default check a := by
  cases given with
  | none => exact Iff.rfl
  | some d =>
    cases d with
    | map entries => exact iff_of_false (refuses [] a) (refuses entries a)
    | atom _ | list _ => exact Iff.rfl

theorem taken_congr (refuses : RefusesMaps check) (same : given.map Data.flat = given'.map Data.flat) :
    Taken given default check a ↔ Taken given' default check a := by
  rw [← taken_flat refuses, same, taken_flat refuses]

end Taken

theorem refusesMaps_text : RefusesMaps Check.text := nofun

theorem refusesMaps_name : RefusesMaps Check.name := nofun

theorem refusesMaps_policy : RefusesMaps (Check.oneOf MissingDataPolicy.ofName?) := nofun

theorem refusesMaps_bool : RefusesMaps Check.bool := nofun

theorem refusesMaps_date : RefusesMaps Check.date := nofun

theorem refusesMaps_workers : RefusesMaps checkWorkers := nofun

theorem refusesMaps_limit : RefusesMaps checkLimit := nofun

/-! ### The settings of merged layers -/

theorem Follows.congr {top newTop : String → Option Data}
    {inSection newSection : String → String → Option Data} {workers newWorkers : Option Data}
    (follows : s.Follows top inSection workers)
    (sameTop : (top "version").map Data.flat = (newTop "version").map Data.flat)
    (sameSections : ∀ name ∈ sectionKeys, ∀ field,
      (inSection name field).map Data.flat = (newSection name field).map Data.flat)
    (sameWorkers : workers.map Data.flat = newWorkers.map Data.flat) :
    s.Follows newTop newSection newWorkers := by
  have evaluation := sameSections "evaluation" (by decide)
  have requests := sameSections "request_validation" (by decide)
  exact {
    version := (taken_congr refusesMaps_text sameTop).mp follows.version
    maxWorkers := (taken_congr refusesMaps_workers sameWorkers).mp follows.maxWorkers
    policy := (taken_congr refusesMaps_policy (evaluation _)).mp follows.policy
    defaultFailure := (taken_congr refusesMaps_name (evaluation _)).mp follows.defaultFailure
    enabled := (taken_congr refusesMaps_bool (requests _)).mp follows.enabled
    earliest := (taken_congr refusesMaps_date (requests _)).mp follows.earliest
    allowFuture := (taken_congr refusesMaps_bool (requests _)).mp follows.allowFuture
    maxCompanies := (taken_congr refusesMaps_limit (requests _)).mp follows.maxCompanies }

def lastTop (layers : List Layer) (name : String) : Option Data := last (Data.field? · name) layers

def lastInSection (layers : List Layer) (name field : String) : Option Data :=
  last (sectionField? name field) layers

/-- What the last layer that sets the number of workers sets it to, under either name of the
section. -/
def lastWorkers (layers : List Layer) : Option Data :=
  last (fun layer => (sectionField? "global" "max_workers" layer).or
    (sectionField? "global_settings" "max_workers" layer)) layers

/-- What the number of workers is set to last under `global` if any layer has that section, and
otherwise under `global_settings`. -/
def shownWorkers (layers : List Layer) : Option Data :=
  if layers.any fun layer => (Data.field? layer "global").isSome then
    lastInSection layers "global" "max_workers"
  else lastInSection layers "global_settings" "max_workers"

/-- Each setting is what the last layer that sets it says. -/
def FollowsLast (s : Settings) (layers : List Layer) : Prop :=
  s.Follows (lastTop layers) (lastInSection layers) (lastWorkers layers)

theorem isLayer_mergeAll (lower : IsLayer base) (uppers : ∀ layer ∈ overlays, IsLayer layer) :
    IsLayer (mergeAll base overlays) := by
  induction overlays generalizing base with
  | nil => exact lower
  | cons overlay rest ih =>
    obtain ⟨upper, others⟩ := List.forall_mem_cons.mp uppers
    exact ih (isLayer_merge lower upper) others

theorem last_isSome (view : Layer → Option Data) (layers : List Layer) :
    (last view layers).isSome = layers.any fun layer => (view layer).isSome := by
  rw [Bool.eq_iff_iff, last, List.findSome?_isSome_iff]
  simp

theorem sectionField?_mergeAll (lower : IsLayer base) (uppers : ∀ layer ∈ overlays, IsLayer layer)
    (known : name ∈ sectionKeys) (field : String) :
    (sectionField? name field (mergeAll base overlays)).map Data.flat =
      (lastInSection (base :: overlays) name field).map Data.flat :=
  view_mergeAll (sectionField? name field)
    (fun _ _ lower upper => sectionField?_merge lower upper known field) lower uppers

theorem workersField?_mergeAll (lower : IsLayer base) (uppers : ∀ layer ∈ overlays, IsLayer layer) :
    (workersField? (mergeAll base overlays)).map Data.flat =
      (shownWorkers (base :: overlays)).map Data.flat := by
  have named := view_mergeAll (Data.field? · "global")
    (fun _ _ _ upper => field?_merge upper.nodup _) lower uppers
  have there : (Data.field? (mergeAll base overlays) "global").isSome =
      (base :: overlays).any fun layer => (Data.field? layer "global").isSome := by
    rw [← last_isSome, ← Option.isSome_map, named, Option.isSome_map]
  unfold workersField? shownWorkers
  rw [there]
  split
  · exact sectionField?_mergeAll lower uppers (by decide) "max_workers"
  · exact sectionField?_mergeAll lower uppers (by decide) "max_workers"

theorem check_mergeAll_iff (lower : IsLayer base) (uppers : ∀ layer ∈ overlays, IsLayer layer) :
    check (.map (mergeAll base overlays)) = .ok s ↔
      s.Follows (lastTop (base :: overlays)) (lastInSection (base :: overlays))
        (shownWorkers (base :: overlays)) := by
  have top := view_mergeAll (Data.field? · "version")
    (fun _ _ _ upper => field?_merge upper.nodup _) lower uppers
  have sections : ∀ name ∈ sectionKeys, ∀ field, _ := fun name known field =>
    sectionField?_mergeAll lower uppers known field
  have workers := workersField?_mergeAll lower uppers
  rw [check_ok_iff (isLayer_mergeAll lower uppers)]
  constructor
  · intro follows
    exact follows.congr top sections workers
  · intro follows
    exact follows.congr top.symm (fun name known field => (sections name known field).symm)
      workers.symm

/-- The layers use one name only of the section with the number of workers. -/
def UsesOneName (layers : List Layer) : Prop :=
  (∀ layer ∈ layers, Data.field? layer "global" = none) ∨
    ∀ layer ∈ layers, Data.field? layer "global_settings" = none

theorem last_congr {view view' : Layer → Option Data}
    (same : ∀ layer ∈ layers, view layer = view' layer) :
    last view layers = last view' layers := by
  induction layers with
  | nil => rfl
  | cons layer above ih =>
    obtain ⟨first, others⟩ := List.forall_mem_cons.mp same
    rw [last_cons, last_cons, first, ih others]

theorem sectionField?_of_absent {layer : Layer} (absent : Data.field? layer name = none)
    (field : String) :
    sectionField? name field layer = none := by
  rw [sectionField?, absent]

theorem shownWorkers_eq (one : UsesOneName layers) : shownWorkers layers = lastWorkers layers := by
  have settingsOnly : (∀ layer ∈ layers, Data.field? layer "global" = none) →
      lastInSection layers "global_settings" "max_workers" = lastWorkers layers := by
    intro absent
    refine last_congr fun layer member => ?_
    rw [sectionField?_of_absent (absent layer member), Option.none_or]
  have globalOnly : (∀ layer ∈ layers, Data.field? layer "global_settings" = none) →
      lastInSection layers "global" "max_workers" = lastWorkers layers := by
    intro absent
    refine last_congr fun layer member => ?_
    rw [sectionField?_of_absent (absent layer member), Option.or_none]
  unfold shownWorkers
  split
  · rename_i used
    rcases one with absent | absent
    · obtain ⟨layer, member, there⟩ := List.any_eq_true.mp used
      rw [absent layer member] at there
      cases there
    · exact globalOnly absent
  · rename_i unused
    refine settingsOnly fun layer member => ?_
    have absent := List.any_eq_false.mp (Bool.not_eq_true _ ▸ unused) layer member
    simpa using absent

theorem readLayers_ok {tree : FileTree} {file : FilePath} {profiles : List String}
    (lower : readMapping tree file = .ok base)
    (uppers : List.Forall₂ (fun profile overlay => readProfile tree file profile = .ok overlay)
      profiles overlays) : readLayers tree file profiles = .ok (mergeAll base overlays) := by
  have laid : ∀ base : Layer, profiles.foldlM (fun lower profile => do
      let upper ← readProfile tree file profile
      return merge lower upper) base = (.ok (mergeAll base overlays) : Except LoadError Layer) := by
    induction uppers with
    | nil => exact fun base => rfl
    | cons first _ ih =>
      intro base
      rw [List.foldlM_cons, first]
      exact ih _
  unfold readLayers
  rw [lower]
  exact laid base

theorem load_ok_iff {tree : FileTree} {file : FilePath} {profiles : List String}
    (lower : readMapping tree file = .ok base)
    (uppers : List.Forall₂ (fun profile overlay => readProfile tree file profile = .ok overlay)
      profiles overlays) :
    (load tree file profiles).2 = .ok s ↔ (∃ ws, warnings (.map (mergeAll base overlays)) = .ok ws) ∧
      check (.map (mergeAll base overlays)) = .ok s := by
  unfold load
  rw [readLayers_ok lower uppers, ← read_ok_iff]
  dsimp only
  cases (read (.map (mergeAll base overlays))).2 <;> simp [Except.mapError]

/-- The settings of layers. Each is what the last layer that sets it says, but for the number of
workers if the layers use both names of its section: then the last layer counts that sets it under the
first name. Settings are loaded from files as their mappings are merged. -/
theorem settings_of_layers (lower : IsLayer base) (uppers : ∀ layer ∈ overlays, IsLayer layer) :
    (∀ s, check (.map (mergeAll base overlays)) = .ok s ↔
      s.Follows (lastTop (base :: overlays)) (lastInSection (base :: overlays))
        (shownWorkers (base :: overlays))) ∧
    (UsesOneName (base :: overlays) → ∀ s,
      check (.map (mergeAll base overlays)) = .ok s ↔ s.FollowsLast (base :: overlays)) ∧
    ∀ tree file profiles, readMapping tree file = .ok base →
      List.Forall₂ (fun profile overlay => readProfile tree file profile = .ok overlay)
        profiles overlays →
      ∀ s, (load tree file profiles).2 = .ok s ↔
        (∃ ws, warnings (.map (mergeAll base overlays)) = .ok ws) ∧
          check (.map (mergeAll base overlays)) = .ok s := by
  refine ⟨fun s => check_mergeAll_iff lower uppers, fun one s => ?_,
    fun tree file profiles readBase readProfiles s => load_ok_iff readBase readProfiles⟩
  rw [check_mergeAll_iff lower uppers, shownWorkers_eq one]
  exact Iff.rfl

/-- The number of workers is set once below and once above, under the two names. The upper value is
the last, but the lower one counts. -/
theorem not_followsLast :
    let base : Layer := [(.scalar (.text "global"), .object [("max_workers", .int 2)])]
    let upper : Layer := [(.scalar (.text "global_settings"), .object [("max_workers", .int 4)])]
    IsLayer base ∧ IsLayer upper ∧ ∃ s, check (.map (mergeAll base [upper])) = .ok s ∧
      s.workers.maxWorkers = 2 ∧ ¬s.FollowsLast [base, upper] := by
  intro base upper
  refine ⟨by decide, by decide, { workers := ⟨2⟩ }, rfl, rfl, fun follows => ?_⟩
  have four : checkWorkers (.int 4) = .ok 4 := rfl
  have two : checkWorkers (.int 4) = .ok 2 := follows.maxWorkers
  cases four.symm.trans two

/-- Three layers with one name of the section: each setting is that of the last layer with it. -/
theorem settings_of_layers_lenient :
    let base : Layer := [(.scalar (.text "version"), .text "1.1"),
      (.scalar (.text "global"), .object [("max_workers", .int 2)])]
    let faster : Layer := [(.scalar (.text "global"), .object [("max_workers", .int 8)])]
    let lenient : Layer := [(.scalar (.text "evaluation"),
      .object [("missing_data_policy", .text "fail_open")])]
    ∃ s, check (.map (mergeAll base [faster, lenient])) = .ok s ∧ s.version = "1.1" ∧
      s.workers.maxWorkers = 8 ∧ s.evaluation.policy = .failOpen := by
  intro base faster lenient
  have one : UsesOneName [base, faster, lenient] := by
    refine Or.inr ?_
    simp only [List.forall_mem_cons]
    exact ⟨rfl, rfl, rfl, List.forall_mem_nil _⟩
  let s : Settings :=
    { version := "1.1", workers := ⟨8⟩
      evaluation := ⟨.failOpen, Expr.defaultFailure, Expr.defaultFailure_isName⟩ }
  have follows : s.FollowsLast [base, faster, lenient] := ⟨rfl, rfl, rfl, rfl, rfl, rfl, rfl, rfl⟩
  have uppers : ∀ layer ∈ [faster, lenient], IsLayer layer := by decide
  have settled := settings_of_layers (by decide : IsLayer base) uppers
  exact ⟨s, (settled.2.1 one s).mpr follows, rfl, rfl, rfl⟩

end Settings

end Screening
