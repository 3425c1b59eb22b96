import Mathlib.Data.List.Nodup
import Screening.Proofs.Files
import Screening.Proofs.Names
import Screening.Proofs.Settings.Layers

/-!
# Listed profiles

A profile is listed by the stem of its file's name, and that is the name it is loaded under
(`stem_append`), but for a file whose whole name is the suffix: it is listed under the suffix, and
loaded under the empty name. Otherwise the list holds just the profiles that can be loaded, each
once and in order: `profileNames_listed`.
-/

namespace Screening.Settings

variable {tree : FileTree} {file path : FilePath} {profile name : String} {base : Layer}

/-- The path leads to a file that can be opened. -/
def IsRegular (tree : FileTree) (path : FilePath) : Prop :=
  '\x00' ∉ (path.text tree.root).toList ∧ ∃ text, tree.find path = .file text

/-- What has the suffix in the directory of the profiles is a file. -/
def ProfilesRegular (tree : FileTree) (file : FilePath) : Prop :=
  ∀ name ∈ tree.names (profileDirectory file), profileSuffix.toList <:+ name.toList →
    IsRegular tree ((profileDirectory file).append name)

/-- There is a file for the profile. -/
def HasProfile (tree : FileTree) (file : FilePath) (profile : String) : Prop :=
  IsRegular tree (profileFile file profile)

structure ListsProfiles (tree : FileTree) (file : FilePath) : Prop where
  listed : ∀ name : String, '/' ∉ name.toList →
    (name ∈ profileNames tree file ↔ HasProfile tree file name)
  sorted : (profileNames tree file).Pairwise (· ≤ ·)
  distinct : (profileNames tree file).Nodup

/-! ### Names of files and of profiles -/

/-- The name under which a profile is listed. -/
def shownAs (profile : String) : String := if profile = "" then profileSuffix else profile

theorem shownAs_eq_iff : shownAs profile = name ↔
    (profile ≠ "" ∧ profile = name) ∨ (profile = "" ∧ profileSuffix = name) := by
  unfold shownAs
  split <;> simp [*]

theorem eq_of_shownAs (same : shownAs profile = shownAs name) : profile = name ∨
    (profile = "" ∧ name = profileSuffix) ∨ (profile = profileSuffix ∧ name = "") := by
  unfold shownAs at same
  split at same
  · split at same
    · simp [*]
    · exact .inr (.inl ⟨‹_›, same.symm⟩)
  · split at same
    · exact .inr (.inr ⟨same, ‹_›⟩)
    · exact .inl same

theorem toList_profileSuffix : profileSuffix.toList = ['.', 'y', 'a', 'm', 'l'] := rfl

theorem stem_append (name : List Char) : stem (name ++ profileSuffix.toList) =
    if name = [] then profileSuffix.toList else name := by
  have last : (name ++ profileSuffix.toList).reverse.takeWhile (· != '.') =
      ['l', 'm', 'a', 'y'] := by
    simp [toList_profileSuffix]
  have before : (name ++ profileSuffix.toList).length - 4 - 1 = name.length := by
    simp [toList_profileSuffix]
  have dot : (name ++ profileSuffix.toList).contains '.' = true := by
    simp [toList_profileSuffix]
  unfold stem
  simp only [last, List.length_cons, List.length_nil, before, dot]
  cases name <;> simp

theorem shownAs_eq_stem (profile : String) :
    String.ofList (stem (profile ++ profileSuffix).toList) = shownAs profile := by
  rw [String.toList_append, stem_append, shownAs]
  by_cases empty : profile = ""
  · simp [empty]
  · simp [empty]

theorem isStep_fileName (noSlash : '/' ∉ profile.toList) :
    FilePath.IsStep (profile ++ profileSuffix) := by
  constructor
  · simpa [toList_profileSuffix] using noSlash
  · simp [profileSuffix]
  · intro dot
    have length := congrArg (fun s => s.toList.length) dot
    simp [toList_profileSuffix] at length

theorem fileName_ne_up : profile ++ profileSuffix ≠ ".." := by
  intro up
  have length := congrArg (fun s => s.toList.length) up
  simp [toList_profileSuffix] at length

/-! ### The list -/

/-- The names of files in the directory of the profiles that have the suffix. -/
def fileNames (tree : FileTree) (file : FilePath) : List (List Char) :=
  ((tree.names (profileDirectory file)).map String.toList).filter
    (profileSuffix.toList.isSuffixOf ·)

theorem mem_fileNames_iff {chars : List Char} : chars ∈ fileNames tree file ↔
    ∃ profile, profile ++ profileSuffix ∈ tree.names (profileDirectory file) ∧
      (profile ++ profileSuffix).toList = chars := by
  unfold fileNames
  rw [List.mem_filter, List.mem_map, List.isSuffixOf_iff_suffix]
  constructor
  · rintro ⟨⟨fileName, there, rfl⟩, profile, whole⟩
    have split : String.ofList profile ++ profileSuffix = fileName := by
      rw [← String.toList_inj, String.toList_append, String.toList_ofList, whole]
    exact ⟨String.ofList profile, split ▸ there, congrArg String.toList split⟩
  · rintro ⟨profile, there, rfl⟩
    refine ⟨⟨_, there, rfl⟩, profile.toList, ?_⟩
    rw [String.toList_append]

theorem mem_profileNames_iff : name ∈ profileNames tree file ↔
    ∃ profile, profile ++ profileSuffix ∈ tree.names (profileDirectory file) ∧
      shownAs profile = name := by
  change name ∈ ((fileNames tree file).map _).mergeSort _ ↔ _
  rw [List.mem_mergeSort, List.mem_map]
  constructor
  · rintro ⟨chars, member, rfl⟩
    obtain ⟨profile, there, rfl⟩ := mem_fileNames_iff.mp member
    exact ⟨profile, there, (shownAs_eq_stem profile).symm⟩
  · rintro ⟨profile, there, rfl⟩
    exact ⟨_, mem_fileNames_iff.mpr ⟨profile, there, rfl⟩, shownAs_eq_stem profile⟩

theorem sorted_profileNames (tree : FileTree) (file : FilePath) :
    (profileNames tree file).Pairwise (· ≤ ·) := by
  apply List.Pairwise.imp of_decide_eq_true
  apply List.pairwise_mergeSort
  · intro a b c first second
    exact decide_eq_true (String.le_trans (of_decide_eq_true first) (of_decide_eq_true second))
  · intro a b
    simpa using String.le_total a b

theorem nodup_fileNames (tree : FileTree) (file : FilePath) : (fileNames tree file).Nodup := by
  have names : (tree.names (profileDirectory file)).Nodup := by
    unfold FileTree.names
    split
    · cases tree.placeOf? [] _ with
      | none => exact List.nodup_nil
      | some place => exact nodup_eraseDups _
    · exact List.nodup_nil
  exact (names.map fun _ _ => String.toList_inj.mp).filter _

/-- Two profiles that are listed under one name have the files `.yaml` and `.yaml.yaml`. -/
theorem nodup_profileNames_iff : (profileNames tree file).Nodup ↔
    ¬("" ++ profileSuffix ∈ tree.names (profileDirectory file) ∧
      profileSuffix ++ profileSuffix ∈ tree.names (profileDirectory file)) := by
  change (((fileNames tree file).map _).mergeSort _).Nodup ↔ _
  rw [(List.mergeSort_perm _ _).nodup_iff, List.nodup_map_iff_inj_on (nodup_fileNames tree file)]
  constructor
  · intro inj both
    have same := inj _ (mem_fileNames_iff.mpr ⟨_, both.1, rfl⟩) _
      (mem_fileNames_iff.mpr ⟨_, both.2, rfl⟩) (by decide)
    exact absurd same (by decide)
  · intro apart x first y second same
    obtain ⟨profile, there, rfl⟩ := mem_fileNames_iff.mp first
    obtain ⟨other, there', rfl⟩ := mem_fileNames_iff.mp second
    rw [shownAs_eq_stem, shownAs_eq_stem] at same
    rcases eq_of_shownAs same with rfl | ⟨rfl, rfl⟩ | ⟨rfl, rfl⟩
    · rfl
    · exact absurd ⟨there, there'⟩ apart
    · exact absurd ⟨there', there⟩ apart

/-! ### Loading a profile -/

theorem hasProfile_iff (regular : ProfilesRegular tree file) (noSlash : '/' ∉ profile.toList) :
    HasProfile tree file profile ↔
      profile ++ profileSuffix ∈ tree.names (profileDirectory file) := by
  constructor
  · intro ⟨_, found⟩
    exact FileTree.mem_names_of_find (isStep_fileName noSlash) fileName_ne_up (.inl found)
  · intro member
    apply regular _ member
    rw [String.toList_append]
    exact List.suffix_append _ _

theorem readMapping_ne_noProfile : readMapping tree path ≠ .error (.noProfile name) := by
  unfold readMapping
  dsimp only
  split
  · simp
  · split <;> try simp
    split <;> simp

theorem found_of_readMapping {entries : List (Atom × Data)}
    (read : readMapping tree path = .ok entries) : ∃ text, tree.find path = .file text := by
  unfold readMapping at read
  dsimp only at read
  split at read
  · cases read
  · cases found : tree.find path with
    | file text => exact ⟨text, rfl⟩
    | _ => simp [found] at read

theorem exists_mapping (readable : (readMapping tree path).isOk) :
    ∃ entries, readMapping tree path = .ok entries := by
  cases read : readMapping tree path with
  | ok entries => exact ⟨entries, rfl⟩
  | error e => simp [read, Except.isOk, Except.toBool] at readable

theorem readProfile_of_hasProfile (has : HasProfile tree file profile) :
    readProfile tree file profile = readMapping tree (profileFile file profile) := by
  obtain ⟨noNull, text, found⟩ := has
  have leads : leadsSomewhere tree (profileFile file profile) = true := by
    simp [leadsSomewhere, found, noNull]
  simp only [readProfile, leads, if_true]

theorem isStep_profiles : FilePath.IsStep "profiles" := ⟨by decide, by decide, by decide⟩

theorem profileFile_inside (noSlash : '/' ∉ profile.toList) (ss : List String) (name : String) :
    profileFile (.inside (ss ++ [name])) profile =
      .inside (ss ++ "profiles" :: [profile ++ profileSuffix]) := by
  rw [profileFile, profileDirectory, FilePath.parent_inside,
    FilePath.append_inside isStep_profiles, FilePath.append_inside (isStep_fileName noSlash),
    List.append_assoc]
  rfl

/-- The root is no file with profiles beside it. -/
theorem find_profileFile_root (noSlash : '/' ∉ profile.toList) :
    tree.find (profileFile (.inside []) profile) = .missing := by
  rw [profileFile, profileDirectory, FilePath.parent, FilePath.append_outside isStep_profiles,
    FilePath.append_outside (isStep_fileName noSlash)]
  rfl

/-- Beside a file that is there, only its own name can be too long for a profile. -/
theorem long_of_tooLong {text : String} (found : tree.find file = .file text)
    (noSlash : '/' ∉ profile.toList) (tooLong : tree.find (profileFile file profile) = .tooLong) :
    FileTree.nameLimit < (profile ++ profileSuffix).utf8ByteSize := by
  cases file with
  | outside slashes ss => exact absurd found FileTree.foundOutside_ne_file
  | inside steps =>
    rcases List.eq_nil_or_concat steps with rfl | ⟨ss, name, rfl⟩
    · rw [find_profileFile_root noSlash] at tooLong
      cases tooLong
    · rw [List.concat_eq_append] at found tooLong
      obtain ⟨dir, leads⟩ := FileTree.exists_leads (.inl ⟨text, found⟩)
      rw [profileFile_inside noSlash, FileTree.find, leads.walk_append,
        FileTree.walk_cons leads.isDirectory, if_neg (by decide), if_neg (by decide)] at tooLong
      exact FileTree.long_of_walk_name tooLong

theorem readProfile_of_not_hasProfile (regular : ProfilesRegular tree file)
    (read : readMapping tree file = .ok base) (noSlash : '/' ∉ profile.toList)
    (hasNot : ¬HasProfile tree file profile) :
    readProfile tree file profile = .error (.noProfile profile) ∨
      FileTree.nameLimit < (profile ++ profileSuffix).utf8ByteSize ∧
        readProfile tree file profile =
          .error (.tooLong ((profileFile file profile).text tree.root)) := by
  obtain ⟨text, there⟩ := found_of_readMapping read
  by_cases noNull : '\x00' ∉ ((profileFile file profile).text tree.root).toList
  · cases found : tree.find (profileFile file profile) with
    | file text => exact absurd ⟨noNull, text, found⟩ hasNot
    | directory =>
      have member := FileTree.mem_names_of_find (isStep_fileName noSlash) fileName_ne_up
        (.inr found)
      exact absurd ((hasProfile_iff regular noSlash).mpr member) hasNot
    | missing | throughFile => exact .inl (by simp [readProfile, leadsSomewhere, found])
    | tooLong =>
      refine .inr ⟨long_of_tooLong there noSlash found, ?_⟩
      simp [readProfile, leadsSomewhere, readMapping, found, noNull]
  · have nowhere : leadsSomewhere tree (profileFile file profile) = false := by
      unfold leadsSomewhere
      split <;> simp_all
    exact .inl (by simp [readProfile, nowhere])

theorem load_of_profile_error {error : LoadError} (read : readMapping tree file = .ok base)
    (failed : readProfile tree file profile = .error error) :
    load tree file [profile] = ([], .error error) := by
  have layers : readLayers tree file [profile] = .error error := by
    unfold readLayers
    rw [read]
    simp only [bind, Except.bind, List.foldlM_cons, failed]
  rw [load, layers]

theorem load_ne_noProfile (read : readMapping tree file = .ok base)
    (has : HasProfile tree file profile) :
    (load tree file [profile]).2 ≠ .error (.noProfile name) := by
  cases upper : readProfile tree file profile with
  | error e =>
    rw [load_of_profile_error read upper]
    rw [readProfile_of_hasProfile has] at upper
    intro same
    cases same
    exact readMapping_ne_noProfile upper
  | ok overlay =>
    have layers := readLayers_ok read (.cons upper .nil)
    unfold load
    rw [layers]
    dsimp only
    cases (Settings.read (.map (mergeAll base [overlay]))).2 <;> simp [Except.mapError]

/-! ### Listed and loaded -/

theorem listed_iff (regular : ProfilesRegular tree file) (noSlash : '/' ∉ name.toList) :
    name ∈ profileNames tree file ↔
      (name ≠ "" ∧ HasProfile tree file name) ∨
        (name = profileSuffix ∧ HasProfile tree file "") := by
  have nameless : HasProfile tree file "" ↔ "" ++ profileSuffix ∈ _ :=
    hasProfile_iff regular (by decide)
  rw [mem_profileNames_iff, hasProfile_iff regular noSlash, nameless]
  constructor
  · rintro ⟨profile, there, shown⟩
    rcases shownAs_eq_iff.mp shown with ⟨named, rfl⟩ | ⟨rfl, rfl⟩
    · exact .inl ⟨named, there⟩
    · exact .inr ⟨rfl, there⟩
  · rintro (⟨named, there⟩ | ⟨rfl, there⟩)
    · exact ⟨name, there, shownAs_eq_iff.mpr (.inl ⟨named, rfl⟩)⟩
    · exact ⟨"", there, rfl⟩

theorem nodup_iff (regular : ProfilesRegular tree file) : (profileNames tree file).Nodup ↔
    ¬(HasProfile tree file "" ∧ HasProfile tree file profileSuffix) := by
  rw [nodup_profileNames_iff, hasProfile_iff regular (by decide),
    hasProfile_iff regular (by decide)]

theorem listsProfiles_iff (regular : ProfilesRegular tree file) :
    ListsProfiles tree file ↔ ¬HasProfile tree file "" := by
  constructor
  · intro lists nameless
    have shown := (lists.listed "" (by decide)).mpr nameless
    rcases (listed_iff regular (by decide)).mp shown with ⟨named, _⟩ | ⟨suffix, _⟩
    · exact named rfl
    · exact absurd suffix (by decide)
  · intro absent
    refine ⟨fun name noSlash => ?_, sorted_profileNames tree file, ?_⟩
    · rw [listed_iff regular noSlash]
      constructor
      · rintro (⟨_, has⟩ | ⟨_, nameless⟩)
        · exact has
        · exact absurd nameless absent
      · intro has
        refine .inl ⟨?_, has⟩
        rintro rfl
        exact absent has
    · exact (nodup_iff regular).mpr fun both => absent both.1

/-- In a directory whose profiles are files, a name is listed just when a profile is loaded under
it; only a file whose whole name is the suffix is listed under the suffix and loaded under the empty
name, and the list is right just when there is no such file. A profile that is not there is refused
as such, if its file could have that name at all. -/
theorem profileNames_listed (regular : ProfilesRegular tree file) :
    (∀ name : String, '/' ∉ name.toList → (name ∈ profileNames tree file ↔
      (name ≠ "" ∧ HasProfile tree file name) ∨
        (name = profileSuffix ∧ HasProfile tree file ""))) ∧
    (profileNames tree file).Pairwise (· ≤ ·) ∧
    ((profileNames tree file).Nodup ↔
      ¬(HasProfile tree file "" ∧ HasProfile tree file profileSuffix)) ∧
    (ListsProfiles tree file ↔ ¬HasProfile tree file "") ∧
    ∀ base, readMapping tree file = .ok base → ∀ name : String, '/' ∉ name.toList →
      (HasProfile tree file name →
        readProfile tree file name = readMapping tree (profileFile file name) ∧
        (load tree file [name]).2 ≠ .error (.noProfile name)) ∧
      (¬HasProfile tree file name →
        load tree file [name] = ([], .error (.noProfile name)) ∨
        FileTree.nameLimit < (name ++ profileSuffix).utf8ByteSize ∧
          load tree file [name] =
            ([], .error (.tooLong ((profileFile file name).text tree.root)))) := by
  refine ⟨fun name noSlash => listed_iff regular noSlash, sorted_profileNames tree file,
    nodup_iff regular, listsProfiles_iff regular, fun base read name noSlash => ⟨?_, ?_⟩⟩
  · intro has
    exact ⟨readProfile_of_hasProfile has, load_ne_noProfile read has⟩
  · intro hasNot
    apply (readProfile_of_not_hasProfile regular read noSlash hasNot).imp
    · exact load_of_profile_error read
    · exact And.imp_right (load_of_profile_error read)

/-- Names with several dots and with a leading one, beside a file that is no profile. -/
theorem profileNames_listed_hidden :
    let tree : FileTree := ⟨"/work", [(["config", "default.yaml"], some ""),
      (["config", "profiles", "a.b.yaml"], some ""),
      (["config", "profiles", ".hidden.yaml"], some ""),
      (["config", "profiles", "notes.txt"], some "")]⟩
    let file : FilePath := .inside ["config", "default.yaml"]
    ProfilesRegular tree file ∧ ListsProfiles tree file ∧
      "a.b" ∈ profileNames tree file ∧ ".hidden" ∈ profileNames tree file ∧
      "notes" ∉ profileNames tree file ∧
      load tree file ["notes"] = ([], .error (.noProfile "notes")) := by
  intro tree file
  have names : tree.names (profileDirectory file) =
      ["a.b.yaml", ".hidden.yaml", "notes.txt"] := by
    decide +kernel
  have regular : ProfilesRegular tree file := by
    intro name member ends
    rw [names] at member
    simp only [List.mem_cons, List.not_mem_nil, or_false] at member
    rcases member with rfl | rfl | rfl
    · exact ⟨by decide +kernel, "", by decide +kernel⟩
    · exact ⟨by decide +kernel, "", by decide +kernel⟩
    · exact absurd ends (by decide)
  have has (name : String) (noSlash : '/' ∉ name.toList) : HasProfile tree file name ↔
      name ++ profileSuffix ∈ ["a.b.yaml", ".hidden.yaml", "notes.txt"] :=
    names ▸ hasProfile_iff regular noSlash
  obtain ⟨_, _, _, right, loaded⟩ := profileNames_listed regular
  have lists : ListsProfiles tree file := right.mpr ((has "" (by decide)).not.mpr (by decide))
  have hasNot : ¬HasProfile tree file "notes" := (has "notes" (by decide)).not.mpr (by decide)
  obtain ⟨base, read⟩ := exists_mapping (by decide +kernel : (readMapping tree file).isOk)
  refine ⟨regular, lists, ?_, ?_, ?_, ?_⟩
  · exact (lists.listed _ (by decide)).mpr ((has _ (by decide)).mpr (by decide))
  · exact (lists.listed _ (by decide)).mpr ((has _ (by decide)).mpr (by decide))
  · exact (lists.listed _ (by decide)).not.mpr hasNot
  · apply ((loaded base read "notes" (by decide)).2 hasNot).resolve_right
    rintro ⟨long, _⟩
    exact absurd long (by decide)

/-- The name of a file is the suffix alone. It is listed under a name that cannot be loaded, and
loaded under one that is not listed. -/
theorem not_listsProfiles_suffix :
    let tree : FileTree := ⟨"/work", [(["config", "default.yaml"], some "version: '1.0'\n"),
      (["config", "profiles", ".yaml"], some "version: '1.1'\n")]⟩
    let file : FilePath := .inside ["config", "default.yaml"]
    ProfilesRegular tree file ∧ ".yaml" ∈ profileNames tree file ∧
      load tree file [".yaml"] = ([], .error (.noProfile ".yaml")) ∧
      HasProfile tree file "" ∧ "" ∉ profileNames tree file ∧ ¬ListsProfiles tree file := by
  intro tree file
  have names : tree.names (profileDirectory file) = [".yaml"] := by decide +kernel
  have nameless : HasProfile tree file "" :=
    ⟨by decide +kernel, "version: '1.1'\n", by decide +kernel⟩
  have regular : ProfilesRegular tree file := by
    intro name member _
    rw [names, List.mem_singleton] at member
    rw [member]
    exact nameless
  have shown : ".yaml" ∈ profileNames tree file :=
    (listed_iff regular (by decide)).mpr (.inr ⟨rfl, nameless⟩)
  have unlisted : "" ∉ profileNames tree file := by
    rw [listed_iff regular (by decide)]
    simp [profileSuffix]
  refine ⟨regular, shown, ?_, nameless, unlisted, ?_⟩
  · obtain ⟨base, read⟩ := exists_mapping (by decide +kernel : (readMapping tree file).isOk)
    have nowhere : leadsSomewhere tree (profileFile file ".yaml") = false := by decide +kernel
    apply load_of_profile_error read
    simp [readProfile, nowhere]
  · intro lists
    exact unlisted ((lists.listed "" (by decide)).mpr nameless)

end Screening.Settings
