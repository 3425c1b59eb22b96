import Screening.Proofs.Keys
import Screening.Settings.Merge

/-!
# Merged documents, path by path

What stands in a merged document under a path of keys is settled by what stands there, and on the
way there, in the two that are merged (`merge_along_paths`). The names of the lower one come first.
An empty map changes nothing, nor does a document that is laid over itself or once more.
-/

namespace Screening

/-- What stands under a path of keys. -/
def Data.at? : Data → List Key → Option Data
  | d, [] => some d
  | .map entries, k :: rest => (Data.under? entries k).bind fun d => d.at? rest
  | _, _ :: _ => none

/-- No key comes twice in the map or in a map in it. -/
inductive Keyed : List (Atom × Data) → Prop where
  | mk {entries : List (Atom × Data)} (distinct : (entries.map (·.1.key)).Nodup)
    (deeper : ∀ name inner, (name, .map inner) ∈ entries → Keyed inner) : Keyed entries

theorem Keyed.distinct {entries : List (Atom × Data)} (keyed : Keyed entries) :
    (entries.map (·.1.key)).Nodup := by
  cases keyed
  assumption

theorem Keyed.inner {entries inner : List (Atom × Data)} {k : Key} (keyed : Keyed entries)
    (found : Data.under? entries k = some (.map inner)) : Keyed inner := by
  obtain ⟨distinct, deeper⟩ := keyed
  obtain ⟨name, member, _⟩ := Data.mem_of_under? found
  exact deeper name inner member

namespace Settings

variable {base overlay lower upper : List (Atom × Data)} {k : Key} {d : Data} {current : Option Data}
  {path : List Key}

/-! ### What stands under a key -/

theorem mergeValue_of_map (base overlay : List (Atom × Data)) :
    mergeValue (some (.map base)) (.map overlay) = .map (merge base overlay) := by
  rw [mergeValue]

/-- Unless there are two maps, the upper value counts. -/
theorem mergeValue_of_apart
    (apart : ∀ lower upper, ¬(current = some (.map lower) ∧ d = .map upper)) :
    mergeValue current d = d := by
  unfold mergeValue
  split
  · split
    · exact absurd ⟨rfl, rfl⟩ (apart _ _)
    · rfl
  · rfl

theorem mergeValue_none (d : Data) : mergeValue none d = d :=
  mergeValue_of_apart fun _ _ both => by cases both.1

theorem under?_merge (once : overlay.Pairwise fun e e' => e.1.key = k → e'.1.key ≠ k)
    (base : List (Atom × Data)) :
    Data.under? (merge base overlay) k =
      match Data.under? overlay k with
      | some d => some (mergeValue (Data.under? base k) d)
      | none => Data.under? base k := by
  induction overlay generalizing base with
  | nil =>
    rw [merge]
    rfl
  | cons e rest ih =>
    obtain ⟨name, d⟩ := e
    obtain ⟨others, later⟩ := List.pairwise_cons.mp once
    rw [merge, ih later, Data.under?_put, Data.under?]
    by_cases same : name.key = k
    · subst same
      have absent : Data.under? rest name.key = none :=
        Data.under?_eq_none_iff.mpr fun e member => others e member rfl
      rw [absent, if_pos rfl, if_pos rfl]
    · rw [if_neg same, if_neg same]

theorem once_of_distinct (distinct : (overlay.map (·.1.key)).Nodup) (k : Key) :
    overlay.Pairwise fun e e' => e.1.key = k → e'.1.key ≠ k :=
  (List.pairwise_map.mp distinct).imp fun apart same same' => apart (same.trans same'.symm)

/-! ### What stands under a path -/

/-- Both documents hold a map under the path. -/
def Shared (base overlay : List (Atom × Data)) (path : List Key) : Prop :=
  ∃ lower upper, (Data.map base).at? path = some (.map lower) ∧
    (Data.map overlay).at? path = some (.map upper)

/-- Both documents hold maps under the path and all the way there. -/
def SharedAlong (base overlay : List (Atom × Data)) (path : List Key) : Prop :=
  ∀ above, above <+: path → Shared base overlay above

/-- Whatever the upper document holds on the way is a map, and the lower one has a map there. -/
def LeavesAlone (base overlay : List (Atom × Data)) (path : List Key) : Prop :=
  ∀ above, above <+: path → above ≠ path → ((Data.map overlay).at? above).isSome →
    Shared base overlay above

/-- What the merged document holds under the path. -/
structure MergesAt (base overlay : List (Atom × Data)) (path : List Key) : Prop where
  both : ∀ lower upper, (Data.map base).at? path = some (.map lower) →
    (Data.map overlay).at? path = some (.map upper) → SharedAlong base overlay path →
    (Data.map (merge base overlay)).at? path = some (.map (merge lower upper))
  upper : ∀ d, (Data.map overlay).at? path = some d → ¬SharedAlong base overlay path →
    (Data.map (merge base overlay)).at? path = some d
  lower : ∀ d, (Data.map base).at? path = some d → (Data.map overlay).at? path = none →
    LeavesAlone base overlay path → (Data.map (merge base overlay)).at? path = some d
  nothing : (Data.map overlay).at? path = none →
    ¬(((Data.map base).at? path).isSome ∧ LeavesAlone base overlay path) →
    (Data.map (merge base overlay)).at? path = none

theorem shared_nil (base overlay : List (Atom × Data)) : Shared base overlay [] :=
  ⟨base, overlay, rfl, rfl⟩

theorem shared_cons (deeper : Data.under? base k = some (.map lower))
    (higher : Data.under? overlay k = some (.map upper)) (path : List Key) :
    Shared base overlay (k :: path) ↔ Shared lower upper path := by
  simp only [Shared, Data.at?, deeper, higher, Option.bind_some]

theorem sharedAlong_cons (deeper : Data.under? base k = some (.map lower))
    (higher : Data.under? overlay k = some (.map upper)) (path : List Key) :
    SharedAlong base overlay (k :: path) ↔ SharedAlong lower upper path := by
  constructor
  · intro along above before
    exact (shared_cons deeper higher above).mp (along _ ((List.prefix_cons_inj k).mpr before))
  · intro along above before
    rcases List.prefix_cons_iff.mp before with rfl | ⟨above, rfl, inside⟩
    · exact shared_nil base overlay
    · exact (shared_cons deeper higher above).mpr (along above inside)

theorem leavesAlone_cons (deeper : Data.under? base k = some (.map lower))
    (higher : Data.under? overlay k = some (.map upper)) (path : List Key) :
    LeavesAlone base overlay (k :: path) ↔ LeavesAlone lower upper path := by
  constructor
  · intro alone above before proper there
    refine (shared_cons deeper higher above).mp
      (alone _ ((List.prefix_cons_inj k).mpr before) (by simpa using proper) ?_)
    simpa only [Data.at?, higher, Option.bind_some] using there
  · intro alone above before proper there
    rcases List.prefix_cons_iff.mp before with rfl | ⟨above, rfl, inside⟩
    · exact shared_nil base overlay
    · refine (shared_cons deeper higher above).mpr (alone above inside (by simpa using proper) ?_)
      simpa only [Data.at?, higher, Option.bind_some] using there

theorem leavesAlone_single (base overlay : List (Atom × Data)) (k : Key) :
    LeavesAlone base overlay [k] := by
  intro above before proper _
  rcases List.prefix_cons_iff.mp before with rfl | ⟨above, rfl, inside⟩
  · exact shared_nil base overlay
  · rw [List.prefix_nil.mp inside] at proper
    exact absurd rfl proper

theorem MergesAt.cons (deeper : Data.under? base k = some (.map lower))
    (higher : Data.under? overlay k = some (.map upper))
    (merged : Data.under? (merge base overlay) k = some (.map (merge lower upper)))
    (rest : MergesAt lower upper path) : MergesAt base overlay (k :: path) := by
  constructor <;>
    simp only [Data.at?, deeper, higher, merged, Option.bind_some, sharedAlong_cons deeper higher,
      leavesAlone_cons deeper higher]
  · exact rest.both
  · exact rest.upper
  · exact rest.lower
  · exact rest.nothing

/-- The upper document holds nothing under the key: what the lower one holds stays. -/
theorem mergesAt_of_absent (absent : Data.under? overlay k = none)
    (merged : Data.under? (merge base overlay) k = Data.under? base k) :
    MergesAt base overlay (k :: path) := by
  have alone : LeavesAlone base overlay (k :: path) := by
    intro above before _ there
    rcases List.prefix_cons_iff.mp before with rfl | ⟨above, rfl, _⟩
    · exact shared_nil base overlay
    · simp [Data.at?, absent] at there
  constructor <;> simp only [Data.at?, absent, merged, Option.bind_none]
  · exact fun _ _ _ impossible => by cases impossible
  · exact fun _ impossible => by cases impossible
  · exact fun _ found _ _ => found
  · intro _ otherwise
    exact Option.not_isSome_iff_eq_none.mp fun found => otherwise ⟨found, alone⟩

/-- The upper document holds something under the key, and there are not two maps: that counts. -/
theorem mergesAt_of_apart (found : Data.under? overlay k = some d)
    (apart : ¬Shared base overlay [k])
    (merged : Data.under? (merge base overlay) k = some d) : MergesAt base overlay (k :: path) := by
  have same : (Data.map (merge base overlay)).at? (k :: path) = (Data.map overlay).at? (k :: path) := by
    simp only [Data.at?, found, merged]
  have first : [k] <+: k :: path := (List.prefix_cons_inj k).mpr List.nil_prefix
  constructor <;> rw [same]
  · exact fun _ _ _ _ along => absurd (along [k] first) apart
  · exact fun _ held _ => held
  · intro d' _ missing alone
    have proper : [k] ≠ k :: path := by
      rintro ends
      rw [← ends] at missing
      simp [Data.at?, found] at missing
    exact absurd (alone [k] first proper (by simp [Data.at?, found])) apart
  · exact fun absent _ => absent

/-- Along the path the two documents are followed as long as both hold maps. -/
theorem mergesAt (keyed : Keyed overlay) (base : List (Atom × Data)) (path : List Key) :
    MergesAt base overlay path := by
  -- As long as both documents hold maps, the path goes on in these.
  induction path generalizing base overlay with
  | nil =>
    have along : SharedAlong base overlay [] := by
      intro above before
      rw [List.prefix_nil.mp before]
      exact shared_nil base overlay
    refine ⟨?_, fun _ _ unshared => absurd along unshared, nofun, nofun⟩
    rintro _ _ ⟨⟩ ⟨⟩ _
    rfl
  | cons k rest ih =>
    have merged := under?_merge (once_of_distinct keyed.distinct k) base
    cases found : Data.under? overlay k with
    | none =>
      rw [found] at merged
      exact mergesAt_of_absent found merged
    | some d =>
      rw [found] at merged
      by_cases two : Shared base overlay [k]
      · obtain ⟨lower, upper, deeper, higher⟩ := two
        simp only [Data.at?, found, Option.bind_some] at higher
        obtain rfl := Option.some.inj higher
        simp only [Data.at?, Option.bind_eq_some_iff] at deeper
        obtain ⟨_, deeper, ⟨⟩⟩ := deeper
        rw [deeper] at merged
        exact .cons deeper found (merged.trans (congrArg some (mergeValue_of_map lower upper)))
          (ih (keyed.inner found) lower)
      · refine mergesAt_of_apart found two (merged.trans (congrArg some (mergeValue_of_apart ?_)))
        rintro lower upper ⟨deeper, rfl⟩
        exact two ⟨lower, upper, by simp [Data.at?, deeper], by simp [Data.at?, found]⟩

/-! ### Names -/

theorem nodup_merge {β : Type} {f : Atom → β} (finer : ∀ a b, f a = f b → a.key = b.key)
    (nodup : (base.map fun e => f e.1).Nodup) (overlay : List (Atom × Data)) :
    ((merge base overlay).map fun e => f e.1).Nodup := by
  induction overlay generalizing base with
  | nil => rwa [merge]
  | cons e rest ih =>
    rw [merge]
    exact ih (Data.nodup_put finer nodup e.1 _)

theorem names_merge (distinct : (overlay.map (·.1.key)).Nodup) (base : List (Atom × Data)) :
    (merge base overlay).map Prod.fst = base.map Prod.fst ++
      (overlay.map Prod.fst).filter fun name => (Data.under? base name.key).isNone := by
  induction overlay generalizing base with
  | nil => simp [merge]
  | cons e rest ih =>
    obtain ⟨name, d⟩ := e
    obtain ⟨absent, later⟩ := List.nodup_cons.mp distinct
    have others : ∀ other ∈ rest.map Prod.fst,
        (Data.under? (Data.put base name (mergeValue (Data.under? base name.key) d)) other.key).isNone =
          (Data.under? base other.key).isNone := by
      intro other member
      have apart : name.key ≠ other.key := fun same => by
        obtain ⟨e, there, rfl⟩ := List.mem_map.mp member
        exact absent (List.mem_map.mpr ⟨e, there, same.symm⟩)
      rw [Data.under?_put, if_neg apart]
    rw [merge, ih later, Data.names_put, List.filter_congr others, List.append_assoc, List.map_cons,
      List.filter_cons]
    cases Data.under? base name.key <;> rfl

/-! ### What changes nothing -/

theorem merge_of_new (distinct : (overlay.map (·.1.key)).Nodup)
    (new : ∀ e ∈ overlay, Data.under? base e.1.key = none) : merge base overlay = base ++ overlay := by
  induction overlay generalizing base with
  | nil => simp [merge]
  | cons e rest ih =>
    obtain ⟨name, d⟩ := e
    obtain ⟨absent, later⟩ := List.nodup_cons.mp distinct
    obtain ⟨first, others⟩ := List.forall_mem_cons.mp new
    rw [merge, first, mergeValue_none, ih later, Data.put_of_new first, List.append_assoc]
    · rfl
    · intro e member
      have apart : name.key ≠ e.1.key := fun same =>
        absent (List.mem_map.mpr ⟨e, member, same.symm⟩)
      rw [Data.under?_put, if_neg apart, others e member]

theorem merge_nil (base : List (Atom × Data)) : merge base [] = base := by
  rw [merge]

theorem nil_merge (distinct : (overlay.map (·.1.key)).Nodup) : merge [] overlay = overlay :=
  merge_of_new distinct fun _ _ => rfl

theorem merge_of_absorbed (absorbed : ∀ name d, (name, d) ∈ overlay →
      ∃ current, Data.under? base name.key = some current ∧ mergeValue (some current) d = current) :
    merge base overlay = base := by
  induction overlay with
  | nil => rw [merge]
  | cons e rest ih =>
    obtain ⟨name, d⟩ := e
    obtain ⟨current, found, same⟩ := absorbed name d List.mem_cons_self
    rw [merge, found, same, Data.put_of_under? found]
    exact ih fun name d member => absorbed name d (List.mem_cons_of_mem _ member)

theorem merge_again (keyed : Keyed overlay) (base : List (Atom × Data)) :
    merge (merge base overlay) overlay = merge base overlay := by
  induction keyed generalizing base with
  | @mk overlay distinct deeper ih =>
    -- Each value of the overlay must leave alone what it has made of the lower value.
    refine merge_of_absorbed fun name d member => ?_
    have merged := under?_merge (once_of_distinct distinct name.key) base
    rw [Data.under?_of_mem distinct member] at merged
    refine ⟨_, merged, ?_⟩
    by_cases two : ∃ lower upper, Data.under? base name.key = some (.map lower) ∧ d = .map upper
    · obtain ⟨lower, upper, found, rfl⟩ := two
      rw [found, mergeValue_of_map, mergeValue_of_map, ih name upper member]
    · rw [mergeValue_of_apart fun lower upper both => two ⟨lower, upper, both⟩]
      cases d with
      | map upper =>
        -- A map that has replaced something is laid over itself: the case of an empty base.
        have alone := ih name upper member []
        rw [nil_merge (deeper name upper member).distinct] at alone
        rw [mergeValue_of_map, alone]
      | atom _ | list _ => exact mergeValue_of_apart nofun

theorem merge_self (keyed : Keyed base) : merge base base = base := by
  have again := merge_again keyed []
  rwa [nil_merge keyed.distinct] at again

/-- What a merged document holds under each path, and in which order its names are. An empty map
changes nothing, nor does a document that is laid over itself or once more. -/
theorem merge_along_paths (keyed : Keyed base) (keyed' : Keyed overlay) :
    (∀ path, MergesAt base overlay path) ∧
    (merge base overlay).map Prod.fst = base.map Prod.fst ++
      ((overlay.map Prod.fst).filter fun name => (Data.under? base name.key).isNone) ∧
    merge base [] = base ∧ merge [] overlay = overlay ∧ merge base base = base ∧
    merge (merge base overlay) overlay = merge base overlay :=
  ⟨mergesAt keyed' base, names_merge keyed'.distinct base, merge_nil base,
    nil_merge keyed'.distinct, merge_self keyed, merge_again keyed' base⟩

/-- One section is shared, and a limit is replaced by a section. -/
theorem merge_along_paths_sections :
    let name (t : Text) : Atom := .scalar (.text t)
    let base : List (Atom × Data) := [(name "evaluation",
      .map [(name "policy", .text "closed"), (name "wording", .text "plain")]),
      (name "limit", .int 5)]
    let overlay : List (Atom × Data) := [(name "limit", .map [(name "most", .int 7)]),
      (name "evaluation", .map [(name "policy", .text "open")])]
    Keyed base ∧ Keyed overlay ∧
      (Data.map (merge base overlay)).at? [(name "evaluation").key, (name "wording").key] =
        some (.text "plain") ∧
      (Data.map (merge base overlay)).at? [(name "limit").key] =
        some (.map [(name "most", .int 7)]) ∧
      merge (merge base overlay) overlay = merge base overlay := by
  intro name base overlay
  have keyed : Keyed base := by
    refine .mk (by decide) fun name inner member => ?_
    obtain ⟨rfl, rfl⟩ : _ ∧ inner = _ := by simpa [base, Data.int, Data.scalar] using member
    exact .mk (by decide) (by simp [Data.text, Data.scalar])
  have keyed' : Keyed overlay := by
    refine .mk (by decide) fun name inner member => ?_
    obtain ⟨rfl, rfl⟩ | ⟨rfl, rfl⟩ : (_ ∧ inner = _) ∨ (_ ∧ inner = _) := by
      simpa [overlay] using member
    · exact .mk (by decide) (by simp [Data.int, Data.scalar])
    · exact .mk (by decide) (by simp [Data.text, Data.scalar])
  obtain ⟨along, _, _, _, _, again⟩ := merge_along_paths keyed keyed'
  refine ⟨keyed, keyed', ?_, ?_, again⟩
  · exact (along _).lower _ rfl rfl ((leavesAlone_cons rfl rfl _).mpr (leavesAlone_single _ _ _))
  · refine (along _).upper _ rfl fun shared => ?_
    obtain ⟨_, _, deeper, _⟩ := shared _ List.prefix_rfl
    cases deeper

end Settings

end Screening
