import Screening.Proofs.Json.Numbers
import Screening.Proofs.Json.Texts
import Screening.Proofs.Table

/-!
# Reading written data

Data comes back from its text when each of its atoms does, and its maps have distinct texts for
keys: `read_write`. An atom may come back as another one, as numbers do that have no text.
-/

namespace Screening

mutual

/-- Change the atoms of data, but not the keys. -/
def Data.mapAtoms (f : Atom → Atom) : Data → Data
  | .atom a => .atom (f a)
  | .list items => .list (mapItems f items)
  | .map entries => .map (mapMembers f entries)

def Data.mapItems (f : Atom → Atom) : List Data → List Data
  | [] => []
  | d :: ds => d.mapAtoms f :: mapItems f ds

def Data.mapMembers (f : Atom → Atom) : List (Atom × Data) → List (Atom × Data)
  | [] => []
  | (k, d) :: rest => (k, d.mapAtoms f) :: mapMembers f rest

end

theorem Data.mapItems_eq_map (f : Atom → Atom) (ds : List Data) :
    Data.mapItems f ds = ds.map (mapAtoms f) := by
  induction ds with
  | nil => rfl
  | cons d ds ih => rw [mapItems, ih, List.map_cons]

namespace Entries

variable {κ α : Type} [DecidableEq κ] {pairs before : List (κ × α)}

theorem foldl_put_of_nodup (distinct : ((before ++ pairs).map Prod.fst).Nodup) :
    pairs.foldl (fun entries p => put entries p.1 p.2) before = before ++ pairs := by
  induction pairs generalizing before with
  | nil => exact (List.append_nil before).symm
  | cons p pairs ih =>
    have absent : p.1 ∉ before.map Prod.fst := by
      intro member
      rw [List.map_append, List.nodup_append] at distinct
      exact distinct.2.2 _ member _ List.mem_cons_self rfl
    have regrouped : before ++ p :: pairs = before ++ [p] ++ pairs := by simp
    rw [List.foldl_cons, put_of_not_mem absent, ih (regrouped ▸ distinct), regrouped]

theorem ofPairs_of_nodup (distinct : (pairs.map Prod.fst).Nodup) : ofPairs pairs = pairs :=
  @foldl_put_of_nodup _ _ _ pairs [] distinct

end Entries

namespace Json

/-- Between items stands a comma, and after a name a colon; spaces may follow. -/
structure Style.Standard (style : Style) : Prop where
  comma : ∃ spaces, style.comma = .char ',' :: spaces ∧ ∀ p ∈ spaces, isSpace p = true
  colon : ∃ spaces, style.colon = .char ':' :: spaces ∧ ∀ p ∈ spaces, isSpace p = true

/-- The text of a value may start like this, but not space, a closing bracket or brace, or a byte
order mark. -/
def Starts (ps : List CodePoint) : Prop :=
  ∃ p rest, ps = p :: rest ∧ isSpace p = false ∧ p ≠ ']' ∧ p ≠ '\x7d' ∧ p ≠ '\ufeff'

/-- No two surrogates of the text can be taken for a pair. -/
def SafeText (style : Style) (t : Text) : Prop :=
  style.asciiOnly = false ∨ t.IsUnpaired

/-- The text of an atom is read as another atom, whatever stands behind it. -/
structure AtomReads (style : Style) (a b : Atom) : Prop where
  starts : Starts (writeAtom style a)
  reads : ∀ fuel rest, EndsNumber rest →
    readValue none (fuel + 1) (writeAtom style a ++ rest) = .ok (.atom b, rest)

inductive Legible (style : Style) (f : Atom → Atom) : Data → Prop
  | atom {a : Atom} (reads : AtomReads style a (f a)) : Legible style f (.atom a)
  | list {items : List Data} (each : ∀ d ∈ items, Legible style f d) : Legible style f (.list items)
  | map {entries : List (Atom × Data)}
      (keys : ∀ e ∈ entries, ∃ t, e.1 = .scalar (.text t) ∧ SafeText style t)
      (distinct : (entries.map Prod.fst).Nodup) (each : ∀ e ∈ entries, Legible style f e.2) :
      Legible style f (.map entries)

variable {style : Style} {f : Atom → Atom} {d : Data} {items : List Data}
  {entries : List (Atom × Data)} {ps rest : List CodePoint} {p : CodePoint} {fuel : Nat}

/-- The text of data is read as the data with other atoms. -/
structure ReadsBack (style : Style) (f : Atom → Atom) (d : Data) : Prop where
  starts : Starts (write style d)
  reads : ∀ fuel rest, 2 * (write style d).length ≤ fuel → EndsNumber rest →
    readValue none fuel (write style d ++ rest) = .ok (d.mapAtoms f, rest)

/-! ### Space -/

theorem starts_append (starts : Starts ps) (rest : List CodePoint) : Starts (ps ++ rest) := by
  obtain ⟨p, more, rfl, others⟩ := starts
  exact ⟨p, more ++ rest, rfl, others⟩

theorem skipSpace_of_starts (starts : Starts ps) : skipSpace ps = ps := by
  obtain ⟨p, more, rfl, solid, _⟩ := starts
  exact List.dropWhile_cons_of_neg (by simp [solid])

theorem skipSpace_spaces {spaces : List CodePoint} (blank : ∀ p ∈ spaces, isSpace p = true)
    (starts : Starts ps) : skipSpace (spaces ++ ps) = ps :=
  (List.dropWhile_append_of_pos blank).trans (skipSpace_of_starts starts)

theorem endsNumber_cons (digit : isDigit p = false) (point : p ≠ '.') (small : p ≠ 'e')
    (capital : p ≠ 'E') (rest : List CodePoint) : EndsNumber (p :: rest) := by
  intro q head
  obtain rfl := Option.some.inj head
  exact ⟨digit, point, small, capital⟩

/-! ### Items -/

theorem intercalate_cons_cons (between a b : List CodePoint) (more : List (List CodePoint)) :
    between.intercalate (a :: b :: more) = a ++ between ++ between.intercalate (b :: more) := by
  simp [List.intercalate]

theorem starts_intercalate {a : List CodePoint} (starts : Starts a) (between : List CodePoint)
    (more : List (List CodePoint)) : Starts (between.intercalate (a :: more)) := by
  cases more with
  | nil => simpa [List.intercalate] using starts
  | cons b more =>
    rw [intercalate_cons_cons, List.append_assoc]
    exact starts_append starts _

theorem readItems_write (standard : style.Standard) (nonempty : items ≠ [])
    (each : ∀ d ∈ items, ReadsBack style f d)
    (enough : 2 * (style.comma.intercalate (writeItems style items)).length + 1 ≤ fuel) :
    readItems none fuel (style.comma.intercalate (writeItems style items) ++ .char ']' :: rest) =
      .ok (Data.mapItems f items, rest) := by
  -- Each item costs one step, and the comma behind it has two to spare.
  obtain ⟨fuel, rfl⟩ : ∃ n, fuel = n + 1 := ⟨fuel - 1, by omega⟩
  induction items generalizing fuel with
  | nil => exact absurd rfl nonempty
  | cons d ds ih =>
    have first := each d List.mem_cons_self
    cases ds with
    | nil =>
      have single : style.comma.intercalate (writeItems style [d]) = write style d := by
        simp [List.intercalate, writeItems]
      rw [single] at enough ⊢
      have ends : EndsNumber (.char ']' :: rest) :=
        endsNumber_cons rfl (by decide) (by decide) (by decide) rest
      rw [readItems, first.reads fuel _ (by omega) ends]
      rfl
    | cons d' ds =>
      have others := fun d member => each d (List.mem_cons_of_mem _ member)
      obtain ⟨spaces, comma, blank⟩ := standard.comma
      have text : style.comma.intercalate (writeItems style (d :: d' :: ds)) =
          write style d ++ .char ',' :: (spaces ++
            style.comma.intercalate (writeItems style (d' :: ds))) := by
        rw [writeItems, writeItems, intercalate_cons_cons, comma]
        simp
      rw [text] at enough ⊢
      simp only [List.length_append, List.length_cons] at enough
      have starts : Starts (style.comma.intercalate (writeItems style (d' :: ds))) :=
        starts_intercalate (others d' List.mem_cons_self).starts _ _
      have ends (more : List CodePoint) : EndsNumber (.char ',' :: more) :=
        endsNumber_cons rfl (by decide) (by decide) (by decide) more
      obtain ⟨fuel, rfl⟩ : ∃ n, fuel = n + 1 := ⟨fuel - 1, by omega⟩
      have more := ih (by simp) others fuel (by omega)
      rw [List.append_assoc, List.cons_append, List.append_assoc, readItems,
        first.reads (fuel + 1) _ (by omega) (ends _)]
      show ((readItems none (fuel + 1) (skipSpace (spaces ++
        (style.comma.intercalate (writeItems style (d' :: ds)) ++ .char ']' :: rest)))).bind
          fun r => .ok (d.mapAtoms f :: r.1, r.2) : Except Fault (List Data × List CodePoint)) = _
      rw [skipSpace_spaces blank (starts_append starts _), more]
      rfl

/-! ### Members -/

/-- The text of a member. -/
def writeMember (style : Style) (t : Text) (d : Data) : List CodePoint :=
  writeText style t ++ style.colon ++ write style d

theorem starts_writeMember (style : Style) (t : Text) (d : Data) :
    Starts (writeMember style t d) :=
  ⟨'"', _, rfl, rfl, by decide, by decide, by decide⟩

/-- What is read of a member, and of what follows it. -/
theorem readMembers_member (standard : style.Standard) {t : Text} (safe : SafeText style t)
    (back : ReadsBack style f d) (enough : 2 * (writeMember style t d).length ≤ fuel)
    (ends : EndsNumber rest) :
    readMembers none (fuel + 1) (writeMember style t d ++ rest) =
      match skipSpace rest with
      | '\x7d' :: after => .ok ([(.scalar (.text t), d.mapAtoms f)], after)
      | ',' :: more => (readMembers none fuel (skipSpace more)).bind fun r =>
          .ok ((.scalar (.text t), d.mapAtoms f) :: r.1, r.2)
      | _ => fail .comma := by
  obtain ⟨spaces, colon, blank⟩ := standard.colon
  have text : writeMember style t d ++ rest = .char '"' :: (t.points.flatMap (writePoint style) ++
      .char '"' :: (.char ':' :: (spaces ++ (write style d ++ rest)))) := by
    unfold writeMember writeText
    rw [colon]
    simp
  have size : (write style d).length ≤ (writeMember style t d).length := by
    unfold writeMember
    simp only [List.length_append]
    omega
  have value : readValue none fuel (skipSpace (spaces ++ (write style d ++ rest))) =
      .ok (d.mapAtoms f, rest) := by
    rw [skipSpace_spaces blank (starts_append back.starts rest)]
    exact back.reads fuel rest (by omega) ends
  rw [text, readMembers, readText_points safe]
  show (readValue none fuel (skipSpace (spaces ++ (write style d ++ rest))) >>= _ :
    Except Fault (List (Atom × Data) × List CodePoint)) = _
  rw [value]
  rfl

theorem readMembers_write (standard : style.Standard) (nonempty : entries ≠ [])
    (keys : ∀ e ∈ entries, ∃ t, e.1 = .scalar (.text t) ∧ SafeText style t)
    (each : ∀ e ∈ entries, ReadsBack style f e.2)
    (enough : 2 * (style.comma.intercalate (writeMembers style entries)).length + 1 ≤ fuel) :
    readMembers none fuel (style.comma.intercalate (writeMembers style entries) ++ .char '\x7d' :: rest) =
      .ok (Data.mapMembers f entries, rest) := by
  obtain ⟨fuel, rfl⟩ : ∃ n, fuel = n + 1 := ⟨fuel - 1, by omega⟩
  induction entries generalizing fuel with
  | nil => exact absurd rfl nonempty
  | cons e es ih =>
    obtain ⟨k, d⟩ := e
    obtain ⟨t, rfl, safe⟩ := keys _ List.mem_cons_self
    have first : ReadsBack style f d := each _ List.mem_cons_self
    cases es with
    | nil =>
      have single : style.comma.intercalate (writeMembers style [(.scalar (.text t), d)]) =
          writeMember style t d := by
        simp [List.intercalate, writeMembers, writeMember, writeKey]
      rw [single] at enough ⊢
      have ends : EndsNumber (.char '\x7d' :: rest) :=
        endsNumber_cons rfl (by decide) (by decide) (by decide) rest
      rw [readMembers_member standard safe first (by omega) ends]
      rfl
    | cons e' es =>
      have otherKeys := fun e member => keys e (List.mem_cons_of_mem _ member)
      have others := fun e member => each e (List.mem_cons_of_mem _ member)
      obtain ⟨spaces, comma, blank⟩ := standard.comma
      have text : style.comma.intercalate
          (writeMembers style ((.scalar (.text t), d) :: e' :: es)) =
          writeMember style t d ++ .char ',' :: (spaces ++
            style.comma.intercalate (writeMembers style (e' :: es))) := by
        obtain ⟨k', d'⟩ := e'
        rw [writeMembers, writeMembers, intercalate_cons_cons, comma]
        simp [writeMember, writeKey]
      rw [text] at enough ⊢
      simp only [List.length_append, List.length_cons] at enough
      have starts : Starts (style.comma.intercalate (writeMembers style (e' :: es))) := by
        obtain ⟨k', d'⟩ := e'
        obtain ⟨t', rfl, _⟩ := otherKeys _ List.mem_cons_self
        exact starts_intercalate (starts_writeMember style t' d') _ _
      have ends (more : List CodePoint) : EndsNumber (.char ',' :: more) :=
        endsNumber_cons rfl (by decide) (by decide) (by decide) more
      obtain ⟨fuel, rfl⟩ : ∃ n, fuel = n + 1 := ⟨fuel - 1, by omega⟩
      have more := ih (by simp) otherKeys others fuel (by omega)
      rw [List.append_assoc, List.cons_append, List.append_assoc,
        readMembers_member standard safe first (by omega) (ends _)]
      show (readMembers none (fuel + 1) (skipSpace (spaces ++
        (style.comma.intercalate (writeMembers style (e' :: es)) ++ .char '\x7d' :: rest)))).bind
          _ = _
      rw [skipSpace_spaces blank (starts_append starts _), more]
      rfl

/-! ### Data -/

theorem mapMembers_keys (f : Atom → Atom) (entries : List (Atom × Data)) :
    (Data.mapMembers f entries).map Prod.fst = entries.map Prod.fst := by
  induction entries with
  | nil => rfl
  | cons e es ih =>
    rw [Data.mapMembers, List.map_cons, List.map_cons, ih]

theorem readValue_list (starts : Starts ps) (fuel : Nat) :
    readValue none (fuel + 1) (.char '[' :: ps) = lift .list (readItems none fuel ps) := by
  have space := skipSpace_of_starts starts
  obtain ⟨p, more, rfl, _, bracket, _⟩ := starts
  rw [readValue]
  dsimp only [enter]
  rw [space]
  split
  · rename_i same
    exact absurd (List.cons.inj same).1 bracket
  · rfl

theorem readValue_map (starts : Starts ps) (fuel : Nat) :
    readValue none (fuel + 1) (.char '\x7b' :: ps) =
      lift (fun members => .map (Entries.ofPairs members)) (readMembers none fuel ps) := by
  have space := skipSpace_of_starts starts
  obtain ⟨p, more, rfl, _, _, brace, _⟩ := starts
  rw [readValue]
  dsimp only [enter]
  rw [space]
  split
  · rename_i same
    exact absurd (List.cons.inj same).1 brace
  · rfl

theorem readsBack_of_legible (standard : style.Standard) (legible : Legible style f d) :
    ReadsBack style f d := by
  induction legible with
  | atom reads =>
    refine ⟨reads.starts, fun fuel rest enough ends => ?_⟩
    obtain ⟨p, more, text, _⟩ := reads.starts
    rw [write, text, List.length_cons] at enough
    obtain ⟨fuel, rfl⟩ : ∃ n, fuel = n + 1 := ⟨fuel - 1, by omega⟩
    exact reads.reads fuel rest ends
  | @list items _ ih =>
    refine ⟨⟨'[', _, rfl, rfl, by decide, by decide, by decide⟩, fun fuel rest enough _ => ?_⟩
    have text : write style (.list items) ++ rest =
        .char '[' :: (style.comma.intercalate (writeItems style items) ++ .char ']' :: rest) := by
      rw [write]
      simp
    rw [write] at enough
    simp only [List.length_append, List.length_cons, List.length_nil] at enough
    obtain ⟨fuel, rfl⟩ : ∃ n, fuel = n + 1 := ⟨fuel - 1, by omega⟩
    rw [text]
    cases items with
    | nil => rfl
    | cons d ds =>
      have starts : Starts (style.comma.intercalate (writeItems style (d :: ds))) :=
        starts_intercalate (ih d List.mem_cons_self).starts _ _
      have items : readItems none fuel (style.comma.intercalate (writeItems style (d :: ds)) ++
          .char ']' :: rest) = .ok (Data.mapItems f (d :: ds), rest) :=
        readItems_write standard (List.cons_ne_nil d ds) ih (by omega)
      rw [readValue_list (starts_append starts _), items]
      rfl
  | @map entries keys distinct _ ih =>
    refine ⟨⟨'\x7b', _, rfl, rfl, by decide, by decide, by decide⟩, fun fuel rest enough _ => ?_⟩
    have text : write style (.map entries) ++ rest = .char '\x7b' ::
        (style.comma.intercalate (writeMembers style entries) ++ .char '\x7d' :: rest) := by
      rw [write]
      simp
    rw [write] at enough
    simp only [List.length_append, List.length_cons, List.length_nil] at enough
    obtain ⟨fuel, rfl⟩ : ∃ n, fuel = n + 1 := ⟨fuel - 1, by omega⟩
    rw [text]
    cases entries with
    | nil => rfl
    | cons e es =>
      obtain ⟨t, key, _⟩ := keys e List.mem_cons_self
      have starts : Starts (style.comma.intercalate (writeMembers style (e :: es))) := by
        obtain ⟨k, d⟩ := e
        obtain rfl : k = .scalar (.text t) := key
        exact starts_intercalate (starts_writeMember style t d) _ _
      have members : readMembers none fuel (style.comma.intercalate (writeMembers style (e :: es)) ++
          .char '\x7d' :: rest) = .ok (Data.mapMembers f (e :: es), rest) :=
        readMembers_write standard (List.cons_ne_nil e es) keys ih (by omega)
      have unchanged :
          Entries.ofPairs (Data.mapMembers f (e :: es)) = Data.mapMembers f (e :: es) := by
        refine Entries.ofPairs_of_nodup ?_
        rw [mapMembers_keys]
        exact distinct
      rw [readValue_map (starts_append starts _), members]
      show Except.ok (Data.map (Entries.ofPairs (Data.mapMembers f (e :: es))), rest) = _
      rw [unchanged]
      rfl

/-- Data is read from its text, with the atoms that its atoms are read as. -/
theorem readPoints_write (standard : style.Standard) (legible : Legible style f d) :
    readPoints (write style d) = .ok (d.mapAtoms f) := by
  have back := readsBack_of_legible standard legible
  have ends : EndsNumber [] := by
    rintro p ⟨⟩
  have read := back.reads (2 * (write style d).length + 2) [] (by omega) ends
  rw [List.append_nil] at read
  unfold readPoints readPointsWithin
  rw [skipSpace_of_starts back.starts, read]
  rfl

theorem read_write (standard : style.Standard) (legible : Legible style f d) :
    read ⟨write style d⟩ = .ok (d.mapAtoms f) := by
  obtain ⟨p, rest, text, _, _, _, mark⟩ := (readsBack_of_legible standard legible).starts
  have points := readPoints_write standard legible
  unfold read readWithin
  rw [text] at points ⊢
  split
  · rename_i marked
    exact absurd (List.cons.inj marked).1 mark
  · exact points

end Json

end Screening
