import Mathlib.Data.List.Forall2
import Screening.Proofs.Text.Characters
import Screening.Schema.Scalar

/-!
# When checks pass

A combined check passes exactly when its parts do, and gives what is made of their values. A name or
a choice passes as the text that it is: `name_ok_iff` and `oneOf_ok_iff`.
-/

namespace Screening

theorem Data.text_inj {s t : Text} (same : Data.text s = Data.text t) : s = t := by
  cases same
  rfl

namespace Checked

variable {α β : Type} {c : Checked α} {f : α → β} {a : α} {b : β}

theorem map_ok_iff : f <$> c = .ok b ↔ ∃ a, c = .ok a ∧ f a = b := by
  cases c with
  | ok a =>
    constructor
    · intro h
      exact ⟨a, rfl, Checked.ok.inj h⟩
    · rintro ⟨_, same, rfl⟩
      obtain rfl := Checked.ok.inj same
      rfl
  | faulty fs =>
    constructor
    · intro h
      cases h
    · rintro ⟨_, passed, _⟩
      cases passed

theorem seq_ok_iff {g : Checked (α → β)} :
    g <*> c = .ok b ↔ ∃ f a, g = .ok f ∧ c = .ok a ∧ f a = b := by
  cases g with
  | ok f =>
    have mapped : ((.ok f : Checked (α → β)) <*> c) = f <$> c := rfl
    rw [mapped, map_ok_iff]
    constructor
    · rintro ⟨a, passed, made⟩
      exact ⟨f, a, rfl, passed, made⟩
    · rintro ⟨_, a, same, passed, made⟩
      obtain rfl := Checked.ok.inj same
      exact ⟨a, passed, made⟩
  | faulty fs =>
    constructor
    · intro h
      cases c <;> cases h
    · rintro ⟨_, _, passed, _⟩
      cases passed

theorem under_ok_iff {step : Step} : c.under step = .ok a ↔ c = .ok a := by
  cases c <;> simp [under]

theorem andThen_ok_iff {next : α → Checked β} :
    c.andThen next = .ok b ↔ ∃ a, c = .ok a ∧ next a = .ok b := by
  cases c <;> simp [andThen]

end Checked

namespace Check

variable {α : Type} {check : Check α} {entries : List (Atom × Data)} {name : String} {a : α}
  {d : Data}

theorem required_ok_iff : required entries name check = .ok a ↔
    ∃ d, Data.field? entries name = some d ∧ check d = .ok a := by
  unfold required
  rw [Checked.under_ok_iff]
  cases Data.field? entries name <;> simp [Checked.fail]

theorem optional_ok_iff {default : α} : optional entries name default check = .ok a ↔
    match Data.field? entries name with
    | some d => check d = .ok a
    | none => default = a := by
  unfold optional
  cases Data.field? entries name <;> simp [Checked.under_ok_iff]

theorem itemsFrom_ok_iff {n : Nat} {items : List Data} {as : List α} :
    itemsFrom check n items = .ok as ↔ List.Forall₂ (fun d a => check d = .ok a) items as := by
  induction items generalizing n as with
  | nil =>
    rw [List.forall₂_nil_left_iff, itemsFrom, Checked.ok.injEq, eq_comm]
  | cons d ds ih =>
    rw [itemsFrom, Checked.seq_ok_iff, List.forall₂_cons_left_iff]
    constructor
    · rintro ⟨_, as', first, others, rfl⟩
      obtain ⟨a, passed, rfl⟩ := Checked.map_ok_iff.mp first
      exact ⟨a, as', Checked.under_ok_iff.mp passed, ih.mp others, rfl⟩
    · rintro ⟨a, as', passed, others, rfl⟩
      have first : List.cons <$> (check d).under (.index n) = .ok (List.cons a) :=
        Checked.map_ok_iff.mpr ⟨a, Checked.under_ok_iff.mpr passed, rfl⟩
      exact ⟨_, as', first, ih.mpr others, rfl⟩

/-- What is written, unless in bytes, is a text of characters. -/
theorem written_ok_iff {garbled other : Cause} {read : List Char → Except Cause α}
    (spelled : ∀ bs, d ≠ .atom (.bytes bs)) :
    written garbled other read d = .ok a ↔ ∃ cs, d = .text (.ofChars cs) ∧ read cs = .ok a := by
  by_cases isText : ∃ t, d = .text t
  · obtain ⟨t, rfl⟩ := isText
    unfold written
    cases chars : t.chars? with
    | none =>
      have garbledText : writing? garbled (.text t) = some (.error .stringUnicode) := by
        simp only [writing?, Data.text, Data.scalar, chars]
      rw [garbledText]
      constructor
      · intro h
        cases h
      · rintro ⟨cs, same, _⟩
        rw [Data.text_inj same, Text.chars?_eq_some.mpr rfl] at chars
        cases chars
    | some cs =>
      have characters : writing? garbled (.text t) = some (.ok cs) := by
        simp only [writing?, Data.text, Data.scalar, chars]
      obtain rfl := Text.chars?_eq_some.mp chars
      rw [characters]
      constructor
      · intro h
        dsimp only at h
        split at h
        · rename_i b read
          obtain rfl := Checked.ok.inj h
          exact ⟨cs, rfl, read⟩
        · cases h
      · rintro ⟨ds, same, read⟩
        rw [Data.text_inj same, Text.chars?_eq_some.mpr rfl] at chars
        obtain rfl := Option.some.inj chars
        dsimp only
        rw [read]
  · have silent : writing? garbled d = none := by
      cases d with
      | atom a =>
        cases a with
        | bytes bs => exact absurd rfl (spelled bs)
        | scalar s =>
          cases s with
          | text t => exact absurd ⟨t, rfl⟩ isText
          | _ => rfl
        | _ => rfl
      | _ => rfl
    unfold written
    rw [silent]
    constructor
    · intro h
      cases h
    · rintro ⟨cs, same, _⟩
      exact absurd ⟨_, same⟩ isText

theorem name_ok_iff {n : { t : Text // t.IsName }} (spelled : ∀ bs, d ≠ .atom (.bytes bs)) :
    Check.name d = .ok n ↔ d = .text n.1 := by
  unfold Check.name
  rw [written_ok_iff spelled]
  constructor
  · rintro ⟨cs, rfl, read⟩
    split at read
    · obtain rfl := Except.ok.inj read
      rfl
    · cases read
  · rintro rfl
    obtain ⟨cs, chars⟩ := Text.isWhole_iff.mp n.2.2
    refine ⟨cs, by rw [chars], ?_⟩
    have named : (Text.ofChars cs).IsName := chars ▸ n.2
    rw [dif_pos named]
    exact congrArg Except.ok (Subtype.ext chars.symm)

theorem oneOf_ok_iff {ofName? : String → Option α} (spelled : ∀ bs, d ≠ .atom (.bytes bs)) :
    oneOf ofName? d = .ok a ↔ ∃ s : String, d = .text s ∧ ofName? s = some a := by
  unfold oneOf
  rw [written_ok_iff spelled]
  constructor
  · rintro ⟨cs, rfl, read⟩
    split at read
    · rename_i b named
      obtain rfl := Except.ok.inj read
      exact ⟨String.ofList cs, by rw [Text.ofString, String.toList_ofList], named⟩
    · cases read
  · rintro ⟨s, rfl, named⟩
    refine ⟨s.toList, rfl, ?_⟩
    rw [String.ofList_toList, named]

end Check

end Screening
