import Screening.Proofs.Expr.Structure
import Screening.Proofs.Json.Extent
import Screening.Expr.Reader

/-!
# How reading an expression fails

Besides the refusals that say why a document is no expression there are three other failures, which
`Strays` lists: bytes that are no text, an integer that is too long to be read, and a problem whose
message shows an integer that is too long to be written. They are the only ones, and none is met
where bytes are a text and integers are short: `read_fails`.
-/

namespace Screening.Expr

open Json

variable {d : Data} {entries : List (Atom × Data)} {kind : Kind} {problem : Problem} {err : ReadError}

/-! ### Problems of short data can be told -/

theorem isShort_of_field? {name : Text} (short : (Data.map entries).isShort = true)
    (found : Data.field? entries name = some d) : d.isShort = true :=
  (Data.entriesAreShort_iff.mp short _ (Entries.mem_of_get? found)).2

theorem isTellable_ofComparison? (found : Problem.ofComparison? entries = some problem) :
    problem.isTellable = true := by
  unfold Problem.ofComparison? at found
  split_ifs at found <;> obtain rfl := Option.some.inj found <;> rfl

/-- A problem under `conditions` is one of the node itself, or that of a condition. -/
theorem ofEntries?_eq_some (found : Problem.ofEntries? kind entries = some problem) :
    problem.isTellable = true ∨ ∃ cs, Data.field? entries "conditions" = some (.list cs) ∧
      ∃ c ∈ cs, Problem.find? c = some problem := by
  rw [Problem.ofEntries?_eq] at found
  split at found
  · rename_i conditions field
    cases conditions with
    | list cs =>
      rw [Problem.ofConditions?] at found
      split at found
      · obtain rfl := Option.some.inj found
        exact Or.inl rfl
      · obtain ⟨before, c, after, rfl, own, _⟩ := Problem.firstOf?_eq_some.mp found
        exact Or.inr ⟨_, field, c, List.mem_append_right _ List.mem_cons_self, own⟩
    | atom a =>
      obtain rfl : Problem.noConditions = problem := Option.some.inj found
      exact Or.inl rfl
    | map es =>
      obtain rfl : Problem.noConditions = problem := Option.some.inj found
      exact Or.inl rfl
  · obtain rfl := Option.some.inj found
    exact Or.inl rfl

theorem isTellable_of_find? (short : d.isShort = true) (found : Problem.find? d = some problem) :
    problem.isTellable = true := by
  induction d using byConditions with
  | node d ih =>
    unfold Problem.find? at found
    split at found
    · rename_i entries
      split at found
      · obtain rfl := Option.some.inj found
        rfl
      · rename_i type field
        split at found
        · obtain rfl := Option.some.inj found
          rfl
        · split at found
          · obtain rfl := Option.some.inj found
            exact isShort_of_field? short field
          · exact isTellable_ofComparison? found
          · rcases ofEntries?_eq_some found with own | ⟨cs, conditions, c, member, inner⟩
            · exact own
            · have listed : conditions? false entries = some cs := by
                unfold conditions?
                rw [conditions]
              have each := Data.areShort_iff.mp (isShort_of_field? short conditions)
              exact ih false entries cs rfl listed c member (each c member) inner
    · obtain rfl := Option.some.inj found
      rfl

/-! ### Failures -/

/-- The failures in which a document is not said to be no expression. -/
inductive Strays : Data → ReadError → Prop
  | undecodable {bs : List UInt8} {fault : Text.DecodeFault} (garbled : Text.decode bs = .error fault) :
      Strays (.atom (.bytes bs)) (.undecodable fault)
  | oversized {t : Text} {n : Nat} (long : Json.read t = .error (.oversized n)) :
      Strays (.text t) (.oversized n)
  | oversizedBytes {bs : List UInt8} {ps : List CodePoint} {n : Nat} (text : Text.decode bs = .ok ps)
      (long : readPoints ps = .error (.oversized n)) : Strays (.atom (.bytes bs)) (.oversized n)
  | untellable {d type : Data} (noText : ∀ t, d ≠ .text t) (noBytes : ∀ bs, d ≠ .atom (.bytes bs))
      (unknown : Problem.find? d = some (.unknown type)) (long : type.isShort = false) :
      Strays d .untellable

/-- Text and bytes without a run of digits that is too long, and data of short integers. -/
inductive IsOrdinary : Data → Prop
  | text {t : Text} (short : ∀ n, ¬HasLongRun n t.points) : IsOrdinary (.text t)
  | bytes {bs : List UInt8} {ps : List CodePoint} (text : Text.decode bs = .ok ps)
      (short : ∀ n, ¬HasLongRun n ps) : IsOrdinary (.atom (.bytes bs))
  | data {d : Data} (noText : ∀ t, d ≠ .text t) (noBytes : ∀ bs, d ≠ .atom (.bytes bs))
      (short : d.isShort = true) : IsOrdinary d

theorem ofData_error (failed : ofData d = .error err) : (∃ why, err = .invalid why) ∨
    err = .untellable ∧ ∃ type, Problem.find? d = some (.unknown type) ∧ type.isShort = false := by
  unfold ofData at failed
  split at failed
  · rename_i problem found
    obtain rfl := Except.error.inj failed
    split
    · exact Or.inl ⟨_, rfl⟩
    · rename_i long
      cases problem with
      | unknown type => exact Or.inr ⟨rfl, type, found, eq_false_of_ne_true long⟩
      | _ => exact absurd rfl long
  · split at failed
    · cases failed
    · obtain rfl := Except.error.inj failed
      exact Or.inl ⟨_, rfl⟩
    · obtain rfl := Except.error.inj failed
      exact Or.inl ⟨_, rfl⟩

theorem ofData_error_of_isShort (short : d.isShort = true) (failed : ofData d = .error err) :
    ∃ why, err = .invalid why := by
  rcases ofData_error failed with refused | ⟨_, type, unknown, long⟩
  · exact refused
  · have told : type.isShort = true := isTellable_of_find? short unknown
    rw [told] at long
    cases long

theorem read_text (t : Text) : read (.text t) = ofJson (Json.read t) :=
  rfl

theorem read_bytes {bs : List UInt8} {ps : List CodePoint} (text : Text.decode bs = .ok ps) :
    read (.atom (.bytes bs)) = ofJson (readPoints ps) := by
  simp only [read, text]

theorem read_garbled {bs : List UInt8} {fault : Text.DecodeFault}
    (garbled : Text.decode bs = .error fault) :
    read (.atom (.bytes bs)) = .error (.undecodable fault) := by
  simp only [read, garbled]

theorem read_data (noText : ∀ t, d ≠ .text t) (noBytes : ∀ bs, d ≠ .atom (.bytes bs)) :
    read d = ofData d := by
  unfold read
  split
  · exact absurd rfl (noText _)
  · exact absurd rfl (noBytes _)
  · rfl

theorem ofJson_error {document : Except Json.Fault Data} {ps : List CodePoint}
    (sound : SoundDocument False none ps document) (failed : ofJson document = .error err) :
    (∃ why, err = .invalid why) ∨ ∃ n, document = .error (.oversized n) ∧ err = .oversized n := by
  match document, sound with
  | .ok d, made => exact Or.inl (ofData_error_of_isShort (isShort_of_made made) failed)
  | .error (.malformed reason), _ =>
    obtain rfl := Except.error.inj failed
    exact Or.inl ⟨_, rfl⟩
  | .error (.oversized n), _ =>
    obtain rfl := Except.error.inj failed
    exact Or.inr ⟨n, rfl, rfl⟩
  | .error (.nested _), crowded => exact absurd (roomy_none ps) crowded

theorem strays_of_error (failed : read d = .error err) :
    (∃ why, err = .invalid why) ∨ Strays d err := by
  unfold read at failed
  split at failed
  · rename_i t
    refine (ofJson_error (read_sound (clean_false _)) failed).imp_right ?_
    rintro ⟨n, long, rfl⟩
    exact .oversized long
  · rename_i bs
    split at failed
    · rename_i ps text
      refine (ofJson_error (readPoints_sound (clean_false ps)) failed).imp_right ?_
      rintro ⟨n, long, rfl⟩
      exact .oversizedBytes text long
    · rename_i fault garbled
      obtain rfl := Except.error.inj failed
      exact Or.inr (.undecodable garbled)
  · rename_i noText noBytes
    refine (ofData_error failed).imp_right ?_
    rintro ⟨rfl, type, unknown, long⟩
    exact .untellable noText noBytes unknown long

theorem Strays.read (strays : Strays d err) :
    read d = .error err ∧ ∀ why, err ≠ .invalid why := by
  cases strays with
  | undecodable garbled => exact ⟨read_garbled garbled, by rintro why ⟨⟩⟩
  | oversized long =>
    refine ⟨?_, by rintro why ⟨⟩⟩
    rw [read_text, long]
    rfl
  | oversizedBytes text long =>
    refine ⟨?_, by rintro why ⟨⟩⟩
    rw [read_bytes text, long]
    rfl
  | @untellable _ type noText noBytes unknown long =>
    refine ⟨?_, by rintro why ⟨⟩⟩
    have untold : (Problem.unknown type).isTellable = false := long
    rw [read_data noText noBytes]
    unfold ofData
    rw [unknown]
    dsimp only
    rw [untold, if_neg Bool.false_ne_true]

theorem IsOrdinary.not_strays (ordinary : IsOrdinary d) : ¬Strays d err := by
  intro strays
  cases strays with
  | undecodable garbled =>
    cases ordinary with
    | bytes text _ => rw [garbled] at text; cases text
    | data _ noBytes _ => exact noBytes _ rfl
  | oversized long =>
    cases ordinary with
    | text short => exact short _ (hasLongRun_of_read long)
    | data noText _ _ => exact noText _ rfl
  | oversizedBytes text long =>
    cases ordinary with
    | bytes text' short =>
      obtain rfl := Except.ok.inj (text.symm.trans text')
      exact short _ (hasLongRun_of_readPoints long)
    | data _ noBytes _ => exact noBytes _ rfl
  | @untellable _ type noText noBytes unknown long =>
    cases ordinary with
    | text _ => exact noText _ rfl
    | bytes _ _ => exact noBytes _ rfl
    | data _ _ short =>
      have told : type.isShort = true := isTellable_of_find? short unknown
      rw [told] at long
      cases long

/-- A document is an expression or refused as none just when it does not stray in one of the listed
ways, in which it fails otherwise; an ordinary one does not stray. -/
theorem read_fails (d : Data) :
    (((∃ e, read d = .ok e) ∨ ∃ why, read d = .error (.invalid why)) ↔ ∀ err, ¬Strays d err) ∧
    (∀ err, Strays d err → read d = .error err ∧ ∀ why, err ≠ .invalid why) ∧
    (IsOrdinary d → ∀ err, ¬Strays d err) := by
  refine ⟨⟨?_, fun stays => ?_⟩, fun err strays => strays.read, fun ordinary err =>
    ordinary.not_strays⟩
  · rintro documented err strays
    obtain ⟨failed, other⟩ := strays.read
    rcases documented with ⟨e, accepted⟩ | ⟨why, refused⟩
    · rw [failed] at accepted
      cases accepted
    · rw [failed] at refused
      exact other why (Except.error.inj refused)
  · cases outcome : read d with
    | ok e => exact Or.inl ⟨e, rfl⟩
    | error err =>
      rcases strays_of_error outcome with ⟨why, rfl⟩ | strays
      · exact Or.inr ⟨why, rfl⟩
      · exact absurd strays (stays err)

theorem decode_garbled : Text.decode [0xFF] = .error ⟨.utf8, 0, 1, 0xFF, .invalidStart⟩ := by
  rfl

/-- A byte that starts no character is told apart from a text that is an empty list. -/
theorem read_fails_brackets :
    IsOrdinary (.text "[]") ∧ (∀ err, ¬Strays (.text "[]") err) ∧
    Strays (.atom (.bytes [0xFF])) (.undecodable ⟨.utf8, 0, 1, 0xFF, .invalidStart⟩) ∧
    read (.atom (.bytes [0xFF])) = .error (.undecodable ⟨.utf8, 0, 1, 0xFF, .invalidStart⟩) := by
  have ordinary : IsOrdinary (.text "[]") :=
    .text fun n => not_hasLongRun (by decide)
  have strays := Strays.undecodable decode_garbled
  exact ⟨ordinary, (read_fails _).2.2 ordinary, strays, ((read_fails _).2.1 _ strays).1⟩

/-- So not every document is an expression or refused as none. -/
theorem garbled_byte_strays :
    ¬∀ d, (∃ e, read d = .ok e) ∨ ∃ why, read d = .error (.invalid why) := by
  intro documented
  rcases documented (.atom (.bytes [0xFF])) with ⟨e, accepted⟩ | ⟨why, refused⟩
  · rw [read_garbled decode_garbled] at accepted
    cases accepted
  · rw [read_garbled decode_garbled] at refused
    cases refused

end Screening.Expr
