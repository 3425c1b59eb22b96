import Screening.Proofs.Acceptance
import Screening.Proofs.Text.Characters

/-!
# Which requests are refused

`Breach` lists the rules that settings make for requests. A request has problems just when it breaks
one of them, and a session that checks requests refuses it then and only then:
`refused_iff_breach`. Settings that are looser, and a list with fewer companies, break no rule that
was kept before.
-/

namespace Screening

/-- The filter is absent, or there is nothing but blanks in it. -/
def IsBlank (filter : Option Text) : Prop :=
  ∀ t, filter = some t → ∀ p ∈ t.points, ∃ c, p = .char c ∧ Text.isBlank c = true

/-- The selection names neither a portfolio nor a company. -/
def Subject.NamesNothing (subject : Subject) : Prop :=
  (∀ id, subject.portfolioId = some id → id = "") ∧ subject.companyIds = []

inductive SubjectBreach (s : RequestSettings) (subject : Subject) : Prop
  | noCompanies (mode : subject.mode = "companies") (empty : subject.companyIds = [])
  | repeatedCompanies (mode : subject.mode = "companies") (again : ¬subject.companyIds.Nodup)
  | tooManyCompanies (mode : subject.mode = "companies") (most : Nat)
    (cap : s.maxCompanies = some most) (more : most < subject.companyIds.length)
  | blankSector (mode : subject.mode = "sector") (blank : IsBlank subject.sector)
  | blankRegion (mode : subject.mode = "region") (blank : IsBlank subject.region)
  | unidentified (mode : subject.mode = "portfolio" ∨ subject.mode = "company")
    (nothing : subject.NamesNothing)

inductive Breach (s : RequestSettings) (today : Date) (r : Request) : Prop
  | inFuture (forbidden : s.allowFuture = false) (later : today < r.asOf)
  | tooEarly (before : r.asOf < s.earliest)
  | subject (breach : SubjectBreach s r.subject)

/-! ### Problems are breaches -/

namespace RequestSettings

variable {s : RequestSettings} {today asOf : Date} {ids : List Text} {subject : Subject}

theorem dateProblem?_ne_none_iff : s.dateProblem? today asOf ≠ none ↔
    (s.allowFuture = false ∧ today < asOf) ∨ asOf < s.earliest := by
  unfold dateProblem?
  by_cases future : s.allowFuture = false ∧ today < asOf
  · simp [future]
  · by_cases early : asOf < s.earliest <;> simp [future, early]

theorem listProblems_ne_nil_iff : s.listProblems ids ≠ [] ↔
    ids = [] ∨ ¬ids.Nodup ∨ ∃ most, s.maxCompanies = some most ∧ most < ids.length := by
  rw [listProblems, ne_eq, List.append_eq_nil_iff, not_and_or, ← or_assoc]
  apply or_congr
  · cases ids with
    | nil => simp
    | cons id rest => by_cases distinct : (id :: rest).Nodup <;> simp [distinct]
  · cases s.maxCompanies <;> simp

theorem isBlankFilter_iff {filter : Option Text} :
    isBlankFilter filter = true ↔ IsBlank filter := by
  have blank (p : CodePoint) :
      p.isChar Text.isBlank = true ↔ ∃ c, p = .char c ∧ Text.isBlank c = true := by
    cases p <;> simp [CodePoint.isChar]
  unfold isBlankFilter IsBlank
  cases filter with
  | none => simp [Text.ofString, Text.ofChars]
  | some t => simp [blank]

theorem namesNothing_iff :
    (subject.portfolioId.getD "" = "" ∧ subject.companyIds = []) ↔ subject.NamesNothing := by
  unfold Subject.NamesNothing
  cases subject.portfolioId <;> simp

theorem breach_of_subjectProblems (problems : s.subjectProblems subject ≠ []) :
    SubjectBreach s subject := by
  unfold subjectProblems at problems
  split at problems
  · rename_i companies
    have mode := Text.string?_eq_some.mp companies
    rcases listProblems_ne_nil_iff.mp problems with empty | again | ⟨most, cap, more⟩
    · exact .noCompanies mode empty
    · exact .repeatedCompanies mode again
    · exact .tooManyCompanies mode most cap more
  · rename_i sector
    apply SubjectBreach.blankSector (Text.string?_eq_some.mp sector)
    apply isBlankFilter_iff.mp
    simpa using problems
  · rename_i region
    apply SubjectBreach.blankRegion (Text.string?_eq_some.mp region)
    apply isBlankFilter_iff.mp
    simpa using problems
  · rename_i portfolio
    apply SubjectBreach.unidentified (.inl (Text.string?_eq_some.mp portfolio))
    apply namesNothing_iff.mp
    simpa using problems
  · rename_i company
    apply SubjectBreach.unidentified (.inr (Text.string?_eq_some.mp company))
    apply namesNothing_iff.mp
    simpa using problems
  · exact absurd rfl problems

theorem subjectProblems_of_breach (breach : SubjectBreach s subject) :
    s.subjectProblems subject ≠ [] := by
  have listed (mode : subject.mode = "companies") :
      s.subjectProblems subject = s.listProblems subject.companyIds := by
    rw [subjectProblems, mode]
    rfl
  cases breach with
  | noCompanies mode empty =>
    rw [listed mode]
    exact listProblems_ne_nil_iff.mpr (.inl empty)
  | repeatedCompanies mode again =>
    rw [listed mode]
    exact listProblems_ne_nil_iff.mpr (.inr (.inl again))
  | tooManyCompanies mode most cap more =>
    rw [listed mode]
    exact listProblems_ne_nil_iff.mpr (.inr (.inr ⟨most, cap, more⟩))
  | blankSector mode blank | blankRegion mode blank =>
    rw [subjectProblems, mode, Text.string?_ofString]
    simp [isBlankFilter_iff.mpr blank]
  | unidentified mode nothing =>
    rcases mode with mode | mode <;>
      · rw [subjectProblems, mode, Text.string?_ofString]
        simp [namesNothing_iff.mpr nothing]

theorem subjectProblems_ne_nil_iff : s.subjectProblems subject ≠ [] ↔ SubjectBreach s subject :=
  ⟨breach_of_subjectProblems, subjectProblems_of_breach⟩

end RequestSettings

namespace Request

variable {s s' : RequestSettings} {today today' : Date} {r : Request} {ids : List Text}

theorem problems_ne_nil_iff (enabled : s.enabled = true) :
    r.problems s today ≠ [] ↔ Breach s today r := by
  rw [problems, if_pos enabled, ne_eq, List.append_eq_nil_iff, not_and_or,
    Option.toList_eq_nil_iff, ← ne_eq, ← ne_eq, RequestSettings.dateProblem?_ne_none_iff,
    RequestSettings.subjectProblems_ne_nil_iff]
  constructor
  · rintro ((⟨forbidden, later⟩ | before) | breach)
    · exact .inFuture forbidden later
    · exact .tooEarly before
    · exact .subject breach
  · intro breach
    cases breach with
    | inFuture forbidden later => exact .inl (.inl ⟨forbidden, later⟩)
    | tooEarly before => exact .inl (.inr before)
    | subject breach => exact .inr breach

theorem problems_eq_nil_iff (enabled : s.enabled = true) :
    r.problems s today = [] ↔ ¬Breach s today r := by
  rw [← problems_ne_nil_iff enabled, ne_eq, Decidable.not_not]

/-! ### Looser settings and shorter lists -/

/-- Whatever day and settings allow is allowed by the later day and the other settings. -/
structure Loosens (s : RequestSettings) (today : Date) (s' : RequestSettings) (today' : Date) :
    Prop where
  today : today ≤ today'
  future : s.allowFuture = true → s'.allowFuture = true
  earliest : s'.earliest ≤ s.earliest
  cap : ∀ most', s'.maxCompanies = some most' → ∃ most, s.maxCompanies = some most ∧ most ≤ most'

theorem Loosens.subjectBreach (loosens : Loosens s today s' today') {subject : Subject}
    (breach : SubjectBreach s' subject) : SubjectBreach s subject := by
  cases breach with
  | noCompanies mode empty => exact .noCompanies mode empty
  | repeatedCompanies mode again => exact .repeatedCompanies mode again
  | tooManyCompanies mode most' cap more =>
    obtain ⟨most, stricter, fewer⟩ := loosens.cap most' cap
    exact .tooManyCompanies mode most stricter (Nat.lt_of_le_of_lt fewer more)
  | blankSector mode blank => exact .blankSector mode blank
  | blankRegion mode blank => exact .blankRegion mode blank
  | unidentified mode nothing => exact .unidentified mode nothing

theorem Loosens.breach (loosens : Loosens s today s' today') (breach : Breach s' today' r) :
    Breach s today r := by
  cases breach with
  | inFuture forbidden later =>
    apply Breach.inFuture
    · cases allowed : s.allowFuture with
      | false => rfl
      | true => rw [loosens.future allowed] at forbidden; cases forbidden
    · exact Nat.lt_of_le_of_lt loosens.today later
  | tooEarly before => exact .tooEarly (Nat.lt_of_lt_of_le before loosens.earliest)
  | subject breach => exact .subject (loosens.subjectBreach breach)

/-- The request for other companies. -/
def forCompanies (r : Request) (ids : List Text) : Request :=
  { r with subject := { r.subject with companyIds := ids } }

theorem breach_of_fewer (mode : r.subject.mode = "companies")
    (fewer : ids.Sublist r.subject.companyIds) (left : ids ≠ [])
    (breach : Breach s today (r.forCompanies ids)) : Breach s today r := by
  cases breach with
  | inFuture forbidden later => exact .inFuture forbidden later
  | tooEarly before => exact .tooEarly before
  | subject breach =>
    apply Breach.subject
    cases breach with
    | noCompanies _ empty => exact absurd empty left
    | repeatedCompanies _ again =>
      exact .repeatedCompanies mode fun distinct => again (distinct.sublist fewer)
    | tooManyCompanies _ most cap more =>
      exact .tooManyCompanies mode most cap (Nat.lt_of_lt_of_le more fewer.length_le)
    | blankSector other _ | blankRegion other _ =>
      exact absurd (mode.symm.trans other) (by decide)
    | unidentified _ nothing => exact absurd nothing.2 left

end Request

/-! ### Refusals -/

/-- The day against which requests are checked, if they are. -/
def RequestGuard.day? (guard : RequestGuard) (today : Date) : Option Date :=
  match guard with
  | .none => Option.none
  | .pinned day => some day
  | .clock => some today

namespace Session

variable {s : Session} {call : Call} {c : Circumstances} {today : Date} {selector : Selector}
  {r : Request}

theorem problems_of_day (checks : s.requestGuard.day? c.today = some today) (r : Request) :
    s.problems r c.today = r.problems s.settings.requests today := by
  unfold problems
  unfold RequestGuard.day? at checks
  split <;> simp_all

theorem receive_of_nil (checks : s.requestGuard.day? c.today = some today)
    (read : call.read s.manual c.today c.correlationId = .ok (selector, r))
    (allowed : r.problems s.settings.requests today = []) :
    (s.receive call c).2 = .ok (selector, r) := by
  simp only [receive_outcome, read, Except.bind, problems_of_day checks, allowed]

theorem receive_of_problems (checks : s.requestGuard.day? c.today = some today)
    (read : call.read s.manual c.today c.correlationId = .ok (selector, r))
    (problems : r.problems s.settings.requests today ≠ []) :
    (s.receive call c).2 =
      .error (.badRequest (Request.problemText (r.problems s.settings.requests today)) none) := by
  rw [receive_outcome, read]
  dsimp only [Except.bind]
  rw [problems_of_day checks]
  split
  · contradiction
  · rfl

end Session

namespace Request

variable {s : RequestSettings}

/-- Settings that are in force refuse a request just when it breaks one of their rules, and so does
a session that has them. What they accept is accepted also under looser settings, and with fewer
companies in the list. -/
theorem refused_iff_breach (enabled : s.enabled = true) (r : Request) (today : Date) :
    (r.problems s today ≠ [] ↔ Breach s today r) ∧
    (∀ s' today', Loosens s today s' today' → r.problems s today = [] →
      r.problems s' today' = []) ∧
    (∀ ids : List Text, r.subject.mode = "companies" → ids.Sublist r.subject.companyIds → ids ≠ [] →
      r.problems s today = [] → (r.forCompanies ids).problems s today = []) ∧
    ∀ (session : Session) (call : Call) (c : Circumstances) (selector : Selector),
      session.settings.requests = s → session.requestGuard.day? c.today = some today →
      call.read session.manual c.today c.correlationId = .ok (selector, r) →
      (¬Breach s today r → (session.receive call c).2 = .ok (selector, r)) ∧
      (Breach s today r → (session.receive call c).2 =
        .error (.badRequest (problemText (r.problems s today)) none)) := by
  refine ⟨problems_ne_nil_iff enabled, ?_, ?_, ?_⟩
  · intro s' today' loosens accepted
    cases enabled' : s'.enabled with
    | false => simp [problems, enabled']
    | true =>
      rw [problems_eq_nil_iff enabled] at accepted
      rw [problems_eq_nil_iff enabled']
      exact fun breach => accepted (loosens.breach breach)
  · intro ids mode fewer left accepted
    rw [problems_eq_nil_iff enabled] at accepted ⊢
    exact fun breach => accepted (breach_of_fewer mode fewer left breach)
  · rintro session call c selector rfl checks read
    constructor
    · intro kept
      exact Session.receive_of_nil checks read ((problems_eq_nil_iff enabled).mpr kept)
    · intro breach
      exact Session.receive_of_problems checks read ((problems_ne_nil_iff enabled).mpr breach)

/-- A list that is as long as is allowed. Its request is accepted also on a later day without a
limit, and with one of the companies; but neither with a repeated company nor for the day after. -/
theorem refused_iff_breach_full :
    let settings : RequestSettings := { maxCompanies := some 2 }
    let first : Date := Date.epoch
    let second : Date := ⟨719163, by decide⟩
    let r : Request := ⟨"standard-esg", first, { mode := "companies", companyIds := ["a", "b"] },
      none, "c-1", by decide⟩
    r.problems settings first = [] ∧ r.problems { maxCompanies := none } second = [] ∧
      (r.forCompanies ["b"]).problems settings first = [] ∧
      (r.forCompanies ["a", "a"]).problems settings first ≠ [] ∧
      ({ r with asOf := second } : Request).problems settings first ≠ [] := by
  intro settings first second r
  obtain ⟨_, loosened, fewer, _⟩ := refused_iff_breach (s := settings) rfl r first
  have accepted : r.problems settings first = [] := by decide
  refine ⟨accepted, loosened _ _ ⟨by decide, by decide, by decide, ?_⟩ accepted,
    fewer _ rfl (by decide) (by decide) accepted, ?_, ?_⟩
  · intro most none
    cases none
  · apply (refused_iff_breach (s := settings) rfl (r.forCompanies ["a", "a"]) first).1.mpr
    exact .subject (.repeatedCompanies rfl (by decide))
  · apply (refused_iff_breach (s := settings) rfl { r with asOf := second } first).1.mpr
    exact .inFuture rfl (by decide)

end Request

end Screening
