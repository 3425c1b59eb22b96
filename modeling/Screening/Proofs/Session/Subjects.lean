import Screening.Proofs.Session.Trail

/-!
# What a screening covers

However its companies are selected, a checked screening has each of them once, and none but stored
ones (`screen_covers`). What a portfolio holds is screened in its order, apart from the holdings
that refer to no company: these, in their order, are what the only warning names. A filter gives
all companies that match it.
-/

namespace Screening

/-! ### Two lists in one -/

/-- The last list consists of the other two, each in its own order. -/
inductive Interleave {α : Type} : List α → List α → List α → Prop where
  | nil : Interleave [] [] []
  | left {a : α} {xs ys zs : List α} : Interleave xs ys zs → Interleave (a :: xs) ys (a :: zs)
  | right {a : α} {xs ys zs : List α} : Interleave xs ys zs → Interleave xs (a :: ys) (a :: zs)

theorem interleave_filter {α : Type} (keep : α → Bool) (zs : List α) :
    Interleave (zs.filter keep) (zs.filter (!keep ·)) zs := by
  induction zs with
  | nil => exact .nil
  | cons z rest ih =>
    cases kept : keep z with
    | true => simpa [List.filter_cons, kept] using ih.left
    | false => simpa [List.filter_cons, kept] using ih.right

/-! ### What a request may be for -/

namespace RequestSettings

theorem nodup_of_unproblematic {settings : RequestSettings} {ids : List Text} {client : Option Text}
    (unproblematic : settings.subjectProblems (Selector.companies ids client).describe = []) :
    ids.Nodup := by
  have listed : settings.listProblems ids = [] := unproblematic
  unfold listProblems at listed
  have repeated := (List.append_eq_nil_iff.mp listed).1
  split at repeated
  · cases repeated
  · by_contra again
    rw [if_neg again] at repeated
    cases repeated

end RequestSettings

/-! ### What a selector covers -/

namespace Selector

variable {store : Store} {selection : Selection}

/-- The warning about holdings without a company, if there are any. -/
def danglingWarnings (dangling : List Text) : List Text :=
  if dangling = [] then []
  else ["Holdings reference unknown companies: " ++ Text.intercalate ", " dangling]

/-- A selector covers these ids, in this order, and gives these warnings. -/
inductive Covers (store : Store) : Selector → List Text → List Text → Prop where
  | portfolio {id : Text} {p : Portfolio} {ids dangling : List Text}
    (found : store.portfolios.get? id = some p)
    (holdings : Interleave ids dangling (distinct p.companyIds))
    (known : ∀ id ∈ ids, store.companies.contains id = true)
    (unknown : ∀ id ∈ dangling, store.companies.contains id = false) :
    Covers store (.portfolio (some id)) ids (danglingWarnings dangling)
  | company {id : Text} {client : Option Text} : Covers store (.company id client) [id] []
  | companies {ids : List Text} {client : Option Text} : Covers store (.companies ids client) ids []
  | sector {value : Text} {client : Option Text} {ids : List Text}
    (ordered : ids.Sublist store.companies.keys)
    (matching : ∀ id, id ∈ ids ↔ ∃ c a, store.companies.get? id = some c ∧
      c.sector = some a ∧ Text.fold a = Text.fold value) :
    Covers store (.sector (some value) client) ids []
  | region {value : Text} {client : Option Text} {ids : List Text}
    (ordered : ids.Sublist store.companies.keys)
    (matching : ∀ id, id ∈ ids ↔ ∃ c a, store.companies.get? id = some c ∧
      c.region = some a ∧ Text.fold a = Text.fold value) :
    Covers store (.region (some value) client) ids []
  | all {client : Option Text} : Covers store (.all client) store.companies.keys []

theorem unknown_companiesOf (own : store.companies.Each fun id c => c.id = id) (ids : List Text) :
    unknown ids (store.companiesOf ids) = ids.filter (!store.companies.contains ·) := by
  refine List.filter_congr fun id asked => ?_
  have known : (store.companiesOf ids).any (·.id == id) = store.companies.contains id := by
    rw [Bool.eq_iff_iff, List.any_eq_true]
    have found : id ∈ (store.companiesOf ids).map (·.id) ↔ store.companies.contains id = true := by
      rw [Store.companiesOf_ids own, List.mem_filter, and_iff_right asked]
    rw [← found, List.mem_map]
    simp
  rw [known]

theorem covers_ofPortfolio (own : store.companies.Each fun id c => c.id = id) {id : Text}
    {p : Portfolio} (found : store.portfolios.get? id = some p) :
    Covers store (.portfolio (some id)) (ofPortfolio store p).companyIds
      (ofPortfolio store p).warnings := by
  have ids : (ofPortfolio store p).companyIds =
      (distinct p.companyIds).filter store.companies.contains := Store.companiesOf_ids own _
  have warned : (ofPortfolio store p).warnings =
      danglingWarnings ((distinct p.companyIds).filter (!store.companies.contains ·)) := by
    have complete : (store.companiesOf (distinct p.companyIds)).length =
        (distinct p.companyIds).length ↔
        (distinct p.companyIds).filter (!store.companies.contains ·) = [] := by
      rw [← List.length_map (·.id), Store.companiesOf_ids own, List.length_filter_eq_length_iff,
        List.filter_eq_nil_iff]
      simp
    show (if _ then _ else _) = _
    rw [unknown_companiesOf own]
    exact if_congr complete rfl rfl
  rw [ids, warned]
  exact .portfolio found (interleave_filter _ _) (fun id member => (List.mem_filter.mp member).2)
    (fun id member => by simpa using (List.mem_filter.mp member).2)

/-- What a selector that may be asked for resolves to is what it covers, and is described so. -/
theorem covers_of_resolve (own : store.companies.Each fun id c => c.id = id) {selector : Selector}
    {settings : RequestSettings} (unproblematic : settings.subjectProblems selector.describe = [])
    (resolved : selector.resolve store = .ok selection) :
    selector.Covers store selection.companyIds selection.warnings ∧
      selection.subject.companyIds = selection.companyIds := by
  cases selector with
  | portfolio id =>
    simp only [resolve] at resolved
    split at resolved
    · cases resolved
    · rename_i p bound
      obtain rfl := Except.ok.inj resolved
      obtain ⟨id, rfl, found⟩ := Option.bind_eq_some_iff.mp bound
      exact ⟨covers_ofPortfolio own found, rfl⟩
  | company id client =>
    simp only [resolve] at resolved
    split at resolved
    · cases resolved
    · rename_i c found
      obtain rfl := Except.ok.inj resolved
      rw [show Selection.companyIds ⟨[c], client, (Selector.company id client).describe, []⟩ = [id]
        from congrArg (fun id => [id]) (own id c found)]
      exact ⟨.company, rfl⟩
  | companies ids client =>
    -- A request that repeats an id has a problem, so the distinct ids are those that are given.
    have once := distinct_of_nodup (RequestSettings.nodup_of_unproblematic unproblematic)
    simp only [resolve, once] at resolved
    split at resolved
    · rename_i complete
      obtain rfl := Except.ok.inj resolved
      have all : (store.companiesOf ids).map (·.id) = ids := by
        rw [← List.length_map (·.id), Store.companiesOf_ids own] at complete
        rw [Store.companiesOf_ids own]
        exact List.filter_sublist.eq_of_length complete
      have named : Selection.companyIds
          ⟨store.companiesOf ids, client, (Selector.companies ids client).describe, []⟩ = ids := all
      rw [named]
      exact ⟨.companies, rfl⟩
    · cases resolved
  | sector value client =>
    cases value with
    | none => cases unproblematic
    | some value =>
      simp only [resolve] at resolved
      split at resolved
      · cases resolved
      · obtain rfl := Except.ok.inj resolved
        refine ⟨.sector (Store.findCompanies_sublist own _ _) fun id => ?_, rfl⟩
        refine (Store.mem_findCompanies_ids own).trans ?_
        simp [Store.matchesFilter_some, Store.matchesFilter_none]
  | region value client =>
    cases value with
    | none => cases unproblematic
    | some value =>
      simp only [resolve] at resolved
      split at resolved
      · cases resolved
      · obtain rfl := Except.ok.inj resolved
        refine ⟨.region (Store.findCompanies_sublist own _ _) fun id => ?_, rfl⟩
        refine (Store.mem_findCompanies_ids own).trans ?_
        simp [Store.matchesFilter_some, Store.matchesFilter_none]
  | all client =>
    simp only [resolve] at resolved
    split at resolved
    · cases resolved
    · obtain rfl := Except.ok.inj resolved
      have named : (ofFilter (.all client) client (store.findCompanies none none)).companyIds =
          store.companies.keys := by
        rw [← Store.values_ids own, ← Store.findCompanies_all]
        rfl
      rw [named]
      exact ⟨.all, named⟩

end Selector

/-! ### What a screening covers -/

namespace Session

variable {s : Session} {call : Call} {c : Circumstances} {a : Accepted} {r : ScreeningResult}

/-- Requests are checked before anything is looked up. -/
def ChecksRequests (s : Session) : Prop :=
  s.requestGuard ≠ .none ∧ s.settings.requests.enabled = true

theorem subjectProblems_of_allowed (checks : s.ChecksRequests) {request : Request} {today : Date}
    (allowed : s.problems request today = []) :
    s.settings.requests.subjectProblems request.subject = [] := by
  obtain ⟨guarded, enabled⟩ := checks
  simp only [problems, Request.problems, if_pos enabled] at allowed
  split at allowed
  · rename_i unguarded
    exact absurd unguarded guarded
  · exact (List.append_eq_nil_iff.mp allowed).2
  · exact (List.append_eq_nil_iff.mp allowed).2

/-- An accepted call is for a selection that nothing was found wrong with. -/
theorem accepted_allowed (accepted : (s.accept call c).2 = .ok a) :
    ∃ selector, call.selector.check = .ok selector ∧ selector.resolve s.store = .ok a.selection ∧
      ∃ request, request.subject = selector.describe ∧ s.problems request c.today = [] := by
  rw [accept_outcome] at accepted
  obtain ⟨p, received, looked⟩ := bind_ok accepted
  obtain ⟨read, unproblematic⟩ := receive_ok received
  obtain ⟨checked, fields⟩ := read_ok read
  obtain ⟨_, _, resolved⟩ := lookUp_ok looked
  obtain ⟨_, _, described⟩ := fields_ok fields
  exact ⟨_, checked, resolved, _, described, unproblematic⟩

/-- A result is about the companies that the selector covers, and the session tells of the others. -/
structure Covers (s : Session) (call : Call) (c : Circumstances) (r : ScreeningResult)
    (warnings : List Text) : Prop where
  once : r.companyIds.Nodup
  stored : ∀ id ∈ r.companyIds, s.store.companies.contains id = true
  described : r.subject.companyIds = r.companyIds
  selected : ∃ selector, call.selector.check = .ok selector ∧
    selector.Covers s.store r.companyIds warnings
  noted : Entries.get? r.metadata "warnings" =
    if warnings = [] then none else some (.texts warnings)
  told : ∃ told : List AuditEvent,
    (s.screen call c).1.recorder.events =
      s.recorder.events ++ told.map (fun event => ⟨some c.correlationId, event⟩) ∧
    told.filter (·.name == "anomaly") = warnings.map warn

theorem get?_metadata_warnings (s : Session) (a : Accepted) (c : Circumstances) :
    Entries.get? (s.metadata a c) "warnings" =
      if a.selection.warnings = [] then none else some (.texts a.selection.warnings) := by
  unfold metadata
  cases a.selection.warnings <;> rfl

/-- The anomalies that are told of a screening that succeeds are the warnings of its selection. -/
theorem filter_trail (r : ScreeningResult) (warnings : List Text) (store : Store)
    (seconds : Binary64) :
    (r.trail warnings store seconds).filter (·.name == "anomaly") = warnings.map warn := by
  have kept : (warnings.map warn).filter (·.name == "anomaly") = warnings.map warn :=
    List.filter_eq_self.mpr fun e member => by simp [name_warnings warnings e member]
  have fallbacks : ∀ ids, (fallbackEvents r.asOf ids).filter (·.name == "anomaly") = [] :=
    fun ids => List.filter_eq_nil_iff.mpr fun e member => by
      rw [name_fallbacks _ _ e member]
      decide
  have failures : r.failures.filter (·.name == "anomaly") = [] :=
    List.filter_eq_nil_iff.mpr fun e member => by
      rw [name_failures _ e member]
      decide
  simp only [ScreeningResult.trail, List.filter_append, kept, fallbacks, failures]
  simp [AuditEvent.name]

/-- On a store that can be reached, a screening whose request is checked covers what its selector
asks for: each company once, and no other. -/
theorem screen_covers {ops : List Store.Operation} (reached : s.store = Store.reached ops)
    (checks : s.ChecksRequests) (screened : (s.screen call c).2 = .ok r) :
    ∃ warnings, s.Covers call c r warnings := by
  have sound := Store.sound_reached ops
  rw [← reached] at sound
  obtain ⟨selection, ⟨selector', checked', resolved'⟩, _, _, events⟩ :=
    screenEvents_of_conducted sound (screened_iff.mp screened).1
  have told := s.screen_events call c
  rw [events] at told
  obtain ⟨a, accepted, rfl⟩ := screened_parts screened
  obtain ⟨selector, checked, resolved, request, described, allowed⟩ := accepted_allowed accepted
  obtain rfl := Checked.ok.inj (checked.symm.trans checked')
  obtain rfl := Except.ok.inj (resolved.symm.trans resolved')
  have unproblematic := subjectProblems_of_allowed checks allowed
  rw [described] at unproblematic
  obtain ⟨covers, subject⟩ := Selector.covers_of_resolve sound.companies unproblematic resolved
  have ids : ScreeningResult.companyIds { s.assemble a c with id := some c.resultId } =
      a.selection.companyIds := s.companyIds_assemble a c
  refine ⟨a.selection.warnings, ?_, ?_, ?_, ⟨selector, checked, ?_⟩, ?_, ?_⟩
  · rw [ids]
    exact Selector.resolve_nodup sound.companies resolved
  · rw [ids]
    intro id member
    obtain ⟨company, selected, rfl⟩ := List.mem_map.mp member
    exact Table.contains_of_get? (Selector.resolve_known sound.companies resolved selected)
  · rw [ids]
    exact subject
  · rw [ids]
    exact covers
  · exact s.get?_metadata_warnings a c
  · exact ⟨_, told, filter_trail _ _ _ _⟩

/-- A portfolio holds one company twice, and one that is not known. -/
theorem screen_covers_holdings :
    let greentech := Store.Demo.company "greentech" "GreenTech Corp" "GTC" "Technology"
    let oilco := Store.Demo.company "oilco" "OilCo Industries" "OCI" "Energy"
    let held : Portfolio := ⟨"held", "Held", "demo-fund",
      [⟨"oilco", none⟩, ⟨"ghost", none⟩, ⟨"greentech", none⟩, ⟨"oilco", none⟩]⟩
    let ops : List Store.Operation := [.record (.company greentech), .record (.company oilco),
      .portfolio held, .criteriaSet Store.Demo.standard]
    let s : Session := { store := Store.reached ops }
    let call : Call := ⟨.portfolio (.text "held"), .text "standard-esg", some Store.Demo.day, .null⟩
    let c : Circumstances :=
      ⟨Store.Demo.day, .startOfDay Store.Demo.day, "c-1", "r-1", .ofRatio false 1 1,
        .ofRatio false 2 1⟩
    ∃ r, (s.screen call c).2 = .ok r ∧ r.companyIds = ["oilco", "greentech"] ∧
      ∃ warnings, s.Covers call c r warnings := by
  intro greentech oilco held ops s call c
  have accepted : (s.accept call c).2 = .ok ⟨⟨"standard-esg", Store.Demo.day,
      (Selector.portfolio (some "held")).describe, none, "c-1", by decide⟩, Store.Demo.standard,
      Selector.ofPortfolio s.store held⟩ := by
    rw [accept_outcome, receive_outcome]
    rfl
  obtain ⟨r, screened, ids⟩ :
      ∃ r, (s.screen call c).2 = .ok r ∧ r.companyIds = ["oilco", "greentech"] :=
    ⟨_, screen_of_accepted accepted (by decide +kernel) rfl (by decide +kernel),
      s.companyIds_assemble _ c⟩
  exact ⟨r, screened, ids, screen_covers rfl ⟨by decide, rfl⟩ screened⟩

end Session

end Screening
