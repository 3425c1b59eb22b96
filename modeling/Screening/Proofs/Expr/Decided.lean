import Screening.Proofs.Results

/-!
# Decided and undecided expressions

An answer with three values, where it is one, is the answer with two, whatever else becomes known:
`assess_agrees`. Where it is none a parameter is missing, and the reason that is given of a failure
names all that are.
-/

namespace Screening

namespace Text

/-- The name stands somewhere in the text. -/
def Mentions (t name : Text) : Prop := name.points <:+: t.points

theorem mentions_append_left {a name : Text} (b : Text) (named : a.Mentions name) :
    (a ++ b).Mentions name :=
  named.trans (List.prefix_append _ _).isInfix

theorem mentions_append_right (a : Text) {b name : Text} (named : b.Mentions name) :
    (a ++ b).Mentions name :=
  named.trans (List.suffix_append _ _).isInfix

theorem mem_intersperse {α : Type} (between : α) {a : α} {l : List α} (member : a ∈ l) :
    a ∈ l.intersperse between := by
  induction l with
  | nil => cases member
  | cons b rest ih =>
    cases rest with
    | nil => exact member
    | cons c more =>
      rw [List.intersperse_cons_cons]
      rcases List.mem_cons.mp member with rfl | later
      · exact List.mem_cons_self
      · exact List.mem_cons_of_mem _ (List.mem_cons_of_mem _ (ih later))

theorem mentions_intercalate (between : Text) {name : Text} {names : List Text}
    (member : name ∈ names) : (intercalate between names).Mentions name :=
  List.infix_of_mem_flatten (mem_intersperse _ (List.mem_map_of_mem member))

theorem append_assoc (a b c : Text) : a ++ b ++ c = a ++ (b ++ c) :=
  congrArg Text.mk (List.append_assoc a.points b.points c.points)

theorem append_ne_self (a : Text) {b : Text} (filled : b ≠ "") : a ++ b ≠ a := by
  intro same
  have points : a.points ++ b.points = a.points := congrArg Text.points same
  exact filled (congrArg Text.mk (List.append_right_eq_self.mp points))

end Text

namespace Expr

variable {e : Expr} {values : Values} {name : Text}

/-! ### Answers with two and with three values -/

/-- Where the known values decide, both evaluations give the same answer. -/
theorem holds_of_assess {b : Bool} (decided : e.assess values = some b) : e.holds values = b := by
  induction e generalizing b with
  | comparison c =>
    rw [assess] at decided
    rw [holds, decided]
    rfl
  | all cs ih =>
    rw [assess, assessEach_eq_map] at decided
    rw [holds]
    cases b with
    | true =>
      rw [allKnown_eq_true] at decided
      exact holdAll_eq_true.mpr fun e member =>
        ih e member (decided _ (List.mem_map_of_mem member))
    | false =>
      obtain ⟨e, member, answer⟩ := List.mem_map.mp (allKnown_eq_false.mp decided)
      exact holdAll_eq_false.mpr ⟨e, member, ih e member answer⟩
  | any cs ih =>
    rw [assess, assessEach_eq_map] at decided
    rw [holds]
    cases b with
    | true =>
      obtain ⟨e, member, answer⟩ := List.mem_map.mp (anyKnown_eq_true.mp decided)
      exact holdAny_eq_true.mpr ⟨e, member, ih e member answer⟩
    | false =>
      rw [anyKnown_eq_false] at decided
      exact holdAny_eq_false.mpr fun e member =>
        ih e member (decided _ (List.mem_map_of_mem member))
  | not e ih =>
    rw [assess, Option.map_eq_some_iff] at decided
    obtain ⟨inner, answer, rfl⟩ := decided
    rw [holds, ih answer]

/-! ### What an undecided expression misses -/

theorem missing_ne_nil (undecided : e.assess values = none) : e.missing values ≠ [] := by
  obtain ⟨name, asked, absent⟩ := exists_required_missing undecided
  exact List.ne_nil_of_mem (mem_missing.mpr ⟨asked, absent⟩)

theorem open?_of_undecided (undecided : e.assess values = none) :
    e.open? values = some (e.missing values) := by
  rw [open?, if_pos undecided]
  split
  · rename_i nothing
    exact absurd nothing (missing_ne_nil undecided)
  · rfl

theorem required_comparison (c : Comparison) : (comparison c).required = [c.parameter] := by
  have walked : (visit [comparison c]).map (·.parameter) = [c.parameter] := by
    rw [visit_eq_comparisonsAll]
    rfl
  rw [required, walked]
  exact (eq_sortedNames (List.pairwise_singleton _ _) (List.nodup_singleton _) fun _ => Iff.rfl).symm

/-- What the names of missing parameters are announced with when no reason was written. -/
def missingLead : Expr → Text
  | .comparison _ => "Missing value for parameter: "
  | _ => "Missing value for parameter(s): "

theorem explain_of_undecided (undecided : e.assess values = none) (default : Text) :
    e.explain values default = e.missingLead ++ Text.intercalate ", " (e.missing values) := by
  cases e with
  | comparison c =>
    have absent : lookup values c.parameter = none := by
      rwa [assess, Comparison.assess, Option.map_eq_none_iff] at undecided
    have single : (comparison c).missing values = [c.parameter] := by
      simp [missing, required_comparison, absent]
    have alone : Text.intercalate ", " [c.parameter] = c.parameter := by
      simp [Text.intercalate, List.intercalate]
    rw [single, alone, explain, absent]
    rfl
  | all _ | any _ | not _ =>
    rw [explain, open?_of_undecided undecided]
    · rfl
    · intro c same
      cases same

theorem failure_written (undecided : e.assess values = none) {reason : Text} (filled : reason ≠ "")
    (default : Text) : e.failure values (some reason) default =
      reason ++ " (missing value for parameter: " ++ Text.intercalate ", " (e.missing values) ++
        ")" := by
  have kept : (some reason).filter (!·.isEmpty) = some reason := by
    rw [Option.filter_some, if_pos]
    rw [Bool.not_eq_true', Bool.eq_false_iff]
    intro empty
    exact filled (congrArg Text.mk (List.isEmpty_iff.mp empty))
  rw [failure, kept, open?_of_undecided undecided]

theorem failure_unwritten (undecided : e.assess values = none) {written : Option Text}
    (unwritten : written = none ∨ written = some "") (default : Text) :
    e.failure values written default =
      e.missingLead ++ Text.intercalate ", " (e.missing values) := by
  have dropped : written.filter (!·.isEmpty) = none := by
    rcases unwritten with rfl | rfl <;> rfl
  rw [failure, dropped]
  exact explain_of_undecided undecided default

/-- The reason for a failure tells what is missing: it neither stays at the words that were written
for the rule nor depends on the common ones. -/
structure ReportsMissing (e : Expr) (values : Values) : Prop where
  some_missing : e.missing values ≠ []
  missing : ∀ name ∈ e.missing values, name ∈ e.required ∧ lookup values name = none
  written : ∀ (reason default : Text), reason ≠ "" → e.failure values (some reason) default =
    reason ++ " (missing value for parameter: " ++ Text.intercalate ", " (e.missing values) ++ ")"
  unwritten : ∀ (written : Option Text) default, written = none ∨ written = some "" →
    e.failure values written default = e.missingLead ++ Text.intercalate ", " (e.missing values)
  not_bare : ∀ (reason default : Text), reason ≠ "" → e.failure values (some reason) default ≠ reason
  named : ∀ written default, ∀ name ∈ e.missing values,
    (e.failure values written default).Mentions name

theorem reportsMissing (undecided : e.assess values = none) : e.ReportsMissing values where
  some_missing := missing_ne_nil undecided
  missing _ member := mem_missing.mp member
  written _ default filled := failure_written undecided filled default
  unwritten _ default none := failure_unwritten undecided none default
  not_bare reason default filled := by
    rw [failure_written undecided filled default, Text.append_assoc, Text.append_assoc]
    exact Text.append_ne_self reason (Text.append_ne_empty (by decide) _)
  named written default name member := by
    have listed := Text.mentions_intercalate ", " member
    by_cases unwritten : written = none ∨ written = some ("" : Text)
    · rw [failure_unwritten undecided unwritten]
      exact Text.mentions_append_right _ listed
    · obtain ⟨reason, rfl⟩ := Option.ne_none_iff_exists'.mp fun none => unwritten (Or.inl none)
      rw [failure_written undecided fun empty => unwritten (Or.inr (congrArg some empty))]
      exact Text.mentions_append_left _ (Text.mentions_append_right _ listed)

/-- Evaluation with two and with three values agree: an answer is the same in both and is for good,
it is given if no value is missing, and where none is given the reason names what is missing. -/
theorem assess_agrees (e : Expr) (values : Values) :
    (∀ b, e.assess values = some b → e.holds values = b ∧
      ∀ more, values.ExtendedBy more → e.assess more = some b ∧ e.holds more = b) ∧
    ((∀ name ∈ e.required, lookup values name ≠ none) → e.assess values ≠ none) ∧
    (e.assess values = none → e.ReportsMissing values) := by
  refine ⟨fun b decided => ⟨holds_of_assess decided, fun more extended => ?_⟩, ?_, reportsMissing⟩
  · have still := assess_extended extended decided
    exact ⟨still, holds_of_assess still⟩
  · intro known undecided
    obtain ⟨name, asked, absent⟩ := exists_required_missing undecided
    exact known name asked absent

/-- A company with much renewable energy is decided before its emissions are known; of one with high
emissions the share of renewable energy is missing, and the reason says so. -/
theorem assess_agrees_climate :
    let rule := Store.Demo.compare "carbon_emissions" .gt (.int 100)
    let e : Expr := .all [rule, Store.Demo.compare "renewable_energy_pct" .lt (.int 50)]
    let clean : Values := [("renewable_energy_pct", .int 80)]
    let dirty : Values := [("CARBON_EMISSIONS", .int 5000)]
    (e.assess clean = some false ∧ e.holds clean = false) ∧
      (e.assess dirty = none ∧ (e.failure dirty (some "Too much carbon") defaultFailure).Mentions
        "renewable_energy_pct") ∧
      (∀ name ∈ rule.required, lookup dirty name ≠ none) ∧ rule.assess dirty ≠ none := by
  intro rule e clean dirty
  have decided : e.assess clean = some false := by decide +kernel
  have undecided : e.assess dirty = none := by decide +kernel
  have missing : ("renewable_energy_pct" : Text) ∈ e.missing dirty :=
    mem_missing.mpr ⟨mem_required.mpr ⟨_, List.mem_cons_of_mem _ List.mem_cons_self, rfl⟩,
      by decide +kernel⟩
  have known : ∀ name ∈ rule.required, lookup dirty name ≠ none := by
    intro name asked
    rw [show rule.required = _ from required_comparison _, List.mem_singleton] at asked
    subst asked
    decide +kernel
  exact ⟨⟨decided, ((assess_agrees e clean).1 false decided).1⟩,
    ⟨undecided, ((assess_agrees e dirty).2.2 undecided).named _ _ _ missing⟩,
    known, (assess_agrees rule dirty).2.1 known⟩

end Expr

end Screening
