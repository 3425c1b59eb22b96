import Mathlib.Tactic.Ring
import Screening.Proofs.Results
import Screening.Proofs.Schema

/-!
# Pass rates

A pass rate is a share in whole percent, a half rounded up. `HalfUp` says so by two bounds, and
`HalfUp.mono` that the rate of a larger part is no smaller: from this follow that there is one rate
only, that it depends on the share alone and that it lies between 0 and 100. Hence the figures of
any results make a summary: `check_figures`.
-/

namespace Screening

def HalfUp (passed total rate : Int) : Prop :=
  2 * total * rate ≤ 200 * passed + total ∧ 200 * passed + total < 2 * total * (rate + 1)

section Rates

variable {passed passed' total rate rate' k : Int}

theorem halfUp_passRate (passed : Int) (positive : 0 < total) :
    HalfUp passed total (passRate passed total) :=
  passRate_bounds passed positive

theorem HalfUp.mono (positive : 0 < total) (first : HalfUp passed total rate)
    (second : HalfUp passed' total rate') (more : passed ≤ passed') : rate ≤ rate' := by
  by_contra less
  have next : 2 * total * (rate' + 1) ≤ 2 * total * rate :=
    Int.mul_le_mul_of_nonneg_left (by omega) (by omega)
  obtain ⟨below, _⟩ := first
  obtain ⟨_, above⟩ := second
  omega

theorem HalfUp.eq_passRate (positive : 0 < total) (halfUp : HalfUp passed total rate) :
    rate = passRate passed total := by
  have exact := halfUp_passRate passed positive
  apply Int.le_antisymm
  · exact halfUp.mono positive exact (Int.le_refl passed)
  · exact exact.mono positive halfUp (Int.le_refl passed)

theorem HalfUp.scale (positive : 0 < k) (halfUp : HalfUp passed total rate) :
    HalfUp (k * passed) (k * total) rate := by
  obtain ⟨below, above⟩ := halfUp
  have middle : 200 * (k * passed) + k * total = k * (200 * passed + total) := by ring
  constructor
  · calc 2 * (k * total) * rate = k * (2 * total * rate) := by ring
      _ ≤ k * (200 * passed + total) := Int.mul_le_mul_of_nonneg_left below (by omega)
      _ = 200 * (k * passed) + k * total := middle.symm
  · calc 200 * (k * passed) + k * total = k * (200 * passed + total) := middle
      _ < k * (2 * total * (rate + 1)) := Int.mul_lt_mul_of_pos_left above positive
      _ = 2 * (k * total) * (rate + 1) := by ring

theorem halfUp_none (positive : 0 < total) : HalfUp 0 total 0 := by
  constructor <;> omega

theorem halfUp_all (positive : 0 < total) : HalfUp total total 100 := by
  constructor <;> omega

end Rates

/-! ### The figures of a summary -/

namespace Check

theorem required_of_field {α : Type} {check : Check α} {entries : List (Atom × Data)}
    {name : String} {d : Data} {a : α} (there : Data.field? entries name = some d) :
    required entries name check = .ok a ↔ check d = .ok a := by
  simp [required_ok_iff, there]

theorem intFrom_ok_iff {least n m : Int} :
    intFrom least (.int n) = .ok m ↔ least ≤ n ∧ n = m := by
  show (if decide (least ≤ n) then Checked.ok n else .fail .atLeast (.int n)) = .ok m ↔ _
  by_cases enough : least ≤ n <;> simp [enough, Checked.fail]

theorem count_ok_iff {n : Int} {m : Nat} : count (.int n) = .ok m ↔ n = m := by
  unfold count
  simp only [Checked.map_ok_iff, intFrom_ok_iff]
  constructor
  · rintro ⟨a, ⟨counted, rfl⟩, rfl⟩
    omega
  · rintro rfl
    exact ⟨m, ⟨by omega, rfl⟩, by omega⟩

theorem intBetween_ok_iff {least greatest n m : Int} :
    intBetween least greatest (.int n) = .ok m ↔ (least ≤ n ∧ n ≤ greatest) ∧ n = m := by
  show (if decide (n ≤ greatest) then Checked.ok n else .fail .atMost (.int n)).andThen
    (fun a => if decide (least ≤ a) then .ok a else .fail .atLeast (.int n)) = .ok m ↔ _
  by_cases most : n ≤ greatest
  · by_cases enough : least ≤ n <;> simp [most, enough, Checked.andThen, Checked.fail]
  · simp [most, Checked.andThen, Checked.fail]

theorem percent_ok_iff {n : Int} {rate : { m : Nat // m ≤ 100 }} :
    percent (.int n) = .ok rate ↔ n = rate.1 := by
  unfold percent
  simp only [Checked.andThen_ok_iff, intBetween_ok_iff]
  constructor
  · rintro ⟨a, ⟨⟨enough, most⟩, rfl⟩, made⟩
    rw [dif_pos (by omega)] at made
    rw [← Checked.ok.inj made]
    show n = n.toNat
    omega
  · intro same
    have most := rate.2
    refine ⟨n, ⟨⟨by omega, by omega⟩, rfl⟩, ?_⟩
    rw [dif_pos (by omega)]
    exact congrArg Checked.ok (Subtype.ext (by show n.toNat = rate.1; omega))

end Check

namespace Summary

theorem check_ok_iff {entries : List (Atom × Data)} {s : Summary} :
    check (.map entries) = .ok s ↔
      Check.required entries "total_subjects" Check.count = .ok s.total ∧
      Check.required entries "passed" Check.count = .ok s.passed ∧
      Check.required entries "failed" Check.count = .ok s.failed ∧
      Check.required entries "pass_rate" Check.percent = .ok ⟨s.passRate, s.passRate_le⟩ := by
  unfold check Check.record
  simp only [Checked.seq_ok_iff, Checked.map_ok_iff]
  constructor
  · rintro ⟨_, _, ⟨_, _, ⟨_, _, ⟨_, total, rfl⟩, passed, rfl⟩, failed, rfl⟩, rate, rfl⟩
    exact ⟨total, passed, failed, rate⟩
  · intro ⟨total, passed, failed, rate⟩
    exact ⟨_, _, ⟨_, _, ⟨_, _, ⟨_, total, rfl⟩, passed, rfl⟩, failed, rfl⟩, rate, rfl⟩

/-- The record with these figures. -/
def figures (total passed failed rate : Int) : Data :=
  .object [("total_subjects", .int total), ("passed", .int passed), ("failed", .int failed),
    ("pass_rate", .int rate)]

/-- Figures are those of a summary just when they meet its bounds. -/
theorem check_figures {total passed failed rate : Int} {s : Summary} :
    check (figures total passed failed rate) = .ok s ↔
      total = s.total ∧ passed = s.passed ∧ failed = s.failed ∧ rate = s.passRate := by
  unfold figures Data.object
  rw [check_ok_iff]
  apply and_congr
  · exact (Check.required_of_field rfl).trans Check.count_ok_iff
  apply and_congr
  · exact (Check.required_of_field rfl).trans Check.count_ok_iff
  apply and_congr
  · exact (Check.required_of_field rfl).trans Check.count_ok_iff
  · exact (Check.required_of_field rfl).trans Check.percent_ok_iff

/-- What the results of a screening come to is a summary. -/
theorem check_ofResults (results : List CompanyResult) :
    let total : Int := results.length
    let passed : Int := results.countP (·.passed)
    check (figures total passed (total - passed) (Screening.passRate passed total)) =
      .ok (ofResults results) := by
  intro total passed
  have most : results.countP (·.passed) ≤ results.length := List.countP_le_length
  have nonneg := passRate_nonneg (results.countP (·.passed)) results.length
  apply check_figures.mpr
  refine ⟨rfl, rfl, ?_, ?_⟩
  · show total - passed = (results.length - results.countP (·.passed) : Nat)
    omega
  · exact (Int.toNat_of_nonneg nonneg).symm

end Summary

/-- Of a positive total the pass rate is the one integer that is the percentage, a half rounded up.
It does not fall when more pass, is the same for the same share of more, and lies between 0 and 100.
The figures of any results are those of a summary. -/
theorem passRate_halfUp :
    (∀ passed total : Int, 0 < total →
      (∀ rate, HalfUp passed total rate ↔ rate = passRate passed total) ∧
      (∀ passed', passed ≤ passed' → passRate passed total ≤ passRate passed' total) ∧
      (∀ k, 0 < k → passRate (k * passed) (k * total) = passRate passed total) ∧
      (0 ≤ passed → passed ≤ total → 0 ≤ passRate passed total ∧ passRate passed total ≤ 100)) ∧
    ∀ results : List CompanyResult,
      Summary.check (Summary.figures results.length (results.countP (·.passed))
        (results.length - results.countP (·.passed))
        (passRate (results.countP (·.passed)) results.length)) =
          .ok (Summary.ofResults results) := by
  refine ⟨fun passed total positive => ?_, Summary.check_ofResults⟩
  have halfUp := halfUp_passRate passed positive
  refine ⟨?_, ?_, ?_, ?_⟩
  · intro rate
    exact ⟨fun other => other.eq_passRate positive, fun same => same ▸ halfUp⟩
  · intro passed' more
    exact halfUp.mono positive (halfUp_passRate passed' positive) more
  · intro k times
    exact ((halfUp.scale times).eq_passRate (Int.mul_pos times positive)).symm
  · intro nonneg most
    exact ⟨(halfUp_none positive).mono positive halfUp nonneg,
      halfUp.mono positive (halfUp_all positive) most⟩

/-- One of eight is twelve and a half percent, which is rounded up; so is two of sixteen. -/
theorem passRate_halfUp_eighth :
    (0 : Int) < 8 ∧ passRate 1 8 = 13 ∧ passRate (2 * 1) (2 * 8) = 13 ∧ ¬HalfUp 1 8 12 := by
  obtain ⟨unique, _, scaled, _⟩ := passRate_halfUp.1 1 8 (by decide)
  have rate : passRate 1 8 = 13 := by decide
  refine ⟨by decide, rate, (scaled 2 (by decide)).trans rate, fun other => ?_⟩
  have twelve := (unique 12).mp other
  omega

end Screening
