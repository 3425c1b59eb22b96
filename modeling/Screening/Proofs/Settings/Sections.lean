import Screening.Proofs.Schema
import Screening.Proofs.Table
import Screening.Settings

/-!
# What a mapping makes up

Settings are read from a mapping whose sections are mappings. Each setting is the value that stands
under its name in its section, if that passes, or its default: `check_ok_iff`.
-/

namespace Screening.Settings

abbrev Layer := List (Atom × Data)

def sectionKeys : List String := ["global", "global_settings", "evaluation", "request_validation"]

/-- A map in which no key is repeated. -/
def isSection : Data → Bool
  | .map entries => (entries.map Prod.fst).Nodup
  | _ => false

theorem isSection_iff {d : Data} :
    isSection d = true ↔ ∃ entries : Layer, d = .map entries ∧ (entries.map Prod.fst).Nodup := by
  cases d <;> simp [isSection]

/-- A mapping whose sections are mappings. -/
structure IsLayer (layer : Layer) : Prop where
  nodup : (layer.map Prod.fst).Nodup
  sections : ∀ name ∈ sectionKeys, ∀ d ∈ Data.field? layer name, isSection d = true

instance (layer : Layer) : Decidable (IsLayer layer) :=
  decidable_of_iff ((layer.map Prod.fst).Nodup ∧
      ∀ name ∈ sectionKeys, ∀ d ∈ Data.field? layer name, isSection d = true)
    ⟨fun h => ⟨h.1, h.2⟩, fun h => ⟨h.nodup, h.sections⟩⟩

theorem IsLayer.found {layer : Layer} (isLayer : IsLayer layer) {name : String}
    (known : name ∈ sectionKeys) {d : Data} (found : Data.field? layer name = some d) :
    ∃ entries : Layer, d = .map entries ∧ (entries.map Prod.fst).Nodup :=
  isSection_iff.mp (isLayer.sections name known d found)

/-- What a layer sets a field of a section to. -/
def sectionField? (name field : String) (layer : Layer) : Option Data :=
  match Data.field? layer name with
  | some (.map entries) => Data.field? entries field
  | _ => none

/-! ### Values that pass -/

/-- A setting is what it is given, if that passes, or else its default. -/
def Taken {α : Type} (given : Option Data) (default : α) (check : Check α) (a : α) : Prop :=
  match given with
  | some d => check d = .ok a
  | none => default = a

/-- The number of workers. -/
def checkWorkers : Check Nat := fun d => Int.toNat <$> Check.intBetween 1 64 d

/-- How many companies may be asked for, if there is a limit. -/
def checkLimit : Check (Option Nat) := Check.option fun d => Int.toNat <$> Check.intFrom 1 d

variable {layer : Layer} {name : String}

/-- The values of the settings that are given in some way: outside of all sections under a name, and
in a section under a name. The number of workers is given apart. -/
structure Follows (s : Settings) (top : String → Option Data) (inSection : String → String → Option Data)
    (workers : Option Data) : Prop where
  version : Taken (top "version") ("1.0" : Text) Check.text s.version
  maxWorkers : Taken workers 1 checkWorkers s.workers.maxWorkers
  policy : Taken (inSection "evaluation" "missing_data_policy") .failClosed
    (Check.oneOf MissingDataPolicy.ofName?) s.evaluation.policy
  defaultFailure : Taken (inSection "evaluation" "default_failure_message")
    ⟨Expr.defaultFailure, Expr.defaultFailure_isName⟩ Check.name
    ⟨s.evaluation.defaultFailure, s.evaluation.defaultFailure_isName⟩
  enabled : Taken (inSection "request_validation" "enabled") true Check.bool s.requests.enabled
  earliest : Taken (inSection "request_validation" "min_as_of_date") Date.epoch Check.date
    s.requests.earliest
  allowFuture : Taken (inSection "request_validation" "allow_future_as_of_date") false Check.bool
    s.requests.allowFuture
  maxCompanies : Taken (inSection "request_validation" "max_companies_per_request") (some 5000)
    checkLimit s.requests.maxCompanies

theorem optional_taken {α : Type} {entries : Layer} {default a : α} {check : Check α} :
    Check.optional entries name default check = .ok a ↔
      Taken (Data.field? entries name) default check a := Check.optional_ok_iff

theorem evaluation_ok_iff (isLayer : IsLayer layer) {e : EvaluationSettings} :
    Check.optional layer "evaluation" .standard EvaluationSettings.check = .ok e ↔
      Taken (sectionField? "evaluation" "missing_data_policy" layer) .failClosed
        (Check.oneOf MissingDataPolicy.ofName?) e.policy ∧
      Taken (sectionField? "evaluation" "default_failure_message" layer)
        ⟨Expr.defaultFailure, Expr.defaultFailure_isName⟩ Check.name
        ⟨e.defaultFailure, e.defaultFailure_isName⟩ := by
  rw [optional_taken]
  unfold sectionField?
  cases found : Data.field? layer "evaluation" with
  | none =>
    constructor
    · rintro rfl
      exact ⟨rfl, rfl⟩
    · obtain ⟨policy, failure, worded⟩ := e
      rintro ⟨rfl, same⟩
      cases same
      rfl
  | some d =>
    obtain ⟨entries, rfl, _⟩ := isLayer.found (by decide : "evaluation" ∈ sectionKeys) found
    show EvaluationSettings.check (.map entries) = .ok e ↔ _
    rw [EvaluationSettings.check, Check.record, Checked.seq_ok_iff]
    constructor
    · rintro ⟨f, failure, first, second, rfl⟩
      obtain ⟨policy, passed, rfl⟩ := Checked.map_ok_iff.mp first
      exact ⟨optional_taken.mp passed, optional_taken.mp second⟩
    · rintro ⟨policy, failure⟩
      exact ⟨_, _, Checked.map_ok_iff.mpr ⟨_, optional_taken.mpr policy, rfl⟩,
        optional_taken.mpr failure, rfl⟩

theorem requests_ok_iff (isLayer : IsLayer layer) {r : RequestSettings} :
    Check.optional layer "request_validation" {} RequestSettings.check = .ok r ↔
      Taken (sectionField? "request_validation" "enabled" layer) true Check.bool r.enabled ∧
      Taken (sectionField? "request_validation" "min_as_of_date" layer) Date.epoch Check.date
        r.earliest ∧
      Taken (sectionField? "request_validation" "allow_future_as_of_date" layer) false Check.bool
        r.allowFuture ∧
      Taken (sectionField? "request_validation" "max_companies_per_request" layer) (some 5000)
        checkLimit r.maxCompanies := by
  rw [optional_taken]
  unfold sectionField?
  cases found : Data.field? layer "request_validation" with
  | none =>
    constructor
    · rintro rfl
      exact ⟨rfl, rfl, rfl, rfl⟩
    · obtain ⟨enabled, earliest, allowFuture, maxCompanies⟩ := r
      rintro ⟨rfl, rfl, rfl, rfl⟩
      rfl
  | some d =>
    obtain ⟨entries, rfl, _⟩ := isLayer.found (by decide : "request_validation" ∈ sectionKeys) found
    show RequestSettings.check (.map entries) = .ok r ↔ _
    simp only [RequestSettings.check, Check.record, Checked.seq_ok_iff, Checked.map_ok_iff,
      optional_taken]
    constructor
    · rintro ⟨_, limit, ⟨_, future, ⟨_, earliest, ⟨enabled, first, rfl⟩, second, rfl⟩, third, rfl⟩,
        fourth, rfl⟩
      exact ⟨first, second, third, fourth⟩
    · rintro ⟨first, second, third, fourth⟩
      exact ⟨_, _, ⟨_, _, ⟨_, _, ⟨_, first, rfl⟩, second, rfl⟩, third, rfl⟩, fourth, rfl⟩

/-- The number of workers is given under the first name of their section that is there. -/
def workersField? (layer : Layer) : Option Data :=
  if (Data.field? layer "global").isSome then sectionField? "global" "max_workers" layer
  else sectionField? "global_settings" "max_workers" layer

theorem workersCheck_ok_iff {entries : Layer} {w : WorkerSettings} :
    WorkerSettings.check (.map entries) = .ok w ↔
      Taken (Data.field? entries "max_workers") 1 checkWorkers w.maxWorkers := by
  show _ <$> _ = Checked.ok w ↔ _
  rw [Checked.map_ok_iff]
  simp only [optional_taken]
  unfold Taken
  cases Data.field? entries "max_workers" with
  | none =>
    constructor
    · rintro ⟨_, rfl, rfl⟩
      rfl
    · intro same
      exact ⟨1, rfl, congrArg WorkerSettings.mk same⟩
  | some d =>
    show _ ↔ Int.toNat <$> Check.intBetween 1 64 d = .ok w.maxWorkers
    rw [Checked.map_ok_iff]
    refine exists_congr fun n => and_congr_right fun _ => ?_
    exact ⟨congrArg WorkerSettings.maxWorkers, congrArg WorkerSettings.mk⟩

theorem workers_ok_iff (isLayer : IsLayer layer) {w : WorkerSettings} :
    Settings.section? layer ("global", "global_settings") {} WorkerSettings.check = .ok w ↔
      Taken (workersField? layer) 1 checkWorkers w.maxWorkers := by
  unfold section? workersField? sectionField?
  cases first : Data.field? layer "global" with
  | some d =>
    obtain ⟨entries, rfl, _⟩ := isLayer.found (by decide : "global" ∈ sectionKeys) first
    exact Checked.under_ok_iff.trans workersCheck_ok_iff
  | none =>
    cases second : Data.field? layer "global_settings" with
    | some d =>
      obtain ⟨entries, rfl, _⟩ := isLayer.found (by decide : "global_settings" ∈ sectionKeys) second
      exact Checked.under_ok_iff.trans workersCheck_ok_iff
    | none =>
      constructor
      · intro same
        obtain rfl := Checked.ok.inj same
        rfl
      · intro same
        exact congrArg (fun n => Checked.ok (WorkerSettings.mk n)) same

/-- The settings that a mapping makes up. -/
theorem check_ok_iff (isLayer : IsLayer layer) {s : Settings} :
    check (.map layer) = .ok s ↔
      s.Follows (Data.field? layer ·) (sectionField? · · layer) (workersField? layer) := by
  simp only [check, Check.record, Checked.seq_ok_iff, Checked.map_ok_iff]
  constructor
  · rintro ⟨_, requests, ⟨_, evaluation, ⟨_, workers, ⟨version, first, rfl⟩, second, rfl⟩, third, rfl⟩,
      fourth, rfl⟩
    obtain ⟨policy, failure⟩ := (evaluation_ok_iff isLayer).mp third
    obtain ⟨enabled, earliest, future, limit⟩ := (requests_ok_iff isLayer).mp fourth
    exact ⟨optional_taken.mp first, (workers_ok_iff isLayer).mp second, policy, failure, enabled,
      earliest, future, limit⟩
  · rintro ⟨version, workers, policy, failure, enabled, earliest, future, limit⟩
    exact ⟨_, _, ⟨_, _, ⟨_, _, ⟨_, optional_taken.mpr version, rfl⟩,
      (workers_ok_iff isLayer).mpr workers, rfl⟩,
      (evaluation_ok_iff isLayer).mpr ⟨policy, failure⟩, rfl⟩,
      (requests_ok_iff isLayer).mpr ⟨enabled, earliest, future, limit⟩, rfl⟩

theorem read_ok_iff {s : Settings} {d : Data} :
    (read d).2 = .ok s ↔ (∃ ws, warnings d = .ok ws) ∧ check d = .ok s := by
  unfold read
  cases warnings d with
  | error e => simp
  | ok ws => cases check d <;> simp

end Screening.Settings
