import WeatherBot.Common.DecimalValue
import WeatherBot.Common.Numerics
import WeatherBot.Forecasting.Dataset

/-!
# Calibration artifacts

The groups of residual distributions of a calibration artifact, and the artifact
(`forecasting/calibration.py`, 220-489). A constructor `new` makes the checks of
`__post_init__` in their order and returns the normalized value.

* `NormalResidualDistribution.new_self`, `EmpiricalResidualDistribution.new_self`: a
  distribution is constructed from its own fields.
* `CalibrationArtifact.payloadMapping`, `CalibrationArtifact.toJson`: the artifact as
  it is written.
-/

namespace WeatherBot.Forecasting

open WeatherBot.Common
open WeatherBot.Domain
open CalibrationException (calibrationError raised)

/-- `CalibrationSample.residual_f`. -/
def CalibrationSample.residualF (s : CalibrationSample) : Decimal :=
  s.observedTemperatureF - s.forecastTemperatureF

/-! ## Distributions -/

/-- `DistributionKind`. -/
inductive DistributionKind where
  | normal
  | empirical
deriving DecidableEq, Repr

/-- `DistributionKind.value`. -/
def DistributionKind.value : DistributionKind → String
  | .normal => "normal"
  | .empirical => "empirical"

/-- `DistributionKind(text)`. -/
def DistributionKind.ofValue : String → Option DistributionKind
  | "normal" => some .normal
  | "empirical" => some .empirical
  | _ => none

theorem DistributionKind.ofValue_value (k : DistributionKind) : ofValue k.value = some k := by
  cases k <;> rfl

/-- `NormalResidualDistribution` (`calibration.py`, 237-264). -/
structure NormalResidualDistribution where
  biasF : Decimal
  sigmaF : Decimal
  sigma_pos : ¬ sigmaF ≤ 0
deriving DecidableEq

/-- `NormalResidualDistribution.__post_init__`. -/
def NormalResidualDistribution.new (biasF sigmaF : Decimal) :
    Except CalibrationException NormalResidualDistribution := do
  let ⟨h⟩ ← ensure (¬ sigmaF ≤ 0) (calibrationError "normal sigma must be positive")
  return ⟨biasF, sigmaF, h⟩

theorem NormalResidualDistribution.new_self (d : NormalResidualDistribution) :
    new d.biasF d.sigmaF = .ok d :=
  ensure_bind_eq_ok.mpr ⟨d.sigma_pos, rfl⟩

/-- `sorted(residuals)`, which is stable. -/
def sortedDecimals (l : List Decimal) : List Decimal := l.insertionSort (· ≤ ·)

instance : IsTrans Decimal (· ≤ ·) where
  trans a b c hab hbc := by
    rw [Decimal.le_iff] at *
    exact hab.trans hbc

instance : Std.Total (α := Decimal) (· ≤ ·) where
  total a b := by
    rw [Decimal.le_iff, Decimal.le_iff]
    exact le_total _ _

theorem pairwise_sortedDecimals (l : List Decimal) : (sortedDecimals l).Pairwise (· ≤ ·) :=
  List.pairwise_insertionSort _ l

/-- `EmpiricalResidualDistribution` (`calibration.py`, 267-292). -/
@[ext] structure EmpiricalResidualDistribution where
  residualsF : List Decimal
  sorted : residualsF.Pairwise (· ≤ ·)
  two : 2 ≤ residualsF.length
deriving DecidableEq

/-- `EmpiricalResidualDistribution.__post_init__`. -/
def EmpiricalResidualDistribution.new (residualsF : List Decimal) :
    Except CalibrationException EmpiricalResidualDistribution := do
  let ⟨h⟩ ← ensure (2 ≤ (sortedDecimals residualsF).length)
    (calibrationError "empirical distribution requires at least two residuals")
  return ⟨sortedDecimals residualsF, pairwise_sortedDecimals residualsF, h⟩

theorem EmpiricalResidualDistribution.new_self (d : EmpiricalResidualDistribution) :
    new d.residualsF = .ok d := by
  have hsorted : sortedDecimals d.residualsF = d.residualsF := d.sorted.insertionSort_eq
  refine ensure_bind_eq_ok.mpr ⟨by rw [hsorted]; exact d.two, ?_⟩
  exact congrArg Except.ok (EmpiricalResidualDistribution.ext hsorted)

/-- `ResidualDistribution`: one of the two classes. -/
inductive ResidualDistribution where
  | normal (d : NormalResidualDistribution)
  | empirical (d : EmpiricalResidualDistribution)
deriving DecidableEq

namespace ResidualDistribution

/-- `kind`. -/
def kind : ResidualDistribution → DistributionKind
  | .normal _ => .normal
  | .empirical _ => .empirical

/-- `to_mapping`. -/
def toMapping : ResidualDistribution → List (String × Json)
  | .normal d => [("kind", .str DistributionKind.normal.value), ("bias_f", .str d.biasF.format),
      ("sigma_f", .str d.sigmaF.format)]
  | .empirical d => [("kind", .str DistributionKind.empirical.value),
      ("residuals_f", .arr (d.residualsF.map fun value => .str value.format))]

end ResidualDistribution

/-! ## Keys -/

/-- `GroupLevel`. -/
inductive GroupLevel where
  | citySourceLeadSeason
  | regionSourceLeadSeason
  | sourceLeadSeason
  | sourceLead
  | source
deriving DecidableEq, Repr

namespace GroupLevel

/-- `GroupLevel.value`. -/
def value : GroupLevel → String
  | .citySourceLeadSeason => "city_source_lead_season"
  | .regionSourceLeadSeason => "region_source_lead_season"
  | .sourceLeadSeason => "source_lead_season"
  | .sourceLead => "source_lead"
  | .source => "source"

/-- `GroupLevel(text)`. -/
def ofValue : String → Option GroupLevel
  | "city_source_lead_season" => some .citySourceLeadSeason
  | "region_source_lead_season" => some .regionSourceLeadSeason
  | "source_lead_season" => some .sourceLeadSeason
  | "source_lead" => some .sourceLead
  | "source" => some .source
  | _ => none

theorem ofValue_value (l : GroupLevel) : ofValue l.value = some l := by
  cases l <;> rfl

/-- The dimensions of a level: city, region, lead days, season (`calibration.py`, 324-330). -/
def expected : GroupLevel → Bool × Bool × Bool × Bool
  | .citySourceLeadSeason => (true, false, true, true)
  | .regionSourceLeadSeason => (false, true, true, true)
  | .sourceLeadSeason => (false, false, true, true)
  | .sourceLead => (false, false, true, false)
  | .source => (false, false, false, false)

end GroupLevel

/-- `Season(text)`. -/
def Season.ofValue : String → Option Season
  | "DJF" => some .djf
  | "MAM" => some .mam
  | "JJA" => some .jja
  | "SON" => some .son
  | _ => none

theorem Season.ofValue_value (s : Season) : ofValue s.value = some s := by
  cases s <;> rfl

/-- `CalibrationGroupKey` (`calibration.py`, 303-342). -/
structure CalibrationGroupKey where
  level : GroupLevel
  forecastSource : ForecastSource
  city : Option String
  climateRegion : Option String
  leadDays : Option ℤ
  season : Option Season
  leadDays_range : ∀ n ∈ leadDays, 0 ≤ n ∧ n ≤ 7
  dimensions : (city.isSome, climateRegion.isSome, leadDays.isSome, season.isSome) = level.expected
deriving DecidableEq

namespace CalibrationGroupKey

/-- `CalibrationGroupKey.__post_init__`. -/
def new (rt : Runtime) (level : GroupLevel) (forecastSource : ForecastSource)
    (city climateRegion : Option String) (leadDays : Option ℤ) (season : Option Season) :
    Except CalibrationException CalibrationGroupKey := do
  let city := city.map rt.lower.normalize
  let climateRegion := climateRegion.map rt.lower.normalize
  raiseIf (city = some "" ∨ climateRegion = some "")
    (calibrationError "calibration group location must not be blank")
  let ⟨range⟩ ← ensure (∀ n ∈ leadDays, 0 ≤ n ∧ n ≤ 7)
    (calibrationError "calibration group lead_days must be between 0 and 7")
  let ⟨dimensions⟩ ← ensure
    ((city.isSome, climateRegion.isSome, leadDays.isSome, season.isSome) = level.expected)
    (calibrationError ("invalid dimensions for calibration level " ++ level.value))
  return ⟨level, forecastSource, city, climateRegion, leadDays, season, range, dimensions⟩

/-- The parts that `stable_key` joins. -/
def parts (k : CalibrationGroupKey) : List String :=
  [k.level.value, k.forecastSource.value] ++ (k.city.map fun city => "city=" ++ city).toList ++
    (k.climateRegion.map fun region => "region=" ++ region).toList ++
    (k.leadDays.map fun n => "lead=D+" ++ toString n).toList ++
    (k.season.map fun season => "season=" ++ season.value).toList

/-- `stable_key`. -/
def stableKey (k : CalibrationGroupKey) : String := "|".intercalate k.parts

/-- The places of a key are normalized. -/
structure Valid (rt : Runtime) (k : CalibrationGroupKey) : Prop where
  city : ∀ s ∈ k.city, Stripped s ∧ rt.lower.map s = s
  climateRegion : ∀ s ∈ k.climateRegion, Stripped s ∧ rt.lower.map s = s

end CalibrationGroupKey

/-! ## Groups -/

section Artifact

variable {F : Type} (f : Numerics CalibrationException F)

/-- `CalibrationDiagnostics` (`calibration.py`, 345-380). -/
structure CalibrationDiagnostics (F : Type) where
  jarqueBera : F
  normalityPValue : F
  normalSelectionCrps : Option F
  empiricalSelectionCrps : Option F
deriving DecidableEq

namespace CalibrationDiagnostics

/-- `CalibrationDiagnostics.__post_init__`. -/
def new (d : CalibrationDiagnostics F) : Except CalibrationException (CalibrationDiagnostics F) := do
  forM [("jarque_bera", d.jarqueBera), ("normality_p_value", d.normalityPValue)] fun entry =>
    raiseIf (f.finiteNonneg entry.2 = false)
      (calibrationError (entry.1 ++ " must be finite and non-negative"))
  raiseIf (f.lt (f.lit "1") d.normalityPValue = true)
    (calibrationError "normality_p_value must not exceed one")
  forM [("normal_selection_crps", d.normalSelectionCrps),
    ("empirical_selection_crps", d.empiricalSelectionCrps)] fun entry =>
    forM entry.2.toList fun value =>
      raiseIf (f.finiteNonneg value = false)
        (calibrationError (entry.1 ++ " must be finite and non-negative"))
  return d

/-- A `float` or `None`, as it is written. -/
def optional (value : Option F) : Json :=
  match value with
  | none => .null
  | some x => .float (f.repr x)

/-- `to_mapping`. -/
def toMapping (d : CalibrationDiagnostics F) : List (String × Json) :=
  [("jarque_bera", .float (f.repr d.jarqueBera)),
    ("normality_p_value", .float (f.repr d.normalityPValue)),
    ("normal_selection_crps", optional f d.normalSelectionCrps),
    ("empirical_selection_crps", optional f d.empiricalSelectionCrps)]

end CalibrationDiagnostics

/-- `CalibrationGroup` (`calibration.py`, 383-407). -/
structure CalibrationGroup (F : Type) where
  key : CalibrationGroupKey
  sampleCount : ℤ
  distribution : ResidualDistribution
  trainingEnd : Date
  diagnostics : CalibrationDiagnostics F
deriving DecidableEq

namespace CalibrationGroup

/-- `CalibrationGroup.__post_init__`. -/
def new (g : CalibrationGroup F) : Except CalibrationException (CalibrationGroup F) := do
  raiseIf (g.sampleCount ≤ 0) (calibrationError "group sample_count must be positive")
  return g

/-- A text or `None`, as it is written. -/
def optionalText : Option String → Json
  | none => .null
  | some s => .str s

/-- `to_mapping`. -/
def toMapping (g : CalibrationGroup F) : List (String × Json) :=
  [("level", .str g.key.level.value), ("forecast_source", .str g.key.forecastSource.value),
    ("city", optionalText g.key.city), ("climate_region", optionalText g.key.climateRegion),
    ("lead_days",
      match g.key.leadDays with
      | none => .null
      | some n => .int n),
    ("season", optionalText (g.key.season.map Season.value)), ("sample_count", .int g.sampleCount),
    ("training_end", .str g.trainingEnd.isoformat), ("distribution", .obj g.distribution.toMapping),
    ("diagnostics", .obj (g.diagnostics.toMapping f))]

end CalibrationGroup

/-! ## Artifacts -/

/-- `CalibrationArtifact` (`calibration.py`, 410-424). -/
structure CalibrationArtifact (F : Type) where
  modelVersion : String
  createdAtUtc : DateTime
  forecastContractId : String
  observationContractId : String
  trainingStart : Date
  trainingEnd : Date
  validationStart : Date
  validationEnd : Date
  datasetSha256 : String
  minSampleCount : ℤ
  groups : List (CalibrationGroup F)
  schemaVersion : ℤ
deriving DecidableEq

namespace CalibrationArtifact

/-- `sorted(groups, key=lambda item: item.key.stable_key)`, which is stable. -/
def sortedGroups (groups : List (CalibrationGroup F)) : List (CalibrationGroup F) :=
  groups.insertionSort fun a b => a.key.stableKey ≤ b.key.stableKey

/-- `CalibrationArtifact.__post_init__`. -/
def new (rt : Runtime) (a : CalibrationArtifact F) :
    Except CalibrationException (CalibrationArtifact F) := do
  raiseIf (a.schemaVersion ≠ 1)
    (calibrationError ("unsupported calibration schema version: " ++ toString a.schemaVersion))
  let modelVersion := strip a.modelVersion
  let forecastContractId := strip a.forecastContractId
  let observationContractId := strip a.observationContractId
  raiseIf (modelVersion = "") (calibrationError "model_version must not be blank")
  raiseIf (forecastContractId = "") (calibrationError "forecast_contract_id must not be blank")
  raiseIf (observationContractId = "") (calibrationError "observation_contract_id must not be blank")
  let createdAtUtc ← utcOf a.createdAtUtc
  raiseIf (dateKey a.trainingEnd < dateKey a.trainingStart)
    (calibrationError "training interval is reversed")
  raiseIf (dateKey a.validationStart ≤ dateKey a.trainingEnd)
    (calibrationError "validation must start after the training cutoff")
  raiseIf (dateKey a.validationEnd < dateKey a.validationStart)
    (calibrationError "validation interval is reversed")
  let datasetSha256 ← digestOr rt a.datasetSha256 "dataset hash" " must be a non-blank string"
    " must be a SHA-256 hex digest"
  raiseIf (a.minSampleCount < 2) (calibrationError "min_sample_count must be at least two")
  raiseIf (a.groups = []) (calibrationError "calibration artifact requires at least one group")
  raiseIf (¬ (a.groups.map fun g => g.key.stableKey).Nodup)
    (calibrationError "calibration artifact contains duplicate groups")
  raiseIf (∃ g ∈ a.groups, g.trainingEnd ≠ a.trainingEnd)
    (calibrationError "group training cutoff differs from artifact cutoff")
  return { a with
    modelVersion, forecastContractId, observationContractId, createdAtUtc, datasetSha256,
    groups := sortedGroups a.groups }

/-- `payload_mapping`. -/
def payloadMapping (a : CalibrationArtifact F) : List (String × Json) :=
  [("schema_version", .int a.schemaVersion), ("model_version", .str a.modelVersion),
    ("created_at_utc", .str a.createdAtUtc.isoformat),
    ("forecast_contract_id", .str a.forecastContractId),
    ("observation_contract_id", .str a.observationContractId),
    ("training_start", .str a.trainingStart.isoformat), ("training_end", .str a.trainingEnd.isoformat),
    ("validation_start", .str a.validationStart.isoformat),
    ("validation_end", .str a.validationEnd.isoformat), ("dataset_sha256", .str a.datasetSha256),
    ("min_sample_count", .int a.minSampleCount),
    ("groups", .arr (a.groups.map fun g => .obj (g.toMapping f)))]

/-- `artifact_sha256`. -/
def artifactSha256 (rt : Runtime) (a : CalibrationArtifact F) : String :=
  rt.sha256 (Json.obj (a.payloadMapping f)).dumps

/-- The envelope that `to_json` writes. -/
def envelope (rt : Runtime) (a : CalibrationArtifact F) : List (String × Json) :=
  [("artifact_sha256", .str (a.artifactSha256 f rt)), ("artifact", .obj (a.payloadMapping f))]

/-- `to_json`. -/
def toJson (rt : Runtime) (a : CalibrationArtifact F) : String :=
  (Json.obj (a.envelope f rt)).dumpsIndent ++ "\n"

end CalibrationArtifact

end Artifact

end WeatherBot.Forecasting
