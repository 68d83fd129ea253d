import WeatherBot.Forecasting.Estimate

/-!
# Fitting calibration artifacts

`fit_v3_calibration_artifact` (`forecasting/calibration_v3_fit.py`) with the
functions of `calibration_v3_math.py` and `validate_calibration_samples`
(`calibration_fit.py`), over any float operations.

* `validateCalibrationSamples`: the samples in the order of their keys, unless two of
  them have one identity.
* `fitGroupV3`: the group of a key, fitted on its members.
* `fitV3CalibrationArtifact`: the artifact, and its scores on the validation samples.
-/

namespace WeatherBot.Forecasting

open WeatherBot.Common
open WeatherBot.Domain
open CalibrationException (calibrationError raised)

/-! ## Samples -/

/-- The key of `sorted` (`calibration_fit.py`, 255-261). -/
def sampleKey (s : CalibrationSample) : (ℕ ×ₗ ℕ ×ₗ ℕ) ×ₗ String ×ₗ ℤ ×ₗ String ×ₗ String :=
  toLex (dateKey s.marketDate, toLex (s.city, toLex (s.leadDays,
    toLex (s.stationId, s.measurementBasis))))

/-- `sorted(samples, key=...)`, which is stable. -/
def orderedSamples (samples : List CalibrationSample) : List CalibrationSample :=
  samples.insertionSort fun a b => sampleKey a ≤ sampleKey b

/-- The type of an identity. -/
abbrev SampleIdentity : Type := String × ForecastSource × Date × ℤ × String × String

/-- `repr` of an identity. -/
def identityRepr (rt : Runtime) : SampleIdentity → String
  | (city, source, date, leadDays, stationId, basis) =>
    "(" ++ rt.repr city ++ ", <ForecastSource.OPEN_METEO_ECMWF_IFS025: " ++ rt.repr source.value ++
      ">, datetime.date(" ++ toString date.year ++ ", " ++ toString date.month ++ ", " ++
      toString date.day ++ "), " ++ toString leadDays ++ ", " ++ rt.repr stationId ++ ", " ++
      rt.repr basis ++ ")"

/-- The loop over `identities` (`calibration_fit.py`, 266-270). -/
def checkUnique (rt : Runtime) : List SampleIdentity → List SampleIdentity →
    Except CalibrationException Unit
  | _, [] => return ()
  | seen, identity :: rest => do
    raiseIf (identity ∈ seen)
      (calibrationError ("duplicate calibration sample identity: " ++ identityRepr rt identity))
    checkUnique rt (identity :: seen) rest

/-- `validate_calibration_samples` (`calibration_fit.py`, 249-271). -/
def validateCalibrationSamples (rt : Runtime) (samples : List CalibrationSample) :
    Except CalibrationException (List CalibrationSample) := do
  let ordered := orderedSamples samples
  raiseIf (ordered = []) (calibrationError "calibration dataset is empty")
  checkUnique rt [] (ordered.map CalibrationSample.identity)
  return ordered

/-! ## Distributions -/

variable {F : Type} (f : Numerics CalibrationException F) (rt : Runtime)

/-- `sum(values, Decimal("0"))`. -/
def sumDecimals (values : List Decimal) : Decimal := values.foldl (· + ·) Decimal.zero

/-- `sample_standard_deviation` (`calibration_v3_math.py`, 20-34). -/
def sampleStandardDeviation (values : List Decimal) : Option Decimal :=
  if values.length < 2 then none
  else do
    let mean := sumDecimals values / ofDegree values.length
    let squares ← values.mapM fun value => f.decimalSquare (value - mean)
    let variance := sumDecimals squares / ofDegree (values.length - 1)
    if variance ≤ 0 then none
    else
      let sigma ← f.decimalSqrt variance
      if sigma ≤ 0 then none else some sigma

/-- `normal_distribution` (`calibration_v3_math.py`, 37-50). -/
def normalDistribution (values : List Decimal) : Option NormalResidualDistribution :=
  match sampleStandardDeviation f values with
  | none => none
  | some sigma =>
    (NormalResidualDistribution.new (sumDecimals values / ofDegree values.length) sigma).toOption

/-- `normal_crps` (`calibration_v3_math.py`, 57-62). -/
def normalCrps (d : NormalResidualDistribution) (observed : Decimal) : Except CalibrationException F := do
  let sigma := f.ofDecimal d.sigmaF
  let z := f.ofDecimal ((observed - d.biasF) / d.sigmaF)
  let square ← f.powInt z 2
  let exponent ← f.div (f.neg square) (f.lit "2.0")
  let density ← f.exp exponent
  let circle ← f.sqrt (f.mul (f.lit "2.0") f.pi)
  let phi ← f.div density circle
  let cdf ← d.cdf f observed
  let root ← f.sqrt f.pi
  let inverse ← f.div (f.lit "1.0") root
  return f.mul sigma (f.sub (f.add (f.mul z (f.sub (f.mul (f.lit "2.0") cdf) (f.lit "1.0")))
    (f.mul (f.lit "2.0") phi)) inverse)

/-- `empirical_crps` (`calibration_v3_math.py`, 65-74). -/
def empiricalCrps (d : EmpiricalResidualDistribution) (observed : Decimal) :
    Except CalibrationException F := do
  let observedFloat := f.ofDecimal observed
  let n := d.residualsF.length
  let first ← mean f (d.residualsF.map fun value => f.abs (f.sub (f.ofDecimal value) observedFloat))
  let weighted ← d.residualsF.zipIdx.mapM fun (value, index) => do
    let weight ← f.ofInt (2 * index - n + 1)
    return f.mul weight (f.ofDecimal value)
  let second ← f.divCount (f.sum weighted) (n * n)
  return f.sub first second

/-- The score of a distribution on one residual. -/
def crps (observed : Decimal) : ResidualDistribution → Except CalibrationException F
  | .normal d => normalCrps f d observed
  | .empirical d => empiricalCrps f d observed

/-- `mean_crps` (`calibration_v3_math.py`, 77-86). -/
def meanCrps (distribution : ResidualDistribution) (observed : List Decimal) :
    Except CalibrationException F := do
  raiseIf (observed = []) (calibrationError "distribution diagnostics require validation residuals")
  let scores ← observed.mapM fun value => crps f value distribution
  mean f scores

/-- `sum((value - mean) ** n for value in numeric) / len(numeric)`. -/
def centralMoment (numeric : List F) (center : F) (n : ℕ) : Except CalibrationException F := do
  let powers ← numeric.mapM fun value => f.powInt (f.sub value center) n
  mean f powers

/-- `jarque_bera` (`calibration_v3_math.py`, 89-103). -/
def jarqueBera (values : List Decimal) : Except CalibrationException (F × F) := do
  if values.length < 3 then return (f.lit "0.0", f.lit "0.0")
  else
    let numeric := values.map f.ofDecimal
    let center ← mean f numeric
    let second ← centralMoment f numeric center 2
    if f.le second (f.lit "0") then return (f.lit "1e308", f.lit "0.0")
    else
      let third ← centralMoment f numeric center 3
      let fourth ← centralMoment f numeric center 4
      let deviation ← f.pow second (f.lit "1.5")
      let skew ← f.div third deviation
      let square ← f.powInt second 2
      let kurtosis ← f.div fourth square
      let count ← f.ofInt numeric.length
      let factor ← f.div count (f.lit "6.0")
      let skewSquare ← f.powInt skew 2
      let excess ← f.powInt (f.sub kurtosis (f.lit "3.0")) 2
      let quarter ← f.div excess (f.lit "4.0")
      let statistic := f.mul factor (f.add skewSquare quarter)
      let exponent ← f.div (f.neg statistic) (f.lit "2.0")
      let pValue ← f.exp exponent
      return (statistic, pValue)

/-! ## Groups -/

/-- `sorted({sample.market_date for sample in samples})`. -/
def marketDates (samples : List CalibrationSample) : List Date :=
  (samples.map (·.marketDate)).dedup.insertionSort fun a b => dateKey a ≤ dateKey b

/-- `inner_selection_split` (`calibration_v3_math.py`, 106-118). -/
def innerSelectionSplit (samples : List CalibrationSample) :
    Except CalibrationException (List CalibrationSample × List CalibrationSample) := do
  let orderedDates := marketDates samples
  raiseIf (orderedDates.length < 2)
    (calibrationError "distribution diagnostics require at least two distinct dates")
  let count ← f.ofInt orderedDates.length
  let portion ← f.toInt (f.mul count (f.lit "0.8"))
  let splitIndex := max 1 (min ((orderedDates.length : ℤ) - 1) portion)
  match orderedDates[splitIndex.toNat]? with
  | none => throw (raised ⟨.valueError, "list index out of range"⟩)
  | some validationStart => do
    let innerTrain := samples.filter fun s => dateKey s.marketDate < dateKey validationStart
    let innerValidation := samples.filter fun s => dateKey validationStart ≤ dateKey s.marketDate
    raiseIf (innerTrain.length < 2 ∨ innerValidation = [])
      (calibrationError "distribution diagnostic split is too small")
    return (innerTrain, innerValidation)

/-- `keys_for_sample` (`calibration_v3_math.py`, 121-147). -/
def keysForSample (sample : CalibrationSample) : Except CalibrationException (List CalibrationGroupKey) :=
  candidateKeys rt sample.forecastSource sample.city sample.climateRegion sample.leadDays sample.season

/-- `CalibrationGroupFitDecision` (`calibration_policy.py`, 24-33). -/
structure CalibrationGroupFitDecision (F : Type) where
  key : CalibrationGroupKey
  sampleCount : ℤ
  diagnostics : CalibrationDiagnostics F
  runtimeEligible : Bool
  runtimeDistributionType : Option DistributionKind
  omissionReason : Option String

/-- `CalibrationGroupFitDecision.__post_init__`. -/
def CalibrationGroupFitDecision.new (d : CalibrationGroupFitDecision F) :
    Except CalibrationException (CalibrationGroupFitDecision F) := do
  raiseIf (d.sampleCount ≤ 0) (calibrationError "group fit decision sample_count must be positive")
  raiseIf (d.runtimeEligible ≠ d.runtimeDistributionType.isSome)
    (calibrationError "runtime eligibility and distribution type disagree")
  raiseIf (d.runtimeEligible = true ∧ d.omissionReason.isSome = true)
    (calibrationError "runtime-eligible group cannot have an omission reason")
  raiseIf (d.runtimeEligible = false ∧ d.omissionReason.getD "" = "")
    (calibrationError "omitted group requires an omission reason")
  return d

/-- The members of a group, in order (`calibration_v3_fit.py`, 55-57). -/
def orderedMembers (samples : List CalibrationSample) : List CalibrationSample :=
  samples.insertionSort fun a b =>
    toLex (dateKey a.marketDate, toLex (a.city, a.stationId)) ≤
      toLex (dateKey b.marketDate, toLex (b.city, b.stationId))

/-- `_fit_group_v3` (`calibration_v3_fit.py`, 49-109). -/
def fitGroupV3 (key : CalibrationGroupKey) (samples : List CalibrationSample) (trainingEnd : Date) :
    Except CalibrationException (Option (CalibrationGroup F) × CalibrationGroupFitDecision F) := do
  let ordered := orderedMembers samples
  let (innerTrain, innerValidation) ← innerSelectionSplit f ordered
  let innerResiduals := innerTrain.map CalibrationSample.residualF
  let validationResiduals := innerValidation.map CalibrationSample.residualF
  let normalCandidate := normalDistribution f innerResiduals
  let empiricalCandidate ← EmpiricalResidualDistribution.new innerResiduals
  let normalSelectionCrps ← match normalCandidate with
    | none => pure none
    | some d => do
      let score ← meanCrps f (.normal d) validationResiduals
      pure (some score)
  let empiricalSelectionCrps ← meanCrps f (.empirical empiricalCandidate) validationResiduals
  let allResiduals := ordered.map CalibrationSample.residualF
  let fittedNormal := normalDistribution f allResiduals
  let (statistic, pValue) ← jarqueBera f allResiduals
  let diagnostics ← CalibrationDiagnostics.new f {
    jarqueBera := statistic
    normalityPValue := pValue
    normalSelectionCrps := normalSelectionCrps
    empiricalSelectionCrps := some empiricalSelectionCrps }
  match fittedNormal with
  | none => do
    let decision ← CalibrationGroupFitDecision.new {
      key := key
      sampleCount := ordered.length
      diagnostics := diagnostics
      runtimeEligible := false
      runtimeDistributionType := none
      omissionReason := some "normal_fit_unavailable" }
    return (none, decision)
  | some d => do
    let group ← CalibrationGroup.new {
      key := key
      sampleCount := ordered.length
      distribution := .normal d
      trainingEnd := trainingEnd
      diagnostics := diagnostics }
    let decision ← CalibrationGroupFitDecision.new {
      key := key
      sampleCount := ordered.length
      diagnostics := diagnostics
      runtimeEligible := true
      runtimeDistributionType := some .normal
      omissionReason := none }
    return (some group, decision)

/-! ## The artifact -/

/-- The keyword arguments of `fit_v3_calibration_artifact`. -/
structure FitRequest where
  modelVersion : String
  createdAtUtc : DateTime
  forecastContractId : String
  observationContractId : String
  trainingStart : Date
  trainingEnd : Date
  validationStart : Date
  validationEnd : Date
  datasetSha256 : String
  minSampleCount : ℤ

/-- `V3CalibrationFitResult`. -/
structure V3CalibrationFitResult (F : Type) where
  artifact : CalibrationArtifact F
  validation : ValidationMetrics F
  groupFitDecisions : List (CalibrationGroupFitDecision F)

/-- The samples of an interval of dates. -/
def within (first last : Date) (samples : List CalibrationSample) : List CalibrationSample :=
  samples.filter fun s => dateKey first ≤ dateKey s.marketDate ∧ dateKey s.marketDate ≤ dateKey last

/-- `grouped[key].append(sample)`. -/
def appendMember (sample : CalibrationSample) (grouped : Dict CalibrationGroupKey (List CalibrationSample))
    (key : CalibrationGroupKey) : Dict CalibrationGroupKey (List CalibrationSample) :=
  grouped.insert key ((grouped.get? key).getD [] ++ [sample])

/-- The loop over the training samples (`calibration_v3_fit.py`, 146-149). -/
def groupSamples (training : List CalibrationSample) :
    Except CalibrationException (Dict CalibrationGroupKey (List CalibrationSample)) :=
  training.foldlM (fun grouped sample => do
    let keys ← keysForSample rt sample
    return keys.foldl (appendMember sample) grouped) Dict.empty

/-- The variables of the loop over the groups. -/
structure FittedGroups (F : Type) where
  groups : List (CalibrationGroup F)
  decisions : List (CalibrationGroupFitDecision F)

/-- The body of the loop over the groups (`calibration_v3_fit.py`, 153-159). -/
def fitMembers (r : FitRequest) (fitted : FittedGroups F)
    (entry : CalibrationGroupKey × List CalibrationSample) :
    Except CalibrationException (FittedGroups F) := do
  if entry.2.length < r.minSampleCount then return fitted
  else
    let (group, decision) ← fitGroupV3 f entry.1 entry.2 r.trainingEnd
    return ⟨fitted.groups ++ group.toList, fitted.decisions ++ [decision]⟩

/-- The groups of the training samples (`calibration_v3_fit.py`, 146-159). -/
def fitGroups (r : FitRequest) (training : List CalibrationSample) :
    Except CalibrationException (FittedGroups F) := do
  let grouped ← groupSamples rt training
  let items := grouped.entries.insertionSort fun a b => a.1.stableKey ≤ b.1.stableKey
  items.foldlM (fitMembers f r) ⟨[], []⟩

/-- `fit_v3_calibration_artifact` (`calibration_v3_fit.py`, 112-186). -/
def fitV3CalibrationArtifact (r : FitRequest) (samples : List CalibrationSample) :
    Except CalibrationException (V3CalibrationFitResult F) := do
  let allSamples ← validateCalibrationSamples rt samples
  raiseIf (dateKey r.validationStart ≤ dateKey r.trainingEnd)
    (calibrationError "validation must start after the training cutoff")
  let training := within r.trainingStart r.trainingEnd allSamples
  let validationSamples := within r.validationStart r.validationEnd allSamples
  raiseIf (training = []) (calibrationError "training interval contains no samples")
  raiseIf (validationSamples = []) (calibrationError "validation interval contains no samples")
  raiseIf (∃ s ∈ training, dateKey r.trainingEnd < dateKey s.marketDate)
    (calibrationError "training data leaks beyond the training cutoff")
  raiseIf (∃ s ∈ validationSamples, dateKey s.marketDate ≤ dateKey r.trainingEnd)
    (calibrationError "validation data overlaps training data")
  let fitted ← fitGroups f rt r training
  raiseIf (fitted.groups = [])
    (calibrationError "no calibration group satisfies the minimum sample and V3 normal-fit policy")
  let artifact ← CalibrationArtifact.new rt {
    modelVersion := r.modelVersion
    createdAtUtc := r.createdAtUtc
    forecastContractId := r.forecastContractId
    observationContractId := r.observationContractId
    trainingStart := r.trainingStart
    trainingEnd := r.trainingEnd
    validationStart := r.validationStart
    validationEnd := r.validationEnd
    datasetSha256 := r.datasetSha256
    minSampleCount := r.minSampleCount
    groups := fitted.groups
    schemaVersion := 1 }
  let validation ← evaluateHoldout f rt artifact validationSamples
  return ⟨artifact, validation, fitted.decisions⟩

end WeatherBot.Forecasting
