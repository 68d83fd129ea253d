import WeatherBot.Forecasting.Artifact
import WeatherBot.Markets.Temperature

/-!
# Probability estimates and holdout evaluation

The runtime model of an artifact (`forecasting/calibration.py`, 492-628) and
`evaluate_holdout` (`forecasting/calibration_fit.py`, 332-439), over any float
operations.

* `probability`: the most specific group with enough evidence, and the probability
  of a bucket under its distribution.
* `evaluateHoldout`: the scores of an artifact on samples outside its training
  window.
-/

namespace WeatherBot.Forecasting

open WeatherBot.Common
open WeatherBot.Domain
open WeatherBot.Markets
open CalibrationException (calibrationError raised)

variable {F : Type} (f : Numerics CalibrationException F) (rt : Runtime)

/-! ## Distribution functions -/

/-- `NormalResidualDistribution.cdf`. -/
def NormalResidualDistribution.cdf (d : NormalResidualDistribution) (residual : Decimal) :
    Except CalibrationException F := do
  let z := f.ofDecimal ((residual - d.biasF) / d.sigmaF)
  let root ← f.sqrt (f.lit "2.0")
  let scaled ← f.div z root
  return f.mul (f.lit "0.5") (f.add (f.lit "1.0") (f.erf scaled))

/-- `bisect_left(l, x)` in a sorted list. -/
def bisectLeft (l : List Decimal) (x : Decimal) : ℕ := l.countP (· < x)

/-- `EmpiricalResidualDistribution.cdf`. -/
def EmpiricalResidualDistribution.cdf (d : EmpiricalResidualDistribution) (residual : Decimal) :
    Except CalibrationException F :=
  f.ratio (bisectLeft d.residualsF residual) d.residualsF.length

/-- `ResidualDistribution.cdf`. -/
def ResidualDistribution.cdf (residual : Decimal) : ResidualDistribution → Except CalibrationException F
  | .normal d => d.cdf f residual
  | .empirical d => d.cdf f residual

/-- An exception of the market code. -/
def ofTemperature : TemperatureError → CalibrationException
  | .temperatureMarketError message => raised (.valueError message)
  | .raised e => raised e

/-- The difference of distribution functions that a bucket stands for (`calibration.py`, 610-621). -/
def cdfDifference (cdf : Decimal → Except CalibrationException F) (forecast : Decimal)
    (bucket : TemperatureBucket) : Except CalibrationException F :=
  match bucket.continuousLower, bucket.continuousUpper with
  | none, none => throw (calibrationError "temperature bucket has no bounds")
  | none, some upper => cdf (upper - forecast)
  | some lower, none => do
    let below ← cdf (lower - forecast)
    return f.sub (f.lit "1.0") below
  | some lower, some upper => do
    let above ← cdf (upper - forecast)
    let below ← cdf (lower - forecast)
    return f.sub above below

/-- `_bucket_probability` (`calibration.py`, 604-628) of any distribution function. -/
def bucketProbabilityOf (cdf : Decimal → Except CalibrationException F) (forecast : Decimal)
    (bucket : TemperatureBucket) : Except CalibrationException F := do
  let p ← cdfDifference f cdf forecast bucket
  let tolerance := f.lit "1e-15"
  let p := if f.lt p (f.lit "0") && f.isClose p (f.lit "0.0") tolerance then f.lit "0.0" else p
  let p := if f.lt (f.lit "1") p && f.isClose p (f.lit "1.0") tolerance then f.lit "1.0" else p
  raiseIf (f.finiteNonneg p = false ∨ f.lt (f.lit "1") p = true)
    (calibrationError ("invalid calibrated bucket probability: " ++ f.repr p))
  return p

/-- `_bucket_probability` of a distribution of an artifact. -/
def bucketProbability (distribution : ResidualDistribution) (forecast : Decimal)
    (bucket : TemperatureBucket) : Except CalibrationException F :=
  bucketProbabilityOf f (distribution.cdf f ·) forecast bucket

/-! ## The runtime model -/

/-- `ProbabilityEstimate` (`calibration.py`, 492-505). -/
structure ProbabilityEstimate (F : Type) where
  probability : F
  modelVersion : String
  artifactSha256 : String
  calibrationGroupKey : String
  fallbackLevel : GroupLevel
  distributionType : DistributionKind
  calibrationSampleCount : ℤ
  trainingCutoff : Date

/-- `_build_group_index`. -/
def groupIndex (artifact : CalibrationArtifact F) : Dict CalibrationGroupKey (CalibrationGroup F) :=
  artifact.groups.foldl (fun index group => index.insert group.key group) Dict.empty

/-- The keys from the most specific group to the broadest one (`calibration.py`, 548-573). -/
def candidateKeys (source : ForecastSource) (city climateRegion : String) (leadDays : ℤ)
    (season : Season) : Except CalibrationException (List CalibrationGroupKey) :=
  [(GroupLevel.citySourceLeadSeason, some city, none, some leadDays, some season),
    (.regionSourceLeadSeason, none, some climateRegion, some leadDays, some season),
    (.sourceLeadSeason, none, none, some leadDays, some season),
    (.sourceLead, none, none, some leadDays, none), (.source, none, none, none, none)].mapM
    fun (level, city, region, lead, season) =>
      CalibrationGroupKey.new rt level source city region lead season

/-- The first candidate whose group has enough samples. -/
def selectGroup (artifact : CalibrationArtifact F) (candidates : List CalibrationGroupKey) :
    Option (CalibrationGroup F) :=
  candidates.findSome? fun candidate =>
    ((groupIndex artifact).get? candidate).filter (artifact.minSampleCount ≤ ·.sampleCount)

/-- `CalibratedTemperatureModel.probability` (`calibration.py`, 532-593). -/
def probability (artifact : CalibrationArtifact F) (city climateRegion : String)
    (source : ForecastSource) (marketDate : Date) (leadDays : ℤ) (forecast : Decimal)
    (bucket : TemperatureBucket) : Except CalibrationException (ProbabilityEstimate F) := do
  let cityKey := rt.lower.normalize city
  let regionKey := rt.lower.normalize climateRegion
  raiseIf (cityKey = "" ∨ regionKey = "")
    (calibrationError "city and climate_region are required for calibration")
  raiseIf (¬ (0 ≤ leadDays ∧ leadDays ≤ 7))
    (calibrationError "lead_days must be an integer between 0 and 7")
  let candidates ← candidateKeys rt source cityKey regionKey leadDays (.forDate marketDate)
  match selectGroup artifact candidates with
  | none =>
    throw (calibrationError "no compatible calibration group satisfies the minimum evidence policy")
  | some selected => do
    let p ← bucketProbability f selected.distribution forecast bucket
    -- the check of `ProbabilityEstimate` repeats that of `_bucket_probability`
    return {
      probability := p
      modelVersion := artifact.modelVersion
      artifactSha256 := artifact.artifactSha256 f rt
      calibrationGroupKey := selected.key.stableKey
      fallbackLevel := selected.key.level
      distributionType := selected.distribution.kind
      calibrationSampleCount := selected.sampleCount
      trainingCutoff := artifact.trainingEnd }

/-! ## Holdout evaluation -/

/-- `ReliabilityBin`. -/
structure ReliabilityBin (F : Type) where
  lowerProbability : F
  upperProbability : F
  meanPredictedProbability : F
  observedFrequency : F
  count : ℕ

/-- `ValidationMetrics`. -/
structure ValidationMetrics (F : Type) where
  sampleCount : ℕ
  forecastBiasF : F
  maeF : F
  rmseF : F
  meanLogScore : F
  meanRankedProbabilityScore : F
  baselineMeanLogScore : F
  baselineMeanRankedProbabilityScore : F
  reliabilityBins : List (ReliabilityBin F)

/-- `_normal_cdf` (`temperature.py`, 68-69). -/
def normalCdf (x : F) : Except CalibrationException F := do
  let root ← f.sqrt (f.lit "2.0")
  let scaled ← f.div x root
  return f.mul (f.lit "0.5") (f.add (f.lit "1.0") (f.erf scaled))

/-- `TemperatureBucket.probability` (`temperature.py`, 208-228), for a positive sigma. -/
def bucketNormalProbability (bucket : TemperatureBucket) (mean sigma : Decimal) :
    Except CalibrationException F := do
  let meanFloat := f.ofDecimal mean
  let sigmaFloat := f.ofDecimal sigma
  let cdfAt := fun (bound : Decimal) => do
    let z ← f.div (f.sub (f.ofDecimal bound) meanFloat) sigmaFloat
    normalCdf f z
  match bucket.continuousLower, bucket.continuousUpper with
  | none, none => throw (raised ⟨.assertionError, ""⟩)
  | none, some upper => cdfAt upper
  | some lower, none => do
    let below ← cdfAt lower
    return f.sub (f.lit "1.0") below
  | some lower, some upper => do
    let above ← cdfAt upper
    let below ← cdfAt lower
    return f.sub above below

/-- `_FIXED_BASELINE_SIGMA_F`. -/
def fixedBaselineSigmaF : Decimal := ⟨false, 2, 0⟩

/-- The numbers of the thresholds: from -100 to 160. -/
def thresholds : List ℤ := (List.range 261).map fun (i : ℕ) => (i : ℤ) - 100

/-- The `Decimal` of an integer. -/
def ofDegree (n : ℤ) : Decimal := .ofScaled n 0

/-- `_rounded_reported_temperature`. -/
def roundedReportedTemperature (value : Decimal) : Except CalibrationException ℤ :=
  match quantizeHalfUp value with
  | some d => return d.signed
  | none => throw (raised
      ⟨.invalidOperation, "quantize result has too many digits for current context"⟩)

/-- The scores of one sample, and its pairs for the reliability bins. -/
structure SampleScores (F : Type) where
  logScore : F
  baselineLogScore : F
  rankedScore : F
  baselineRankedScore : F
  reliabilityPairs : List (F × ℤ)

/-- The variables of the loop over the thresholds. -/
structure Ranking (F : Type) where
  ranked : F
  baselineRanked : F
  pairs : List (F × ℤ)

/-- `model.probability(...)` for a sample. -/
def sampleProbability (artifact : CalibrationArtifact F) (sample : CalibrationSample)
    (bucket : TemperatureBucket) : Except CalibrationException F := do
  let estimate ← probability f rt artifact sample.city sample.climateRegion sample.forecastSource
    sample.marketDate sample.leadDays sample.forecastTemperatureF bucket
  return estimate.probability

/-- The body of the loop over the thresholds (`calibration_fit.py`, 376-400). -/
def rankThreshold (artifact : CalibrationArtifact F) (sample : CalibrationSample) (observedDegree : ℤ)
    (r : Ranking F) (threshold : ℤ) : Except CalibrationException (Ranking F) := do
  let bucket ← (TemperatureBucket.new .fahrenheit none (some (ofDegree threshold))).mapError ofTemperature
  let predicted ← sampleProbability f rt artifact sample bucket
  let baseline ← bucketNormalProbability f bucket sample.forecastTemperatureF fixedBaselineSigmaF
  let observed : ℤ := if observedDegree ≤ threshold then 1 else 0
  let observedFloat ← f.ofInt observed
  let score ← f.powInt (f.sub predicted observedFloat) 2
  let baselineScore ← f.powInt (f.sub baseline observedFloat) 2
  return ⟨f.add r.ranked score, f.add r.baselineRanked baselineScore,
    r.pairs ++ [(predicted, observed)]⟩

/-- The body of the loop over the samples (`calibration_fit.py`, 352-404). -/
def scoreSample (artifact : CalibrationArtifact F) (sample : CalibrationSample) :
    Except CalibrationException (SampleScores F) := do
  let observedDegree ← roundedReportedTemperature sample.observedTemperatureF
  let realizedBucket ← (TemperatureBucket.new .fahrenheit (some (ofDegree observedDegree))
    (some (ofDegree observedDegree))).mapError ofTemperature
  let estimate ← sampleProbability f rt artifact sample realizedBucket
  let baseline ← bucketNormalProbability f realizedBucket sample.forecastTemperatureF
    fixedBaselineSigmaF
  let logEstimate ← f.log (f.max estimate (f.lit "1e-12"))
  let logBaseline ← f.log (f.max baseline (f.lit "1e-12"))
  let ranking ← thresholds.foldlM (rankThreshold f rt artifact sample observedDegree)
    ⟨f.lit "0.0", f.lit "0.0", []⟩
  return ⟨f.neg logEstimate, f.neg logBaseline, ranking.ranked, ranking.baselineRanked, ranking.pairs⟩

/-- `sum(xs) / len(xs)`. -/
def mean (xs : List F) : Except CalibrationException F := f.divCount (f.sum xs) xs.length

/-- The number of bins. -/
def reliabilityBinCount : ℕ := 10

/-- The bin of a pair; a probability is not negative. -/
def binOf (pair : F × ℤ) : Except CalibrationException ℤ := do
  let count ← f.ofInt reliabilityBinCount
  let index ← f.toInt (f.mul pair.1 count)
  return min (reliabilityBinCount - 1) index

/-- The bin with an index, from its members. -/
def reliabilityBin (index : ℕ) (members : List (F × ℤ)) : Except CalibrationException (ReliabilityBin F) := do
  let lower ← f.ratio index reliabilityBinCount
  let upper ← f.ratio (index + 1) reliabilityBinCount
  let meanPredicted ← mean f (members.map (·.1))
  let frequency ← f.ratio (members.map (·.2)).sum members.length
  return ⟨lower, upper, meanPredicted, frequency, members.length⟩

/-- `_reliability_bins` (`calibration_fit.py`, 420-440). -/
def reliabilityBins (pairs : List (F × ℤ)) : Except CalibrationException (List (ReliabilityBin F)) := do
  let indexed ← pairs.mapM fun pair => do
    let index ← binOf f pair
    return (index, pair)
  let bins := (List.range reliabilityBinCount).map fun (i : ℕ) =>
    (i, (indexed.filter fun entry => entry.1 = (i : ℤ)).map (·.2))
  (bins.filter fun bin => bin.2 ≠ []).mapM fun bin => reliabilityBin f bin.1 bin.2

/-- `evaluate_holdout` (`calibration_fit.py`, 338-417). -/
def evaluateHoldout (artifact : CalibrationArtifact F) (samples : List CalibrationSample) :
    Except CalibrationException (ValidationMetrics F) := do
  raiseIf (samples = []) (calibrationError "holdout evaluation requires samples")
  let errors := samples.map fun sample => f.ofDecimal sample.residualF
  let scores ← samples.mapM (scoreSample f rt artifact)
  let bias ← mean f errors
  let mae ← mean f (errors.map f.abs)
  let squares ← errors.mapM fun x => f.powInt x 2
  let meanSquare ← mean f squares
  let rmse ← f.sqrt meanSquare
  let meanLog ← mean f (scores.map (·.logScore))
  let meanRanked ← mean f (scores.map (·.rankedScore))
  let baselineLog ← mean f (scores.map (·.baselineLogScore))
  let baselineRanked ← mean f (scores.map (·.baselineRankedScore))
  let bins ← reliabilityBins f (scores.flatMap (·.reliabilityPairs))
  return {
    sampleCount := samples.length
    forecastBiasF := bias
    maeF := mae
    rmseF := rmse
    meanLogScore := meanLog
    meanRankedProbabilityScore := meanRanked
    baselineMeanLogScore := baselineLog
    baselineMeanRankedProbabilityScore := baselineRanked
    reliabilityBins := bins }

end WeatherBot.Forecasting
