import WeatherBot.Forecasting.Artifact
import WeatherBot.Forecasting.Loader

/-!
# Reading a calibration artifact

`_parse_group` and `calibration_artifact_from_json` (`forecasting/calibration.py`,
33-111 and 631-740). The readers of single values have messages of their own; where
they agree with those of `calibration_io.py` the latter are used.
-/

namespace WeatherBot.Forecasting

open WeatherBot.Common
open WeatherBot.Domain
open CalibrationException (calibrationError)

/-! ## Values of a parsed document -/

namespace ArtifactField

section Values

variable {F : Type} (rt : Runtime) (py : TextReaders) (f : Numerics CalibrationException F)

/-- `_text`. -/
def textOf (value : Json) (label : String) : Except CalibrationException String :=
  match value with
  | .str s => textOr s label " must be a non-blank string"
  | _ => throw (calibrationError (label ++ " must be a non-blank string"))

/-- `_timestamp`. -/
def timestampOf (value : Json) (label : String) : Except CalibrationException DateTime := do
  let text ← textOf value label
  match py.readDatetime (replaceZulu text) with
  | .aware t => utcOf t
  | .naive => throw (calibrationError (label ++ " must be timezone-aware"))
  | .invalid => throw (calibrationError (label ++ " must be ISO-8601"))

/-- `_date`. -/
def dateOf (value : Json) (label : String) : Except CalibrationException Date := do
  let text ← textOf value label
  match py.readDate text with
  | some d => return d
  | none => throw (calibrationError (label ++ " must be an ISO date"))

/-- `_sha256`. -/
def digestOf (value : Json) (label : String) : Except CalibrationException String :=
  match value with
  | .str s => digestOr rt s label " must be a non-blank string" " must be a SHA-256 hex digest"
  | _ => throw (calibrationError (label ++ " must be a non-blank string"))

/-- The result of `_number`, which must be finite. -/
def finiteNumber (result : F) (label : String) : Except CalibrationException F := do
  raiseIf (f.isFinite result = false) (calibrationError (label ++ " must be finite"))
  return result

/-- `_number`. -/
def numberOf (value : Json) (label : String) : Except CalibrationException F :=
  match value with
  | .int n => do
    let result ← f.ofInt n
    finiteNumber f result label
  | .float text => finiteNumber f (f.ofText text) label
  | _ => throw (calibrationError (label ++ " must be numeric"))

/-- `None if value is None else item(value, label=label)`; `_optional_number` is that of `_number`. -/
def optionalOf {α : Type} (item : Json → String → Except CalibrationException α) (value : Json)
    (label : String) : Except CalibrationException (Option α) :=
  match value with
  | .null => return none
  | _ => do
    let a ← item value label
    return some a

end Values

end ArtifactField

open ArtifactField (numberOf optionalOf)

/-! ## Groups -/

section Documents

variable {F : Type} (rt : Runtime) (py : TextReaders) (f : Numerics CalibrationException F)

/-- The distribution of `_parse_group`. -/
def distributionFromMapping (raw : List (String × Json)) :
    Except CalibrationException ResidualDistribution := do
  let kind ← memberOf DistributionKind.ofValue (getValue raw "kind") "distribution kind"
    "unsupported residual distribution"
  match kind with
  | .normal => do
    let biasF ← decimalOf py (getValue raw "bias_f") "normal bias"
    let sigmaF ← decimalOf py (getValue raw "sigma_f") "normal sigma"
    let d ← NormalResidualDistribution.new biasF sigmaF
    return .normal d
  | .empirical => do
    let values ← sequenceOf (getValue raw "residuals_f") "empirical residuals"
    let residualsF ← values.mapM fun item => decimalOf py item "empirical residual"
    let d ← EmpiricalResidualDistribution.new residualsF
    return .empirical d

/-- The diagnostics of `_parse_group`. -/
def diagnosticsFromMapping (raw : List (String × Json)) :
    Except CalibrationException (CalibrationDiagnostics F) := do
  let jarqueBera ← numberOf f (getValue raw "jarque_bera") "jarque_bera"
  let normalityPValue ← numberOf f (getValue raw "normality_p_value") "normality_p_value"
  let normalSelectionCrps ← optionalOf (numberOf f) (getValue raw "normal_selection_crps")
    "normal_selection_crps"
  let empiricalSelectionCrps ← optionalOf (numberOf f) (getValue raw "empirical_selection_crps")
    "empirical_selection_crps"
  CalibrationDiagnostics.new f {
    jarqueBera, normalityPValue, normalSelectionCrps, empiricalSelectionCrps }

/-- `_parse_group` of an object. -/
def groupFromMapping (raw : List (String × Json)) :
    Except CalibrationException (CalibrationGroup F) := do
  let level ← memberOf GroupLevel.ofValue (getValue raw "level") "group level"
    "unsupported calibration group enum value"
  let source ← memberOf ForecastSource.ofValue (getValue raw "forecast_source")
    "group forecast source" "unsupported calibration group enum value"
  let city ← optionalOf ArtifactField.textOf (getValue raw "city") "group city"
  let region ← optionalOf ArtifactField.textOf (getValue raw "climate_region") "group climate region"
  let lead ← optionalOf integerOf (getValue raw "lead_days") "group lead_days"
  let season ← optionalOf
    (fun value label => memberOf Season.ofValue value label "unsupported calibration season")
    (getValue raw "season") "group season"
  let distributionRaw ← mappingOf (getValue raw "distribution") "group distribution"
  let distribution ← distributionFromMapping py distributionRaw
  let diagnosticsRaw ← mappingOf (getValue raw "diagnostics") "group diagnostics"
  let diagnostics ← diagnosticsFromMapping f diagnosticsRaw
  let key ← CalibrationGroupKey.new rt level source city region lead season
  let sampleCount ← integerOf (getValue raw "sample_count") "group sample_count"
  let trainingEnd ← ArtifactField.dateOf py (getValue raw "training_end") "group training_end"
  CalibrationGroup.new { key, sampleCount, distribution, trainingEnd, diagnostics }

/-- `_parse_group`. -/
def parseGroup (value : Json) : Except CalibrationException (CalibrationGroup F) := do
  let raw ← mappingOf value "calibration group"
  groupFromMapping rt py f raw

/-! ## Artifacts -/

/-- The artifact of the payload. -/
def artifactFromMapping (raw : List (String × Json)) :
    Except CalibrationException (CalibrationArtifact F) := do
  let schemaVersion ← integerOf (getValue raw "schema_version") "schema_version"
  let modelVersion ← ArtifactField.textOf (getValue raw "model_version") "model_version"
  let createdAtUtc ← ArtifactField.timestampOf py (getValue raw "created_at_utc") "created_at_utc"
  let forecastContractId ← ArtifactField.textOf (getValue raw "forecast_contract_id") "forecast_contract_id"
  let observationContractId ← ArtifactField.textOf (getValue raw "observation_contract_id")
    "observation_contract_id"
  let trainingStart ← ArtifactField.dateOf py (getValue raw "training_start") "training_start"
  let trainingEnd ← ArtifactField.dateOf py (getValue raw "training_end") "training_end"
  let validationStart ← ArtifactField.dateOf py (getValue raw "validation_start") "validation_start"
  let validationEnd ← ArtifactField.dateOf py (getValue raw "validation_end") "validation_end"
  let datasetSha256 ← ArtifactField.digestOf rt (getValue raw "dataset_sha256") "dataset hash"
  let minSampleCount ← integerOf (getValue raw "min_sample_count") "min_sample_count"
  let items ← sequenceOf (getValue raw "groups") "calibration groups"
  let groups ← items.mapM (parseGroup rt py f)
  CalibrationArtifact.new rt {
    modelVersion, createdAtUtc, forecastContractId, observationContractId, trainingStart, trainingEnd,
    validationStart, validationEnd, datasetSha256, minSampleCount, groups, schemaVersion }

/-- `calibration_artifact_from_json` of an object. -/
def artifactFromEnvelope (envelope : List (String × Json)) :
    Except CalibrationException (CalibrationArtifact F) := do
  let expectedSha ← ArtifactField.digestOf rt (getValue envelope "artifact_sha256") "artifact checksum"
  let raw ← mappingOf (getValue envelope "artifact") "artifact payload"
  let artifact ← artifactFromMapping rt py f raw
  raiseIf (artifact.artifactSha256 f rt ≠ expectedSha)
    (calibrationError "calibration artifact checksum mismatch")
  return artifact

/-- `calibration_artifact_from_json`. -/
def calibrationArtifactFromJson (text : String) :
    Except CalibrationException (CalibrationArtifact F) :=
  match Json.loadsWith Json.lastValues text with
  | none => throw (calibrationError "calibration artifact is not valid JSON")
  | some decoded => do
    let envelope ← mappingOf decoded "artifact envelope"
    artifactFromEnvelope rt py f envelope

end Documents

end WeatherBot.Forecasting
