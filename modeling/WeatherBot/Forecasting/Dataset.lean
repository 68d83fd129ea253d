import WeatherBot.Common.DecimalContext
import WeatherBot.Common.Dict
import WeatherBot.Common.JsonIndent
import WeatherBot.Common.Lines
import WeatherBot.Forecasting.Sample

/-!
# Calibration datasets

`build_calibration_dataset` and `write_calibration_dataset`
(`forecasting/calibration_data.py`).

* `buildCalibrationDataset`: evidence pairs and parity reports to a dataset.
* `Built`: **what is known of a dataset that it returns**: its records are valid,
  stand in the order of their keys and come from the pairs, and the manifest
  describes them.
-/

namespace WeatherBot.Forecasting

open WeatherBot.Common
open WeatherBot.Domain
open CalibrationException (calibrationError raised)

/-! ## Evidence -/

/-- What the dataset takes from a `DailyHighForecast` (`forecasting/model.py`, 63-75). -/
structure DailyHighForecast where
  temperatureF : Decimal
  marketDate : Date
  marketTimezone : String
  source : ForecastSource
  modelRunInitializedAtUtc : Option DateTime

/-- `ForecastCalibrationEvidence` (`calibration_data.py`, 107-122). -/
structure ForecastCalibrationEvidence where
  city : String
  climateRegion : String
  forecast : DailyHighForecast
  forecastAsOfUtc : DateTime
  leadDays : ℤ
  sourceContractId : String
  captureContractId : String
  captureMethod : ForecastCaptureMethod
  sourceUrl : String
  latitude : Decimal
  longitude : Decimal
  biasCorrection : Bool
  payloadSha256 : String

namespace ForecastCalibrationEvidence

/-- `ForecastCalibrationEvidence.provenance_mapping`. -/
def provenanceMapping (e : ForecastCalibrationEvidence) : List (String × Json) :=
  [("city", .str e.city), ("climate_region", .str e.climateRegion),
    ("forecast_source", .str e.forecast.source.value),
    ("market_date", .str e.forecast.marketDate.isoformat),
    ("market_timezone", .str e.forecast.marketTimezone),
    ("forecast_temperature_f", .str e.forecast.temperatureF.format),
    ("forecast_as_of_utc", .str e.forecastAsOfUtc.isoformat), ("lead_days", .int e.leadDays),
    ("model_run_initialized_at_utc",
      match e.forecast.modelRunInitializedAtUtc with
      | none => .null
      | some t => .str t.isoformat),
    ("source_contract_id", .str e.sourceContractId),
    ("capture_contract_id", .str e.captureContractId),
    ("capture_method", .str e.captureMethod.value), ("source_url", .str e.sourceUrl),
    ("latitude", .str e.latitude.format), ("longitude", .str e.longitude.format),
    ("bias_correction", .bool e.biasCorrection), ("payload_sha256", .str e.payloadSha256)]

/-- `ForecastCalibrationEvidence.provenance_sha256`. -/
def provenanceSha256 (rt : Runtime) (e : ForecastCalibrationEvidence) : String :=
  rt.sha256 (Json.obj e.provenanceMapping).dumps

end ForecastCalibrationEvidence

/-! ## Parity reports -/

/-- A finite `float`: its value and its `repr`. -/
structure PyFloat where
  value : ℚ
  repr : String

/-- `ArchiveParityPolicy`. -/
structure ArchiveParityPolicy where
  minPairs : ℤ
  minReferenceCoverage : PyFloat
  maxMaeF : PyFloat
  maxAbsErrorF : PyFloat

/-- `ArchiveParityPolicy.to_mapping`. -/
def ArchiveParityPolicy.toMapping (p : ArchiveParityPolicy) : List (String × Json) :=
  [("min_pairs", .int p.minPairs), ("min_reference_coverage", .float p.minReferenceCoverage.repr),
    ("max_mae_f", .float p.maxMaeF.repr), ("max_abs_error_f", .float p.maxAbsErrorF.repr)]

/-- `ArchiveParityReport`. -/
structure ArchiveParityReport where
  referenceContractId : String
  candidateContractId : String
  policy : ArchiveParityPolicy
  referenceCount : ℤ
  candidateCount : ℤ
  matchedCount : ℤ
  referenceCoverage : PyFloat
  meanErrorF : PyFloat
  maeF : PyFloat
  rmseF : PyFloat
  maxAbsErrorF : PyFloat
  matchedIdentitySha256 : String

namespace ArchiveParityReport

/-- `ArchiveParityReport.compatible`. -/
def compatible (r : ArchiveParityReport) : Bool :=
  r.policy.minPairs ≤ r.matchedCount && r.policy.minReferenceCoverage.value ≤ r.referenceCoverage.value &&
    r.maeF.value ≤ r.policy.maxMaeF.value && r.maxAbsErrorF.value ≤ r.policy.maxAbsErrorF.value

/-- `ArchiveParityReport.to_mapping`. -/
def toMapping (r : ArchiveParityReport) : List (String × Json) :=
  [("schema_version", .int 1), ("reference_contract_id", .str r.referenceContractId),
    ("candidate_contract_id", .str r.candidateContractId), ("policy", .obj r.policy.toMapping),
    ("reference_count", .int r.referenceCount), ("candidate_count", .int r.candidateCount),
    ("matched_count", .int r.matchedCount), ("reference_coverage", .float r.referenceCoverage.repr),
    ("mean_error_f", .float r.meanErrorF.repr), ("mae_f", .float r.maeF.repr),
    ("rmse_f", .float r.rmseF.repr), ("max_abs_error_f", .float r.maxAbsErrorF.repr),
    ("matched_identity_sha256", .str r.matchedIdentitySha256), ("compatible", .bool r.compatible)]

/-- `ArchiveParityReport.report_sha256`. -/
def reportSha256 (rt : Runtime) (r : ArchiveParityReport) : String :=
  rt.sha256 (Json.obj r.toMapping).dumps

end ArchiveParityReport

/-! ## Manifests and datasets -/

/-- `CalibrationDatasetManifest`. -/
structure CalibrationDatasetManifest where
  forecastContractId : String
  observationContractId : String
  recordCount : ℤ
  startDate : Date
  endDate : Date
  captureContractIds : List String
  parityReportSha256s : List String
  datasetSha256 : String
deriving DecidableEq

namespace CalibrationDatasetManifest

/-- `CalibrationDatasetManifest.to_mapping`. -/
def toMapping (m : CalibrationDatasetManifest) : List (String × Json) :=
  [("schema_version", .int 1), ("forecast_contract_id", .str m.forecastContractId),
    ("observation_contract_id", .str m.observationContractId), ("record_count", .int m.recordCount),
    ("start_date", .str m.startDate.isoformat), ("end_date", .str m.endDate.isoformat),
    ("capture_contract_ids", .arr (m.captureContractIds.map .str)),
    ("parity_report_sha256s", .arr (m.parityReportSha256s.map .str)),
    ("dataset_sha256", .str m.datasetSha256)]

/-- `CalibrationDatasetManifest.manifest_sha256`. -/
def manifestSha256 (rt : Runtime) (m : CalibrationDatasetManifest) : String :=
  rt.sha256 (Json.obj m.toMapping).dumps

/-- The members that `to_json` writes. -/
def payload (rt : Runtime) (m : CalibrationDatasetManifest) : List (String × Json) :=
  m.toMapping ++ [("manifest_sha256", .str (m.manifestSha256 rt))]

/-- `CalibrationDatasetManifest.to_json`. -/
def toJson (rt : Runtime) (m : CalibrationDatasetManifest) : String :=
  (Json.obj (m.payload rt)).dumpsIndent ++ "\n"

end CalibrationDatasetManifest

/-- `CalibrationDataset`. -/
structure CalibrationDataset where
  records : List CalibrationDatasetRecord
  manifest : CalibrationDatasetManifest
deriving DecidableEq

/-- The lines of records. -/
def jsonl (records : List CalibrationDatasetRecord) : String :=
  String.join (records.map fun r => r.text ++ "\n")

/-- `CalibrationDataset.to_jsonl`. -/
def CalibrationDataset.toJsonl (d : CalibrationDataset) : String := jsonl d.records

/-- The texts of the two files of a dataset. -/
structure DatasetFiles where
  records : String
  manifest : String

/-- `write_calibration_dataset`. -/
def writeCalibrationDataset (rt : Runtime) (d : CalibrationDataset) : DatasetFiles :=
  ⟨d.toJsonl, d.manifest.toJson rt⟩

/-! ## Building -/

section Build

variable (rt : Runtime)

/-- `_fahrenheit`. -/
def fahrenheit (value : Decimal) (unit : String) : Except CalibrationException Decimal :=
  let normalized := rt.upper.normalize unit
  if normalized = "F" then return value
  else if normalized = "C" then
    return ((value.mul ⟨false, 9, 0⟩).truediv ⟨false, 5, 0⟩).add ⟨false, 32, 0⟩
  else throw (calibrationError ("unsupported observation temperature unit: " ++ rt.repr unit))

/-- `calibration_sample_from_evidence`. -/
def calibrationSampleFromEvidence (forecast : ForecastCalibrationEvidence)
    (observation : WeatherObservationEvidence) : Except CalibrationException CalibrationSample := do
  raiseIf (observation.learningEligible = false)
    (calibrationError "calibration observation must be final or revised")
  raiseIf (observation.marketDate ≠ forecast.forecast.marketDate)
    (calibrationError "forecast and observation use different market dates")
  raiseIf (observation.marketTimezone ≠ forecast.forecast.marketTimezone)
    (calibrationError "forecast and observation use different market timezones")
  let finalized ← utcOf observation.retrievedAt
  raiseIf (finalized.instant ≤ forecast.forecastAsOfUtc.instant)
    (calibrationError "forecast as-of time must predate finalized observation evidence")
  let observedF ← fahrenheit rt observation.temperature observation.unit
  CalibrationSample.new rt {
    city := forecast.city
    climateRegion := forecast.climateRegion
    forecastSource := forecast.forecast.source
    marketDate := forecast.forecast.marketDate
    leadDays := forecast.leadDays
    forecastTemperatureF := forecast.forecast.temperatureF
    observedTemperatureF := observedF
    forecastAsOfUtc := forecast.forecastAsOfUtc
    observationFinalizedAtUtc := finalized
    observationSource := observation.sourceName
    stationId := observation.stationId
    measurementBasis := observation.measurementBasis
    forecastPayloadSha256 := forecast.payloadSha256
    observationPayloadSha256 := observation.payloadHash }

/-- The reports of the archive contracts that passed parity. -/
abbrev AcceptedReports := Dict String ArchiveParityReport

/-- The loop of `build_calibration_dataset` over the reports (590-602). -/
def acceptReport (effectiveContract : String) (accepted : AcceptedReports)
    (report : ArchiveParityReport) : Except CalibrationException AcceptedReports := do
  raiseIf (report.referenceContractId ≠ effectiveContract)
    (calibrationError "parity report references a different production contract")
  raiseIf (report.compatible = false)
    (calibrationError ("archive parity failed for capture contract " ++ report.candidateContractId))
  match accepted.get? report.candidateContractId with
  | none => return accepted.insert report.candidateContractId report
  | some previous => do
    raiseIf (previous.reportSha256 rt ≠ report.reportSha256 rt)
      (calibrationError ("multiple parity reports exist for capture contract " ++
        report.candidateContractId))
    return accepted.insert report.candidateContractId report

/-- The loop over the pairs (604-630). -/
def recordOfPair (effectiveContract observationContract : String) (accepted : AcceptedReports)
    (pair : ForecastCalibrationEvidence × WeatherObservationEvidence) :
    Except CalibrationException CalibrationDatasetRecord := do
  let forecast := pair.1
  raiseIf (forecast.sourceContractId ≠ effectiveContract)
    (calibrationError "forecast evidence targets a different source contract")
  raiseIf (forecast.captureContractId ≠ effectiveContract ∧
      accepted.get? forecast.captureContractId = none)
    (calibrationError "archive forecast cannot enter the dataset without passing source parity")
  let sample ← calibrationSampleFromEvidence rt forecast pair.2
  CalibrationDatasetRecord.new rt {
    sample
    forecastContractId := effectiveContract
    observationContractId := observationContract
    forecastCaptureContractId := forecast.captureContractId
    forecastCaptureMethod := forecast.captureMethod
    forecastSourceUrl := forecast.sourceUrl
    forecastLatitude := forecast.latitude
    forecastLongitude := forecast.longitude
    forecastBiasCorrection := forecast.biasCorrection
    forecastProvenanceSha256 := forecast.provenanceSha256 rt }

/-- The fields of a date, in the order in which dates are compared. -/
def dateKey (d : Date) : ℕ ×ₗ ℕ ×ₗ ℕ := toLex (d.year, toLex (d.month, d.day))

theorem dateKey_inj {a b : Date} (h : dateKey a = dateKey b) : a = b := by
  obtain ⟨y, m, dd, hv⟩ := a
  obtain ⟨y', m', dd', hv'⟩ := b
  have h1 : (y, toLex (m, dd)) = (y', toLex (m', dd')) := h
  obtain ⟨rfl, h2⟩ := Prod.mk.inj h1
  have h3 : (m, dd) = (m', dd') := h2
  obtain ⟨rfl, rfl⟩ := Prod.mk.inj h3
  rfl

/-- The key of `sorted` (637-643). -/
def sortKey (r : CalibrationDatasetRecord) : (ℕ ×ₗ ℕ ×ₗ ℕ) ×ₗ String ×ₗ ℤ ×ₗ String ×ₗ String :=
  toLex (dateKey r.sample.marketDate, toLex (r.sample.city, toLex (r.sample.leadDays,
    toLex (r.sample.stationId, r.sample.measurementBasis))))

/-- `sorted(records, key=...)`, which is stable. -/
def ordered (records : List CalibrationDatasetRecord) : List CalibrationDatasetRecord :=
  records.insertionSort fun a b => sortKey a ≤ sortKey b

/-- `repr` of an identity. -/
def identityText (r : CalibrationDatasetRecord) : String :=
  let s := r.sample
  "(" ++ rt.repr s.city ++ ", <ForecastSource.OPEN_METEO_ECMWF_IFS025: " ++
    rt.repr s.forecastSource.value ++ ">, datetime.date(" ++ toString s.marketDate.year ++ ", " ++
    toString s.marketDate.month ++ ", " ++ toString s.marketDate.day ++ "), " ++
    toString s.leadDays ++ ", " ++ rt.repr s.stationId ++ ", " ++ rt.repr s.measurementBasis ++ ")"

/-- The loop over `seen` (645-653). -/
def checkIdentities : List CalibrationDatasetRecord → List CalibrationDatasetRecord →
    Except CalibrationException Unit
  | _, [] => return ()
  | seen, r :: l =>
    match seen.find? fun s => s.identity = r.identity with
    | none => checkIdentities (r :: seen) l
    | some existing =>
      if existing.recordSha256 rt = r.recordSha256 rt then
        throw (calibrationError ("duplicate calibration dataset identity: " ++ identityText rt r))
      else
        throw (calibrationError ("conflicting calibration dataset identity: " ++ identityText rt r))

/-- `accepted_archive_contracts[contract].report_sha256`. -/
def reportShaAt (accepted : AcceptedReports) (contract : String) : Except CalibrationException String :=
  match accepted.get? contract with
  | some report => return report.reportSha256 rt
  | none => throw (raised ⟨.keyError, contract⟩)

/-- `build_calibration_dataset`. -/
def buildCalibrationDataset
    (pairs : List (ForecastCalibrationEvidence × WeatherObservationEvidence))
    (forecastContractId observationContractId : String) (parityReports : List ArchiveParityReport) :
    Except CalibrationException CalibrationDataset := do
  let effectiveContract ← textOr forecastContractId "dataset forecast contract" " must not be blank"
  let observationContract ← textOr observationContractId "dataset observation contract"
    " must not be blank"
  let accepted ← parityReports.foldlM (acceptReport rt effectiveContract) Dict.empty
  let records ← pairs.mapM (recordOfPair rt effectiveContract observationContract accepted)
  let ordered := ordered records
  match ordered.head?, ordered.getLast? with
  | some first, some last => do
    checkIdentities rt [] ordered
    let usedCaptureContracts := sortedSet (ordered.map (·.forecastCaptureContractId))
    let hashes ← (usedCaptureContracts.filter (· ≠ effectiveContract)).mapM (reportShaAt rt accepted)
    return {
      records := ordered
      manifest := {
        forecastContractId := effectiveContract
        observationContractId := observationContract
        recordCount := ordered.length
        startDate := first.sample.marketDate
        endDate := last.sample.marketDate
        captureContractIds := usedCaptureContracts
        parityReportSha256s := hashes.insertionSort (· ≤ ·)
        datasetSha256 := rt.sha256 (jsonl ordered) } }
  | _, _ => throw (calibrationError "calibration dataset is empty")

end Build

/-! ## What a record comes from -/

section Records

variable {rt : Runtime}

/-- The texts of the record of a pair, for the contracts of the dataset. -/
def pairTexts (rt : Runtime) (forecastContractId observationContractId : String)
    (pair : ForecastCalibrationEvidence × WeatherObservationEvidence) : List String :=
  [rt.lower.normalize pair.1.city, rt.lower.normalize pair.1.climateRegion, strip pair.2.sourceName,
    rt.upper.normalize pair.2.stationId, strip pair.2.measurementBasis, strip forecastContractId,
    strip observationContractId, strip pair.1.captureContractId, strip pair.1.sourceUrl]

theorem sampleFromEvidence_eq_ok {forecast : ForecastCalibrationEvidence}
    {observation : WeatherObservationEvidence} {s : CalibrationSample}
    (h : calibrationSampleFromEvidence rt forecast observation = .ok s) :
    CalibrationSample.Valid rt s ∧ s.texts =
      [rt.lower.normalize forecast.city, rt.lower.normalize forecast.climateRegion,
        strip observation.sourceName, rt.upper.normalize observation.stationId,
        strip observation.measurementBasis] := by
  rw [calibrationSampleFromEvidence, raiseIf_bind_eq_ok, raiseIf_bind_eq_ok, raiseIf_bind_eq_ok] at h
  obtain ⟨-, -, -, h⟩ := h
  obtain ⟨finalized, -, h⟩ := bind_eq_ok.mp h
  rw [raiseIf_bind_eq_ok] at h
  obtain ⟨observedF, -, h⟩ := bind_eq_ok.mp h.2
  have htexts := CalibrationSample.texts_of_new h
  rw [CalibrationSample.normalTexts] at htexts
  exact ⟨CalibrationSample.valid_of_new h, htexts⟩

/-- **What the record of a pair is known to be.** -/
theorem recordOfPair_eq_ok {effectiveContract observationContract : String}
    {accepted : AcceptedReports} {pair : ForecastCalibrationEvidence × WeatherObservationEvidence}
    {r : CalibrationDatasetRecord}
    (h : recordOfPair rt effectiveContract observationContract accepted pair = .ok r) :
    CalibrationDatasetRecord.Valid rt r ∧ r.forecastContractId = strip effectiveContract ∧
      r.observationContractId = strip observationContract ∧
      r.forecastCaptureContractId = strip pair.1.captureContractId ∧
      r.texts = pairTexts rt effectiveContract observationContract pair := by
  obtain ⟨-, h⟩ := raiseIf_bind_eq_ok.mp h
  obtain ⟨-, h⟩ := raiseIf_bind_eq_ok.mp h
  obtain ⟨s, hs, h⟩ := bind_eq_ok.mp h
  obtain ⟨hvalid, htexts⟩ := sampleFromEvidence_eq_ok hs
  obtain ⟨hsample, hforecast, hobservation, hcapture, hurl, hr⟩ := CalibrationDatasetRecord.new_eq_ok h
  refine ⟨hr hvalid, hforecast, hobservation, hcapture, ?_⟩
  rw [CalibrationDatasetRecord.texts, hsample, htexts, hforecast, hobservation, hcapture, hurl]
  rfl

end Records

/-! ## What the reports become -/

section Reports

variable {rt : Runtime} {effectiveContract : String}

/-- What the reports read so far have left. -/
structure Accepting (rt : Runtime) (reports : List ArchiveParityReport) (accepted : AcceptedReports) :
    Prop where
  of_get : ∀ {c r}, accepted.get? c = some r → r ∈ reports ∧ r.candidateContractId = c
  get_of : ∀ r ∈ reports, ∃ r', accepted.get? r.candidateContractId = some r' ∧
    r'.reportSha256 rt = r.reportSha256 rt

theorem Accepting.empty : Accepting rt [] Dict.empty where
  of_get hr := absurd hr (Option.some_ne_none _).symm
  get_of _ hr := absurd hr List.not_mem_nil

/-- When a report is taken in. -/
theorem acceptReport_eq_ok {accepted accepted' : AcceptedReports} {report : ArchiveParityReport} :
    acceptReport rt effectiveContract accepted report = .ok accepted' ↔
      report.referenceContractId = effectiveContract ∧ report.compatible = true ∧
        (∀ previous, accepted.get? report.candidateContractId = some previous →
          previous.reportSha256 rt = report.reportSha256 rt) ∧
        accepted' = accepted.insert report.candidateContractId report := by
  rw [acceptReport, raiseIf_bind_eq_ok, raiseIf_bind_eq_ok, not_not, Bool.not_eq_false]
  refine and_congr_right fun _ => and_congr_right fun _ => ?_
  cases hget : accepted.get? report.candidateContractId with
  | none =>
    constructor
    · intro h
      exact ⟨fun _ hnone => absurd hnone (Option.some_ne_none _).symm, (Except.ok.inj h).symm⟩
    · rintro ⟨-, rfl⟩
      rfl
  | some previous =>
    dsimp only
    rw [raiseIf_bind_eq_ok, not_not]
    constructor
    · rintro ⟨hsame, h⟩
      refine ⟨fun other hother => ?_, (Except.ok.inj h).symm⟩
      rw [← Option.some.inj hother, hsame]
    · rintro ⟨hsame, rfl⟩
      exact ⟨hsame previous rfl, rfl⟩

/-- One more report. -/
theorem Accepting.step {reports : List ArchiveParityReport} {accepted accepted' : AcceptedReports}
    (hinv : Accepting rt reports accepted) {report : ArchiveParityReport}
    (h : acceptReport rt effectiveContract accepted report = .ok accepted') :
    Accepting rt (reports ++ [report]) accepted' := by
  obtain ⟨-, -, hsame, rfl⟩ := acceptReport_eq_ok.mp h
  constructor
  · intro c r hr
    rw [Dict.get?_insert] at hr
    split_ifs at hr with hc
    · rw [← Option.some.inj hr]
      exact ⟨List.mem_append_right _ (List.mem_singleton_self _), hc⟩
    · obtain ⟨hmem, hcand⟩ := hinv.of_get hr
      exact ⟨List.mem_append_left _ hmem, hcand⟩
  · intro r hr
    rw [Dict.get?_insert]
    split_ifs with hc
    · refine ⟨report, rfl, ?_⟩
      rcases List.mem_append.mp hr with hr | hr
      · obtain ⟨r', hget, hsha⟩ := hinv.get_of r hr
        rw [← hc] at hget
        rw [← hsha, hsame r' hget]
      · rw [List.mem_singleton.mp hr]
    · rcases List.mem_append.mp hr with hr | hr
      · exact hinv.get_of r hr
      · exact absurd (congrArg _ (List.mem_singleton.mp hr)).symm hc

theorem accepting_foldlM {reports : List ArchiveParityReport} {accepted : AcceptedReports}
    (h : reports.foldlM (acceptReport rt effectiveContract) Dict.empty = .ok accepted) :
    Accepting rt reports accepted := by
  have hrun : ∀ (rest done : List ArchiveParityReport) (a a' : AcceptedReports),
      Accepting rt done a → rest.foldlM (acceptReport rt effectiveContract) a = .ok a' →
      Accepting rt (done ++ rest) a' := by
    intro rest
    induction rest with
    | nil =>
      intro done a a' ha h
      rw [← Except.ok.inj h, List.append_nil]
      exact ha
    | cons report rest ih =>
      intro done a a' ha h
      obtain ⟨b, hb, h⟩ := foldlM_cons_eq_ok.mp h
      have := ih (done ++ [report]) b a' (ha.step hb) h
      rwa [List.append_assoc, List.singleton_append] at this
  exact hrun reports [] Dict.empty accepted .empty h

/-- A report that the records of the dataset need. -/
def Used (pairs : List (ForecastCalibrationEvidence × WeatherObservationEvidence))
    (effectiveContract : String) (r : ArchiveParityReport) : Prop :=
  r.candidateContractId ≠ effectiveContract ∧
    ∃ pair ∈ pairs, strip pair.1.captureContractId = r.candidateContractId

/-- The reports of two capture contracts that are needed do not have one hash. -/
def DistinctReports (rt : Runtime)
    (pairs : List (ForecastCalibrationEvidence × WeatherObservationEvidence))
    (effectiveContract : String) (reports : List ArchiveParityReport) : Prop :=
  ∀ r ∈ reports, ∀ r' ∈ reports, Used pairs effectiveContract r → Used pairs effectiveContract r' →
    r.reportSha256 rt = r'.reportSha256 rt → r.candidateContractId = r'.candidateContractId

end Reports

/-! ## What the dataset is -/

/-- What is known of a dataset that `buildCalibrationDataset` returns. -/
structure Built (rt : Runtime)
    (pairs : List (ForecastCalibrationEvidence × WeatherObservationEvidence))
    (forecastContractId observationContractId : String) (reports : List ArchiveParityReport)
    (d : CalibrationDataset) : Prop where
  valid : ∀ r ∈ d.records, CalibrationDatasetRecord.Valid rt r
  contracts : Stripped d.manifest.forecastContractId ∧ Stripped d.manifest.observationContractId
  contractId : d.manifest.forecastContractId = strip forecastContractId
  forecastContract : ∀ r ∈ d.records, r.forecastContractId = d.manifest.forecastContractId
  observationContract : ∀ r ∈ d.records, r.observationContractId = d.manifest.observationContractId
  /-- The records have the texts of the pairs. -/
  texts : ∀ l, (∃ r ∈ d.records, r.texts = l) ↔
    ∃ pair ∈ pairs, pairTexts rt forecastContractId observationContractId pair = l
  sorted : d.records.Pairwise fun a b => sortKey a ≤ sortKey b
  startDate : d.records.head?.map (·.sample.marketDate) = some d.manifest.startDate
  endDate : d.records.getLast?.map (·.sample.marketDate) = some d.manifest.endDate
  recordCount : d.manifest.recordCount = d.records.length
  captureContracts : d.manifest.captureContractIds =
    sortedSet (d.records.map (·.forecastCaptureContractId))
  parityReports : ∃ hashes : List String, d.manifest.parityReportSha256s = hashes.insertionSort (· ≤ ·) ∧
    (∀ hash ∈ hashes, ∃ r : ArchiveParityReport, hash = r.reportSha256 rt) ∧
    (hashes.Nodup ↔ DistinctReports rt pairs d.manifest.forecastContractId reports)
  datasetSha256 : d.manifest.datasetSha256 = rt.sha256 d.toJsonl

section Building

variable {rt : Runtime}

theorem reportShaAt_eq_ok {accepted : AcceptedReports} {contract hash : String} :
    reportShaAt rt accepted contract = .ok hash ↔
      ∃ r, accepted.get? contract = some r ∧ r.reportSha256 rt = hash := by
  unfold reportShaAt
  cases accepted.get? contract with
  | none => simp
  | some r => simp

/-- The hashes are distinct iff no two reports that are needed have one hash. -/
theorem nodup_hashes_iff {pairs : List (ForecastCalibrationEvidence × WeatherObservationEvidence)}
    {effectiveContract : String} {reports : List ArchiveParityReport} {accepted : AcceptedReports}
    {contracts hashes : List String} (haccepted : Accepting rt reports accepted)
    (hnodup : contracts.Nodup)
    (hcontracts : ∀ c, c ∈ contracts ↔
      c ≠ effectiveContract ∧ ∃ pair ∈ pairs, strip pair.1.captureContractId = c)
    (h : contracts.mapM (reportShaAt rt accepted) = .ok hashes) :
    hashes.Nodup ↔ DistinctReports rt pairs effectiveContract reports := by
  have hsha : hashes = contracts.map fun c =>
      ((accepted.get? c).map (ArchiveParityReport.reportSha256 rt)).getD "" := by
    have := map_mapM_eq_ok
      (fun c => ((accepted.get? c).map (ArchiveParityReport.reportSha256 rt)).getD "")
      (id : String → String)
      (fun c hash hc => by
        obtain ⟨r, hr, hsha⟩ := reportShaAt_eq_ok.mp hc
        rw [hr, ← hsha]
        rfl) h
    rwa [List.map_id] at this
  rw [hsha, List.nodup_map_iff_inj_on hnodup]
  constructor
  · intro hinj r hr r' hr' hused hused' heq
    obtain ⟨s, hs, hsha⟩ := haccepted.get_of r hr
    obtain ⟨s', hs', hsha'⟩ := haccepted.get_of r' hr'
    refine hinj _ ((hcontracts _).mpr hused) _ ((hcontracts _).mpr hused') ?_
    rw [hs, hs', Option.map_some, Option.map_some, hsha, hsha', heq]
  · intro hdistinct c hc c' hc' heq
    obtain ⟨hash, -, hhash⟩ := exists_of_mapM_eq_ok h hc
    obtain ⟨hash', -, hhash'⟩ := exists_of_mapM_eq_ok h hc'
    obtain ⟨r, hr, -⟩ := reportShaAt_eq_ok.mp hhash
    obtain ⟨r', hr', -⟩ := reportShaAt_eq_ok.mp hhash'
    rw [hr, hr'] at heq
    obtain ⟨hmem, hcand⟩ := haccepted.of_get hr
    obtain ⟨hmem', hcand'⟩ := haccepted.of_get hr'
    rw [← hcand, ← hcand']
    refine hdistinct r hmem r' hmem' ?_ ?_ heq
    · rw [Used, hcand]
      exact (hcontracts c).mp hc
    · rw [Used, hcand']
      exact (hcontracts c').mp hc'

/-- **A dataset that is returned is `Built`.** -/
theorem built_of_eq_ok {pairs : List (ForecastCalibrationEvidence × WeatherObservationEvidence)}
    {forecastContractId observationContractId : String} {reports : List ArchiveParityReport}
    {d : CalibrationDataset}
    (h : buildCalibrationDataset rt pairs forecastContractId observationContractId reports = .ok d) :
    Built rt pairs forecastContractId observationContractId reports d := by
  obtain ⟨effective, heffective, h⟩ := bind_eq_ok.mp h
  obtain ⟨observation, hobservation, h⟩ := bind_eq_ok.mp h
  obtain ⟨accepted, haccepted, h⟩ := bind_eq_ok.mp h
  obtain ⟨records, hrecords, h⟩ := bind_eq_ok.mp h
  have hinv := accepting_foldlM haccepted
  have hforecast := stripped_of_textOr heffective
  have hobserved := stripped_of_textOr hobservation
  have hfc := (textOr_eq_ok.mp heffective).2
  have hoc := (textOr_eq_ok.mp hobservation).2
  have hperm : (ordered records).Perm records := List.perm_insertionSort _ _
  have hsorted : (ordered records).Pairwise fun a b => sortKey a ≤ sortKey b :=
    List.pairwise_insertionSort _ _
  -- each record in its place comes from a pair
  have hrecord : ∀ r ∈ ordered records, ∃ pair ∈ pairs,
      recordOfPair rt effective observation accepted pair = .ok r :=
    fun r hr => mem_of_mapM_eq_ok hrecords (hperm.mem_iff.mp hr)
  have hpair : ∀ pair ∈ pairs, ∃ r ∈ ordered records,
      recordOfPair rt effective observation accepted pair = .ok r := by
    intro pair hp
    obtain ⟨r, hr, hok⟩ := exists_of_mapM_eq_ok hrecords hp
    exact ⟨r, hperm.mem_iff.mpr hr, hok⟩
  have htexts : ∀ pair, pairTexts rt effective observation pair =
      pairTexts rt forecastContractId observationContractId pair := by
    intro pair
    rw [pairTexts, pairTexts, hfc, hoc, strip_strip, strip_strip]
  generalize ordered records = sorted at h hperm hsorted hrecord hpair
  dsimp only at h
  cases hfirst : sorted.head? with
  | none =>
    rw [hfirst] at h
    cases h
  | some first =>
    cases hlast : sorted.getLast? with
    | none =>
      rw [hfirst, hlast] at h
      cases h
    | some last =>
      rw [hfirst, hlast] at h
      obtain ⟨_, -, h⟩ := bind_eq_ok.mp h
      obtain ⟨hashes, hhashes, h⟩ := bind_eq_ok.mp h
      cases h
      have hcontracts : ∀ c, c ∈ (sortedSet (sorted.map (·.forecastCaptureContractId))).filter
          (· ≠ effective) ↔ c ≠ effective ∧ ∃ pair ∈ pairs, strip pair.1.captureContractId = c := by
        intro c
        rw [List.mem_filter, mem_sortedSet, List.mem_map, decide_eq_true_eq, and_comm]
        refine and_congr_right fun _ => ⟨?_, ?_⟩
        · rintro ⟨r, hr, rfl⟩
          obtain ⟨pair, hp, hok⟩ := hrecord r hr
          exact ⟨pair, hp, (recordOfPair_eq_ok hok).2.2.2.1.symm⟩
        · rintro ⟨pair, hp, rfl⟩
          obtain ⟨r, hr, hok⟩ := hpair pair hp
          exact ⟨r, hr, (recordOfPair_eq_ok hok).2.2.2.1⟩
      have hnodup : ((sortedSet (sorted.map (·.forecastCaptureContractId))).filter
          (· ≠ effective)).Nodup :=
        ((pairwise_sortedSet _).imp fun h => h.ne).filter _
      exact {
        valid := fun r hr => by
          obtain ⟨pair, -, hok⟩ := hrecord r hr
          exact (recordOfPair_eq_ok hok).1
        contracts := ⟨hforecast, hobserved⟩
        contractId := hfc
        forecastContract := fun r hr => by
          obtain ⟨pair, -, hok⟩ := hrecord r hr
          exact (recordOfPair_eq_ok hok).2.1.trans hforecast.1
        observationContract := fun r hr => by
          obtain ⟨pair, -, hok⟩ := hrecord r hr
          exact (recordOfPair_eq_ok hok).2.2.1.trans hobserved.1
        texts := fun l => by
          constructor
          · rintro ⟨r, hr, rfl⟩
            obtain ⟨pair, hp, hok⟩ := hrecord r hr
            exact ⟨pair, hp, by rw [← htexts, (recordOfPair_eq_ok hok).2.2.2.2]⟩
          · rintro ⟨pair, hp, rfl⟩
            obtain ⟨r, hr, hok⟩ := hpair pair hp
            exact ⟨r, hr, by rw [← htexts, (recordOfPair_eq_ok hok).2.2.2.2]⟩
        sorted := hsorted
        startDate := by rw [hfirst]; rfl
        endDate := by rw [hlast]; rfl
        recordCount := rfl
        captureContracts := rfl
        parityReports := by
          refine ⟨hashes, rfl, fun hash hh => ?_, nodup_hashes_iff hinv hnodup hcontracts hhashes⟩
          obtain ⟨c, -, hc⟩ := mem_of_mapM_eq_ok hhashes hh
          obtain ⟨r, -, hr⟩ := reportShaAt_eq_ok.mp hc
          exact ⟨r, hr.symm⟩
        datasetSha256 := rfl }

end Building

end WeatherBot.Forecasting
