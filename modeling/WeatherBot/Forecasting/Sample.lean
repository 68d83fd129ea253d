import WeatherBot.Domain.Evidence

/-!
# Calibration records

`CalibrationSample` (`forecasting/calibration.py`) and `CalibrationDatasetRecord`
(`forecasting/calibration_data.py`). A constructor `new` makes the checks of
`__post_init__` in their order and returns the normalized record.

* `CalibrationSample.new_self`, `CalibrationDatasetRecord.new_self`: a record is
  constructed from its own fields.
* `CalibrationDatasetRecord.toMapping`: the record as it is written.
-/

namespace WeatherBot.Forecasting

open WeatherBot.Common
open WeatherBot.Domain

/-! ## Errors -/

/-- An exception of the calibration code: `CalibrationError`, or another one that it lets
through. -/
inductive CalibrationException where
  | calibrationError (message : String)
  | raised (error : Error)
deriving DecidableEq

open CalibrationException (calibrationError raised)

/-! ## Checked values -/

/-- `_text`; `problem` ends the message. -/
def textOr (value label problem : String) : Except CalibrationException String := do
  raiseIf (isBlank value) (calibrationError (label ++ problem))
  return strip value

/-- `_sha256`; `blank` and `problem` end its messages. -/
def digestOr (rt : Runtime) (value label blank problem : String) :
    Except CalibrationException String := do
  let text ← textOr value label blank
  let text := rt.lower.map text
  raiseIf (isSha256 text = false) (calibrationError (label ++ problem))
  return text

/-- `_utc`. -/
def utcOf (value : DateTime) : Except CalibrationException DateTime :=
  match value.astimezoneUtc with
  | some t => return t
  | none => throw (raised ⟨.overflowError, "date value out of range"⟩)

theorem textOr_eq_ok {value label problem text : String} :
    textOr value label problem = .ok text ↔ isBlank value = false ∧ text = strip value := by
  rw [textOr, raiseIf_bind_eq_ok, Bool.not_eq_true, pure_eq_ok, Except.ok.injEq, @eq_comm _ text]

theorem stripped_of_textOr {value label problem text : String}
    (h : textOr value label problem = .ok text) : Stripped text := by
  obtain ⟨hb, rfl⟩ := textOr_eq_ok.mp h
  exact ⟨strip_strip value, isBlank_eq_false.mp hb⟩

theorem textOr_self {s : String} (h : Stripped s) (label problem : String) :
    textOr s label problem = .ok s :=
  textOr_eq_ok.mpr ⟨h.isBlank, h.1.symm⟩

theorem isHash_of_digestOr {rt : Runtime} {value label blank problem text : String}
    (h : digestOr rt value label blank problem = .ok text) : IsHash rt text := by
  rw [digestOr, bind_eq_ok] at h
  obtain ⟨t, ht, h⟩ := h
  obtain ⟨hsha, h⟩ := raiseIf_bind_eq_ok.mp h
  cases h
  obtain ⟨hs, hm⟩ := stripped_map (m := rt.lower) (stripped_of_textOr ht)
  exact ⟨hs, hm, by simpa using hsha⟩

theorem digestOr_self {rt : Runtime} {s : String} (h : IsHash rt s) (label blank problem : String) :
    digestOr rt s label blank problem = .ok s := by
  obtain ⟨hs, hm, hsha⟩ := h
  rw [digestOr, textOr_self hs, ok_bind, raiseIf_bind_eq_ok, hm, hsha]
  exact ⟨by decide, rfl⟩

theorem utcOf_eq_ok {value t : DateTime} : utcOf value = .ok t ↔ value.astimezoneUtc = some t := by
  unfold utcOf
  cases value.astimezoneUtc <;> simp

theorem utcOf_self {value t : DateTime} (h : utcOf value = .ok t) : utcOf t = .ok t :=
  utcOf_eq_ok.mpr (DateTime.astimezoneUtc_of_utc (DateTime.utcoffset_astimezoneUtc (utcOf_eq_ok.mp h)))

/-! ## Enumerations -/

/-- `ForecastSource`. -/
inductive ForecastSource where
  | openMeteoEcmwfIfs025
deriving DecidableEq, Repr

/-- `ForecastSource.value`. -/
def ForecastSource.value : ForecastSource → String
  | .openMeteoEcmwfIfs025 => "open_meteo_ecmwf_ifs025"

/-- `ForecastSource(text)`. -/
def ForecastSource.ofValue : String → Option ForecastSource
  | "open_meteo_ecmwf_ifs025" => some .openMeteoEcmwfIfs025
  | _ => none

theorem ForecastSource.ofValue_value (s : ForecastSource) : ofValue s.value = some s := by
  cases s; rfl

/-- `ForecastCaptureMethod`. -/
inductive ForecastCaptureMethod where
  | production
  | previousRuns
  | singleRun
  | imported
deriving DecidableEq, Repr

/-- `ForecastCaptureMethod.value`. -/
def ForecastCaptureMethod.value : ForecastCaptureMethod → String
  | .production => "production"
  | .previousRuns => "open_meteo_previous_runs"
  | .singleRun => "open_meteo_single_run"
  | .imported => "imported"

/-- `ForecastCaptureMethod(text)`. -/
def ForecastCaptureMethod.ofValue : String → Option ForecastCaptureMethod
  | "production" => some .production
  | "open_meteo_previous_runs" => some .previousRuns
  | "open_meteo_single_run" => some .singleRun
  | "imported" => some .imported
  | _ => none

theorem ForecastCaptureMethod.ofValue_value (m : ForecastCaptureMethod) : ofValue m.value = some m := by
  cases m <;> rfl

/-- `Season`. -/
inductive Season where
  | djf
  | mam
  | jja
  | son
deriving DecidableEq, Repr

/-- `Season.value`. -/
def Season.value : Season → String
  | .djf => "DJF"
  | .mam => "MAM"
  | .jja => "JJA"
  | .son => "SON"

/-- `Season.for_date`. -/
def Season.forDate (value : Date) : Season :=
  if value.month ∈ [12, 1, 2] then .djf
  else if value.month ∈ [3, 4, 5] then .mam
  else if value.month ∈ [6, 7, 8] then .jja
  else .son

/-! ## Samples -/

/-- `CalibrationSample` (`calibration.py`, 128-145). -/
structure CalibrationSample where
  city : String
  climateRegion : String
  forecastSource : ForecastSource
  marketDate : Date
  leadDays : ℤ
  forecastTemperatureF : Decimal
  observedTemperatureF : Decimal
  forecastAsOfUtc : DateTime
  observationFinalizedAtUtc : DateTime
  observationSource : String
  stationId : String
  measurementBasis : String
  forecastPayloadSha256 : String
  observationPayloadSha256 : String
deriving DecidableEq

namespace CalibrationSample

/-- `CalibrationSample.__post_init__`. A `Decimal` is finite here, so `_decimal` does not raise. -/
def new (rt : Runtime) (s : CalibrationSample) : Except CalibrationException CalibrationSample := do
  let city := rt.lower.normalize s.city
  let climateRegion := rt.lower.normalize s.climateRegion
  raiseIf (city = "") (calibrationError "sample city must not be blank")
  raiseIf (climateRegion = "") (calibrationError "sample climate region must not be blank")
  raiseIf (¬ (0 ≤ s.leadDays ∧ s.leadDays ≤ 7))
    (calibrationError "sample lead_days must be between 0 and 7")
  let forecastAsOfUtc ← utcOf s.forecastAsOfUtc
  let observationFinalizedAtUtc ← utcOf s.observationFinalizedAtUtc
  raiseIf (observationFinalizedAtUtc.instant ≤ forecastAsOfUtc.instant)
    (calibrationError "forecast must predate finalized observation evidence")
  let observationSource := strip s.observationSource
  let stationId := rt.upper.normalize s.stationId
  let measurementBasis := strip s.measurementBasis
  raiseIf (observationSource = "") (calibrationError "sample observation source must not be blank")
  raiseIf (stationId = "") (calibrationError "sample station_id must not be blank")
  raiseIf (measurementBasis = "") (calibrationError "sample measurement_basis must not be blank")
  let forecastPayloadSha256 ← digestOr rt s.forecastPayloadSha256 "forecast payload hash"
    " must be a non-blank string" " must be a SHA-256 hex digest"
  let observationPayloadSha256 ← digestOr rt s.observationPayloadSha256 "observation payload hash"
    " must be a non-blank string" " must be a SHA-256 hex digest"
  return { s with
    city, climateRegion, forecastAsOfUtc, observationFinalizedAtUtc, observationSource, stationId,
    measurementBasis, forecastPayloadSha256, observationPayloadSha256 }

/-- `CalibrationSample.season`. -/
def season (s : CalibrationSample) : Season := .forDate s.marketDate

/-- `CalibrationSample.identity`. -/
def identity (s : CalibrationSample) : String × ForecastSource × Date × ℤ × String × String :=
  (s.city, s.forecastSource, s.marketDate, s.leadDays, s.stationId, s.measurementBasis)

/-- The values that the constructor returns. -/
structure Valid (rt : Runtime) (s : CalibrationSample) : Prop where
  city : Stripped s.city ∧ rt.lower.map s.city = s.city
  climateRegion : Stripped s.climateRegion ∧ rt.lower.map s.climateRegion = s.climateRegion
  leadDays : 0 ≤ s.leadDays ∧ s.leadDays ≤ 7
  forecastAsOf : utcOf s.forecastAsOfUtc = .ok s.forecastAsOfUtc
  finalizedAt : utcOf s.observationFinalizedAtUtc = .ok s.observationFinalizedAtUtc
  predates : s.forecastAsOfUtc.instant < s.observationFinalizedAtUtc.instant
  observationSource : Stripped s.observationSource
  stationId : Stripped s.stationId ∧ rt.upper.map s.stationId = s.stationId
  measurementBasis : Stripped s.measurementBasis
  forecastPayload : IsHash rt s.forecastPayloadSha256
  observationPayload : IsHash rt s.observationPayloadSha256

/-- A normalized text that is not empty. -/
theorem stripped_normalize {m : CaseMapping} {s : String} (h : m.normalize s ≠ "") :
    Stripped (m.normalize s) ∧ m.map (m.normalize s) = m.normalize s := by
  refine ⟨⟨m.strip_normalize s, h⟩, ?_⟩
  rw [CaseMapping.normalize, m.map_map]

theorem normalize_self {m : CaseMapping} {s : String} (h : Stripped s ∧ m.map s = s) :
    m.normalize s = s := by
  rw [CaseMapping.normalize, h.1.1, h.2]

/-- What the constructor returns is valid. -/
theorem valid_of_new {rt : Runtime} {s t : CalibrationSample} (h : new rt s = .ok t) : Valid rt t := by
  obtain ⟨hcity, h⟩ := raiseIf_bind_eq_ok.mp h
  obtain ⟨hregion, h⟩ := raiseIf_bind_eq_ok.mp h
  obtain ⟨hlead, h⟩ := raiseIf_bind_eq_ok.mp h
  obtain ⟨asOf, hasOf, h⟩ := bind_eq_ok.mp h
  obtain ⟨finalized, hfinalized, h⟩ := bind_eq_ok.mp h
  obtain ⟨hbefore, h⟩ := raiseIf_bind_eq_ok.mp h
  obtain ⟨hsource, h⟩ := raiseIf_bind_eq_ok.mp h
  obtain ⟨hstation, h⟩ := raiseIf_bind_eq_ok.mp h
  obtain ⟨hbasis, h⟩ := raiseIf_bind_eq_ok.mp h
  obtain ⟨forecastHash, hforecast, h⟩ := bind_eq_ok.mp h
  obtain ⟨observationHash, hobservation, h⟩ := bind_eq_ok.mp h
  cases h
  exact {
    city := stripped_normalize hcity
    climateRegion := stripped_normalize hregion
    leadDays := not_not.mp hlead
    forecastAsOf := utcOf_self hasOf
    finalizedAt := utcOf_self hfinalized
    predates := not_le.mp hbefore
    observationSource := ⟨strip_strip _, hsource⟩
    stationId := stripped_normalize hstation
    measurementBasis := ⟨strip_strip _, hbasis⟩
    forecastPayload := isHash_of_digestOr hforecast
    observationPayload := isHash_of_digestOr hobservation }

/-- The texts that are free. -/
def texts (s : CalibrationSample) : List String :=
  [s.city, s.climateRegion, s.observationSource, s.stationId, s.measurementBasis]

/-- Their normal forms. -/
def normalTexts (rt : Runtime) (s : CalibrationSample) : List String :=
  [rt.lower.normalize s.city, rt.lower.normalize s.climateRegion, strip s.observationSource,
    rt.upper.normalize s.stationId, strip s.measurementBasis]

theorem texts_of_new {rt : Runtime} {s t : CalibrationSample} (h : new rt s = .ok t) :
    t.texts = s.normalTexts rt := by
  obtain ⟨-, h⟩ := raiseIf_bind_eq_ok.mp h
  obtain ⟨-, h⟩ := raiseIf_bind_eq_ok.mp h
  obtain ⟨-, h⟩ := raiseIf_bind_eq_ok.mp h
  obtain ⟨asOf, -, h⟩ := bind_eq_ok.mp h
  obtain ⟨finalized, -, h⟩ := bind_eq_ok.mp h
  obtain ⟨-, h⟩ := raiseIf_bind_eq_ok.mp h
  obtain ⟨-, h⟩ := raiseIf_bind_eq_ok.mp h
  obtain ⟨-, h⟩ := raiseIf_bind_eq_ok.mp h
  obtain ⟨-, h⟩ := raiseIf_bind_eq_ok.mp h
  obtain ⟨forecastHash, -, h⟩ := bind_eq_ok.mp h
  obtain ⟨observationHash, -, h⟩ := bind_eq_ok.mp h
  cases h
  rfl

/-- **A sample is constructed from its own fields.** -/
theorem new_self {rt : Runtime} {s : CalibrationSample} (h : Valid rt s) : new rt s = .ok s := by
  have hcity := normalize_self h.city
  have hregion := normalize_self h.climateRegion
  have hstation := normalize_self h.stationId
  have hsource : strip s.observationSource = s.observationSource := h.observationSource.1
  have hbasis : strip s.measurementBasis = s.measurementBasis := h.measurementBasis.1
  simp only [new, raiseIf_bind_eq_ok, hcity, hregion, hstation, hsource, hbasis, h.forecastAsOf,
    h.finalizedAt, digestOr_self h.forecastPayload, digestOr_self h.observationPayload, ok_bind]
  exact ⟨h.city.1.2, h.climateRegion.1.2, not_not.mpr h.leadDays, not_le.mpr h.predates,
    h.observationSource.2, h.stationId.1.2, h.measurementBasis.2, rfl⟩

end CalibrationSample

/-! ## Records of a dataset -/

/-- `CalibrationDatasetRecord` (`calibration_data.py`, 415-426). -/
structure CalibrationDatasetRecord where
  sample : CalibrationSample
  forecastContractId : String
  observationContractId : String
  forecastCaptureContractId : String
  forecastCaptureMethod : ForecastCaptureMethod
  forecastSourceUrl : String
  forecastLatitude : Decimal
  forecastLongitude : Decimal
  forecastBiasCorrection : Bool
  forecastProvenanceSha256 : String
deriving DecidableEq

namespace CalibrationDatasetRecord

/-- `_http_url`. -/
def httpUrl (rt : Runtime) (value label : String) : Except CalibrationException String := do
  let normalized ← textOr value label " must not be blank"
  raiseIf (rt.isHttpUrl normalized = false)
    (calibrationError (label ++ " must be an HTTP(S) URL"))
  return normalized

/-- `CalibrationDatasetRecord.__post_init__`. -/
def new (rt : Runtime) (r : CalibrationDatasetRecord) :
    Except CalibrationException CalibrationDatasetRecord := do
  let forecastContractId ← textOr r.forecastContractId "dataset forecast contract"
    " must not be blank"
  let observationContractId ← textOr r.observationContractId "dataset observation contract"
    " must not be blank"
  let forecastCaptureContractId ← textOr r.forecastCaptureContractId "dataset capture contract"
    " must not be blank"
  let forecastSourceUrl ← httpUrl rt r.forecastSourceUrl "dataset forecast source URL"
  let forecastProvenanceSha256 ← digestOr rt r.forecastProvenanceSha256
    "dataset forecast provenance hash" " must not be blank" " must be a SHA-256 hex digest"
  return { r with
    forecastContractId, observationContractId, forecastCaptureContractId, forecastSourceUrl,
    forecastProvenanceSha256 }

/-- The values that the constructor returns. -/
structure Valid (rt : Runtime) (r : CalibrationDatasetRecord) : Prop where
  sample : CalibrationSample.Valid rt r.sample
  forecastContract : Stripped r.forecastContractId
  observationContract : Stripped r.observationContractId
  captureContract : Stripped r.forecastCaptureContractId
  sourceUrl : Stripped r.forecastSourceUrl ∧ rt.isHttpUrl r.forecastSourceUrl = true
  provenance : IsHash rt r.forecastProvenanceSha256

/-- What the constructor returns: the stripped texts, on a sample that it takes as it is. -/
theorem new_eq_ok {rt : Runtime} {r t : CalibrationDatasetRecord} (h : new rt r = .ok t) :
    t.sample = r.sample ∧ t.forecastContractId = strip r.forecastContractId ∧
      t.observationContractId = strip r.observationContractId ∧
      t.forecastCaptureContractId = strip r.forecastCaptureContractId ∧
      t.forecastSourceUrl = strip r.forecastSourceUrl ∧
      (CalibrationSample.Valid rt r.sample → Valid rt t) := by
  obtain ⟨forecast, hforecast, h⟩ := bind_eq_ok.mp h
  obtain ⟨observation, hobservation, h⟩ := bind_eq_ok.mp h
  obtain ⟨capture, hcapture, h⟩ := bind_eq_ok.mp h
  obtain ⟨url, hurl, h⟩ := bind_eq_ok.mp h
  obtain ⟨hash, hhash, h⟩ := bind_eq_ok.mp h
  cases h
  obtain ⟨text, htext, hurl⟩ := bind_eq_ok.mp hurl
  obtain ⟨hhttp, hurl⟩ := raiseIf_bind_eq_ok.mp hurl
  cases hurl
  refine ⟨rfl, (textOr_eq_ok.mp hforecast).2, (textOr_eq_ok.mp hobservation).2,
    (textOr_eq_ok.mp hcapture).2, (textOr_eq_ok.mp htext).2, fun hsample => ?_⟩
  exact {
    sample := hsample
    forecastContract := stripped_of_textOr hforecast
    observationContract := stripped_of_textOr hobservation
    captureContract := stripped_of_textOr hcapture
    sourceUrl := ⟨stripped_of_textOr htext, by simpa using hhttp⟩
    provenance := isHash_of_digestOr hhash }

/-- **A record is constructed from its own fields.** -/
theorem new_self {rt : Runtime} {r : CalibrationDatasetRecord} (h : Valid rt r) : new rt r = .ok r := by
  have hurl : httpUrl rt r.forecastSourceUrl "dataset forecast source URL" =
      .ok r.forecastSourceUrl := by
    rw [httpUrl, textOr_self h.sourceUrl.1, ok_bind, h.sourceUrl.2]
    rfl
  simp only [new, textOr_self h.forecastContract, textOr_self h.observationContract,
    textOr_self h.captureContract, hurl, digestOr_self h.provenance, ok_bind]
  rfl

/-- The texts that are free. -/
def texts (r : CalibrationDatasetRecord) : List String :=
  r.sample.texts ++
    [r.forecastContractId, r.observationContractId, r.forecastCaptureContractId, r.forecastSourceUrl]

/-- `CalibrationDatasetRecord.identity`. -/
def identity (r : CalibrationDatasetRecord) : String × ForecastSource × Date × ℤ × String × String :=
  r.sample.identity

/-- `CalibrationDatasetRecord.to_mapping`. -/
def toMapping (r : CalibrationDatasetRecord) : List (String × Json) :=
  [("city", .str r.sample.city), ("climate_region", .str r.sample.climateRegion),
    ("forecast_source", .str r.sample.forecastSource.value),
    ("market_date", .str r.sample.marketDate.isoformat),
    ("season", .str r.sample.season.value), ("lead_days", .int r.sample.leadDays),
    ("forecast_temperature_f", .str r.sample.forecastTemperatureF.format),
    ("observed_temperature_f", .str r.sample.observedTemperatureF.format),
    ("forecast_as_of_utc", .str r.sample.forecastAsOfUtc.isoformat),
    ("observation_finalized_at_utc", .str r.sample.observationFinalizedAtUtc.isoformat),
    ("observation_source", .str r.sample.observationSource),
    ("station_id", .str r.sample.stationId),
    ("measurement_basis", .str r.sample.measurementBasis),
    ("forecast_payload_sha256", .str r.sample.forecastPayloadSha256),
    ("observation_payload_sha256", .str r.sample.observationPayloadSha256),
    ("forecast_contract_id", .str r.forecastContractId),
    ("observation_contract_id", .str r.observationContractId),
    ("forecast_capture_contract_id", .str r.forecastCaptureContractId),
    ("forecast_capture_method", .str r.forecastCaptureMethod.value),
    ("forecast_source_url", .str r.forecastSourceUrl),
    ("forecast_latitude", .str r.forecastLatitude.format),
    ("forecast_longitude", .str r.forecastLongitude.format),
    ("forecast_bias_correction", .bool r.forecastBiasCorrection),
    ("forecast_provenance_sha256", .str r.forecastProvenanceSha256)]

/-- `json.dumps(record.to_mapping(), ...)`. -/
def text (r : CalibrationDatasetRecord) : String := (Json.obj r.toMapping).dumps

/-- `CalibrationDatasetRecord.record_sha256`. -/
def recordSha256 (rt : Runtime) (r : CalibrationDatasetRecord) : String := rt.sha256 r.text

end CalibrationDatasetRecord

end WeatherBot.Forecasting
