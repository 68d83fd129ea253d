import WeatherBot.Forecasting.Dataset

/-!
# Reading a calibration dataset

`forecasting/calibration_io.py`: `load_calibration_dataset` reads the two files
of a dataset, checks their checksums and the canonical form of the records, and
compares the records with the manifest.
-/

namespace WeatherBot.Forecasting

open WeatherBot.Common
open WeatherBot.Domain
open CalibrationException (calibrationError raised)

/-! ## What the library reads -/

/-- `Decimal(text)`. -/
inductive DecimalText where
  | finite (value : Decimal)
  /-- A `NaN` or an infinity. -/
  | special
  | invalid

/-- `datetime.fromisoformat(text)`. -/
inductive DatetimeText where
  | aware (value : DateTime)
  | naive
  | invalid

/-- What Python's library makes of texts that `format` and `isoformat` do not write. -/
structure TextReaders where
  /-- `str(float(text))`. -/
  floatText : String → String
  decimal : String → DecimalText
  date : String → Option Date
  datetime : String → DatetimeText

namespace TextReaders

/-- `Decimal(text)`. -/
def readDecimal (py : TextReaders) (text : String) : DecimalText :=
  match Decimal.ofText text with
  | some d => .finite d
  | none => py.decimal text

/-- `date.fromisoformat(text)`. -/
def readDate (py : TextReaders) (text : String) : Option Date :=
  match Date.fromisoformat text with
  | some d => some d
  | none => py.date text

/-- `datetime.fromisoformat(text)`. -/
def readDatetime (py : TextReaders) (text : String) : DatetimeText :=
  match DateTime.fromisoformat text with
  | some t => .aware t
  | none => py.datetime text

end TextReaders

/-- What `read_text` does with a file: its text before newline translation, or an `OSError`. -/
inductive ReadText where
  | text (content : String)
  | osError (message : String)

/-! ## Values of a parsed document -/

section Values

variable (rt : Runtime) (py : TextReaders)

/-- `raw.get(key)`. -/
def getValue (raw : List (String × Json)) (key : String) : Json := (Dict.assocGet raw key).getD .null

/-- `_mapping`. -/
def mappingOf (value : Json) (label : String) : Except CalibrationException (List (String × Json)) :=
  match value with
  | .obj members => return members
  | _ => throw (calibrationError (label ++ " must be an object"))

/-- `_text`. -/
def textOf (value : Json) (label : String) : Except CalibrationException String :=
  match value with
  | .str s => textOr s label " must be non-blank text"
  | _ => throw (calibrationError (label ++ " must be non-blank text"))

/-- `_integer`. -/
def integerOf (value : Json) (label : String) : Except CalibrationException ℤ :=
  match value with
  | .int n => return n
  | _ => throw (calibrationError (label ++ " must be an integer"))

/-- `_boolean`. -/
def booleanOf (value : Json) (label : String) : Except CalibrationException Bool :=
  match value with
  | .bool b => return b
  | _ => throw (calibrationError (label ++ " must be boolean"))

/-- `Decimal(text)`, which must be finite. -/
def finiteDecimal (text label : String) : Except CalibrationException Decimal :=
  match py.readDecimal text with
  | .finite d => return d
  | .special => throw (calibrationError (label ++ " must be finite"))
  | .invalid => throw (calibrationError (label ++ " must be decimal"))

/-- `_decimal`. -/
def decimalOf (value : Json) (label : String) : Except CalibrationException Decimal :=
  match value with
  | .str s => finiteDecimal py s label
  | .int n => finiteDecimal py (toString n) label
  | .float t => finiteDecimal py (py.floatText t) label
  | _ => throw (calibrationError (label ++ " must be decimal"))

/-- `text.replace("Z", "+00:00")`. -/
def replaceZulu (text : String) : String :=
  String.ofList (text.toList.flatMap fun c => if c = 'Z' then ['+', '0', '0', ':', '0', '0'] else [c])

/-- `_timestamp`. -/
def timestampOf (value : Json) (label : String) : Except CalibrationException DateTime := do
  let text ← textOf value label
  match py.readDatetime (replaceZulu text) with
  | .aware t => utcOf t
  | .naive => throw (calibrationError (label ++ " must be timezone-aware"))
  | .invalid => throw (calibrationError (label ++ " must be ISO-8601"))

/-- `_date`. -/
def dateOf (value : Json) (label : String) : Except CalibrationException Date := do
  let text ← textOf value label
  match py.readDate text with
  | some d => return d
  | none => throw (calibrationError (label ++ " must use YYYY-MM-DD"))

/-- `_sha256`. -/
def digestOf (value : Json) (label : String) : Except CalibrationException String :=
  match value with
  | .str s => digestOr rt s label " must be non-blank text" " must be a SHA-256 digest"
  | _ => throw (calibrationError (label ++ " must be non-blank text"))

/-- `_sequence`. -/
def sequenceOf (value : Json) (label : String) : Except CalibrationException (List Json) :=
  match value with
  | .arr items => return items
  | _ => throw (calibrationError (label ++ " must be an array"))

/-- `_string_tuple` and `_sha_tuple`: items that are unique and sorted. -/
def sortedTuple (item : Json → String → Except CalibrationException String) (value : Json)
    (label : String) : Except CalibrationException (List String) := do
  let values ← sequenceOf value label
  let items ← values.mapM fun v => item v label
  raiseIf (¬ items.Nodup ∨ items ≠ items.insertionSort (· ≤ ·))
    (calibrationError (label ++ " must be unique and sorted"))
  return items

/-- An enumeration's value; the `ValueError` of an unknown or a blank text is reported with
`problem`. -/
def memberOf {α : Type} (ofValue : String → Option α) (value : Json) (label problem : String) :
    Except CalibrationException α :=
  match textOf value label with
  | .error _ => throw (calibrationError problem)
  | .ok text =>
    match ofValue text with
    | some a => return a
    | none => throw (calibrationError problem)

end Values

/-! ## Records and manifests -/

section Documents

variable (rt : Runtime) (py : TextReaders)

/-- The sample of `_record_from_mapping`, whose labels start with `row`. -/
def sampleFromMapping (raw : List (String × Json)) (row : String) (marketDate : Date)
    (forecastSource : ForecastSource) : Except CalibrationException CalibrationSample := do
  let city ← textOf (getValue raw "city") (row ++ "city")
  let climateRegion ← textOf (getValue raw "climate_region") (row ++ "climate_region")
  let leadDays ← integerOf (getValue raw "lead_days") (row ++ "lead_days")
  let forecastTemperatureF ← decimalOf py (getValue raw "forecast_temperature_f")
    (row ++ "forecast_temperature_f")
  let observedTemperatureF ← decimalOf py (getValue raw "observed_temperature_f")
    (row ++ "observed_temperature_f")
  let forecastAsOfUtc ← timestampOf py (getValue raw "forecast_as_of_utc")
    (row ++ "forecast_as_of_utc")
  let observationFinalizedAtUtc ← timestampOf py (getValue raw "observation_finalized_at_utc")
    (row ++ "observation_finalized_at_utc")
  let observationSource ← textOf (getValue raw "observation_source") (row ++ "observation_source")
  let stationId ← textOf (getValue raw "station_id") (row ++ "station_id")
  let measurementBasis ← textOf (getValue raw "measurement_basis") (row ++ "measurement_basis")
  let forecastPayloadSha256 ← digestOf rt (getValue raw "forecast_payload_sha256")
    (row ++ "forecast_payload_sha256")
  let observationPayloadSha256 ← digestOf rt (getValue raw "observation_payload_sha256")
    (row ++ "observation_payload_sha256")
  CalibrationSample.new rt {
    city, climateRegion, forecastSource, marketDate, leadDays, forecastTemperatureF,
    observedTemperatureF, forecastAsOfUtc, observationFinalizedAtUtc, observationSource, stationId,
    measurementBasis, forecastPayloadSha256, observationPayloadSha256 }

/-- The record of `_record_from_mapping` around its sample. -/
def fieldsFromMapping (raw : List (String × Json)) (row : String) (sample : CalibrationSample)
    (forecastCaptureMethod : ForecastCaptureMethod) :
    Except CalibrationException CalibrationDatasetRecord := do
  let forecastContractId ← textOf (getValue raw "forecast_contract_id") (row ++ "forecast_contract_id")
  let observationContractId ← textOf (getValue raw "observation_contract_id")
    (row ++ "observation_contract_id")
  let forecastCaptureContractId ← textOf (getValue raw "forecast_capture_contract_id")
    (row ++ "forecast_capture_contract_id")
  let forecastSourceUrl ← textOf (getValue raw "forecast_source_url") (row ++ "forecast_source_url")
  let forecastLatitude ← decimalOf py (getValue raw "forecast_latitude") (row ++ "forecast_latitude")
  let forecastLongitude ← decimalOf py (getValue raw "forecast_longitude")
    (row ++ "forecast_longitude")
  let forecastBiasCorrection ← booleanOf (getValue raw "forecast_bias_correction")
    (row ++ "forecast_bias_correction")
  let forecastProvenanceSha256 ← digestOf rt (getValue raw "forecast_provenance_sha256")
    (row ++ "forecast_provenance_sha256")
  CalibrationDatasetRecord.new rt {
    sample, forecastContractId, observationContractId, forecastCaptureContractId,
    forecastCaptureMethod, forecastSourceUrl, forecastLatitude, forecastLongitude,
    forecastBiasCorrection, forecastProvenanceSha256 }

/-- `_record_from_mapping`. -/
def recordFromMapping (raw : List (String × Json)) (lineNumber : ℕ) :
    Except CalibrationException CalibrationDatasetRecord := do
  let row := "row " ++ toString lineNumber ++ " "
  let marketDate ← dateOf py (getValue raw "market_date") (row ++ "market_date")
  let forecastSource ← memberOf ForecastSource.ofValue (getValue raw "forecast_source")
    (row ++ "forecast_source")
    ("unsupported forecast source on calibration dataset line " ++ toString lineNumber)
  let captureMethod ← memberOf ForecastCaptureMethod.ofValue (getValue raw "forecast_capture_method")
    (row ++ "forecast_capture_method")
    ("unsupported capture method on calibration dataset line " ++ toString lineNumber)
  let sample ← sampleFromMapping rt py raw row marketDate forecastSource
  let season ← textOf (getValue raw "season") (row ++ "season")
  raiseIf (season ≠ sample.season.value)
    (calibrationError ("calibration dataset line " ++ toString lineNumber ++
      " season disagrees with market_date"))
  fieldsFromMapping rt py raw row sample captureMethod

/-- `_manifest_from_mapping`. -/
def manifestFromMapping (raw : List (String × Json)) :
    Except CalibrationException CalibrationDatasetManifest := do
  let schemaVersion ← integerOf (getValue raw "schema_version") "manifest schema_version"
  raiseIf (schemaVersion ≠ 1)
    (calibrationError ("unsupported calibration dataset schema: " ++ toString schemaVersion))
  let recordCount ← integerOf (getValue raw "record_count") "manifest record_count"
  raiseIf (recordCount ≤ 0) (calibrationError "manifest record_count must be positive")
  let captureContractIds ← sortedTuple textOf (getValue raw "capture_contract_ids")
    "manifest capture_contract_ids"
  raiseIf (captureContractIds = []) (calibrationError "manifest capture_contract_ids must not be empty")
  let parityReportSha256s ← sortedTuple (digestOf rt) (getValue raw "parity_report_sha256s")
    "manifest parity_report_sha256s"
  let startDate ← dateOf py (getValue raw "start_date") "manifest start_date"
  let endDate ← dateOf py (getValue raw "end_date") "manifest end_date"
  raiseIf (dateKey endDate < dateKey startDate) (calibrationError "manifest date interval is reversed")
  let forecastContractId ← textOf (getValue raw "forecast_contract_id")
    "manifest forecast_contract_id"
  let observationContractId ← textOf (getValue raw "observation_contract_id")
    "manifest observation_contract_id"
  let datasetSha256 ← digestOf rt (getValue raw "dataset_sha256") "manifest dataset_sha256"
  return {
    forecastContractId, observationContractId, recordCount, startDate, endDate, captureContractIds,
    parityReportSha256s, datasetSha256 }

/-- The earlier and the later of two dates, as `min` and `max` choose them. -/
def earlier (a b : Date) : Date := if dateKey b < dateKey a then b else a

def later (a b : Date) : Date := if dateKey a < dateKey b then b else a

/-- `_validate_dataset_manifest_alignment`. -/
def validateAlignment (d : CalibrationDataset) : Except CalibrationException Unit :=
  match d.records.map (·.sample.marketDate) with
  | [] => throw (raised (.valueError "min() iterable argument is empty"))
  | date :: dates => do
    raiseIf (dates.foldl earlier date ≠ d.manifest.startDate ∨
        dates.foldl later date ≠ d.manifest.endDate)
      (calibrationError "dataset date bounds differ from manifest")
    raiseIf (sortedSet (d.records.map (·.forecastContractId)) ≠ [d.manifest.forecastContractId])
      (calibrationError "dataset forecast contracts differ from manifest")
    raiseIf (sortedSet (d.records.map (·.observationContractId)) ≠ [d.manifest.observationContractId])
      (calibrationError "dataset observation contracts differ from manifest")
    raiseIf (sortedSet (d.records.map (·.forecastCaptureContractId)) ≠ d.manifest.captureContractIds)
      (calibrationError "dataset capture contracts differ from manifest")

/-! ## Loading -/

/-- A row of the records file. -/
def readRow (lineNumber : ℕ) (line : List Char) :
    Except CalibrationException CalibrationDatasetRecord := do
  raiseIf (line = []) (calibrationError ("blank calibration dataset line at " ++ toString lineNumber))
  match Json.loadsWith Json.lastValues (String.ofList line) with
  | none => throw (calibrationError
      ("invalid calibration dataset JSON on line " ++ toString lineNumber))
  | some decoded => do
    let mapping ← mappingOf decoded ("calibration dataset row " ++ toString lineNumber)
    recordFromMapping rt py mapping lineNumber

/-- The loop over the lines. -/
def readRows : ℕ → List (List Char) → Except CalibrationException (List CalibrationDatasetRecord)
  | _, [] => return []
  | n, line :: lines => do
    let record ← readRow rt py n line
    let records ← readRows (n + 1) lines
    return record :: records

/-- `path.read_text(encoding="utf-8")`. -/
def readText : ReadText → Except CalibrationException String
  | .text content => return String.ofList (universalNewlines content.toList)
  | .osError message => throw (calibrationError ("failed to read calibration dataset: " ++ message))

/-- The manifest file. -/
def readManifest (manifestText : String) : Except CalibrationException CalibrationDatasetManifest :=
  match Json.loadsWith Json.lastValues manifestText with
  | none => throw (calibrationError "calibration dataset manifest is not valid JSON")
  | some decoded => do
    let raw ← mappingOf decoded "calibration dataset manifest"
    let manifest ← manifestFromMapping rt py raw
    let expected ← digestOf rt (getValue raw "manifest_sha256") "manifest checksum"
    raiseIf (manifest.manifestSha256 rt ≠ expected)
      (calibrationError "calibration dataset manifest checksum mismatch")
    return manifest

/-- `load_calibration_dataset`. -/
def loadCalibrationDataset (recordsFile manifestFile : ReadText) :
    Except CalibrationException CalibrationDataset := do
  let recordsText ← readText recordsFile
  let manifestText ← readText manifestFile
  let manifest ← readManifest rt py manifestText
  raiseIf (recordsText = "") (calibrationError "calibration dataset records file is empty")
  raiseIf (recordsText.toList.getLast? ≠ some '\n')
    (calibrationError "calibration dataset JSONL must end with a newline")
  let records ← readRows rt py 1 (splitlines recordsText.toList)
  raiseIf ((records.length : ℤ) ≠ manifest.recordCount)
    (calibrationError ("calibration dataset record count differs from manifest: " ++
      toString records.length ++ " != " ++ toString manifest.recordCount))
  let dataset : CalibrationDataset := { records, manifest }
  raiseIf (dataset.toJsonl ≠ recordsText)
    (calibrationError
      "calibration dataset JSONL is not in canonical deterministic order/serialization")
  raiseIf (rt.sha256 recordsText ≠ manifest.datasetSha256)
    (calibrationError "calibration dataset checksum mismatch")
  validateAlignment dataset
  return dataset

/-- `load_calibration_dataset` of the files that were written. -/
def loadFiles (files : DatasetFiles) : Except CalibrationException CalibrationDataset :=
  loadCalibrationDataset rt py (.text files.records) (.text files.manifest)

end Documents

end WeatherBot.Forecasting
