import WeatherBot.Common.Bytes
import WeatherBot.Common.JsonCut
import WeatherBot.Persistence.RoundTrip
import WeatherBot.Producer.Signal

/-!
# The signal log

`append_signal` (`producer/store.py`) writes a signal as one line of JSON;
`_read_committed_signals` (`pip/reconcile.py`) reads the lines back and drops a
last line that was not ended.

* `signalFromMapping_toMapping`: the mapping of a signal is read back as that
  signal.
* `parseLine_recordText`: **a written record is parsed to the same signal and
  written as the same text again.**
* `readFrom_record`: **a record in front of a log is read back as its signal.**
* `readFrom_unended`: what follows the last line end is not read.
-/

namespace WeatherBot.Pip

open WeatherBot.Common
open WeatherBot.Domain
open WeatherBot.Producer
open WeatherBot.Persistence (Holds holds_sorted field)

/-! ## Errors -/

/-- An exception of the PIP exporter: `PipExportError`, or another one that it lets through. -/
inductive PipError where
  | pipExportError (message : String)
  | raised (error : Error)
deriving DecidableEq

/-- What `str`, `int` and the decoders do with values that no signal is written with. -/
structure PyValues where
  /-- `str(value)` of a value that is not a text. -/
  strOf : Json → String
  /-- `int(value)` of a value that is not an integer. -/
  intOf : Json → Except Error ℤ
  /-- The message of a `UnicodeDecodeError`. -/
  unicodeErrorText : List UInt8 → String
  /-- The message of a `JSONDecodeError`. -/
  jsonErrorText : String → String

namespace PyValues

/-- `str(value)`. -/
def str (py : PyValues) : Json → String
  | .str s => s
  | v => py.strOf v

/-- `int(value)`. -/
def int (py : PyValues) : Json → Except Error ℤ
  | .int n => return n
  | v => py.intOf v

end PyValues

/-! ## Writing -/

/-- The text of a record, without its line feed. -/
def recordText (s : HermesSignal) : String := (Json.obj s.toMapping).dumps

/-- The bytes of a record, without its line feed. -/
@[irreducible] def recordBytes (s : HermesSignal) : List UInt8 := encodeUtf8 (recordText s).toList

/-- The bytes that `append_signal` writes. -/
def recordLine (s : HermesSignal) : List UInt8 := recordBytes s ++ [lineFeed]

/-- `append_signal`: the file is opened to append. -/
def appendSignal (file : List UInt8) (s : HermesSignal) : List UInt8 := file ++ recordLine s

/-! ## Reading a mapping -/

section Reading

variable (rt : Runtime) (py : PyValues)

/-- `str(data[key])`. -/
def strAt (data : List (String × Json)) (key : String) : Except Error String := do
  let value ← field data key
  return py.str value

/-- `int(data[key])`. -/
def intAt (data : List (String × Json)) (key : String) : Except Error ℤ := do
  let value ← field data key
  py.int value

/-- `Decimal(str(data[key]))`. -/
def decimalAt (data : List (String × Json)) (key : String) : Except Error Decimal := do
  let text ← strAt py data key
  match Decimal.ofText text with
  | some d => return d
  | none => throw ⟨.invalidOperation, "[<class 'decimal.ConversionSyntax'>]"⟩

/-- `date.fromisoformat(str(data[key]))`. -/
def dateAt (data : List (String × Json)) (key : String) : Except Error Date := do
  let text ← strAt py data key
  match Date.fromisoformat text with
  | some d => return d
  | none => throw (.valueError ("Invalid isoformat string: " ++ rt.repr text))

/-- `datetime.fromisoformat(str(data[key]))`. -/
def datetimeAt (data : List (String × Json)) (key : String) : Except Error DateTime := do
  let text ← strAt py data key
  match DateTime.fromisoformat text with
  | some t => return t
  | none => throw (.valueError ("Invalid isoformat string: " ++ rt.repr text))

/-- `str(data.get(key, default))`. -/
def strOr (data : List (String × Json)) (key default : String) : String :=
  match Dict.assocGet data key with
  | some value => py.str value
  | none => default

/-- The market reference of `signal_from_mapping`. -/
def referenceFromMapping (ref : List (String × Json)) : Except Error SignalMarketReference := do
  let kind ← strAt py ref "kind"
  let orderBookHash ← strAt py ref "order_book_hash"
  let observedAtUtc ← datetimeAt rt py ref "observed_at_utc"
  let referenceNotional ← decimalAt py ref "reference_notional"
  let bestBid ← decimalAt py ref "best_bid"
  let bestAsk ← decimalAt py ref "best_ask"
  let averageReferencePrice ← decimalAt py ref "average_reference_price"
  let allInReferencePrice ← decimalAt py ref "all_in_reference_price"
  let worstReferencePrice ← decimalAt py ref "worst_reference_price"
  let probabilityEdge ← decimalAt py ref "probability_edge"
  let expectedReturn ← decimalAt py ref "expected_return"
  let quoteFingerprint ← strAt py ref "quote_fingerprint"
  SignalMarketReference.new {
    kind, orderBookHash, observedAtUtc, referenceNotional, bestBid, bestAsk, averageReferencePrice,
    allInReferencePrice, worstReferencePrice, probabilityEdge, expectedReturn, quoteFingerprint }

/-- The signal of `signal_from_mapping`, given its market reference. -/
def fieldsFromMapping (data : List (String × Json)) (marketReference : SignalMarketReference) :
    Except Error HermesSignal := do
  let signalId ← strAt py data "signal_id"
  let producerId ← strAt py data "producer_id"
  let strategyId ← strAt py data "strategy_id"
  let strategyVersion ← strAt py data "strategy_version"
  let policyFingerprint ← strAt py data "policy_fingerprint"
  let generatedAtUtc ← datetimeAt rt py data "generated_at_utc"
  let venue ← strAt py data "venue"
  let eventId ← strAt py data "event_id"
  let marketId ← strAt py data "market_id"
  let conditionId ← strAt py data "condition_id"
  let outcome ← strAt py data "outcome"
  let tokenId ← strAt py data "token_id"
  let question ← strAt py data "question"
  let citySlug ← strAt py data "city_slug"
  let cityName ← strAt py data "city_name"
  let climateRegion ← strAt py data "climate_region"
  let leadDays ← intAt py data "lead_days"
  let marketDate ← dateAt rt py data "market_date"
  let marketTimezone ← strAt py data "market_timezone"
  let bucketKey ← strAt py data "bucket_key"
  let bucketLabel ← strAt py data "bucket_label"
  let forecastTemperatureF ← decimalAt py data "forecast_temperature_f"
  let modelProbability ← decimalAt py data "model_probability"
  let classification ← strAt py data "classification"
  let modelVersion ← strAt py data "model_version"
  let artifactSha256 ← strAt py data "artifact_sha256"
  let calibrationFingerprint ← strAt py data "calibration_fingerprint"
  let weatherFingerprint ← strAt py data "weather_fingerprint"
  let forecastSource ← strAt py data "forecast_source"
  let calibrationGroupKey ← strAt py data "calibration_group_key"
  let fallbackLevel ← strAt py data "fallback_level"
  let distributionType ← strAt py data "distribution_type"
  let calibrationSampleCount ← intAt py data "calibration_sample_count"
  let trainingCutoff ← dateAt rt py data "training_cutoff"
  HermesSignal.new rt {
    signalId, producerId, strategyId, strategyVersion, policyFingerprint, generatedAtUtc, venue,
    eventId, marketId, conditionId, outcome, tokenId, question, citySlug, cityName, climateRegion,
    leadDays, marketDate, marketTimezone, bucketKey, bucketLabel, forecastTemperatureF,
    modelProbability, classification, marketReference, modelVersion, artifactSha256,
    calibrationFingerprint, weatherFingerprint, forecastSource, calibrationGroupKey, fallbackLevel,
    distributionType, calibrationSampleCount, trainingCutoff
    contract := strOr py data "contract" "hermes.signal"
    schemaVersion := strOr py data "schema_version" "1" }

/-- A computation of the model classes. -/
def raising {α : Type} (x : Except Error α) : Except PipError α :=
  match x with
  | .ok a => .ok a
  | .error e => .error (.raised e)

/-- `signal_from_mapping`. -/
def signalFromMapping (value : Json) : Except PipError HermesSignal :=
  match value with
  | .obj data =>
    match Dict.assocGet data "market_reference" with
    | some (.obj ref) =>
      raising do
        let reference ← referenceFromMapping rt py ref
        fieldsFromMapping rt py data reference
    | _ => throw (.pipExportError "Hermes signal log has invalid market_reference")
  | _ => throw (.pipExportError "Hermes signal log record must be an object")

/-! ## Reading the log -/

/-- The exceptions that a corrupt record is reported for: `UnicodeDecodeError` and
`json.JSONDecodeError` are `ValueError`s. -/
def reported : ErrorKind → Bool
  | .valueError => true
  | .typeError => true
  | .keyError => true
  | _ => false

/-- `str(exc)`. -/
def errorText (e : Error) : String := if e.kind = .keyError then rt.repr e.message else e.message

/-- `json.loads(payload.decode("utf-8", errors="strict"))`. -/
def decodeRecord (payload : List UInt8) : Except Error Json :=
  match decodeUtf8 payload with
  | none => throw (.valueError (py.unicodeErrorText payload))
  | some chars =>
    match Json.loadsWith Json.lastValues (String.ofList chars) with
    | some v => return v
    | none => throw (.valueError (py.jsonErrorText (String.ofList chars)))

/-- The body of the loop of `_read_committed_signals` for a line that is not empty. -/
def readRecord (index : ℕ) (payload : List UInt8) : Except PipError HermesSignal :=
  match (do
    let value ← raising (decodeRecord py payload)
    signalFromMapping rt py value) with
  | .error (.raised e) =>
    if reported e.kind then
      throw (.pipExportError ("corrupt committed Hermes signal log record " ++ toString index ++
        ": " ++ errorText rt e))
    else throw (.raised e)
  | result => result

/-- The loop of `_read_committed_signals`, from record `index` on. -/
def readRecords : ℕ → List (List UInt8) → Except PipError (List HermesSignal)
  | _, [] => return []
  | index, line :: lines =>
    if rstripEnds line = [] then readRecords (index + 1) lines
    else do
      let signal ← readRecord rt py index (rstripEnds line)
      let signals ← readRecords (index + 1) lines
      return signal :: signals

/-- `records[:-1]` if the last line was not ended. -/
def committedLines (lines : List (List UInt8)) : List (List UInt8) :=
  match lines.getLast? with
  | some line => if endsLine line then lines else lines.dropLast
  | none => lines

/-- What `signal_log_path.read_bytes()` does. -/
inductive ReadBytes where
  | bytes (raw : List UInt8)
  | fileNotFound
  | osError (message : String)

/-- The signals of the bytes of a log whose first record has the number `index`. -/
def readFrom (index : ℕ) (raw : List UInt8) : Except PipError (List HermesSignal) :=
  readRecords rt py index (committedLines (splitLines raw))

/-- `_read_committed_signals`. -/
def readCommittedSignals (file : ReadBytes) : Except PipError (List HermesSignal) :=
  match file with
  | .fileNotFound => return []
  | .osError message => throw (.pipExportError
      ("cannot read Hermes signal log for PIP reconciliation: " ++ message))
  | .bytes raw => readFrom rt py 1 raw

end Reading

/-! ## A mapping is read back -/

section RoundTrip

variable {rt : Runtime} {py : PyValues} {data ms : List (String × Json)} (hd : Holds data ms)

include hd

theorem strAt_of_holds (key t : String) (h : (key, .str t) ∈ ms) : strAt py data key = .ok t := by
  rw [strAt, hd.field key h, ok_bind]
  rfl

theorem intAt_of_holds (key : String) (n : ℤ) (h : (key, .int n) ∈ ms) :
    intAt py data key = .ok n := by
  rw [intAt, hd.field key h, ok_bind]
  rfl

theorem decimalAt_of_holds (key : String) (d : Decimal) (h : (key, .str d.format) ∈ ms) :
    decimalAt py data key = .ok d := by
  rw [decimalAt, strAt_of_holds hd key _ h, ok_bind, Decimal.ofText_format]
  rfl

theorem dateAt_of_holds (key : String) (d : Date) (h : (key, .str d.isoformat) ∈ ms) :
    dateAt rt py data key = .ok d := by
  rw [dateAt, strAt_of_holds hd key _ h, ok_bind, Date.fromisoformat_isoformat]
  rfl

theorem datetimeAt_of_holds (key : String) (t : DateTime) (h : (key, .str t.isoformat) ∈ ms) :
    datetimeAt rt py data key = .ok t := by
  rw [datetimeAt, strAt_of_holds hd key _ h, ok_bind, DateTime.fromisoformat_isoformat]
  rfl

theorem strOr_of_holds (key default t : String) (h : (key, .str t) ∈ ms) :
    strOr py data key default = t := by
  rw [strOr, hd.get h]
  rfl

end RoundTrip

/-- The market reference of a mapping. -/
theorem referenceFromMapping_toMapping {rt : Runtime} {py : PyValues} {r : SignalMarketReference}
    (hr : SignalMarketReference.new r = .ok r) {ref : List (String × Json)}
    (hd : Holds ref r.toMapping) : referenceFromMapping rt py ref = .ok r := by
  have hms : r.toMapping = r.identityMapping ++ [("quote_fingerprint", .str r.quoteFingerprint)] := rfl
  rw [SignalMarketReference.identityMapping] at hms
  unfold referenceFromMapping
  simp only [
    strAt_of_holds hd "kind" r.kind (by simp [hms]),
    strAt_of_holds hd "order_book_hash" r.orderBookHash (by simp [hms]),
    datetimeAt_of_holds hd "observed_at_utc" r.observedAtUtc (by simp [hms]),
    decimalAt_of_holds hd "reference_notional" r.referenceNotional (by simp [hms]),
    decimalAt_of_holds hd "best_bid" r.bestBid (by simp [hms]),
    decimalAt_of_holds hd "best_ask" r.bestAsk (by simp [hms]),
    decimalAt_of_holds hd "average_reference_price" r.averageReferencePrice (by simp [hms]),
    decimalAt_of_holds hd "all_in_reference_price" r.allInReferencePrice (by simp [hms]),
    decimalAt_of_holds hd "worst_reference_price" r.worstReferencePrice (by simp [hms]),
    decimalAt_of_holds hd "probability_edge" r.probabilityEdge (by simp [hms]),
    decimalAt_of_holds hd "expected_return" r.expectedReturn (by simp [hms]),
    strAt_of_holds hd "quote_fingerprint" r.quoteFingerprint (by simp [hms]), ok_bind]
  exact hr

/-- The other fields of a mapping. -/
theorem fieldsFromMapping_toMapping {rt : Runtime} {py : PyValues} {s : HermesSignal}
    (hs : HermesSignal.new rt s = .ok s) {data : List (String × Json)} (hd : Holds data s.toMapping) :
    fieldsFromMapping rt py data s.marketReference = .ok s := by
  have hms := HermesSignal.toMapping.eq_1 s
  unfold fieldsFromMapping
  simp only [
    strAt_of_holds hd "signal_id" s.signalId (by simp [hms]),
    strAt_of_holds hd "producer_id" s.producerId (by simp [hms]),
    strAt_of_holds hd "strategy_id" s.strategyId (by simp [hms]),
    strAt_of_holds hd "strategy_version" s.strategyVersion (by simp [hms]),
    strAt_of_holds hd "policy_fingerprint" s.policyFingerprint (by simp [hms]),
    datetimeAt_of_holds hd "generated_at_utc" s.generatedAtUtc (by simp [hms]),
    strAt_of_holds hd "venue" s.venue (by simp [hms]),
    strAt_of_holds hd "event_id" s.eventId (by simp [hms]),
    strAt_of_holds hd "market_id" s.marketId (by simp [hms]),
    strAt_of_holds hd "condition_id" s.conditionId (by simp [hms]),
    strAt_of_holds hd "outcome" s.outcome (by simp [hms]),
    strAt_of_holds hd "token_id" s.tokenId (by simp [hms]),
    strAt_of_holds hd "question" s.question (by simp [hms]),
    strAt_of_holds hd "city_slug" s.citySlug (by simp [hms]),
    strAt_of_holds hd "city_name" s.cityName (by simp [hms]),
    strAt_of_holds hd "climate_region" s.climateRegion (by simp [hms]),
    intAt_of_holds hd "lead_days" s.leadDays (by simp [hms]),
    dateAt_of_holds hd "market_date" s.marketDate (by simp [hms]),
    strAt_of_holds hd "market_timezone" s.marketTimezone (by simp [hms]),
    strAt_of_holds hd "bucket_key" s.bucketKey (by simp [hms]),
    strAt_of_holds hd "bucket_label" s.bucketLabel (by simp [hms]),
    decimalAt_of_holds hd "forecast_temperature_f" s.forecastTemperatureF (by simp [hms]),
    decimalAt_of_holds hd "model_probability" s.modelProbability (by simp [hms]),
    strAt_of_holds hd "classification" s.classification (by simp [hms]),
    strAt_of_holds hd "model_version" s.modelVersion (by simp [hms]),
    strAt_of_holds hd "artifact_sha256" s.artifactSha256 (by simp [hms]),
    strAt_of_holds hd "calibration_fingerprint" s.calibrationFingerprint (by simp [hms]),
    strAt_of_holds hd "weather_fingerprint" s.weatherFingerprint (by simp [hms]),
    strAt_of_holds hd "forecast_source" s.forecastSource (by simp [hms]),
    strAt_of_holds hd "calibration_group_key" s.calibrationGroupKey (by simp [hms]),
    strAt_of_holds hd "fallback_level" s.fallbackLevel (by simp [hms]),
    strAt_of_holds hd "distribution_type" s.distributionType (by simp [hms]),
    intAt_of_holds hd "calibration_sample_count" s.calibrationSampleCount (by simp [hms]),
    dateAt_of_holds hd "training_cutoff" s.trainingCutoff (by simp [hms]),
    strOr_of_holds hd "contract" "hermes.signal" s.contract (by simp [hms]),
    strOr_of_holds hd "schema_version" "1" s.schemaVersion (by simp [hms]), ok_bind]
  exact hs

theorem nodup_keys_reference (r : SignalMarketReference) : (r.toMapping.map Prod.fst).Nodup := by
  rw [SignalMarketReference.toMapping, SignalMarketReference.identityMapping]
  simp

theorem nodup_keys_signal (s : HermesSignal) : (s.toMapping.map Prod.fst).Nodup := by
  rw [HermesSignal.toMapping]
  simp

/-- The members of a record are texts, integers and one object of texts. -/
theorem plain_toMapping (s : HermesSignal) : (Json.obj s.toMapping).Plain := by
  refine ⟨nodup_keys_signal s, ?_⟩
  have href : (Json.obj s.marketReference.toMapping).Plain := by
    refine ⟨nodup_keys_reference _, ?_⟩
    rw [SignalMarketReference.toMapping, SignalMarketReference.identityMapping]
    simp [Json.PlainValues, Json.Plain]
  rw [HermesSignal.toMapping]
  have hstr : ∀ t, (Json.str t).Plain := fun _ => trivial
  have hint : ∀ n, (Json.int n).Plain := fun _ => trivial
  simp only [Json.PlainValues, hstr, hint, href, and_self]

/-- **The mapping of a signal is read back as that signal.** -/
theorem signalFromMapping_toMapping {rt : Runtime} (py : PyValues) {s : HermesSignal}
    (hs : s.Constructed rt) :
    signalFromMapping rt py (Json.obj s.toMapping).sortKeys = .ok s := by
  have hd := holds_sorted (nodup_keys_signal s)
  have href := holds_sorted (nodup_keys_reference s.marketReference)
  have hget := hd.get (k := "market_reference") (v := .obj s.marketReference.toMapping)
    (by rw [HermesSignal.toMapping]; simp)
  rw [Json.sortKeys] at hget ⊢
  generalize Json.sortMembers (Json.sortValues s.toMapping) = data at *
  generalize Json.sortMembers (Json.sortValues s.marketReference.toMapping) = ref at *
  rw [signalFromMapping, hget]
  dsimp only
  rw [referenceFromMapping_toMapping hs.reference href, ok_bind,
    fieldsFromMapping_toMapping hs.signal hd]
  rfl

/-! ## A record is read back -/

theorem decodeRecord_recordBytes (py : PyValues) (s : HermesSignal) :
    decodeRecord py (recordBytes s) = .ok (Json.obj s.toMapping).sortKeys := by
  have hloads := Json.loadsWith_dumps Json.keeps_lastValues (plain_toMapping s)
  generalize (Json.obj s.toMapping).sortKeys = v at hloads ⊢
  rw [decodeRecord, recordBytes, decodeUtf8_encodeUtf8]
  dsimp only
  rw [String.ofList_toList, recordText, hloads]
  rfl

theorem readRecord_recordBytes {rt : Runtime} {py : PyValues} {s : HermesSignal}
    (hs : s.Constructed rt) (index : ℕ) : readRecord rt py index (recordBytes s) = .ok s := by
  have hmapping := signalFromMapping_toMapping py hs
  rw [readRecord, decodeRecord_recordBytes]
  generalize (Json.obj s.toMapping).sortKeys = v at hmapping ⊢
  rw [raising, ok_bind, hmapping]

/-- `json.loads` of a written line, then `signal_from_mapping`. -/
def parseLine (rt : Runtime) (py : PyValues) (text : String) : Except PipError HermesSignal :=
  match Json.loadsWith Json.lastValues text with
  | some value => signalFromMapping rt py value
  | none => throw (.raised (.valueError (py.jsonErrorText text)))

/-- **Round trip of a record.** For every signal that the constructors accept, the written line is
parsed to that signal, which passes its own checks again and is written as the same text. -/
theorem parseLine_recordText (rt : Runtime) (py : PyValues) (reference : SignalMarketReference)
    (raw s : HermesSignal) (hr : SignalMarketReference.new reference = .ok raw.marketReference)
    (hs : HermesSignal.new rt raw = .ok s) :
    ∃ parsed, parseLine rt py (recordText s) = .ok parsed ∧ parsed = s ∧
      HermesSignal.new rt parsed = .ok parsed ∧ recordText parsed = recordText s := by
  have hself := HermesSignal.new_self hs
  have hreference : SignalMarketReference.new s.marketReference = .ok s.marketReference := by
    rw [HermesSignal.marketReference_new hs]
    exact SignalMarketReference.new_self hr
  have hmapping := signalFromMapping_toMapping py ⟨hreference, hself⟩
  have hloads := Json.loadsWith_dumps Json.keeps_lastValues (plain_toMapping s)
  refine ⟨s, ?_, rfl, hself, rfl⟩
  generalize (Json.obj s.toMapping).sortKeys = v at hmapping hloads
  rw [parseLine, recordText, hloads]
  exact hmapping

namespace Sample

/-- The digest of the sample's calibration and of its identity. -/
def calibrationDigest : String := "df2b5a8e277f8f3ac88e00331024f73b97959b20f894a2d2e3f09ddabe05bfff"

def identityDigest : String := "e7f40ea3a79af4d8aafcb07c19856a569e60ec4bb4e6e7c911fded0990bf753c"

/-- A runtime that hashes the two documents of the sample. -/
def hashes : Runtime :=
  { Runtime.utc with
    sha256Json := fun
      | .obj members => if members.length = 14 then calibrationDigest else identityDigest
      | _ => "" }

/-- Noon of a day in UTC. -/
def noon (day : Date) : DateTime := Sample.noonOf day

/-- A market reference that its constructor accepts. -/
def reference : SignalMarketReference where
  kind := "executable_read_only"
  orderBookHash := "h1"
  observedAtUtc := noon Sample.firstOfMarch
  referenceNotional := ⟨false, 10, 0⟩
  bestBid := ⟨false, 40, 2⟩
  bestAsk := ⟨false, 42, 2⟩
  averageReferencePrice := ⟨false, 42, 2⟩
  allInReferencePrice := ⟨false, 43, 2⟩
  worstReferencePrice := ⟨false, 42, 2⟩
  probabilityEdge := ⟨false, 17, 2⟩
  expectedReturn := ⟨false, 39, 2⟩
  quoteFingerprint := "q1"

/-- A signal that its constructor accepts. -/
def hermesSignal : HermesSignal where
  signalId := "hsig_" ++ identityDigest
  producerId := "hermes"
  strategyId := "s1"
  strategyVersion := "v1"
  policyFingerprint := "bbbbbbbbbbbbbbbbbbbbbbbbbbbbbbbbbbbbbbbbbbbbbbbbbbbbbbbbbbbbbbbb"
  generatedAtUtc := noon Sample.firstOfMarch
  venue := "polymarket"
  eventId := "e1"
  marketId := "m1"
  conditionId := "c1"
  outcome := "Yes"
  tokenId := "t1"
  question := "?"
  citySlug := "nyc"
  cityName := "New York"
  climateRegion := "ne"
  leadDays := 1
  marketDate := Sample.secondOfMarch
  marketTimezone := "UTC"
  bucketKey := "b1"
  bucketLabel := "40-41"
  forecastTemperatureF := ⟨false, 405, 1⟩
  modelProbability := ⟨false, 6, 1⟩
  classification := "accepted"
  marketReference := reference
  modelVersion := "m1"
  artifactSha256 := "aaaaaaaaaaaaaaaaaaaaaaaaaaaaaaaaaaaaaaaaaaaaaaaaaaaaaaaaaaaaaaaa"
  calibrationFingerprint := calibrationDigest
  weatherFingerprint := "w1"
  forecastSource := "ecmwf"
  calibrationGroupKey := "g1"
  fallbackLevel := "city"
  distributionType := "normal"
  calibrationSampleCount := 30
  trainingCutoff := Sample.newYear
  contract := "hermes.signal"
  schemaVersion := "1"

theorem stripped_reference : Stripped reference.orderBookHash ∧ Stripped reference.quoteFingerprint := by
  show Stripped "h1" ∧ Stripped "q1"
  exact ⟨stripped_ofList (by decide) (by decide), stripped_ofList (by decide) (by decide)⟩

theorem utc_reference : utc reference.observedAtUtc = .ok reference.observedAtUtc := by decide

theorem reference_new : SignalMarketReference.new reference = .ok reference :=
  SignalMarketReference.new_of_stripped rfl stripped_reference.1 stripped_reference.2
    utc_reference (by decide)

theorem stripped_texts : ∀ text ∈ hermesSignal.texts, Stripped text.2 := by
  simp only [HermesSignal.texts, hermesSignal, identityDigest, calibrationDigest, String.reduceAppend]
  iterate 27 refine List.forall_mem_cons.mpr ⟨stripped_ofList (by decide) (by decide), ?_⟩
  exact List.forall_mem_nil _

theorem hermesSignal_new : HermesSignal.new hashes hermesSignal = .ok hermesSignal :=
  HermesSignal.new_of_stripped stripped_texts (by decide) (by decide) (by decide)

/-- The conversions, for values that no record has. -/
def noValues : PyValues where
  strOf _ := ""
  intOf _ := .error (.typeError "")
  unicodeErrorText _ := ""
  jsonErrorText _ := ""

end Sample

theorem parseLine_recordText_sample :
    ∃ parsed, parseLine Sample.hashes Sample.noValues (recordText Sample.hermesSignal) = .ok parsed ∧
      parsed = Sample.hermesSignal ∧ HermesSignal.new Sample.hashes parsed = .ok parsed ∧
      recordText parsed = recordText Sample.hermesSignal :=
  parseLine_recordText Sample.hashes Sample.noValues Sample.reference Sample.hermesSignal
    Sample.hermesSignal Sample.reference_new Sample.hermesSignal_new

/-! ## Records in a log -/

/-- The members of a record as they are written. -/
def recordMembers (s : HermesSignal) : List (String × Json) :=
  Json.sortMembers (Json.sortValues s.toMapping)

theorem recordText_toList (s : HermesSignal) :
    (recordText s).toList = Json.write (.obj (recordMembers s)) := by
  rw [recordText, Json.dumps, String.toList_ofList, Json.sortKeys, recordMembers]

theorem plain_recordMembers (s : HermesSignal) : (Json.obj (recordMembers s)).Plain := by
  have h := Json.plain_sortKeys (plain_toMapping s)
  rwa [Json.sortKeys] at h

/-- Every key of a record starts with a small letter. -/
theorem keyedText_record (s : HermesSignal) : Json.KeyedText (Json.write (.obj (recordMembers s))) := by
  have hperm : ((recordMembers s).map Prod.fst).Perm (s.toMapping.map Prod.fst) := by
    rw [← Json.keys_sortValues s.toMapping]
    exact (Json.perm_sortMembers _).map Prod.fst
  have hkeys : ∀ k ∈ s.toMapping.map Prod.fst, k.toList.head?.any Char.isLower = true := by
    rw [HermesSignal.toMapping]
    simp only [List.map_cons, List.map_nil]
    decide +kernel
  refine Json.keyedText_of_keys ?_ ?_
  · intro hnil
    rw [hnil, HermesSignal.toMapping] at hperm
    exact absurd hperm.length_eq (by simp)
  · intro k hk
    have hlower := hkeys k (hperm.mem_iff.mp hk)
    cases hl : k.toList with
    | nil =>
      rw [hl] at hlower
      cases hlower
    | cons c l =>
      rw [hl] at hlower
      exact ⟨c, l, rfl, hlower⟩

/-- A record is one line. -/
theorem oneLine_recordBytes (s : HermesSignal) : OneLine (recordBytes s) := by
  have hchars : ∀ c ∈ (recordText s).toList, 0x20 ≤ c.toNat := by
    rw [recordText_toList]
    exact Json.le_toNat_write _ (plain_recordMembers s)
  rw [recordBytes]
  constructor
  · exact not_mem_encodeUtf8 (c := '\n') (by decide) fun h => absurd (hchars _ h) (by decide)
  · exact not_mem_encodeUtf8 (c := '\r') (by decide) fun h => absurd (hchars _ h) (by decide)

theorem recordBytes_ne_nil (s : HermesSignal) : recordBytes s ≠ [] := by
  rw [recordBytes, recordText_toList, Json.write, encodeUtf8_ascii (by decide)]
  exact List.cons_ne_nil _ _

/-- **A line in front of a log is read first.** -/
theorem readFrom_line {rt : Runtime} {py : PyValues} {line : List UInt8} (h : OneLine line)
    (hne : line ≠ []) (index : ℕ) (rest : List UInt8) :
    readFrom rt py index (line ++ lineFeed :: rest) = do
      let signal ← readRecord rt py index line
      let signals ← readFrom rt py (index + 1) rest
      return signal :: signals := by
  have hcommitted : ∀ lines, committedLines ((line ++ [lineFeed]) :: lines) =
      (line ++ [lineFeed]) :: committedLines lines := by
    intro lines
    cases lines with
    | nil =>
      rw [committedLines, List.getLast?_singleton]
      simp only [endsLine_append, if_true]
      rfl
    | cons l lines =>
      rw [committedLines, committedLines, List.getLast?_cons_cons]
      cases (l :: lines).getLast? with
      | none => rfl
      | some last =>
        dsimp only
        split_ifs <;> rfl
  rw [readFrom, splitLines_append h, hcommitted, readRecords, rstripEnds_append h, if_neg hne]
  rfl

/-- A record in front of a log. -/
theorem readFrom_record {rt : Runtime} {py : PyValues} {s : HermesSignal} (hs : s.Constructed rt)
    (index : ℕ) (rest : List UInt8) :
    readFrom rt py index (recordLine s ++ rest) = do
      let signals ← readFrom rt py (index + 1) rest
      return s :: signals := by
  rw [recordLine, List.append_assoc, List.singleton_append,
    readFrom_line (oneLine_recordBytes s) (recordBytes_ne_nil s), readRecord_recordBytes hs, ok_bind]

/-- **What follows the last line end is not read.** -/
theorem readFrom_unended {rt : Runtime} {py : PyValues} {tail : List UInt8} (h : OneLine tail)
    (index : ℕ) : readFrom rt py index tail = .ok [] := by
  by_cases hne : tail = []
  · rw [hne]
    rfl
  · have hlines : committedLines [tail] = [] := by
      rw [committedLines, List.getLast?_singleton]
      simp [endsLine_oneLine h]
    rw [readFrom, splitLines_oneLine h hne, hlines]
    rfl

end WeatherBot.Pip
