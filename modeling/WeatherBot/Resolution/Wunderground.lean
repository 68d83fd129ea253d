import WeatherBot.Common.Bytes
import WeatherBot.Common.Extremum
import WeatherBot.Forecasting.Loader
import WeatherBot.Markets.Temperature

/-!
# Public daily history

`resolution/wunderground.py`: evidence of a day's high from the HTML page that shows a
station's history. `HTMLParser` and `json.loads` are parameters: the page is what the
handlers of `_HistoryPageParser` collect from it.

* `normalizeObservations`: the loop over the rows of the series.
* `parseWundergroundDailyHistoryHtml`: a page to a capture.
-/

namespace WeatherBot.Resolution

open WeatherBot.Common
open WeatherBot.Domain
open WeatherBot.Markets (quantizeHalfUp IsIntegral)
open WeatherBot.Forecasting (TextReaders getValue dateKey)

/-- `WeatherUndergroundHistoryError`, or an exception of another class. -/
inductive HistoryError where
  | weatherUndergroundHistoryError (message : String)
  | raised (error : Error)
deriving DecidableEq

open HistoryError (weatherUndergroundHistoryError raised)

/-! ## What the library gives -/

/-- A call of a handler of `HTMLParser`. -/
inductive HtmlEvent where
  | startTag (tag : String) (attrs : List (String × Option String))
  | data (text : String)
  | endTag (tag : String)

/-- What `urlparse` finds. -/
structure ParsedUrl where
  scheme : String
  hostname : Option String
  path : String

/-- What the code takes from Python's library. -/
structure HistoryLibrary where
  texts : TextReaders
  /-- The handlers that `feed` and `close` call on a text. -/
  feed : String → List HtmlEvent
  loads : String → Option Json
  urlparse : String → Except Error ParsedUrl
  /-- `int(text)`. -/
  int : String → Option ℤ
  /-- `datetime.fromtimestamp(ms / 1000, tz=UTC)`. -/
  fromtimestamp : ℤ → Except Error {t : DateTime // t.utcoffset = 0}
  /-- The time of day of an instant in a zone, in microseconds. -/
  localClock : String → ℤ → ℕ

variable (rt : Runtime) (lib : HistoryLibrary)

/-! ## The page -/

/-- `_HistoryPageParser`. -/
structure HistoryPageParser where
  airportBodies : List (Dict String String)
  jsonScripts : List String
  captureJson : Bool
  jsonParts : List String

namespace HistoryPageParser

/-- `_HistoryPageParser.__init__`. -/
def init : HistoryPageParser := ⟨[], [], false, []⟩

/-- `{key.lower(): value or "" for key, value in attrs}`. -/
def normalizedAttrs (attrs : List (String × Option String)) : Dict String String :=
  attrs.foldl (fun d a => d.insert (rt.lower.map a.1) (a.2.getD "")) Dict.empty

/-- `handle_starttag`. -/
def handleStarttag (p : HistoryPageParser) (tag : String) (attrs : List (String × Option String)) :
    Except HistoryError HistoryPageParser := do
  let normalized := normalizedAttrs rt attrs
  let p := if rt.lower.map tag = "airport-body" then
      { p with airportBodies := p.airportBodies ++ [normalized] } else p
  if rt.lower.map tag = "script" ∧
      rt.lower.map ((normalized.get? "type").getD "") = "application/json" then do
    raiseIf (p.captureJson = true)
      (weatherUndergroundHistoryError "nested application/json script blocks")
    return { p with captureJson := true, jsonParts := [] }
  else return p

/-- `handle_data`. -/
def handleData (p : HistoryPageParser) (text : String) : HistoryPageParser :=
  if p.captureJson then { p with jsonParts := p.jsonParts ++ [text] } else p

/-- `handle_endtag`. -/
def handleEndtag (p : HistoryPageParser) (tag : String) : HistoryPageParser :=
  if rt.lower.map tag = "script" ∧ p.captureJson = true then
    { p with jsonScripts := p.jsonScripts ++ [String.join p.jsonParts], captureJson := false, jsonParts := [] }
  else p

/-- A call of a handler. -/
def handle (p : HistoryPageParser) : HtmlEvent → Except HistoryError HistoryPageParser
  | .startTag tag attrs => p.handleStarttag rt tag attrs
  | .data text => return p.handleData text
  | .endTag tag => return p.handleEndtag rt tag

end HistoryPageParser

/-- `raw_html.decode("utf-8")`, `feed` and `close`. -/
def parsePage (rawHtml : List UInt8) : Except HistoryError HistoryPageParser :=
  match decodeUtf8 rawHtml with
  | none => throw (weatherUndergroundHistoryError "Weather Underground page is not UTF-8 HTML")
  | some text => (lib.feed (String.ofList text)).foldlM (HistoryPageParser.handle rt) .init

/-- `_require_wunderground_history_url`. -/
def requireWundergroundHistoryUrl (value label : String) : Except HistoryError String := do
  let normalized := strip value
  let parsed ← (lib.urlparse normalized).mapError raised
  raiseIf (parsed.scheme ≠ "https" ∨ ¬ (parsed.hostname = some "www.wunderground.com" ∨
      parsed.hostname = some "wunderground.com"))
    (weatherUndergroundHistoryError (label ++ " must use the public Weather Underground HTTPS host"))
  raiseIf (¬ "/history/daily/".toList <:+: parsed.path.toList)
    (weatherUndergroundHistoryError (label ++ " must be a Weather Underground daily-history URL"))
  return normalized

/-- `value.split("-")`. -/
def splitDashes (value : String) : List String := (value.toList.splitOn '-').map String.ofList

/-- `_parse_page_date`. -/
def parsePageDate (value : String) : Except HistoryError Date :=
  let date : Option Date :=
    match splitDashes value with
    | [yearText, monthText, dayText] => do
      let year ← lib.int yearText
      let month ← lib.int monthText
      let day ← lib.int dayText
      if 0 ≤ year ∧ 0 ≤ month ∧ 0 ≤ day then Date.make year.toNat month.toNat day.toNat else none
    | _ => none
  match date with
  | some d => return d
  | none => throw (weatherUndergroundHistoryError
      ("invalid Weather Underground page date: " ++ rt.repr value))

/-- `_extract_airport_body`. -/
def extractAirportBody (parser : HistoryPageParser) (stationId : String) (marketDate : Date)
    (marketTimezone : String) : Except HistoryError (Dict String String) := do
  let station := rt.upper.map (strip stationId)
  let found := parser.airportBodies.filter fun attrs =>
    rt.upper.map ((attrs.get? "data-icao-code").getD "") = station
  match found with
  | [attrs] => do
    raiseIf (rt.lower.map ((attrs.get? "data-mode").getD "") ≠ "daily")
      (weatherUndergroundHistoryError "Weather Underground page is not in daily-history mode")
    let pageTimezone := (attrs.get? "data-time-zone").getD ""
    raiseIf (pageTimezone ≠ marketTimezone)
      (weatherUndergroundHistoryError ("Weather Underground timezone mismatch: expected " ++
        marketTimezone ++ ", got " ++ pageTimezone))
    let pageDate ← parsePageDate rt lib ((attrs.get? "data-date").getD "")
    raiseIf (pageDate ≠ marketDate)
      (weatherUndergroundHistoryError ("Weather Underground market date mismatch: expected " ++
        marketDate.isoformat ++ ", got " ++ pageDate.isoformat))
    let locationId := (attrs.get? "data-location-id").getD ""
    raiseIf (¬ (station ++ ":").toList <+: (rt.upper.map locationId).toList)
      (weatherUndergroundHistoryError "Weather Underground location ID disagrees with station ID")
    return attrs
  | _ => throw (weatherUndergroundHistoryError ("expected exactly one airport-body for station " ++
      station ++ ", found " ++ toString found.length))

/-! ## The series -/

/-- A row of the series: its members. -/
abbrev Row := List (String × Json)

/-- A value that is an object with a `ts` and a `temp`. -/
def rowOf : Json → Option Row
  | .obj row =>
    if Dict.assocGet row "ts" = none ∨ Dict.assocGet row "temp" = none then none else some row
  | _ => none

/-- `_observation_json_candidate`. -/
def observationJsonCandidate : Json → Option (List Row)
  | .arr (item :: items) => (item :: items).mapM rowOf
  | _ => none

/-- The candidate of a script. -/
def scriptCandidate (script : String) : Option (List Row) :=
  if isBlank script then none
  else (lib.loads script).bind observationJsonCandidate

/-- `_extract_observation_rows`. -/
def extractObservationRows (parser : HistoryPageParser) : Except HistoryError (List Row) :=
  match parser.jsonScripts.filterMap (scriptCandidate lib) with
  | [rows] => return rows
  | candidates => throw (weatherUndergroundHistoryError
      ("expected exactly one embedded station observation series, found " ++ toString candidates.length))

/-! ## Readings -/

/-- `Decimal(text)`, which must be finite. -/
def finiteNumber (text label : String) : Except HistoryError Decimal :=
  match lib.texts.readDecimal text with
  | .finite d => return d
  | .special => throw (weatherUndergroundHistoryError (label ++ " must be finite"))
  | .invalid => throw (weatherUndergroundHistoryError (label ++ " must be numeric"))

/-- `_number`. The text of an array, of an object or of `None` is not a number. -/
def number (value : Json) (label : String) : Except HistoryError Decimal :=
  match value with
  | .str s => finiteNumber lib s label
  | .int n => finiteNumber lib (toString n) label
  | .float t => finiteNumber lib (lib.texts.floatText t) label
  | _ => throw (weatherUndergroundHistoryError (label ++ " must be numeric"))

/-- `celsius * Decimal("9") / Decimal("5") + Decimal("32")`. -/
def fahrenheitOf (celsius : Decimal) : Decimal :=
  (celsius * ⟨false, 9, 0⟩).truediv ⟨false, 5, 0⟩ + ⟨false, 32, 0⟩

/-- A Celsius number in whole degrees Fahrenheit. -/
def displayFahrenheit (celsius : Decimal) : Except HistoryError Decimal :=
  match quantizeHalfUp (fahrenheitOf celsius) with
  | some fahrenheit => return fahrenheit
  | none => throw (raised
      ⟨.invalidOperation, "quantize result has too many digits for current context"⟩)

/-- `_embedded_celsius_to_display_fahrenheit`. -/
def embeddedCelsiusToDisplayFahrenheit (value : Json) : Except HistoryError Decimal := do
  let celsius ← number lib value "Weather Underground embedded Celsius temperature"
  displayFahrenheit celsius

/-- `_integer`. -/
def integer (value : Json) (label : String) : Except HistoryError ℤ :=
  match value with
  | .int n => return n
  | _ => throw (weatherUndergroundHistoryError (label ++ " must be an integer"))

/-- `WeatherUndergroundObservation`. -/
structure WeatherUndergroundObservation where
  timestampUtc : DateTime
  temperatureF : Decimal
deriving DecidableEq

/-- `WeatherUndergroundObservation.__post_init__`. -/
def WeatherUndergroundObservation.new (o : WeatherUndergroundObservation) :
    Except HistoryError WeatherUndergroundObservation := do
  raiseIf (¬ IsIntegral o.temperatureF) (weatherUndergroundHistoryError
    "normalized Weather Underground Fahrenheit temperature must be whole-degree")
  match o.timestampUtc.astimezoneUtc with
  | some t => return { o with timestampUtc := t }
  | none => throw (raised ⟨.overflowError, "date value out of range"⟩)

/-- The variables of the loop over the rows. -/
structure Normalizing where
  observations : List WeatherUndergroundObservation
  seenTimestamps : List DateTime

/-- The loop of `_normalize_observations` on a row with a temperature (275-293). -/
def normalizeReading (marketDate : Date) (marketTimezone : String) (s : Normalizing) (row : Row) :
    Except HistoryError Normalizing := do
  let timestampMs ← integer (getValue row "ts") "Weather Underground observation timestamp"
  let timestampUtc ← (lib.fromtimestamp timestampMs).mapError raised
  match rt.localDate marketTimezone timestampUtc.1.instant with
  | none => throw (raised ⟨.overflowError, "date value out of range"⟩)
  | some localDate => do
    raiseIf (localDate ≠ marketDate) (weatherUndergroundHistoryError
      "Weather Underground observation series contains a timestamp outside the requested local day")
    raiseIf (∃ t ∈ s.seenTimestamps, t.SameInstant timestampUtc.1)
      (weatherUndergroundHistoryError "duplicate Weather Underground observation timestamp")
    let temperatureF ← embeddedCelsiusToDisplayFahrenheit lib (getValue row "temp")
    let observation ← WeatherUndergroundObservation.new ⟨timestampUtc.1, temperatureF⟩
    return ⟨s.observations ++ [observation], timestampUtc.1 :: s.seenTimestamps⟩

/-- The loop of `_normalize_observations` over the rows (271-293). -/
def normalizeRow (marketDate : Date) (marketTimezone : String) (s : Normalizing) (row : Row) :
    Except HistoryError Normalizing :=
  match getValue row "temp" with
  | .null => return s
  | _ => normalizeReading rt lib marketDate marketTimezone s row

/-- `sorted(observations, key=lambda item: item.timestamp_utc)`. -/
def sortedObservations (observations : List WeatherUndergroundObservation) :
    List WeatherUndergroundObservation :=
  observations.insertionSort fun a b => a.timestampUtc.instant ≤ b.timestampUtc.instant

/-- `_normalize_observations`. -/
def normalizeObservations (rows : List Row) (marketDate : Date) (marketTimezone : String) :
    Except HistoryError (List WeatherUndergroundObservation) := do
  raiseIf (rt.zoneKnown marketTimezone = false)
    (raised ⟨.keyError, "No time zone found with key " ++ marketTimezone⟩)
  let s ← rows.foldlM (normalizeRow rt lib marketDate marketTimezone) ⟨[], []⟩
  raiseIf (s.observations = [])
    (weatherUndergroundHistoryError "Weather Underground observation series is empty")
  return sortedObservations s.observations

/-- `WeatherUndergroundCoveragePolicy`; times of day are in microseconds. -/
structure WeatherUndergroundCoveragePolicy where
  minObservations : ℕ
  latestAllowedFirstLocalTime : ℕ
  earliestAllowedLastLocalTime : ℕ
  valid : 2 ≤ minObservations ∧ latestAllowedFirstLocalTime < dayMicros ∧
    earliestAllowedLastLocalTime < dayMicros

/-- `str` of a time of day. -/
def clockText (micros : ℕ) : String :=
  String.ofList (padDigits 2 (micros / hourMicros) ++ ':' :: (padDigits 2 (micros / minuteMicros % 60) ++
    ':' :: (padDigits 2 (micros / secondMicros % 60) ++ DateTime.fractionChars (micros % secondMicros))))

/-- `_validate_coverage`. -/
def validateCoverage (observations : List WeatherUndergroundObservation) (marketTimezone : String)
    (policy : WeatherUndergroundCoveragePolicy) : Except HistoryError Unit := do
  raiseIf (observations.length < policy.minObservations)
    (weatherUndergroundHistoryError ("insufficient Weather Underground observations: " ++
      toString observations.length ++ " < " ++ toString policy.minObservations))
  match observations.head?, observations.getLast? with
  | some first, some last => do
    let firstLocal := lib.localClock marketTimezone first.timestampUtc.instant
    let lastLocal := lib.localClock marketTimezone last.timestampUtc.instant
    raiseIf (policy.latestAllowedFirstLocalTime < firstLocal)
      (weatherUndergroundHistoryError ("Weather Underground series begins too late in the local day: " ++
        clockText firstLocal))
    raiseIf (lastLocal < policy.earliestAllowedLastLocalTime)
      (weatherUndergroundHistoryError ("Weather Underground series ends too early in the local day: " ++
        clockText lastLocal))
  | _, _ => throw (raised (.valueError "tuple index out of range"))

/-! ## Evidence -/

/-- What `parse_wunderground_daily_history_html` is asked, apart from the page. -/
structure HistoryRequest where
  sourceUrl : String
  retrievedAtUtc : DateTime
  marketId : String
  stationId : String
  marketDate : Date
  marketTimezone : String
  coveragePolicy : WeatherUndergroundCoveragePolicy

/-- `_normalized_payload`. -/
def normalizedPayload (r : HistoryRequest) (observations : List WeatherUndergroundObservation) :
    List (String × Json) :=
  [("schema_version", .int 2), ("source", .str "weather-underground-public-daily-history-html"),
    ("station_id", .str (rt.upper.map (strip r.stationId))),
    ("market_date", .str r.marketDate.isoformat), ("market_timezone", .str r.marketTimezone),
    ("embedded_temperature_unit", .str "C"), ("normalized_temperature_unit", .str "F"),
    ("normalization", .str "celsius-to-fahrenheit-nearest-whole-degree"),
    ("observations", .arr (observations.map fun item => .obj
      [("timestamp_utc", .str item.timestampUtc.isoformat),
        ("temperature_f", .str item.temperatureF.format)]))]

/-- `_SOURCE_NAME`. -/
def sourceName : String := "Weather Underground public daily history"

/-- `_MEASUREMENT_BASIS`. -/
def measurementBasis : String :=
  "finalized whole-degree Fahrenheit daily high normalized from the public station " ++
    "daily-history embedded Celsius observation series"

/-- `WeatherUndergroundDailyHistoryCapture`. -/
structure WeatherUndergroundDailyHistoryCapture where
  evidence : WeatherObservationEvidence
  finalUrl : String
  rawPageSha256 : String
  normalizedPayloadSha256 : String
  observationCount : ℕ
  firstObservationUtc : DateTime
  lastObservationUtc : DateTime
  highObservationUtc : DateTime

/-- `WeatherUndergroundDailyHistoryCapture.__post_init__`. -/
def WeatherUndergroundDailyHistoryCapture.new (c : WeatherUndergroundDailyHistoryCapture) :
    Except HistoryError WeatherUndergroundDailyHistoryCapture := do
  raiseIf (isSha256 c.rawPageSha256 = false)
    (weatherUndergroundHistoryError "raw_page_sha256 must be a SHA-256 digest")
  raiseIf (isSha256 c.normalizedPayloadSha256 = false)
    (weatherUndergroundHistoryError "normalized_payload_sha256 must be a SHA-256 digest")
  raiseIf (c.evidence.payloadHash ≠ c.normalizedPayloadSha256) (weatherUndergroundHistoryError
    "evidence payload hash must equal normalized Weather Underground payload hash")
  raiseIf (c.observationCount < 1)
    (weatherUndergroundHistoryError "observation_count must be positive")
  return c

/-- The earliest of the readings with the high. -/
def highObservation (observations : List WeatherUndergroundObservation) (dailyHigh : Decimal) :
    Except HistoryError WeatherUndergroundObservation :=
  match observations.filter fun item => Decimal.NumEq item.temperatureF dailyHigh with
  | item :: items => return minBy (fun o => o.timestampUtc.instant) item items
  | [] => throw (raised (.valueError "min() iterable argument is empty"))

/-- What is made of the normalized readings (396-427). -/
def captureOf (r : HistoryRequest) (finalUrl : String) (retrieved : DateTime) (rawPageSha256 : String)
    (observations : List WeatherUndergroundObservation) :
    Except HistoryError WeatherUndergroundDailyHistoryCapture := do
  validateCoverage lib observations r.marketTimezone r.coveragePolicy
  match observations.head?, observations.getLast? with
  | some first, some last => do
    let dailyHigh := maxBy Decimal.value first.temperatureF (observations.tail.map (·.temperatureF))
    raiseIf (¬ IsIntegral dailyHigh) (weatherUndergroundHistoryError
      ("Weather Underground finalized high is not a whole-degree value: " ++ dailyHigh.str))
    let high ← highObservation observations dailyHigh
    let normalizedHash := rt.sha256 (Json.obj (normalizedPayload rt r observations)).dumps
    let evidence ← (WeatherObservationEvidence.new rt {
      marketId := r.marketId
      sourceName := sourceName
      sourceUrl := finalUrl
      stationId := rt.upper.map (strip r.stationId)
      measurementBasis := measurementBasis
      marketDate := r.marketDate
      marketTimezone := r.marketTimezone
      temperature := dailyHigh
      unit := "F"
      retrievedAt := retrieved
      sourceTimestamp := some high.timestampUtc
      sourceRevision := "public-history-html-v2:" ++ String.ofList (normalizedHash.toList.take 16)
      status := .final
      payloadHash := normalizedHash
      supersedesPayloadHash := none }).mapError raised
    WeatherUndergroundDailyHistoryCapture.new {
      evidence
      finalUrl
      rawPageSha256
      normalizedPayloadSha256 := normalizedHash
      observationCount := observations.length
      firstObservationUtc := first.timestampUtc
      lastObservationUtc := last.timestampUtc
      highObservationUtc := high.timestampUtc }
  | _, _ => throw (raised (.valueError "max() iterable argument is empty"))

/-- `parse_wunderground_daily_history_html`. -/
def parseWundergroundDailyHistoryHtml (r : HistoryRequest) (rawHtml : List UInt8) :
    Except HistoryError WeatherUndergroundDailyHistoryCapture := do
  let finalUrl ← requireWundergroundHistoryUrl lib r.sourceUrl "source_url"
  match r.retrievedAtUtc.astimezoneUtc with
  | none => throw (raised ⟨.overflowError, "date value out of range"⟩)
  | some retrieved => do
    raiseIf (rt.zoneKnown r.marketTimezone = false)
      (raised ⟨.keyError, "No time zone found with key " ++ r.marketTimezone⟩)
    match rt.localDate r.marketTimezone retrieved.instant with
    | none => throw (raised ⟨.overflowError, "date value out of range"⟩)
    | some today => do
      raiseIf (dateKey today ≤ dateKey r.marketDate) (weatherUndergroundHistoryError
        "daily history is not final until the market-local day has ended")
      let parser ← parsePage rt lib rawHtml
      let _ ← extractAirportBody rt lib parser r.stationId r.marketDate r.marketTimezone
      let rows ← extractObservationRows lib parser
      let observations ← normalizeObservations rt lib rows r.marketDate r.marketTimezone
      let rawPageSha256 := rt.sha256 (String.ofList ((decodeUtf8 rawHtml).getD []))
      captureOf rt lib r finalUrl retrieved rawPageSha256 observations

end WeatherBot.Resolution
