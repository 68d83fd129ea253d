import WeatherBot.Common.Dict
import WeatherBot.Domain.Events

/-!
# The event codec

`persistence/codec.py`: the text of an event, and the strict decoder that reads
it back.

* `encodeEvent`: the row data of an event; its payload is sorted JSON.
* `decodeEvent`: a payload back into an event, through the event's constructor.
* `chainHash`: the hash that links a row to the row before it.
-/

namespace WeatherBot.Persistence

open WeatherBot.Common
open WeatherBot.Domain

def corrupt (message : String) : Error := ⟨.corruptLedgerError, message⟩

def schemaVersion (message : String) : Error := ⟨.schemaVersionError, message⟩

/-! ## Event types -/

/-- The values of `_EVENT_TYPE_BY_CLASS`. -/
inductive EventType where
  | accountOpened
  | orderIntentCreated
  | orderSubmitted
  | orderAcknowledged
  | fillReceived
  | orderRejected
  | orderCancelled
  | orderOutcomeUnknown
  | weatherObservationRecorded
  | marketResolutionEvidenceRecorded
  | marketResolved
  | positionSettled
  | riskScopeRegistered
  | portfolioValuationRecorded
deriving DecidableEq, Repr

namespace EventType

/-- The text of an event type. -/
def value : EventType → String
  | accountOpened => "account_opened"
  | orderIntentCreated => "order_intent_created"
  | orderSubmitted => "order_submitted"
  | orderAcknowledged => "order_acknowledged"
  | fillReceived => "fill_received"
  | orderRejected => "order_rejected"
  | orderCancelled => "order_cancelled"
  | orderOutcomeUnknown => "order_outcome_unknown"
  | weatherObservationRecorded => "weather_observation_recorded"
  | marketResolutionEvidenceRecorded => "market_resolution_evidence_recorded"
  | marketResolved => "market_resolved"
  | positionSettled => "position_settled"
  | riskScopeRegistered => "risk_scope_registered"
  | portfolioValuationRecorded => "portfolio_valuation_recorded"

/-- The event types that `decode_event` knows. -/
def all : List EventType :=
  [accountOpened, orderIntentCreated, orderSubmitted, orderAcknowledged, fillReceived, orderRejected,
    orderCancelled, orderOutcomeUnknown, weatherObservationRecorded,
    marketResolutionEvidenceRecorded, marketResolved, positionSettled, riskScopeRegistered,
    portfolioValuationRecorded]

/-- The event type of a text. -/
def ofValue (text : String) : Option EventType := all.find? fun t => t.value == text

theorem ofValue_value (t : EventType) : ofValue t.value = some t := by cases t <;> decide

theorem value_inj {a b : EventType} (h : a.value = b.value) : a = b := by
  have := congrArg ofValue h
  rwa [ofValue_value, ofValue_value, Option.some.injEq] at this

end EventType

/-- `_EVENT_TYPE_BY_CLASS[type(event)]`. -/
def eventType : LedgerEvent → EventType
  | .accountOpened _ => .accountOpened
  | .orderIntentCreated _ => .orderIntentCreated
  | .orderSubmitted _ => .orderSubmitted
  | .orderAcknowledged _ => .orderAcknowledged
  | .fillReceived _ => .fillReceived
  | .orderRejected _ => .orderRejected
  | .orderCancelled _ => .orderCancelled
  | .orderOutcomeUnknown _ => .orderOutcomeUnknown
  | .weatherObservationRecorded _ => .weatherObservationRecorded
  | .marketResolutionEvidenceRecorded _ => .marketResolutionEvidenceRecorded
  | .marketResolved _ => .marketResolved
  | .positionSettled _ => .positionSettled
  | .riskScopeRegistered _ => .riskScopeRegistered
  | .portfolioValuationRecorded _ => .portfolioValuationRecorded

/-! ## Encoding -/

/-- `EVENT_SCHEMA_VERSION`. -/
def eventSchemaVersion : ℤ := 1

/-- `_money_to_data`. -/
def moneyToData (value : Money) : Json :=
  .obj [("amount", .str value.amount.text), ("currency", .str value.currency)]

/-- `_intent_to_data`. -/
def intentToData (value : OrderIntent) : Json :=
  .obj [("intent_id", .str value.intentId), ("strategy_id", .str value.strategyId),
    ("decision_id", .str value.decisionId), ("market_id", .str value.marketId),
    ("outcome_id", .str value.outcomeId), ("side", .str value.side.value),
    ("quantity", .str value.quantity.text), ("limit_price", .str value.limitPrice.text),
    ("fee_reserve", moneyToData value.feeReserve), ("created_at", .str value.createdAt.isoformat)]

/-- `_risk_scope_to_data`. -/
def riskScopeToData (value : RiskScope) : Json :=
  .obj [("market_id", .str value.marketId), ("outcome_id", .str value.outcomeId),
    ("event_id", .str value.eventId), ("city_key", .str value.cityKey),
    ("market_date", .str value.marketDate.isoformat),
    ("correlation_groups", .arr (value.correlationGroups.map .str))]

/-- `_position_valuation_to_data`. -/
def positionValuationToData (value : PositionValuation) : Json :=
  .obj [("market_id", .str value.marketId), ("outcome_id", .str value.outcomeId),
    ("quantity", .str value.quantity.text),
    ("liquidation_value", moneyToData value.liquidationValue),
    ("observed_at", .str value.observedAt.isoformat)]

/-- `_portfolio_valuation_to_data`. -/
def portfolioValuationToData (value : PortfolioValuation) : Json :=
  .obj [("positions", .arr (value.positions.map positionValuationToData)),
    ("equity", moneyToData value.equity), ("assembled_at", .str value.assembledAt.isoformat),
    ("source", .str value.source)]

/-- `_observation_to_data`. -/
def observationToData (value : WeatherObservationEvidence) : Json :=
  .obj [("market_id", .str value.marketId), ("source_name", .str value.sourceName),
    ("source_url", .str value.sourceUrl), ("station_id", .str value.stationId),
    ("measurement_basis", .str value.measurementBasis),
    ("market_date", .str value.marketDate.isoformat),
    ("market_timezone", .str value.marketTimezone),
    ("temperature", .str value.temperature.format), ("unit", .str value.unit),
    ("retrieved_at", .str value.retrievedAt.isoformat),
    ("source_timestamp", optionalText (value.sourceTimestamp.map DateTime.isoformat)),
    ("source_revision", .str value.sourceRevision), ("status", .str value.status.value),
    ("payload_hash", .str value.payloadHash),
    ("supersedes_payload_hash", optionalText value.supersedesPayloadHash)]

/-- One payout in `_evidence_to_data` and `_resolution_to_data`. -/
def payoutToData (value : OutcomePayout) : Json :=
  .obj [("outcome_id", .str value.outcomeId), ("payout", .str value.payout.text)]

/-- `_evidence_to_data`. -/
def evidenceToData (value : MarketResolutionEvidence) : Json :=
  .obj [("market_id", .str value.marketId), ("condition_id", .str value.conditionId),
    ("source_name", .str value.sourceName), ("source_url", .str value.sourceUrl),
    ("declared_resolution_source", .str value.declaredResolutionSource),
    ("retrieved_at", .str value.retrievedAt.isoformat),
    ("finalized_at", .str value.finalizedAt.isoformat),
    ("market_date", .str value.marketDate.isoformat),
    ("market_timezone", .str value.marketTimezone), ("status", .str value.status.value),
    ("resolution_value", .str value.resolutionValue),
    ("payouts", .arr (value.payouts.map payoutToData)), ("payload_hash", .str value.payloadHash)]

/-- `_resolution_to_data`. -/
def resolutionToData (value : MarketResolution) : Json :=
  .obj [("market_id", .str value.marketId), ("payouts", .arr (value.payouts.map payoutToData)),
    ("resolved_at", .str value.resolvedAt.isoformat)]

/-- The members of `_event_data` that are not common to all events. -/
def eventFields : LedgerEvent → List (String × Json)
  | .accountOpened e => [("initial_cash", moneyToData e.initialCash)]
  | .orderIntentCreated e => [("intent", intentToData e.intent)]
  | .orderSubmitted e =>
    [("intent_id", .str e.intentId), ("backend_order_id", .str e.backendOrderId)]
  | .orderAcknowledged e => [("intent_id", .str e.intentId)]
  | .fillReceived e =>
    [("intent_id", .str e.intentId), ("fill_id", .str e.fillId), ("quantity", .str e.quantity.text),
      ("price", .str e.price.text), ("fee", moneyToData e.fee)]
  | .orderRejected e => [("intent_id", .str e.intentId), ("reason", .str e.reason)]
  | .orderCancelled e => [("intent_id", .str e.intentId), ("reason", .str e.reason)]
  | .orderOutcomeUnknown e => [("intent_id", .str e.intentId), ("reason", .str e.reason)]
  | .weatherObservationRecorded e => [("evidence", observationToData e.evidence)]
  | .marketResolutionEvidenceRecorded e => [("evidence", evidenceToData e.evidence)]
  | .marketResolved e => [("resolution", resolutionToData e.resolution)]
  | .positionSettled e =>
    [("market_id", .str e.marketId), ("outcome_id", .str e.outcomeId), ("fee", moneyToData e.fee)]
  | .riskScopeRegistered e => [("scope", riskScopeToData e.scope)]
  | .portfolioValuationRecorded e => [("valuation", portfolioValuationToData e.valuation)]

/-- `_event_data`. -/
def eventData (event : LedgerEvent) : Json :=
  .obj (("event_id", .str event.eventId) :: ("occurred_at", .str event.occurredAt.isoformat) ::
    eventFields event)

/-- The envelope of an event. -/
def envelope (event : LedgerEvent) : Json :=
  .obj [("event_schema_version", .int eventSchemaVersion),
    ("event_type", .str (eventType event).value), ("data", eventData event)]

/-- The columns of `_index_fields`. -/
structure IndexFields where
  intentId : Option String
  decisionId : Option String
  marketId : Option String
  outcomeId : Option String
deriving DecidableEq

/-- `_index_fields`. -/
def indexFields : LedgerEvent → IndexFields
  | .accountOpened _ => ⟨none, none, none, none⟩
  | .orderIntentCreated e =>
    ⟨some e.intent.intentId, some e.intent.decisionId, some e.intent.marketId,
      some e.intent.outcomeId⟩
  | .orderSubmitted e => ⟨some e.intentId, none, none, none⟩
  | .orderAcknowledged e => ⟨some e.intentId, none, none, none⟩
  | .fillReceived e => ⟨some e.intentId, none, none, none⟩
  | .orderRejected e => ⟨some e.intentId, none, none, none⟩
  | .orderCancelled e => ⟨some e.intentId, none, none, none⟩
  | .orderOutcomeUnknown e => ⟨some e.intentId, none, none, none⟩
  | .weatherObservationRecorded e => ⟨none, none, some e.evidence.marketId, none⟩
  | .marketResolutionEvidenceRecorded e => ⟨none, none, some e.evidence.marketId, none⟩
  | .marketResolved e => ⟨none, none, some e.resolution.marketId, none⟩
  | .positionSettled e => ⟨none, none, some e.marketId, some e.outcomeId⟩
  | .riskScopeRegistered e => ⟨none, none, some e.scope.marketId, some e.scope.outcomeId⟩
  | .portfolioValuationRecorded _ => ⟨none, none, none, none⟩

/-- `EncodedEvent`. -/
structure EncodedEvent where
  eventType : String
  schemaVersion : ℤ
  payloadJson : String
  payloadHash : String
  eventId : String
  occurredAt : String
  index : IndexFields
deriving DecidableEq

/-- `encode_event` (`codec.py`, 304-328). -/
def encodeEvent (rt : Runtime) (event : LedgerEvent) : EncodedEvent where
  eventType := (eventType event).value
  schemaVersion := eventSchemaVersion
  payloadJson := (envelope event).dumps
  payloadHash := rt.sha256 (envelope event).dumps
  eventId := event.eventId
  occurredAt := event.occurredAt.isoformat
  index := indexFields event

/-- `chain_hash`. -/
def chainHash (rt : Runtime) (previousHash : String) (schemaVersion : ℤ)
    (eventType payloadHash : String) : String :=
  rt.sha256 (previousHash ++ "\n" ++ toString schemaVersion ++ "\n" ++ eventType ++ "\n" ++
    payloadHash)

/-! ## Reading JSON -/

/-- `_load_json_object`. -/
def loadJsonObject (value label : String) : Except Error (List (String × Json)) :=
  match Json.loads value with
  | none => throw (corrupt (label ++ " is not valid JSON"))
  | some (.obj members) => return members
  | some _ => throw (corrupt (label ++ " must contain a JSON object"))

/-- `repr` of a list of texts. -/
def reprList (rt : Runtime) (texts : List String) : String :=
  "[" ++ ", ".intercalate (texts.map rt.repr) ++ "]"

/-- `_expect_keys`. -/
def expectKeys (rt : Runtime) (value : List (String × Json)) (required : List String)
    (label : String) : Except Error Unit :=
  let actual := value.map Prod.fst
  let missing := sortedSet (required.filter (· ∉ actual))
  let unexpected := sortedSet (actual.filter (· ∉ required))
  raiseIf (¬ ((∀ k ∈ actual, k ∈ required) ∧ ∀ k ∈ required, k ∈ actual))
    (corrupt (label ++ " keys differ from schema; missing=" ++ reprList rt missing ++
      ", unexpected=" ++ reprList rt unexpected))

/-- `value[key]`. -/
def field (value : List (String × Json)) (key : String) : Except Error Json :=
  match Dict.assocGet value key with
  | some v => return v
  | none => throw ⟨.keyError, key⟩

/-- `_mapping`. -/
def mapping (value : Json) (label : String) : Except Error (List (String × Json)) :=
  match value with
  | .obj members => return members
  | _ => throw (corrupt (label ++ " must be an object"))

/-- `_sequence`. -/
def sequence (value : Json) (label : String) : Except Error (List Json) :=
  match value with
  | .arr items => return items
  | _ => throw (corrupt (label ++ " must be an array"))

/-- `_text`. -/
def text (value : Json) (label : String) : Except Error String :=
  match value with
  | .str s => do
    raiseIf (isBlank s) (corrupt (label ++ " must be a non-blank string"))
    return s
  | _ => throw (corrupt (label ++ " must be a non-blank string"))

/-- `_optional_text`. -/
def optionalTextOf (value : Json) (label : String) : Except Error (Option String) :=
  match value with
  | .null => return none
  | v => do
    let s ← text v label
    return some s

/-- `_integer`. -/
def integer (value : Json) (label : String) : Except Error ℤ :=
  match value with
  | .int n => return n
  | _ => throw (corrupt (label ++ " must be an integer"))

/-- A text that a parser of the standard library reads, or an error. -/
def parsed {α : Type} (value : Option α) (message : String) : Except Error α :=
  match value with
  | some a => return a
  | none => throw (corrupt message)

/-- `_text(data[key])`. -/
def textAt (data : List (String × Json)) (key label : String) : Except Error String := do
  let value ← field data key
  text value label

/-- `_optional_text(data[key])`. -/
def optionalTextAt (data : List (String × Json)) (key label : String) :
    Except Error (Option String) := do
  let value ← field data key
  optionalTextOf value label

/-- `_decimal(data[key])`. -/
def decimalAt (data : List (String × Json)) (key label : String) : Except Error Decimal := do
  let s ← textAt data key label
  parsed (Decimal.ofText s) (label ++ " is not a decimal string")

/-- `_date(data[key])`. -/
def dateAt (data : List (String × Json)) (key label : String) : Except Error Date := do
  let s ← textAt data key label
  parsed (Date.fromisoformat s) (label ++ " is not an ISO-8601 date")

/-- `_datetime` of a text. -/
def datetime (s label : String) : Except Error DateTime :=
  parsed (DateTime.fromisoformat s) (label ++ " is not an ISO-8601 timestamp")

/-- `_datetime(data[key])`. -/
def datetimeAt (data : List (String × Json)) (key label : String) : Except Error DateTime := do
  let s ← textAt data key label
  datetime s label

/-- Decode the items of an array, each under its own label. -/
def decodeItems {α : Type} (decode : Json → String → Except Error α) (label : String) :
    ℕ → List Json → Except Error (List α)
  | _, [] => return []
  | n, v :: l => do
    let a ← decode v (label ++ "[" ++ toString n ++ "]")
    let rest ← decodeItems decode label (n + 1) l
    return a :: rest

/-- Decode the array `data[key]`. -/
def itemsAt {α : Type} (decode : Json → String → Except Error α) (data : List (String × Json))
    (key label : String) : Except Error (List α) := do
  let value ← field data key
  let items ← sequence value label
  decodeItems decode label 0 items

/-! ## Decoding -/

section

variable (rt : Runtime)

/-- `_money(data[key])`. -/
def moneyAt (data : List (String × Json)) (key label : String) : Except Error Money := do
  let value ← field data key
  let data ← mapping value label
  expectKeys rt data ["amount", "currency"] label
  let amount ← decimalAt data "amount" (label ++ ".amount")
  let currency ← textAt data "currency" (label ++ ".currency")
  Money.new rt amount currency

/-- `_intent`. -/
def intentOf (value : Json) : Except Error OrderIntent := do
  let data ← mapping value "intent"
  expectKeys rt data ["intent_id", "strategy_id", "decision_id", "market_id", "outcome_id", "side",
    "quantity", "limit_price", "fee_reserve", "created_at"] "intent"
  let sideText ← textAt data "side" "intent.side"
  let side ← parsed (Side.ofValue sideText) ("intent.side is unsupported: " ++ rt.repr sideText)
  let intentId ← textAt data "intent_id" "intent.intent_id"
  let strategyId ← textAt data "strategy_id" "intent.strategy_id"
  let decisionId ← textAt data "decision_id" "intent.decision_id"
  let marketId ← textAt data "market_id" "intent.market_id"
  let outcomeId ← textAt data "outcome_id" "intent.outcome_id"
  let quantity ← decimalAt data "quantity" "intent.quantity"
  let limitPrice ← decimalAt data "limit_price" "intent.limit_price"
  let feeReserve ← moneyAt rt data "fee_reserve" "intent.fee_reserve"
  let createdAt ← datetimeAt data "created_at" "intent.created_at"
  OrderIntent.new intentId strategyId decisionId marketId outcomeId side quantity limitPrice
    feeReserve createdAt

/-- `_risk_scope`. -/
def riskScopeOf (value : Json) : Except Error RiskScope := do
  let data ← mapping value "risk_scope"
  expectKeys rt data ["market_id", "outcome_id", "event_id", "city_key", "market_date",
    "correlation_groups"] "risk_scope"
  let groups ← itemsAt text data "correlation_groups" "risk_scope.correlation_groups"
  let marketId ← textAt data "market_id" "risk_scope.market_id"
  let outcomeId ← textAt data "outcome_id" "risk_scope.outcome_id"
  let eventId ← textAt data "event_id" "risk_scope.event_id"
  let cityKey ← textAt data "city_key" "risk_scope.city_key"
  let marketDate ← dateAt data "market_date" "risk_scope.market_date"
  RiskScope.new rt ⟨marketId, outcomeId, eventId, cityKey, marketDate, groups⟩

/-- One mark in `_portfolio_valuation`. -/
def positionValuationOf (value : Json) (label : String) : Except Error PositionValuation := do
  let mark ← mapping value label
  expectKeys rt mark ["market_id", "outcome_id", "quantity", "liquidation_value", "observed_at"] label
  let marketId ← textAt mark "market_id" (label ++ ".market_id")
  let outcomeId ← textAt mark "outcome_id" (label ++ ".outcome_id")
  let quantity ← decimalAt mark "quantity" (label ++ ".quantity")
  let liquidationValue ← moneyAt rt mark "liquidation_value" (label ++ ".liquidation_value")
  let observedAt ← datetimeAt mark "observed_at" (label ++ ".observed_at")
  PositionValuation.new marketId outcomeId quantity liquidationValue observedAt

/-- `_portfolio_valuation`. -/
def portfolioValuationOf (value : Json) : Except Error PortfolioValuation := do
  let data ← mapping value "portfolio_valuation"
  expectKeys rt data ["positions", "equity", "assembled_at", "source"] "portfolio_valuation"
  let marks ← itemsAt (positionValuationOf rt) data "positions" "portfolio_valuation.positions"
  let equity ← moneyAt rt data "equity" "portfolio_valuation.equity"
  let assembledAt ← datetimeAt data "assembled_at" "portfolio_valuation.assembled_at"
  let source ← textAt data "source" "portfolio_valuation.source"
  PortfolioValuation.new marks equity assembledAt source

/-- The optional timestamp of an observation. -/
def optionalDatetime (s : Option String) (label : String) : Except Error (Option DateTime) :=
  match s with
  | none => return none
  | some s => do
    let t ← datetime s label
    return some t

/-- `_observation`. -/
def observationOf (value : Json) : Except Error WeatherObservationEvidence := do
  let data ← mapping value "weather_observation"
  expectKeys rt data ["market_id", "source_name", "source_url", "station_id", "measurement_basis",
    "market_date", "market_timezone", "temperature", "unit", "retrieved_at", "source_timestamp",
    "source_revision", "status", "payload_hash", "supersedes_payload_hash"] "weather_observation"
  let statusText ← textAt data "status" "weather_observation.status"
  let status ← parsed (ObservationEvidenceStatus.ofValue statusText)
    ("weather_observation.status is unsupported: " ++ rt.repr statusText)
  let timestampText ← optionalTextAt data "source_timestamp" "weather_observation.source_timestamp"
  let marketId ← textAt data "market_id" "weather_observation.market_id"
  let sourceName ← textAt data "source_name" "weather_observation.source_name"
  let sourceUrl ← textAt data "source_url" "weather_observation.source_url"
  let stationId ← textAt data "station_id" "weather_observation.station_id"
  let measurementBasis ← textAt data "measurement_basis" "weather_observation.measurement_basis"
  let marketDate ← dateAt data "market_date" "weather_observation.market_date"
  let marketTimezone ← textAt data "market_timezone" "weather_observation.market_timezone"
  let temperature ← decimalAt data "temperature" "weather_observation.temperature"
  let unit ← textAt data "unit" "weather_observation.unit"
  let retrievedAt ← datetimeAt data "retrieved_at" "weather_observation.retrieved_at"
  let sourceTimestamp ← optionalDatetime timestampText "weather_observation.source_timestamp"
  let sourceRevision ← textAt data "source_revision" "weather_observation.source_revision"
  let payloadHash ← textAt data "payload_hash" "weather_observation.payload_hash"
  let supersedes ← optionalTextAt data "supersedes_payload_hash"
    "weather_observation.supersedes_payload_hash"
  WeatherObservationEvidence.new rt ⟨marketId, sourceName, sourceUrl, stationId, measurementBasis,
    marketDate, marketTimezone, temperature, unit, retrievedAt, sourceTimestamp, sourceRevision,
    status, payloadHash, supersedes⟩

/-- One payout in `_evidence` and `_resolution`. -/
def payoutOf (value : Json) (label : String) : Except Error OutcomePayout := do
  let payout ← mapping value label
  expectKeys rt payout ["outcome_id", "payout"] label
  let outcomeId ← textAt payout "outcome_id" (label ++ ".outcome_id")
  let amount ← decimalAt payout "payout" (label ++ ".payout")
  OutcomePayout.new outcomeId amount

/-- `_evidence`. -/
def evidenceOf (value : Json) : Except Error MarketResolutionEvidence := do
  let data ← mapping value "evidence"
  expectKeys rt data ["market_id", "condition_id", "source_name", "source_url",
    "declared_resolution_source", "retrieved_at", "finalized_at", "market_date", "market_timezone",
    "status", "resolution_value", "payouts", "payload_hash"] "evidence"
  let payouts ← itemsAt (payoutOf rt) data "payouts" "evidence.payouts"
  let statusText ← textAt data "status" "evidence.status"
  let status ← parsed (ResolutionEvidenceStatus.ofValue statusText)
    ("evidence.status is unsupported: " ++ rt.repr statusText)
  let marketId ← textAt data "market_id" "evidence.market_id"
  let conditionId ← textAt data "condition_id" "evidence.condition_id"
  let sourceName ← textAt data "source_name" "evidence.source_name"
  let sourceUrl ← textAt data "source_url" "evidence.source_url"
  let declared ← textAt data "declared_resolution_source" "evidence.declared_resolution_source"
  let retrievedAt ← datetimeAt data "retrieved_at" "evidence.retrieved_at"
  let finalizedAt ← datetimeAt data "finalized_at" "evidence.finalized_at"
  let marketDate ← dateAt data "market_date" "evidence.market_date"
  let marketTimezone ← textAt data "market_timezone" "evidence.market_timezone"
  let resolutionValue ← textAt data "resolution_value" "evidence.resolution_value"
  let payloadHash ← textAt data "payload_hash" "evidence.payload_hash"
  MarketResolutionEvidence.new rt ⟨marketId, conditionId, sourceName, sourceUrl, declared,
    retrievedAt, finalizedAt, marketDate, marketTimezone, status, resolutionValue, payouts,
    payloadHash⟩

/-- `_resolution`. -/
def resolutionOf (value : Json) : Except Error MarketResolution := do
  let data ← mapping value "resolution"
  expectKeys rt data ["market_id", "payouts", "resolved_at"] "resolution"
  let payouts ← itemsAt (payoutOf rt) data "payouts" "resolution.payouts"
  let marketId ← textAt data "market_id" "resolution.market_id"
  let resolvedAt ← datetimeAt data "resolved_at" "resolution.resolved_at"
  MarketResolution.new marketId payouts resolvedAt

/-- `_common`. -/
def common (data : List (String × Json)) (required : List String) :
    Except Error (String × DateTime) := do
  expectKeys rt data ("event_id" :: "occurred_at" :: required) "event.data"
  let eventId ← textAt data "event_id" "event.data.event_id"
  let occurredAt ← datetimeAt data "occurred_at" "event.data.occurred_at"
  return (eventId, occurredAt)

/-- The branches of `decode_event`. -/
def decodeData (data : List (String × Json)) : EventType → Except Error LedgerEvent
  | .accountOpened => do
    let (eventId, occurredAt) ← common rt data ["initial_cash"]
    let initialCash ← moneyAt rt data "initial_cash" "initial_cash"
    let e ← AccountOpened.new eventId occurredAt initialCash
    return .accountOpened e
  | .orderIntentCreated => do
    let (eventId, occurredAt) ← common rt data ["intent"]
    let value ← field data "intent"
    let intent ← intentOf rt value
    let e ← OrderIntentCreated.new eventId occurredAt intent
    return .orderIntentCreated e
  | .orderSubmitted => do
    let (eventId, occurredAt) ← common rt data ["intent_id", "backend_order_id"]
    let intentId ← textAt data "intent_id" "intent_id"
    let backendOrderId ← textAt data "backend_order_id" "backend_order_id"
    let e ← OrderSubmitted.new eventId occurredAt intentId backendOrderId
    return .orderSubmitted e
  | .orderAcknowledged => do
    let (eventId, occurredAt) ← common rt data ["intent_id"]
    let intentId ← textAt data "intent_id" "intent_id"
    let e ← OrderAcknowledged.new eventId occurredAt intentId
    return .orderAcknowledged e
  | .fillReceived => do
    let (eventId, occurredAt) ← common rt data ["intent_id", "fill_id", "quantity", "price", "fee"]
    let intentId ← textAt data "intent_id" "intent_id"
    let fillId ← textAt data "fill_id" "fill_id"
    let quantity ← decimalAt data "quantity" "quantity"
    let price ← decimalAt data "price" "price"
    let fee ← moneyAt rt data "fee" "fee"
    let e ← FillReceived.new eventId occurredAt intentId fillId quantity price fee
    return .fillReceived e
  | .orderRejected => do
    let (eventId, occurredAt) ← common rt data ["intent_id", "reason"]
    let intentId ← textAt data "intent_id" "intent_id"
    let reason ← textAt data "reason" "reason"
    let e ← OrderRejected.new eventId occurredAt intentId reason
    return .orderRejected e
  | .orderCancelled => do
    let (eventId, occurredAt) ← common rt data ["intent_id", "reason"]
    let intentId ← textAt data "intent_id" "intent_id"
    let reason ← textAt data "reason" "reason"
    let e ← OrderCancelled.new eventId occurredAt intentId reason
    return .orderCancelled e
  | .orderOutcomeUnknown => do
    let (eventId, occurredAt) ← common rt data ["intent_id", "reason"]
    let intentId ← textAt data "intent_id" "intent_id"
    let reason ← textAt data "reason" "reason"
    let e ← OrderOutcomeUnknown.new eventId occurredAt intentId reason
    return .orderOutcomeUnknown e
  | .weatherObservationRecorded => do
    let (eventId, occurredAt) ← common rt data ["evidence"]
    let value ← field data "evidence"
    let evidence ← observationOf rt value
    let e ← WeatherObservationRecorded.new eventId occurredAt evidence
    return .weatherObservationRecorded e
  | .marketResolutionEvidenceRecorded => do
    let (eventId, occurredAt) ← common rt data ["evidence"]
    let value ← field data "evidence"
    let evidence ← evidenceOf rt value
    let e ← MarketResolutionEvidenceRecorded.new eventId occurredAt evidence
    return .marketResolutionEvidenceRecorded e
  | .marketResolved => do
    let (eventId, occurredAt) ← common rt data ["resolution"]
    let value ← field data "resolution"
    let resolution ← resolutionOf rt value
    let e ← MarketResolved.new eventId occurredAt resolution
    return .marketResolved e
  | .positionSettled => do
    let (eventId, occurredAt) ← common rt data ["market_id", "outcome_id", "fee"]
    let marketId ← textAt data "market_id" "market_id"
    let outcomeId ← textAt data "outcome_id" "outcome_id"
    let fee ← moneyAt rt data "fee" "fee"
    let e ← PositionSettled.new eventId occurredAt marketId outcomeId fee
    return .positionSettled e
  | .riskScopeRegistered => do
    let (eventId, occurredAt) ← common rt data ["scope"]
    let value ← field data "scope"
    let scope ← riskScopeOf rt value
    let e ← RiskScopeRegistered.new rt eventId occurredAt scope
    return .riskScopeRegistered e
  | .portfolioValuationRecorded => do
    let (eventId, occurredAt) ← common rt data ["valuation"]
    let value ← field data "valuation"
    let valuation ← portfolioValuationOf rt value
    let e ← PortfolioValuationRecorded.new eventId occurredAt valuation
    return .portfolioValuationRecorded e

/-- The branch of an event type's text. -/
def decodeTyped (typeText : String) (data : List (String × Json)) : Except Error LedgerEvent :=
  match EventType.ofValue typeText with
  | some t => decodeData rt data t
  | none => throw (schemaVersion ("unsupported event type " ++ rt.repr typeText))

/-- `decode_event` (`codec.py`, 771-910). -/
def decodeEvent (payloadJson : String) : Except Error LedgerEvent := do
  let members ← loadJsonObject payloadJson "event payload"
  expectKeys rt members ["event_schema_version", "event_type", "data"] "event payload"
  let versionValue ← field members "event_schema_version"
  let version ← integer versionValue "event_schema_version"
  raiseIf (version ≠ eventSchemaVersion)
    (schemaVersion ("event schema version " ++ toString version ++ " is unsupported; expected " ++
      toString eventSchemaVersion))
  let typeText ← textAt members "event_type" "event_type"
  let value ← field members "data"
  let data ← mapping value "event.data"
  decodeTyped rt typeText data

end

end WeatherBot.Persistence
