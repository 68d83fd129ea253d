import WeatherBot.Domain.Risk

/-!
# Ledger events

The events of `domain/events.py` and their fingerprints. Each event keeps what
its `__post_init__` checks; what depends on the runtime is `Constructible`.

* `LedgerEvent`: one constructor for each class of the union.
* `LedgerEvent.canonical`, `fingerprint`: the content hash of an event.
* `FillReceived.deliveryFingerprint`: the content hash of a fill without its
  event identifier.
-/

namespace WeatherBot.Domain

open WeatherBot.Common

/-! ## Events -/

/-- `DomainEvent` (`events.py`, 71-78). -/
structure DomainEvent where
  eventId : String
  occurredAt : DateTime
  eventId_text : isBlank eventId = false

theorem DomainEvent.ext_iff {x y : DomainEvent} :
    x = y ↔ x.eventId = y.eventId ∧ x.occurredAt = y.occurredAt := by
  constructor
  · rintro rfl
    exact ⟨rfl, rfl⟩
  · rintro ⟨hid, hat⟩
    cases x
    cases y
    cases hid
    cases hat
    rfl

instance : DecidableEq DomainEvent := fun _ _ => decidable_of_iff _ DomainEvent.ext_iff.symm

/-- `DomainEvent.__post_init__`. -/
def DomainEvent.new (eventId : String) (occurredAt : DateTime) : Except Error DomainEvent := do
  let ⟨h⟩ ← ensureText eventId "event_id"
  return ⟨eventId, occurredAt, h⟩

theorem DomainEvent.new_self (e : DomainEvent) : new e.eventId e.occurredAt = .ok e := by
  rw [new, ensureText, ensure_bind_eq_ok]
  exact ⟨e.eventId_text, rfl⟩

/-- `AccountOpened` (`events.py`, 82-87). -/
structure AccountOpened extends DomainEvent where
  initialCash : Money
  initialCash_nonneg : 0 ≤ initialCash.amount.val

/-- `AccountOpened.__post_init__`. -/
def AccountOpened.new (eventId : String) (occurredAt : DateTime) (initialCash : Money) :
    Except Error AccountOpened := do
  let base ← DomainEvent.new eventId occurredAt
  let ⟨h⟩ ← ensure (0 ≤ initialCash.amount.val)
    (.invariantViolation ("initial_cash must not be negative: " ++ initialCash.amount.text))
  return ⟨base, initialCash, h⟩

theorem AccountOpened.new_self (e : AccountOpened) :
    new e.eventId e.occurredAt e.initialCash = .ok e := by
  rw [new, DomainEvent.new_self, ok_bind, ensure_bind_eq_ok]
  exact ⟨e.initialCash_nonneg, rfl⟩

/-- `OrderIntentCreated` (`events.py`, 91-92). -/
structure OrderIntentCreated extends DomainEvent where
  intent : OrderIntent

/-- `OrderIntentCreated(...)`. -/
def OrderIntentCreated.new (eventId : String) (occurredAt : DateTime) (intent : OrderIntent) :
    Except Error OrderIntentCreated := do
  let base ← DomainEvent.new eventId occurredAt
  return ⟨base, intent⟩

theorem OrderIntentCreated.new_self (e : OrderIntentCreated) :
    new e.eventId e.occurredAt e.intent = .ok e := by
  rw [new, DomainEvent.new_self, ok_bind]
  rfl

/-- `OrderSubmitted` (`events.py`, 96-103). -/
structure OrderSubmitted extends DomainEvent where
  intentId : String
  backendOrderId : String
  backendOrderId_text : isBlank backendOrderId = false

/-- `OrderSubmitted.__post_init__`. -/
def OrderSubmitted.new (eventId : String) (occurredAt : DateTime)
    (intentId backendOrderId : String) : Except Error OrderSubmitted := do
  let base ← DomainEvent.new eventId occurredAt
  let ⟨h⟩ ← ensureText backendOrderId "backend_order_id"
  return ⟨base, intentId, backendOrderId, h⟩

theorem OrderSubmitted.new_self (e : OrderSubmitted) :
    new e.eventId e.occurredAt e.intentId e.backendOrderId = .ok e := by
  rw [new, DomainEvent.new_self, ok_bind, ensureText, ensure_bind_eq_ok]
  exact ⟨e.backendOrderId_text, rfl⟩

/-- `OrderAcknowledged` (`events.py`, 107-108). -/
structure OrderAcknowledged extends DomainEvent where
  intentId : String

/-- `OrderAcknowledged(...)`. -/
def OrderAcknowledged.new (eventId : String) (occurredAt : DateTime) (intentId : String) :
    Except Error OrderAcknowledged := do
  let base ← DomainEvent.new eventId occurredAt
  return ⟨base, intentId⟩

theorem OrderAcknowledged.new_self (e : OrderAcknowledged) :
    new e.eventId e.occurredAt e.intentId = .ok e := by
  rw [new, DomainEvent.new_self, ok_bind]
  rfl

/-- `FillReceived` (`events.py`, 112-143). -/
structure FillReceived extends DomainEvent where
  intentId : String
  fillId : String
  quantity : Micros
  price : Micros
  fee : Money
  quantity_pos : 0 < quantity.val
  price_range : 0 < price.val ∧ price.val ≤ one
  fillId_text : isBlank fillId = false
  fee_nonneg : 0 ≤ fee.amount.val

/-- `FillReceived.__post_init__`. -/
def FillReceived.new (eventId : String) (occurredAt : DateTime) (intentId fillId : String)
    (quantity price : Decimal) (fee : Money) : Except Error FillReceived := do
  let base ← DomainEvent.new eventId occurredAt
  let quantity ← asDecimal quantity
  let price ← asDecimal price
  let ⟨hq⟩ ← ensure (0 < quantity.val) (.valueError "fill quantity must be positive")
  let ⟨hp⟩ ← ensure (0 < price.val ∧ price.val ≤ one)
    (.valueError "fill price must be greater than zero and at most one")
  let ⟨hid⟩ ← ensureText fillId "fill_id"
  let ⟨hf⟩ ← ensure (0 ≤ fee.amount.val)
    (.invariantViolation ("fill fee must not be negative: " ++ fee.amount.text))
  return ⟨base, intentId, fillId, quantity, price, fee, hq, hp, hid, hf⟩

theorem FillReceived.new_self (e : FillReceived) :
    new e.eventId e.occurredAt e.intentId e.fillId e.quantity.toDecimal e.price.toDecimal e.fee =
      .ok e := by
  simp only [new, DomainEvent.new_self, asDecimal_toDecimal, ok_bind, ensureText, ensure_bind_eq_ok]
  exact ⟨e.quantity_pos, e.price_range, e.fillId_text, e.fee_nonneg, rfl⟩

/-- `OrderRejected` (`events.py`, 147-154). -/
structure OrderRejected extends DomainEvent where
  intentId : String
  reason : String
  reason_text : isBlank reason = false

/-- `OrderRejected.__post_init__`. -/
def OrderRejected.new (eventId : String) (occurredAt : DateTime) (intentId reason : String) :
    Except Error OrderRejected := do
  let base ← DomainEvent.new eventId occurredAt
  let ⟨h⟩ ← ensureText reason "rejection reason"
  return ⟨base, intentId, reason, h⟩

theorem OrderRejected.new_self (e : OrderRejected) :
    new e.eventId e.occurredAt e.intentId e.reason = .ok e := by
  rw [new, DomainEvent.new_self, ok_bind, ensureText, ensure_bind_eq_ok]
  exact ⟨e.reason_text, rfl⟩

/-- `OrderCancelled` (`events.py`, 158-165). -/
structure OrderCancelled extends DomainEvent where
  intentId : String
  reason : String
  reason_text : isBlank reason = false

/-- `OrderCancelled.__post_init__`. -/
def OrderCancelled.new (eventId : String) (occurredAt : DateTime) (intentId reason : String) :
    Except Error OrderCancelled := do
  let base ← DomainEvent.new eventId occurredAt
  let ⟨h⟩ ← ensureText reason "cancellation reason"
  return ⟨base, intentId, reason, h⟩

theorem OrderCancelled.new_self (e : OrderCancelled) :
    new e.eventId e.occurredAt e.intentId e.reason = .ok e := by
  rw [new, DomainEvent.new_self, ok_bind, ensureText, ensure_bind_eq_ok]
  exact ⟨e.reason_text, rfl⟩

/-- `OrderOutcomeUnknown` (`events.py`, 169-176). -/
structure OrderOutcomeUnknown extends DomainEvent where
  intentId : String
  reason : String
  reason_text : isBlank reason = false

/-- `OrderOutcomeUnknown.__post_init__`. -/
def OrderOutcomeUnknown.new (eventId : String) (occurredAt : DateTime) (intentId reason : String) :
    Except Error OrderOutcomeUnknown := do
  let base ← DomainEvent.new eventId occurredAt
  let ⟨h⟩ ← ensureText reason "unknown-outcome reason"
  return ⟨base, intentId, reason, h⟩

theorem OrderOutcomeUnknown.new_self (e : OrderOutcomeUnknown) :
    new e.eventId e.occurredAt e.intentId e.reason = .ok e := by
  rw [new, DomainEvent.new_self, ok_bind, ensureText, ensure_bind_eq_ok]
  exact ⟨e.reason_text, rfl⟩

/-- `WeatherObservationRecorded` (`events.py`, 180-181). -/
structure WeatherObservationRecorded extends DomainEvent where
  evidence : WeatherObservationEvidence

/-- `WeatherObservationRecorded(...)`. -/
def WeatherObservationRecorded.new (eventId : String) (occurredAt : DateTime)
    (evidence : WeatherObservationEvidence) : Except Error WeatherObservationRecorded := do
  let base ← DomainEvent.new eventId occurredAt
  return ⟨base, evidence⟩

theorem WeatherObservationRecorded.new_self (e : WeatherObservationRecorded) :
    new e.eventId e.occurredAt e.evidence = .ok e := by
  rw [new, DomainEvent.new_self, ok_bind]
  rfl

/-- `MarketResolutionEvidenceRecorded` (`events.py`, 185-186). -/
structure MarketResolutionEvidenceRecorded extends DomainEvent where
  evidence : MarketResolutionEvidence

/-- `MarketResolutionEvidenceRecorded(...)`. -/
def MarketResolutionEvidenceRecorded.new (eventId : String) (occurredAt : DateTime)
    (evidence : MarketResolutionEvidence) : Except Error MarketResolutionEvidenceRecorded := do
  let base ← DomainEvent.new eventId occurredAt
  return ⟨base, evidence⟩

theorem MarketResolutionEvidenceRecorded.new_self (e : MarketResolutionEvidenceRecorded) :
    new e.eventId e.occurredAt e.evidence = .ok e := by
  rw [new, DomainEvent.new_self, ok_bind]
  rfl

/-- `MarketResolved` (`events.py`, 190-191). -/
structure MarketResolved extends DomainEvent where
  resolution : MarketResolution

/-- `MarketResolved(...)`. -/
def MarketResolved.new (eventId : String) (occurredAt : DateTime)
    (resolution : MarketResolution) : Except Error MarketResolved := do
  let base ← DomainEvent.new eventId occurredAt
  return ⟨base, resolution⟩

theorem MarketResolved.new_self (e : MarketResolved) :
    new e.eventId e.occurredAt e.resolution = .ok e := by
  rw [new, DomainEvent.new_self, ok_bind]
  rfl

/-- `PositionSettled` (`events.py`, 195-202). -/
structure PositionSettled extends DomainEvent where
  marketId : String
  outcomeId : String
  fee : Money
  fee_nonneg : 0 ≤ fee.amount.val

/-- `PositionSettled.__post_init__`. -/
def PositionSettled.new (eventId : String) (occurredAt : DateTime) (marketId outcomeId : String)
    (fee : Money) : Except Error PositionSettled := do
  let base ← DomainEvent.new eventId occurredAt
  let ⟨h⟩ ← ensure (0 ≤ fee.amount.val)
    (.invariantViolation ("settlement fee must not be negative: " ++ fee.amount.text))
  return ⟨base, marketId, outcomeId, fee, h⟩

theorem PositionSettled.new_self (e : PositionSettled) :
    new e.eventId e.occurredAt e.marketId e.outcomeId e.fee = .ok e := by
  rw [new, DomainEvent.new_self, ok_bind, ensure_bind_eq_ok]
  exact ⟨e.fee_nonneg, rfl⟩

/-- `RiskScopeRegistered` (`events.py`, 206-214). -/
structure RiskScopeRegistered extends DomainEvent where
  scope : RiskScope

/-- `RiskScopeRegistered.__post_init__`. -/
def RiskScopeRegistered.new (rt : Runtime) (eventId : String) (occurredAt : DateTime)
    (scope : RiskScope) : Except Error RiskScopeRegistered := do
  let base ← DomainEvent.new eventId occurredAt
  raiseIf (eventId ≠ riskScopeEventId rt scope)
    (.valueError "risk scope event_id must be stable for its position key")
  return ⟨base, scope⟩

theorem RiskScopeRegistered.new_self {rt : Runtime} (e : RiskScopeRegistered)
    (h : e.eventId = riskScopeEventId rt e.scope) :
    new rt e.eventId e.occurredAt e.scope = .ok e := by
  rw [new, DomainEvent.new_self, ok_bind, raiseIf_bind_eq_ok]
  exact ⟨not_not.mpr h, rfl⟩

/-- `PortfolioValuationRecorded` (`events.py`, 218-226). -/
structure PortfolioValuationRecorded extends DomainEvent where
  valuation : PortfolioValuation
  occurredAt_eq : occurredAt.SameInstant valuation.assembledAt

/-- `PortfolioValuationRecorded.__post_init__`. -/
def PortfolioValuationRecorded.new (eventId : String) (occurredAt : DateTime)
    (valuation : PortfolioValuation) : Except Error PortfolioValuationRecorded := do
  let base ← DomainEvent.new eventId occurredAt
  let ⟨h⟩ ← ensure (base.occurredAt.SameInstant valuation.assembledAt)
    (.valueError "valuation event time must equal valuation assembly time")
  return ⟨base, valuation, h⟩

theorem PortfolioValuationRecorded.new_self (e : PortfolioValuationRecorded) :
    new e.eventId e.occurredAt e.valuation = .ok e := by
  rw [new, DomainEvent.new_self, ok_bind, ensure_bind_eq_ok]
  exact ⟨e.occurredAt_eq, rfl⟩

/-- `LedgerEvent` (`events.py`, 229-244). -/
inductive LedgerEvent where
  | accountOpened (e : AccountOpened)
  | orderIntentCreated (e : OrderIntentCreated)
  | orderSubmitted (e : OrderSubmitted)
  | orderAcknowledged (e : OrderAcknowledged)
  | fillReceived (e : FillReceived)
  | orderRejected (e : OrderRejected)
  | orderCancelled (e : OrderCancelled)
  | orderOutcomeUnknown (e : OrderOutcomeUnknown)
  | weatherObservationRecorded (e : WeatherObservationRecorded)
  | marketResolutionEvidenceRecorded (e : MarketResolutionEvidenceRecorded)
  | marketResolved (e : MarketResolved)
  | positionSettled (e : PositionSettled)
  | riskScopeRegistered (e : RiskScopeRegistered)
  | portfolioValuationRecorded (e : PortfolioValuationRecorded)

namespace LedgerEvent

/-- The fields every event has. -/
def base : LedgerEvent → DomainEvent
  | accountOpened e => e.toDomainEvent
  | orderIntentCreated e => e.toDomainEvent
  | orderSubmitted e => e.toDomainEvent
  | orderAcknowledged e => e.toDomainEvent
  | fillReceived e => e.toDomainEvent
  | orderRejected e => e.toDomainEvent
  | orderCancelled e => e.toDomainEvent
  | orderOutcomeUnknown e => e.toDomainEvent
  | weatherObservationRecorded e => e.toDomainEvent
  | marketResolutionEvidenceRecorded e => e.toDomainEvent
  | marketResolved e => e.toDomainEvent
  | positionSettled e => e.toDomainEvent
  | riskScopeRegistered e => e.toDomainEvent
  | portfolioValuationRecorded e => e.toDomainEvent

/-- `event.event_id`. -/
def eventId (e : LedgerEvent) : String := e.base.eventId

/-- `event.occurred_at`. -/
def occurredAt (e : LedgerEvent) : DateTime := e.base.occurredAt

end LedgerEvent

/-! ## Canonical content -/

/-- `_canonicalize` of a data class (`events.py`, 31-43). -/
def record (typeName : String) (fields : List (String × Json)) : Json :=
  .obj (("__type__", .str typeName) :: fields)

def optionalText : Option String → Json
  | none => .null
  | some s => .str s

def Money.canonical (m : Money) : Json :=
  record "weatherbot.domain.money.Money"
    [("amount", .str m.amount.text), ("currency", .str m.currency)]

def OrderIntent.canonical (i : OrderIntent) : Json :=
  record "weatherbot.domain.model.OrderIntent"
    [("intent_id", .str i.intentId), ("strategy_id", .str i.strategyId),
      ("decision_id", .str i.decisionId), ("market_id", .str i.marketId),
      ("outcome_id", .str i.outcomeId), ("side", .str i.side.value),
      ("quantity", .str i.quantity.text), ("limit_price", .str i.limitPrice.text),
      ("fee_reserve", i.feeReserve.canonical), ("created_at", .str i.createdAt.isoformat)]

def OutcomePayout.canonical (p : OutcomePayout) : Json :=
  record "weatherbot.domain.model.OutcomePayout"
    [("outcome_id", .str p.outcomeId), ("payout", .str p.payout.text)]

def MarketResolution.canonical (r : MarketResolution) : Json :=
  record "weatherbot.domain.model.MarketResolution"
    [("market_id", .str r.marketId), ("payouts", .arr (r.payouts.map OutcomePayout.canonical)),
      ("resolved_at", .str r.resolvedAt.isoformat)]

def MarketResolutionEvidence.canonical (e : MarketResolutionEvidence) : Json :=
  record "weatherbot.domain.resolution.MarketResolutionEvidence"
    [("market_id", .str e.marketId), ("condition_id", .str e.conditionId),
      ("source_name", .str e.sourceName), ("source_url", .str e.sourceUrl),
      ("declared_resolution_source", .str e.declaredResolutionSource),
      ("retrieved_at", .str e.retrievedAt.isoformat),
      ("finalized_at", .str e.finalizedAt.isoformat), ("market_date", .str e.marketDate.isoformat),
      ("market_timezone", .str e.marketTimezone), ("status", .str e.status.value),
      ("resolution_value", .str e.resolutionValue),
      ("payouts", .arr (e.payouts.map OutcomePayout.canonical)), ("payload_hash", .str e.payloadHash)]

def WeatherObservationEvidence.canonical (e : WeatherObservationEvidence) : Json :=
  record "weatherbot.domain.observation.WeatherObservationEvidence"
    [("market_id", .str e.marketId), ("source_name", .str e.sourceName),
      ("source_url", .str e.sourceUrl), ("station_id", .str e.stationId),
      ("measurement_basis", .str e.measurementBasis), ("market_date", .str e.marketDate.isoformat),
      ("market_timezone", .str e.marketTimezone), ("temperature", .str e.temperature.format),
      ("unit", .str e.unit), ("retrieved_at", .str e.retrievedAt.isoformat),
      ("source_timestamp", optionalText (e.sourceTimestamp.map DateTime.isoformat)),
      ("source_revision", .str e.sourceRevision), ("status", .str e.status.value),
      ("payload_hash", .str e.payloadHash),
      ("supersedes_payload_hash", optionalText e.supersedesPayloadHash)]

def RiskScope.canonical (s : RiskScope) : Json :=
  record "weatherbot.domain.risk.RiskScope"
    [("market_id", .str s.marketId), ("outcome_id", .str s.outcomeId), ("event_id", .str s.eventId),
      ("city_key", .str s.cityKey), ("market_date", .str s.marketDate.isoformat),
      ("correlation_groups", .arr (s.correlationGroups.map .str))]

def PositionValuation.canonical (v : PositionValuation) : Json :=
  record "weatherbot.domain.risk.PositionValuation"
    [("market_id", .str v.marketId), ("outcome_id", .str v.outcomeId),
      ("quantity", .str v.quantity.text), ("liquidation_value", v.liquidationValue.canonical),
      ("observed_at", .str v.observedAt.isoformat)]

def PortfolioValuation.canonical (v : PortfolioValuation) : Json :=
  record "weatherbot.domain.risk.PortfolioValuation"
    [("positions", .arr (v.positions.map PositionValuation.canonical)),
      ("equity", v.equity.canonical), ("assembled_at", .str v.assembledAt.isoformat),
      ("source", .str v.source)]

/-- `_canonicalize` of an event: its class, the base fields and its own fields. -/
def DomainEvent.canonical (e : DomainEvent) (className : String) (fields : List (String × Json)) :
    Json :=
  record ("weatherbot.domain.events." ++ className)
    (("event_id", .str e.eventId) :: ("occurred_at", .str e.occurredAt.isoformat) :: fields)

/-- `_canonicalize(event)`. -/
def LedgerEvent.canonical : LedgerEvent → Json
  | accountOpened e =>
    e.toDomainEvent.canonical "AccountOpened" [("initial_cash", e.initialCash.canonical)]
  | orderIntentCreated e =>
    e.toDomainEvent.canonical "OrderIntentCreated" [("intent", e.intent.canonical)]
  | orderSubmitted e =>
    e.toDomainEvent.canonical "OrderSubmitted"
      [("intent_id", .str e.intentId), ("backend_order_id", .str e.backendOrderId)]
  | orderAcknowledged e =>
    e.toDomainEvent.canonical "OrderAcknowledged" [("intent_id", .str e.intentId)]
  | fillReceived e =>
    e.toDomainEvent.canonical "FillReceived"
      [("intent_id", .str e.intentId), ("fill_id", .str e.fillId),
        ("quantity", .str e.quantity.text), ("price", .str e.price.text), ("fee", e.fee.canonical)]
  | orderRejected e =>
    e.toDomainEvent.canonical "OrderRejected"
      [("intent_id", .str e.intentId), ("reason", .str e.reason)]
  | orderCancelled e =>
    e.toDomainEvent.canonical "OrderCancelled"
      [("intent_id", .str e.intentId), ("reason", .str e.reason)]
  | orderOutcomeUnknown e =>
    e.toDomainEvent.canonical "OrderOutcomeUnknown"
      [("intent_id", .str e.intentId), ("reason", .str e.reason)]
  | weatherObservationRecorded e =>
    e.toDomainEvent.canonical "WeatherObservationRecorded" [("evidence", e.evidence.canonical)]
  | marketResolutionEvidenceRecorded e =>
    e.toDomainEvent.canonical "MarketResolutionEvidenceRecorded" [("evidence", e.evidence.canonical)]
  | marketResolved e =>
    e.toDomainEvent.canonical "MarketResolved" [("resolution", e.resolution.canonical)]
  | positionSettled e =>
    e.toDomainEvent.canonical "PositionSettled"
      [("market_id", .str e.marketId), ("outcome_id", .str e.outcomeId), ("fee", e.fee.canonical)]
  | riskScopeRegistered e =>
    e.toDomainEvent.canonical "RiskScopeRegistered" [("scope", e.scope.canonical)]
  | portfolioValuationRecorded e =>
    e.toDomainEvent.canonical "PortfolioValuationRecorded" [("valuation", e.valuation.canonical)]

/-- `fingerprint` (`events.py`, 61-67) of a canonical value. -/
def fingerprint (rt : Runtime) (value : Json) : String := rt.sha256Json value.sortKeys

/-- The canonical form of what `FillReceived.delivery_fingerprint` covers. -/
def FillReceived.deliveryContent (e : FillReceived) : Json :=
  .obj [("intent_id", .str e.intentId), ("fill_id", .str e.fillId),
    ("quantity", .str e.quantity.text), ("price", .str e.price.text), ("fee", e.fee.canonical)]

/-- `FillReceived.delivery_fingerprint` (`events.py`, 133-143). -/
def FillReceived.deliveryFingerprint (rt : Runtime) (e : FillReceived) : String :=
  fingerprint rt e.deliveryContent

/-- The content determines the data of a fill. -/
theorem FillReceived.eq_of_deliveryContent {a b : FillReceived}
    (h : a.deliveryContent = b.deliveryContent) :
    a.quantity = b.quantity ∧ a.price = b.price ∧ a.fee = b.fee := by
  simp only [deliveryContent, Money.canonical, record, Json.obj.injEq, List.cons.injEq,
    Prod.mk.injEq, Json.str.injEq, true_and, and_true] at h
  obtain ⟨-, -, hq, hp, hamount, hcurrency⟩ := h
  exact ⟨Micros.text_inj hq, Micros.text_inj hp, Money.ext (Micros.text_inj hamount) hcurrency⟩

/-! ## Constructed events -/

/-- The parts of an event whose normal form depends on the runtime are in normal form, as every
constructor leaves them. -/
def LedgerEvent.Constructible (rt : Runtime) : LedgerEvent → Prop
  | accountOpened e => e.initialCash.Normal rt
  | orderIntentCreated e => e.intent.feeReserve.Normal rt
  | fillReceived e => e.fee.Normal rt
  | weatherObservationRecorded e => e.evidence.Valid rt
  | marketResolutionEvidenceRecorded e => e.evidence.Valid rt
  | positionSettled e => e.fee.Normal rt
  | riskScopeRegistered e => e.scope.Valid rt ∧ e.eventId = riskScopeEventId rt e.scope
  | portfolioValuationRecorded e =>
    e.valuation.equity.Normal rt ∧
      ∀ mark ∈ e.valuation.positions, mark.liquidationValue.Normal rt
  | orderSubmitted _ => True
  | orderAcknowledged _ => True
  | orderRejected _ => True
  | orderCancelled _ => True
  | orderOutcomeUnknown _ => True
  | marketResolved _ => True

end WeatherBot.Domain
