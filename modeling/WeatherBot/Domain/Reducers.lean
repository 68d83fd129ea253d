import WeatherBot.Domain.State

/-!
# Reducers

`domain/reducers.py`: how each event changes the ledger. `applyEvent` applies one
event to a state, and `replay` a list of events to the empty state.
-/

namespace WeatherBot.Domain

open WeatherBot.Common

/-! ## Lookups and updates -/

/-- `_require_opened`. -/
def requireOpened (s : LedgerState) : Except Error Unit :=
  raiseIf (s.opened = false)
    (.invalidTransition "ledger must be opened before financial events are applied")

/-- `_order`. -/
def orderOf (s : LedgerState) (intentId : String) : Except Error OrderAggregate :=
  match s.orders.get? intentId with
  | some order => return order
  | none => throw (.aggregateNotFound ("order intent not found: " ++ intentId))

/-- `_position`. -/
def positionOf (s : LedgerState) (key : String × String) : Except Error Position :=
  match s.positions.get? key with
  | some position => return position
  | none => throw (.aggregateNotFound ("position not found: " ++ key.1 ++ "/" ++ key.2))

/-- `_replace_order`. -/
def replaceOrder (s : LedgerState) (order : OrderAggregate) : LedgerState :=
  { s with orders := s.orders.insert order.intent.intentId order }

/-- `_replace_position`. -/
def replacePosition (s : LedgerState) (position : Position) : LedgerState :=
  { s with positions := s.positions.insert position.key position }

/-- `_record_event`. -/
def recordEvent (s : LedgerState) (eventId eventFp : String) : LedgerState :=
  { s with eventFingerprints := s.eventFingerprints.insert eventId eventFp }

/-- `_release_reservations` (`reducers.py`, 83-100). -/
def releaseReservations (s : LedgerState) (order : OrderAggregate) :
    Except Error (LedgerState × OrderAggregate) :=
  match order.intent.side with
  | .buy => do
    let reservedCash ← s.reservedCash.sub order.reservedCash
    return ({ s with reservedCash }, { order with reservedCash := Money.zero s.currency })
  | .sell => do
    let position ← positionOf s order.key
    raiseIf (position.reservedQuantity.val < order.reservedQuantity.val)
      (.invariantViolation "order reservation exceeds position reservation")
    let reservedQuantity ← quantize (position.reservedQuantity - order.reservedQuantity)
    return (replacePosition s { position with reservedQuantity },
      { order with reservedQuantity := Micros.zero })

/-! ## Accounts and orders -/

/-- `_apply_account_opened` (`reducers.py`, 103-108). -/
def applyAccountOpened (s : LedgerState) (event : AccountOpened) : Except Error LedgerState := do
  raiseIf (s.opened = true) (.invalidTransition "ledger is already opened")
  raiseIf (event.initialCash.currency ≠ s.currency)
    (.invariantViolation "initial cash currency differs from ledger currency")
  return { s with opened := true, cash := event.initialCash }

/-- The reservation that a new order makes (`reducers.py`, 128-143). -/
def reserveOrder (s : LedgerState) (order : OrderAggregate) : Except Error LedgerState :=
  match order.intent.side with
  | .buy => do
    let available ← s.availableCash
    raiseIf (available.amount.val < order.reservedCash.amount.val)
      (.invariantViolation "insufficient available cash for order reservation")
    let reservedCash ← s.reservedCash.add order.reservedCash
    return { s with reservedCash }
  | .sell => do
    let position ← positionOf s order.key
    raiseIf (position.status ≠ .open) (.invalidTransition "cannot reserve a settled position")
    let available ← position.availableQuantity
    raiseIf (available.val < order.intent.quantity.val)
      (.invariantViolation "insufficient available position quantity")
    let reservedQuantity ← quantize (position.reservedQuantity + order.intent.quantity)
    return replacePosition s { position with reservedQuantity }

/-- `_apply_intent_created` (`reducers.py`, 111-145). -/
def applyIntentCreated (s : LedgerState) (event : OrderIntentCreated) :
    Except Error LedgerState := do
  requireOpened s
  let intent := event.intent
  match s.orders.get? intent.intentId with
  | some existing =>
    if existing.intent.PyEq intent then return s
    else throw (.duplicateEventConflict
      ("intent identifier " ++ intent.intentId ++ " was reused with different data"))
  | none => do
    raiseIf (intent.feeReserve.currency ≠ s.currency)
      (.invariantViolation "order intent currency differs from ledger currency")
    let order ← OrderAggregate.new intent
    let s ← reserveOrder s order
    return replaceOrder s order

/-- `_apply_submitted` (`reducers.py`, 148-160). -/
def applySubmitted (s : LedgerState) (event : OrderSubmitted) : Except Error LedgerState := do
  let order ← orderOf s event.intentId
  requireTransition order.state .submitted
  raiseIf (order.backendOrderId ≠ none ∧ order.backendOrderId ≠ some event.backendOrderId)
    (.duplicateEventConflict "order has a different backend identifier")
  return replaceOrder s
    { order with state := .submitted, backendOrderId := some event.backendOrderId }

/-- `_apply_acknowledged` (`reducers.py`, 163-172). -/
def applyAcknowledged (s : LedgerState) (event : OrderAcknowledged) :
    Except Error LedgerState := do
  let order ← orderOf s event.intentId
  requireTransition order.state .acknowledged
  return replaceOrder s { order with state := .acknowledged, unknownReason := none }

/-- `_apply_unknown` (`reducers.py`, 175-185). -/
def applyUnknown (s : LedgerState) (event : OrderOutcomeUnknown) : Except Error LedgerState := do
  let order ← orderOf s event.intentId
  requireTransition order.state .unknown
  return replaceOrder s { order with state := .unknown, unknownReason := some event.reason }

/-- `_apply_terminal` (`reducers.py`, 188-203). -/
def applyTerminal (s : LedgerState) (intentId : String) (target : OrderState) (reason : String) :
    Except Error LedgerState := do
  let order ← orderOf s intentId
  requireTransition order.state target
  let (s, order) ← releaseReservations s order
  return replaceOrder s
    { order with state := target, terminalReason := some reason, unknownReason := none }

/-! ## Fills -/

/-- The position of a key, or an empty one. -/
def positionOrEmpty (s : LedgerState) (order : OrderAggregate) : Position :=
  (s.positions.get? order.key).getD
    (Position.empty order.intent.marketId order.intent.outcomeId s.currency)

/-- The reservation that is left after a BUY fill (`reducers.py`, 214-226). -/
def remainingReservation (s : LedgerState) (order : OrderAggregate) (event : FillReceived) :
    Except Error Money := do
  raiseIf (order.intent.limitPrice.val < event.price.val)
    (.invariantViolation "buy fill price exceeds order limit")
  let remainingFeeReserve ← order.intent.feeReserve.sub order.fees
  raiseIf (remainingFeeReserve.amount.val < event.fee.amount.val)
    (.invariantViolation "fill fee exceeds the remaining fee reserve")
  let remaining ← order.remainingQuantity
  let remainingQuantity ← quantize (remaining - event.quantity)
  let notional ← moneyFromUnitPrice order.intent.limitPrice remainingQuantity s.currency
  let feeReserve ← remainingFeeReserve.sub event.fee
  let reservation ← notional.add feeReserve
  raiseIf (order.reservedCash.amount.val < reservation.amount.val)
    (.invariantViolation "remaining reservation exceeds current reservation")
  return reservation

/-- `_apply_buy_fill` (`reducers.py`, 206-250). -/
def applyBuyFill (s : LedgerState) (order : OrderAggregate) (event : FillReceived) (gross : Money) :
    Except Error (LedgerState × OrderAggregate) := do
  let reservation ← remainingReservation s order event
  let release ← order.reservedCash.sub reservation
  let debit ← gross.add event.fee
  raiseIf (s.cash.amount.val < debit.amount.val)
    (.invariantViolation "fill would make cash negative")
  let cash ← s.cash.sub debit
  let reservedCash ← s.reservedCash.sub release
  let position := positionOrEmpty s order
  raiseIf (position.status ≠ .open) (.invalidTransition "cannot add a fill to a settled position")
  let quantity ← quantize (position.quantity + event.quantity)
  let costBasis ← position.costBasis.add debit
  return (replacePosition { s with cash, reservedCash } { position with quantity, costBasis },
    { order with reservedCash := reservation })

/-- The part of a position's cost that a SELL fill takes with it (`reducers.py`, 274-278). -/
def allocatedCost (position : Position) (quantity : Micros) : Except Error Money :=
  if quantity = position.quantity then return position.costBasis
  else position.costBasis.scale (Decimal.quotient quantity position.quantity)

/-- The cost that stays with a position after a SELL fill (`reducers.py`, 285-289). -/
def remainingCost (s : LedgerState) (position : Position) (remainingQuantity : Micros)
    (allocated : Money) : Except Error Money :=
  if remainingQuantity.val = 0 then return Money.zero s.currency
  else position.costBasis.sub allocated

/-- `_apply_sell_fill` (`reducers.py`, 253-297). -/
def applySellFill (s : LedgerState) (order : OrderAggregate) (event : FillReceived)
    (gross : Money) : Except Error (LedgerState × OrderAggregate) := do
  raiseIf (event.price.val < order.intent.limitPrice.val)
    (.invariantViolation "sell fill price is below order limit")
  let position ← positionOf s order.key
  raiseIf (position.status ≠ .open) (.invalidTransition "cannot sell a settled position")
  raiseIf (position.quantity.val < event.quantity.val)
    (.invariantViolation "sell fill exceeds position quantity")
  raiseIf (position.reservedQuantity.val < event.quantity.val)
    (.invariantViolation "sell fill exceeds reserved position quantity")
  raiseIf (order.reservedQuantity.val < event.quantity.val)
    (.invariantViolation "sell fill exceeds order reservation")
  raiseIf (gross.amount.val < event.fee.amount.val)
    (.invariantViolation "sell fee exceeds gross proceeds")
  let netProceeds ← gross.sub event.fee
  let allocated ← allocatedCost position event.quantity
  let remainingQuantity ← quantize (position.quantity - event.quantity)
  let positionReserved ← quantize (position.reservedQuantity - event.quantity)
  let costBasis ← remainingCost s position remainingQuantity allocated
  let proceeds ← position.realizedPnl.add netProceeds
  let realizedPnl ← proceeds.sub allocated
  let orderReserved ← quantize (order.reservedQuantity - event.quantity)
  let cash ← s.cash.add netProceeds
  return (
    replacePosition { s with cash } { position with
      quantity := remainingQuantity
      reservedQuantity := positionReserved
      costBasis
      realizedPnl },
    { order with reservedQuantity := orderReserved })

/-- An order with a fill recorded in it. -/
def OrderAggregate.withFill (rt : Runtime) (order : OrderAggregate) (event : FillReceived)
    (target : OrderState) (filledQuantity : Micros) (grossValue fees : Money) : OrderAggregate :=
  { order with
    state := target
    filledQuantity
    grossValue
    fees
    fillFingerprints := order.fillFingerprints.insert event.fillId (event.deliveryFingerprint rt)
    unknownReason := none }

/-- Record a fill in its order, and release what is left when the order is filled
(`reducers.py`, 328-342). -/
def recordFill (rt : Runtime) (s : LedgerState) (order : OrderAggregate) (event : FillReceived)
    (target : OrderState) (filledQuantity : Micros) (gross : Money) : Except Error LedgerState := do
  let grossValue ← order.grossValue.add gross
  let fees ← order.fees.add event.fee
  let order := order.withFill rt event target filledQuantity grossValue fees
  if target = .filled then do
    let (s, order) ← releaseReservations s order
    return replaceOrder s order
  else return replaceOrder s order

/-- The order state that a fill leads to. -/
def fillTarget (order : OrderAggregate) (filledQuantity : Micros) : OrderState :=
  if filledQuantity = order.intent.quantity then .filled else .partiallyFilled

/-- The accounting of a fill, by the side of its order. -/
def applySideFill (s : LedgerState) (order : OrderAggregate) (event : FillReceived)
    (gross : Money) : Except Error (LedgerState × OrderAggregate) :=
  match order.intent.side with
  | .buy => applyBuyFill s order event gross
  | .sell => applySellFill s order event gross

/-- A fill that is not recorded yet (`reducers.py`, 310-342). -/
def applyNewFill (rt : Runtime) (s : LedgerState) (order : OrderAggregate) (event : FillReceived) :
    Except Error LedgerState := do
  let filledQuantity ← quantize (order.filledQuantity + event.quantity)
  raiseIf (order.intent.quantity.val < filledQuantity.val)
    (.invariantViolation "fill would exceed order quantity")
  let target := fillTarget order filledQuantity
  requireTransition order.state target
  raiseIf (event.fee.currency ≠ s.currency)
    (.invariantViolation "fill fee currency differs from ledger currency")
  let gross ← moneyFromUnitPrice event.price event.quantity s.currency
  let (s, order) ← applySideFill s order event gross
  recordFill rt s order event target filledQuantity gross

/-- `_apply_fill` (`reducers.py`, 300-342). -/
def applyFill (rt : Runtime) (s : LedgerState) (event : FillReceived) :
    Except Error LedgerState := do
  let order ← orderOf s event.intentId
  match order.fillFingerprints.get? event.fillId with
  | some existing =>
    if existing = event.deliveryFingerprint rt then return s
    else throw (.duplicateEventConflict
      ("fill identifier " ++ event.fillId ++ " was reused with different data"))
  | none => applyNewFill rt s order event

/-! ## Observations, resolutions and settlement -/

/-- The place of a terminal observation in its history (`reducers.py`, 360-394). -/
def checkRevision (existing : List WeatherObservationEvidence)
    (evidence : WeatherObservationEvidence) : Except Error Unit :=
  let terminalHistory := existing.filter WeatherObservationEvidence.learningEligible
  match evidence.status with
  | .provisional => return ()
  | .final =>
    raiseIf (terminalHistory ≠ [])
      (.duplicateEventConflict "weather observation history already has a final root")
  | .revised => do
    raiseIf (¬ ∃ prior ∈ existing, some prior.payloadHash = evidence.supersedesPayloadHash)
      (.duplicateEventConflict "weather observation revision supersedes an unknown payload")
    match terminalHistory.getLast? with
    | none =>
      throw (.duplicateEventConflict
        "weather observation revision requires an existing final root")
    | some latest => do
      raiseIf (evidence.supersedesPayloadHash ≠ some latest.payloadHash)
        (.duplicateEventConflict
          "weather observation revision must supersede the latest terminal payload")
      raiseIf (¬ latest.SameIdentity evidence)
        (.duplicateEventConflict
          "weather observation revision changed source or measurement identity")

/-- `_apply_weather_observation` (`reducers.py`, 345-398). -/
def applyWeatherObservation (s : LedgerState) (event : WeatherObservationRecorded) :
    Except Error LedgerState := do
  requireOpened s
  let evidence := event.evidence
  let existing := (s.weatherObservations.get? evidence.marketId).getD []
  match existing.find? fun prior => prior.payloadHash = evidence.payloadHash with
  | some prior =>
    if prior.PyEq evidence then return s
    else throw (.duplicateEventConflict
      "weather observation payload hash was reused with different evidence")
  | none => do
    checkRevision existing evidence
    return { s with
      weatherObservations := s.weatherObservations.insert evidence.marketId (existing ++ [evidence]) }

/-- `_apply_resolution_evidence` (`reducers.py`, 401-421). -/
def applyResolutionEvidence (s : LedgerState) (event : MarketResolutionEvidenceRecorded) :
    Except Error LedgerState := do
  requireOpened s
  let marketId := event.evidence.marketId
  match s.resolutionEvidence.get? marketId with
  | some existing =>
    if existing.PyEq event.evidence then return s
    else throw (.duplicateEventConflict
      "authoritative market resolution evidence changed after recording")
  | none => do
    raiseIf (∃ resolution ∈ s.resolutions.get? marketId, resolution.payouts ≠ event.evidence.payouts)
      (.duplicateEventConflict "authoritative evidence conflicts with the recorded payout vector")
    return { s with resolutionEvidence := s.resolutionEvidence.insert marketId event.evidence }

/-- `_apply_resolution` (`reducers.py`, 424-435). -/
def applyResolution (s : LedgerState) (event : MarketResolved) : Except Error LedgerState := do
  let marketId := event.resolution.marketId
  raiseIf (∃ evidence ∈ s.resolutionEvidence.get? marketId,
      evidence.payouts ≠ event.resolution.payouts)
    (.duplicateEventConflict "market resolution payout differs from authoritative evidence")
  match s.resolutions.get? marketId with
  | some existing =>
    if existing.PyEq event.resolution then return s
    else throw (.duplicateEventConflict "market resolution changed after being recorded")
  | none => return { s with resolutions := s.resolutions.insert marketId event.resolution }

/-- The resolution of a market (`reducers.py`, 445-448). -/
def resolutionOf (s : LedgerState) (marketId : String) : Except Error MarketResolution :=
  match s.resolutions.get? marketId with
  | some resolution => return resolution
  | none => throw (.aggregateNotFound ("market resolution not found: " ++ marketId))

/-- `_apply_settlement` (`reducers.py`, 438-467). -/
def applySettlement (s : LedgerState) (event : PositionSettled) : Except Error LedgerState := do
  let position ← positionOf s (event.marketId, event.outcomeId)
  raiseIf (position.status ≠ .open ∨ position.quantity.val ≤ 0)
    (.invalidTransition "position is not open for settlement")
  raiseIf (position.reservedQuantity.val ≠ 0)
    (.invariantViolation "position cannot settle while quantity is reserved")
  let resolution ← resolutionOf s event.marketId
  raiseIf (event.fee.currency ≠ s.currency)
    (.invariantViolation "settlement fee currency differs from ledger currency")
  let payout ← resolution.payoutFor event.outcomeId
  let gross ← moneyFromUnitPrice payout position.quantity s.currency
  raiseIf (gross.amount.val < event.fee.amount.val)
    (.invariantViolation "settlement fee exceeds gross proceeds")
  let net ← gross.sub event.fee
  let proceeds ← position.realizedPnl.add net
  let realizedPnl ← proceeds.sub position.costBasis
  let cash ← s.cash.add net
  return replacePosition { s with cash } { position with
    quantity := Micros.zero
    reservedQuantity := Micros.zero
    costBasis := Money.zero s.currency
    realizedPnl
    status := .settled
    settlementPayout := some payout }

/-! ## Risk records -/

/-- `_apply_risk_scope_registered`. -/
def applyRiskScopeRegistered (s : LedgerState) (_event : RiskScopeRegistered) :
    Except Error LedgerState := do
  requireOpened s
  return s

/-- The open positions of a state, in order. -/
def LedgerState.openPositions (s : LedgerState) : List ((String × String) × Position) :=
  s.positions.entries.filter fun entry => entry.2.status = .open ∧ 0 < entry.2.quantity.val

/-- A valuation's marks are for exactly these positions. -/
def PortfolioValuation.Covers (v : PortfolioValuation)
    (positions : List ((String × String) × Position)) : Prop :=
  (∀ mark ∈ v.positions, mark.positionKey ∈ positions.map Prod.fst) ∧
    ∀ key ∈ positions.map Prod.fst, key ∈ v.positions.map PositionValuation.positionKey

instance (v : PortfolioValuation) (positions : List ((String × String) × Position)) :
    Decidable (v.Covers positions) :=
  inferInstanceAs (Decidable (_ ∧ _))

/-- `marks[key]`. -/
def PortfolioValuation.markOf (v : PortfolioValuation) (key : String × String) :
    Except Error PositionValuation :=
  match v.mark? key with
  | some mark => return mark
  | none => throw ⟨.keyError, key.1 ++ "/" ++ key.2⟩

/-- One mark of a recorded valuation (`reducers.py`, 496-502). -/
def addMark (s : LedgerState) (v : PortfolioValuation) (total : Money)
    (entry : (String × String) × Position) : Except Error Money := do
  let mark ← v.markOf entry.1
  raiseIf (mark.quantity ≠ entry.2.quantity)
    (.invariantViolation "portfolio valuation quantity differs from ledger position")
  raiseIf (mark.liquidationValue.currency ≠ s.currency)
    (.invariantViolation "position valuation currency differs from ledger currency")
  total.add mark.liquidationValue

/-- `_apply_portfolio_valuation` (`reducers.py`, 476-505). -/
def applyPortfolioValuation (s : LedgerState) (event : PortfolioValuationRecorded) :
    Except Error LedgerState := do
  requireOpened s
  let valuation := event.valuation
  raiseIf (valuation.equity.currency ≠ s.currency)
    (.invariantViolation "portfolio valuation currency differs from ledger currency")
  raiseIf (¬ valuation.Covers s.openPositions)
    (.invariantViolation "portfolio valuation does not cover exactly the open positions")
  let liquidationTotal ← s.openPositions.foldlM (addMark s valuation) (Money.zero s.currency)
  let equity ← s.cash.add liquidationTotal
  raiseIf (valuation.equity ≠ equity)
    (.invariantViolation "portfolio valuation equity does not reconcile to cash plus marks")
  return s

/-! ## Events -/

/-- The reducer of an event's class (`reducers.py`, 519-556). -/
def reduce (rt : Runtime) (s : LedgerState) : LedgerEvent → Except Error LedgerState
  | .accountOpened e => applyAccountOpened s e
  | .orderIntentCreated e => applyIntentCreated s e
  | .orderSubmitted e => applySubmitted s e
  | .orderAcknowledged e => applyAcknowledged s e
  | .fillReceived e => applyFill rt s e
  | .orderRejected e => applyTerminal s e.intentId .rejected e.reason
  | .orderCancelled e => applyTerminal s e.intentId .cancelled e.reason
  | .orderOutcomeUnknown e => applyUnknown s e
  | .weatherObservationRecorded e => applyWeatherObservation s e
  | .marketResolutionEvidenceRecorded e => applyResolutionEvidence s e
  | .marketResolved e => applyResolution s e
  | .positionSettled e => applySettlement s e
  | .riskScopeRegistered e => applyRiskScopeRegistered s e
  | .portfolioValuationRecorded e => applyPortfolioValuation s e

/-- `apply_event` (`reducers.py`, 508-560). -/
def applyEvent (rt : Runtime) (s : LedgerState) (event : LedgerEvent) :
    Except Error LedgerState := do
  let eventFp := fingerprint rt event.canonical
  match s.eventFingerprints.get? event.eventId with
  | some existing =>
    if existing = eventFp then return s
    else throw (.duplicateEventConflict
      ("event identifier " ++ event.eventId ++ " was reused with different data"))
  | none => do
    let next ← reduce rt s event
    let next := recordEvent next event.eventId eventFp
    next.assertInvariants
    return next

/-- The loop of `replay`. -/
def applyEvents (rt : Runtime) (s : LedgerState) (events : List LedgerEvent) :
    Except Error LedgerState :=
  events.foldlM (applyEvent rt) s

/-- `replay` (`reducers.py`, 563-568). -/
def replay (rt : Runtime) (events : List LedgerEvent) (currency : String) :
    Except Error LedgerState := do
  let s ← LedgerState.empty rt currency
  applyEvents rt s events

end WeatherBot.Domain
