import WeatherBot.Domain.Events

/-!
# Ledger state

`LedgerState` (`domain/state.py`) and the checks that `apply_event` makes of
every state it returns.
-/

namespace WeatherBot.Domain

open WeatherBot.Common

/-- `LedgerState` (`state.py`, 73-118). -/
structure LedgerState where
  currency : String
  opened : Bool
  cash : Money
  reservedCash : Money
  orders : Dict String OrderAggregate
  positions : Dict (String × String) Position
  resolutions : Dict String MarketResolution
  resolutionEvidence : Dict String MarketResolutionEvidence
  weatherObservations : Dict String (List WeatherObservationEvidence)
  eventFingerprints : Dict String String

namespace LedgerState

/-- The state before any event, in a currency that is normalized already. -/
def fresh (currency : String) : LedgerState where
  currency := currency
  opened := false
  cash := Money.zero currency
  reservedCash := Money.zero currency
  orders := Dict.empty
  positions := Dict.empty
  resolutions := Dict.empty
  resolutionEvidence := Dict.empty
  weatherObservations := Dict.empty
  eventFingerprints := Dict.empty

/-- `LedgerState.empty` (`state.py`, 121-128). -/
def empty (rt : Runtime) (currency : String) : Except Error LedgerState := do
  let normalized := rt.upper.normalize currency
  raiseIf (normalized = "") (.valueError "currency must not be blank")
  return fresh normalized

/-- `LedgerState.available_cash`. -/
def availableCash (s : LedgerState) : Except Error Money := s.cash.sub s.reservedCash

/-! ## Checks of one order -/

/-- A money field of an order: its currency and its sign. -/
def checkAmount (s : LedgerState) (label : String) (amount : Money) : Except Error Unit := do
  raiseIf (amount.currency ≠ s.currency)
    (.invariantViolation (label ++ " uses a different currency"))
  requireNonnegative amount label

/-- The reservation of a BUY order (`state.py`, 166-187). -/
def checkBuyOrder (s : LedgerState) (order : OrderAggregate) : Except Error Unit := do
  raiseIf (order.reservedQuantity.val ≠ 0)
    (.invariantViolation "buy orders must not reserve position quantity")
  let remainingFeeReserve ← order.intent.feeReserve.sub order.fees
  requireNonnegative remainingFeeReserve "remaining fee reserve"
  if order.state.isTerminal then return ()
  else do
    let remaining ← order.remainingQuantity
    let notional ← moneyFromUnitPrice order.intent.limitPrice remaining s.currency
    let expected ← notional.add remainingFeeReserve
    raiseIf (order.reservedCash ≠ expected)
      (.invariantViolation "buy order reservation does not cover remaining quantity and fees")

/-- The reservation of a SELL order (`state.py`, 188-199). -/
def checkSellOrder (order : OrderAggregate) : Except Error Unit := do
  raiseIf (order.reservedCash.amount.val ≠ 0)
    (.invariantViolation "sell orders must not reserve cash")
  if order.state.isTerminal then return ()
  else do
    let remaining ← order.remainingQuantity
    raiseIf (order.reservedQuantity ≠ remaining)
      (.invariantViolation "sell order reservation does not equal remaining quantity")

/-- The checks of one order (`state.py`, 147-199). -/
def checkOrder (s : LedgerState) (intentId : String) (order : OrderAggregate) :
    Except Error Unit := do
  raiseIf (intentId ≠ order.intent.intentId)
    (.invariantViolation "order map key does not match intent identifier")
  raiseIf (order.filledQuantity.val < 0 ∨ order.intent.quantity.val < order.filledQuantity.val)
    (.invariantViolation "order filled quantity is outside valid bounds")
  checkAmount s "order gross value" order.grossValue
  checkAmount s "order fees" order.fees
  checkAmount s "order reserved cash" order.reservedCash
  checkAmount s "order fee reserve" order.intent.feeReserve
  raiseIf (order.reservedQuantity.val < 0)
    (.invariantViolation "order reserved quantity must not be negative")
  raiseIf (order.state.isTerminal = true ∧
      (order.reservedCash.amount.val ≠ 0 ∨ order.reservedQuantity.val ≠ 0))
    (.invariantViolation "terminal orders must retain no reservation")
  match order.intent.side with
  | .buy => checkBuyOrder s order
  | .sell => checkSellOrder order

/-! ## Expected reservations -/

/-- `expected_reserved_cash` and `expected_sell_reservations`. -/
structure Expected where
  reservedCash : Money
  sellReservations : Dict (String × String) ℤ

/-- `expected_sell_reservations[key]`; the sum of quantities is rounded by the context only. -/
def Expected.sell (e : Expected) (key : String × String) : ℤ :=
  (e.sellReservations.get? key).getD 0

/-- Add one order's reservation. -/
def Expected.addOrder (e : Expected) (order : OrderAggregate) : Except Error Expected :=
  match order.intent.side with
  | .buy => do
    let reservedCash ← e.reservedCash.add order.reservedCash
    return { e with reservedCash }
  | .sell =>
    return { e with
      sellReservations :=
        e.sellReservations.insert order.key (ctxRound (e.sell order.key + order.reservedQuantity)) }

/-- The loop over the orders (`state.py`, 143-204). -/
def checkOrders (s : LedgerState) : Except Error Expected :=
  s.orders.entries.foldlM
    (fun expected (entry : String × OrderAggregate) => do
      checkOrder s entry.1 entry.2
      expected.addOrder entry.2)
    { reservedCash := Money.zero s.currency, sellReservations := Dict.empty }

/-! ## Checks of positions, evidence and observations -/

/-- The checks of one position (`state.py`, 206-223). -/
def checkPosition (expected : Expected) (key : String × String) (position : Position) :
    Except Error Unit := do
  raiseIf (key ≠ position.key)
    (.invariantViolation "position map key does not match position identity")
  raiseIf (position.quantity.val < 0 ∨ position.reservedQuantity.val < 0)
    (.invariantViolation "position quantities must not be negative")
  raiseIf (position.quantity.val < position.reservedQuantity.val)
    (.invariantViolation "reserved position quantity exceeds total quantity")
  requireNonnegative position.costBasis "position cost basis"
  raiseIf (position.reservedQuantity.val ≠ expected.sell key)
    (.invariantViolation "position reservation does not equal active sell-order reservations")
  raiseIf (position.status = .settled ∧ (position.quantity.val ≠ 0 ∨
      position.reservedQuantity.val ≠ 0 ∨ position.costBasis.amount.val ≠ 0))
    (.invariantViolation "settled positions must have zero open exposure")

/-- The checks of one record of resolution evidence (`state.py`, 229-236). -/
def checkEvidence (s : LedgerState) (marketId : String) (evidence : MarketResolutionEvidence) :
    Except Error Unit := do
  raiseIf (marketId ≠ evidence.marketId)
    (.invariantViolation "resolution evidence map key does not match market")
  match s.resolutions.get? marketId with
  | none => return ()
  | some resolution =>
    raiseIf (resolution.payouts ≠ evidence.payouts)
      (.invariantViolation "recorded resolution differs from its authoritative evidence")

/-- One observation of a history, given the hashes before it (`state.py`, 241-256). -/
def checkObservation (marketId : String) (hashes : List String)
    (observation : WeatherObservationEvidence) : Except Error (List String) := do
  raiseIf (observation.marketId ≠ marketId)
    (.invariantViolation "weather observation map key does not match market")
  raiseIf (observation.payloadHash ∈ hashes)
    (.invariantViolation "weather observation history contains a duplicate payload hash")
  match observation.supersedesPayloadHash with
  | none => return observation.payloadHash :: hashes
  | some superseded =>
    raiseIf (superseded ∉ hashes)
      (.invariantViolation "weather observation revision supersedes an unknown prior payload")
    return observation.payloadHash :: hashes

/-- Terminal observations form one chain of revisions (`state.py`, 258-275). -/
def checkRevisions (previous : WeatherObservationEvidence) :
    List WeatherObservationEvidence → Except Error Unit
  | [] => return ()
  | current :: rest => do
    raiseIf (current.status ≠ .revised ∨
        current.supersedesPayloadHash ≠ some previous.payloadHash)
      (.invariantViolation "weather observation terminal revisions must form one linear chain")
    checkRevisions current rest

/-- The terminal history begins with one final root (`state.py`, 258-275). -/
def checkTerminalHistory : List WeatherObservationEvidence → Except Error Unit
  | [] => return ()
  | root :: rest => do
    raiseIf (root.status ≠ .final ∨ root.supersedesPayloadHash ≠ none)
      (.invariantViolation "weather observation terminal history must begin with one final root")
    checkRevisions root rest

/-- The checks of one market's observations (`state.py`, 238-275). -/
def checkObservations (marketId : String) (observations : List WeatherObservationEvidence) :
    Except Error Unit := do
  let _ ← observations.foldlM (checkObservation marketId) []
  checkTerminalHistory (observations.filter WeatherObservationEvidence.learningEligible)

/-- Anything that an unopened ledger must not have (`state.py`, 277-286). -/
def HasFinancialState (s : LedgerState) : Prop :=
  s.cash.amount.val ≠ 0 ∨ s.reservedCash.amount.val ≠ 0 ∨ s.orders.entries ≠ [] ∨
    s.positions.entries ≠ [] ∨ s.resolutions.entries ≠ [] ∨ s.resolutionEvidence.entries ≠ [] ∨
    s.weatherObservations.entries ≠ []

instance (s : LedgerState) : Decidable s.HasFinancialState :=
  inferInstanceAs (Decidable (_ ∨ _ ∨ _ ∨ _ ∨ _ ∨ _ ∨ _))

/-! ## The checks of a state -/

/-- `LedgerState.assert_invariants` (`state.py`, 134-286). -/
def assertInvariants (s : LedgerState) : Except Error Unit := do
  raiseIf (s.cash.currency ≠ s.currency ∨ s.reservedCash.currency ≠ s.currency)
    (.invariantViolation "ledger money uses a different currency")
  requireNonnegative s.cash "cash"
  requireNonnegative s.reservedCash "reserved_cash"
  let availableCash ← s.availableCash
  requireNonnegative availableCash "available_cash"
  let expected ← s.checkOrders
  raiseIf (expected.reservedCash ≠ s.reservedCash)
    (.invariantViolation "ledger reserved cash does not equal active order reservations")
  s.positions.entries.forM fun entry => checkPosition expected entry.1 entry.2
  expected.sellReservations.entries.forM fun entry =>
    raiseIf (entry.2 ≠ 0 ∧ s.positions.get? entry.1 = none)
      (.invariantViolation "sell order reserves a missing position")
  s.resolutionEvidence.entries.forM fun entry => checkEvidence s entry.1 entry.2
  s.weatherObservations.entries.forM fun entry => checkObservations entry.1 entry.2
  raiseIf (s.opened = false ∧ s.HasFinancialState)
    (.invariantViolation "an unopened ledger must have no financial state")

end LedgerState

/-! ## Canonical content -/

/-- `_canonicalize` of a mapping, whose keys become texts. -/
def canonicalMapping {K V : Type} (key : K → String) (value : V → Json) (d : Dict K V) : Json :=
  .obj (d.entries.map fun entry => (key entry.1, value entry.2))

def OrderAggregate.canonical (o : OrderAggregate) : Json :=
  record "weatherbot.domain.model.OrderAggregate"
    [("intent", o.intent.canonical), ("state", .str o.state.value),
      ("filled_quantity", .str o.filledQuantity.text), ("gross_value", o.grossValue.canonical),
      ("fees", o.fees.canonical), ("reserved_cash", o.reservedCash.canonical),
      ("reserved_quantity", .str o.reservedQuantity.text),
      ("backend_order_id", optionalText o.backendOrderId),
      ("terminal_reason", optionalText o.terminalReason),
      ("unknown_reason", optionalText o.unknownReason),
      ("fill_fingerprints", canonicalMapping id .str o.fillFingerprints)]

def Position.canonical (p : Position) : Json :=
  record "weatherbot.domain.model.Position"
    [("market_id", .str p.marketId), ("outcome_id", .str p.outcomeId),
      ("quantity", .str p.quantity.text), ("reserved_quantity", .str p.reservedQuantity.text),
      ("cost_basis", p.costBasis.canonical), ("realized_pnl", p.realizedPnl.canonical),
      ("status", .str p.status.value),
      ("settlement_payout", optionalText (p.settlementPayout.map Micros.text))]

/-- `str` of a position key. -/
def positionKeyText (rt : Runtime) (key : String × String) : String :=
  "(" ++ rt.repr key.1 ++ ", " ++ rt.repr key.2 ++ ")"

def LedgerState.canonical (rt : Runtime) (s : LedgerState) : Json :=
  record "weatherbot.domain.state.LedgerState"
    [("currency", .str s.currency), ("opened", .bool s.opened), ("cash", s.cash.canonical),
      ("reserved_cash", s.reservedCash.canonical),
      ("orders", canonicalMapping id OrderAggregate.canonical s.orders),
      ("positions", canonicalMapping (positionKeyText rt) Position.canonical s.positions),
      ("resolutions", canonicalMapping id MarketResolution.canonical s.resolutions),
      ("resolution_evidence",
        canonicalMapping id MarketResolutionEvidence.canonical s.resolutionEvidence),
      ("weather_observations",
        canonicalMapping id (fun history => .arr (history.map WeatherObservationEvidence.canonical))
          s.weatherObservations),
      ("event_fingerprints", canonicalMapping id .str s.eventFingerprints)]

end WeatherBot.Domain
