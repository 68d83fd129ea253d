import WeatherBot.Common.Dict
import WeatherBot.Domain.Money

/-!
# Domain aggregates

The aggregates of `domain/model.py`. A constructor `new` makes the checks of
`__post_init__` in their order; what it checks is kept in the structure, so an
`OrderIntent` or a `MarketResolution` is always a valid one.

* `OrderState`, `allowedTransitions`, `requireTransition`: the order lifecycle.
* `OrderIntent.PyEq`, `MarketResolution.PyEq`: `==` of the data classes, which
  compares datetimes as points of time.
-/

namespace WeatherBot.Domain

open WeatherBot.Common

/-! ## Texts -/

/-- `_require_text`, whose result is the stripped text. -/
def requireText (value label : String) : Except Error String := do
  raiseIf (isBlank value) (.valueError (label ++ " must not be blank"))
  return strip value

theorem requireText_eq_ok {value label text : String} :
    requireText value label = .ok text ↔ isBlank value = false ∧ text = strip value := by
  rw [requireText, raiseIf_bind_eq_ok, Bool.not_eq_true, pure_eq_ok, Except.ok.injEq, @eq_comm _ text]

/-- The check of `_require_text` where the code drops the stripped text. -/
def ensureText (value label : String) : Except Error (PLift (isBlank value = false)) :=
  ensure (isBlank value = false) (.valueError (label ++ " must not be blank"))

/-! ## Enumerations -/

/-- `Side`. -/
inductive Side where
  | buy
  | sell
deriving DecidableEq, Repr

/-- `Side.value`. -/
def Side.value : Side → String
  | .buy => "buy"
  | .sell => "sell"

/-- `Side(text)`. -/
def Side.ofValue : String → Option Side
  | "buy" => some .buy
  | "sell" => some .sell
  | _ => none

theorem Side.ofValue_value (s : Side) : ofValue s.value = some s := by cases s <;> rfl

/-- `OrderState`. -/
inductive OrderState where
  | created
  | submitted
  | acknowledged
  | partiallyFilled
  | filled
  | rejected
  | cancelled
  | unknown
deriving DecidableEq, Repr

namespace OrderState

/-- `OrderState.value`. -/
def value : OrderState → String
  | created => "created"
  | submitted => "submitted"
  | acknowledged => "acknowledged"
  | partiallyFilled => "partially_filled"
  | filled => "filled"
  | rejected => "rejected"
  | cancelled => "cancelled"
  | unknown => "unknown"

/-- `OrderState.is_terminal`. -/
def isTerminal : OrderState → Bool
  | filled => true
  | rejected => true
  | cancelled => true
  | _ => false

end OrderState

/-- `PositionStatus`. -/
inductive PositionStatus where
  | open
  | settled
deriving DecidableEq, Repr

/-- `PositionStatus.value`. -/
def PositionStatus.value : PositionStatus → String
  | .open => "open"
  | .settled => "settled"

/-- `RiskDecisionStatus`. -/
inductive RiskDecisionStatus where
  | approved
  | rejected
deriving DecidableEq, Repr

/-- `RiskDecisionStatus.value`. -/
def RiskDecisionStatus.value : RiskDecisionStatus → String
  | .approved => "approved"
  | .rejected => "rejected"

/-! ## Transitions -/

/-- `_ALLOWED_TRANSITIONS` (`model.py`, 77-120). -/
def allowedTransitions : OrderState → List OrderState
  | .created => [.submitted, .rejected, .cancelled]
  | .submitted => [.acknowledged, .partiallyFilled, .filled, .rejected, .cancelled, .unknown]
  | .acknowledged => [.partiallyFilled, .filled, .cancelled, .unknown]
  | .partiallyFilled => [.partiallyFilled, .filled, .cancelled, .unknown]
  | .unknown => [.acknowledged, .partiallyFilled, .filled, .rejected, .cancelled, .unknown]
  | .filled => []
  | .rejected => []
  | .cancelled => []

/-- `require_transition` (`model.py`, 127-129). -/
def requireTransition (current target : OrderState) : Except Error Unit :=
  raiseIf (target ∉ allowedTransitions current)
    (.invalidTransition ("order transition " ++ current.value ++ " -> " ++ target.value ++
      " is invalid"))

theorem requireTransition_eq_ok {current target : OrderState} {u : Unit} :
    requireTransition current target = .ok u ↔ target ∈ allowedTransitions current := by
  rw [requireTransition, raiseIf_eq_ok, not_not]

/-- No transition leaves a terminal state. -/
theorem not_isTerminal_of_mem_allowedTransitions {current target : OrderState}
    (h : target ∈ allowedTransitions current) : current.isTerminal = false := by
  cases current <;> first | rfl | exact absurd h List.not_mem_nil

/-! ## Order intents -/

/-- `OrderIntent` (`model.py`, 198-278). -/
structure OrderIntent where
  intentId : String
  strategyId : String
  decisionId : String
  marketId : String
  outcomeId : String
  side : Side
  quantity : Micros
  limitPrice : Micros
  feeReserve : Money
  createdAt : DateTime
  intentId_text : isBlank intentId = false
  strategyId_text : isBlank strategyId = false
  decisionId_text : isBlank decisionId = false
  marketId_text : isBlank marketId = false
  outcomeId_text : isBlank outcomeId = false
  quantity_pos : 0 < quantity.val
  limitPrice_range : 0 < limitPrice.val ∧ limitPrice.val ≤ one
  feeReserve_nonneg : 0 ≤ feeReserve.amount.val
  sell_feeReserve : side = .sell → feeReserve.amount.val = 0
deriving DecidableEq

namespace OrderIntent

/-- `OrderIntent.__post_init__`. -/
def new (intentId strategyId decisionId marketId outcomeId : String) (side : Side)
    (quantity limitPrice : Decimal) (feeReserve : Money) (createdAt : DateTime) :
    Except Error OrderIntent := do
  let ⟨h1⟩ ← ensureText intentId "intent_id"
  let ⟨h2⟩ ← ensureText strategyId "strategy_id"
  let ⟨h3⟩ ← ensureText decisionId "decision_id"
  let ⟨h4⟩ ← ensureText marketId "market_id"
  let ⟨h5⟩ ← ensureText outcomeId "outcome_id"
  let quantity ← asDecimal quantity
  let limitPrice ← asDecimal limitPrice
  let ⟨hq⟩ ← ensure (0 < quantity.val) (.valueError "order quantity must be positive")
  let ⟨hl⟩ ← ensure (0 < limitPrice.val ∧ limitPrice.val ≤ one)
    (.valueError "limit_price must be greater than zero and at most one")
  let ⟨hf⟩ ← ensure (0 ≤ feeReserve.amount.val)
    (.invariantViolation ("fee_reserve must not be negative: " ++ feeReserve.amount.text))
  let ⟨hs⟩ ← ensure (side = .sell → feeReserve.amount.val = 0)
    (.invariantViolation "sell orders must not reserve cash fees")
  return ⟨intentId, strategyId, decisionId, marketId, outcomeId, side, quantity, limitPrice,
    feeReserve, createdAt, h1, h2, h3, h4, h5, hq, hl, hf, hs⟩

/-- An intent is constructed from its own fields. -/
theorem new_self (i : OrderIntent) :
    new i.intentId i.strategyId i.decisionId i.marketId i.outcomeId i.side i.quantity.toDecimal
      i.limitPrice.toDecimal i.feeReserve i.createdAt = .ok i := by
  simp only [new, ensureText, asDecimal_toDecimal, ok_bind, ensure_bind_eq_ok]
  exact ⟨i.intentId_text, i.strategyId_text, i.decisionId_text, i.marketId_text, i.outcomeId_text,
    i.quantity_pos, i.limitPrice_range, i.feeReserve_nonneg, i.sell_feeReserve, rfl⟩

/-- `OrderIntent.limit_notional`. -/
def limitNotional (i : OrderIntent) : Except Error Money :=
  moneyFromUnitPrice i.limitPrice i.quantity i.feeReserve.currency

/-- `OrderIntent.cash_reservation`. -/
def cashReservation (i : OrderIntent) : Except Error Money :=
  if i.side = .sell then return Money.zero i.feeReserve.currency
  else do
    let notional ← i.limitNotional
    notional.add i.feeReserve

/-- The position an intent is for. -/
def key (i : OrderIntent) : String × String := (i.marketId, i.outcomeId)

/-- `==` of order intents. -/
def PyEq (a b : OrderIntent) : Prop :=
  a.intentId = b.intentId ∧ a.strategyId = b.strategyId ∧ a.decisionId = b.decisionId ∧
    a.marketId = b.marketId ∧ a.outcomeId = b.outcomeId ∧ a.side = b.side ∧
    a.quantity = b.quantity ∧ a.limitPrice = b.limitPrice ∧ a.feeReserve = b.feeReserve ∧
    a.createdAt.SameInstant b.createdAt

instance (a b : OrderIntent) : Decidable (PyEq a b) :=
  inferInstanceAs (Decidable (_ ∧ _ ∧ _ ∧ _ ∧ _ ∧ _ ∧ _ ∧ _ ∧ _ ∧ _))

theorem PyEq.refl (a : OrderIntent) : PyEq a a :=
  ⟨rfl, rfl, rfl, rfl, rfl, rfl, rfl, rfl, rfl, rfl⟩

end OrderIntent

/-! ## Orders -/

/-- `OrderAggregate` (`model.py`, 281-317). -/
structure OrderAggregate where
  intent : OrderIntent
  state : OrderState
  filledQuantity : Micros
  grossValue : Money
  fees : Money
  reservedCash : Money
  reservedQuantity : Micros
  backendOrderId : Option String
  terminalReason : Option String
  unknownReason : Option String
  fillFingerprints : Dict String String

namespace OrderAggregate

/-- `OrderAggregate.new`. -/
def new (intent : OrderIntent) : Except Error OrderAggregate := do
  let currency := intent.feeReserve.currency
  let reservedCash ← intent.cashReservation
  return {
    intent
    state := .created
    filledQuantity := Micros.zero
    grossValue := Money.zero currency
    fees := Money.zero currency
    reservedCash
    reservedQuantity := if intent.side = .sell then intent.quantity else Micros.zero
    backendOrderId := none
    terminalReason := none
    unknownReason := none
    fillFingerprints := Dict.empty
  }

/-- `OrderAggregate.remaining_quantity`. -/
def remainingQuantity (o : OrderAggregate) : Except Error Micros :=
  quantize (o.intent.quantity - o.filledQuantity)

/-- The position an order is for. -/
def key (o : OrderAggregate) : String × String := o.intent.key

/-- An order in a state that is not terminal. -/
def Live (o : OrderAggregate) : Prop := o.state.isTerminal = false

instance (o : OrderAggregate) : Decidable o.Live :=
  inferInstanceAs (Decidable (o.state.isTerminal = false))

end OrderAggregate

/-! ## Positions -/

/-- `Position` (`model.py`, 320-344). -/
structure Position where
  marketId : String
  outcomeId : String
  quantity : Micros
  reservedQuantity : Micros
  costBasis : Money
  realizedPnl : Money
  status : PositionStatus
  settlementPayout : Option Micros
deriving DecidableEq

namespace Position

/-- `Position.empty`. -/
def empty (marketId outcomeId currency : String) : Position where
  marketId := marketId
  outcomeId := outcomeId
  quantity := Micros.zero
  reservedQuantity := Micros.zero
  costBasis := Money.zero currency
  realizedPnl := Money.zero currency
  status := .open
  settlementPayout := none

/-- `position_key` of a position. -/
def key (p : Position) : String × String := (p.marketId, p.outcomeId)

/-- `Position.available_quantity`. -/
def availableQuantity (p : Position) : Except Error Micros :=
  quantize (p.quantity - p.reservedQuantity)

end Position

/-! ## Market resolutions -/

/-- `OutcomePayout` (`model.py`, 347-356). Its outcome identifier is not checked. -/
@[ext] structure OutcomePayout where
  outcomeId : String
  payout : Micros
  payout_range : 0 ≤ payout.val ∧ payout.val ≤ one
deriving DecidableEq

namespace OutcomePayout

/-- `OutcomePayout.__post_init__`. -/
def new (outcomeId : String) (payout : Decimal) : Except Error OutcomePayout := do
  let payout ← asDecimal payout
  let ⟨h⟩ ← ensure (0 ≤ payout.val ∧ payout.val ≤ one)
    (.valueError "outcome payout must be between zero and one")
  return ⟨outcomeId, payout, h⟩

theorem new_self (p : OutcomePayout) : new p.outcomeId p.payout.toDecimal = .ok p := by
  rw [new, asDecimal_toDecimal, ok_bind, ensure_bind_eq_ok]
  exact ⟨p.payout_range, rfl⟩

end OutcomePayout

/-- `MarketResolution` (`model.py`, 359-378). -/
structure MarketResolution where
  marketId : String
  payouts : List OutcomePayout
  resolvedAt : DateTime
  marketId_text : isBlank marketId = false
  payouts_ne : payouts ≠ []
  payouts_nodup : (payouts.map OutcomePayout.outcomeId).Nodup
deriving DecidableEq

namespace MarketResolution

/-- `MarketResolution.__post_init__`. -/
def new (marketId : String) (payouts : List OutcomePayout) (resolvedAt : DateTime) :
    Except Error MarketResolution := do
  let ⟨hm⟩ ← ensureText marketId "market_id"
  let ⟨hne⟩ ← ensure (payouts ≠ [])
    (.valueError "market resolution requires at least one outcome payout")
  let ⟨hnd⟩ ← ensure ((payouts.map OutcomePayout.outcomeId).Nodup)
    (.valueError "market resolution contains duplicate outcome payouts")
  return ⟨marketId, payouts, resolvedAt, hm, hne, hnd⟩

theorem new_self (r : MarketResolution) : new r.marketId r.payouts r.resolvedAt = .ok r := by
  simp only [new, ensureText, ensure_bind_eq_ok]
  exact ⟨r.marketId_text, r.payouts_ne, r.payouts_nodup, rfl⟩

/-- `MarketResolution.payout_for`. -/
def payoutFor (r : MarketResolution) (outcomeId : String) : Except Error Micros :=
  match r.payouts.find? fun p => p.outcomeId = outcomeId with
  | some p => return p.payout
  | none => throw (.invariantViolation ("resolution has no payout for outcome " ++ outcomeId))

/-- `==` of market resolutions. -/
def PyEq (a b : MarketResolution) : Prop :=
  a.marketId = b.marketId ∧ a.payouts = b.payouts ∧ a.resolvedAt.SameInstant b.resolvedAt

instance (a b : MarketResolution) : Decidable (PyEq a b) :=
  inferInstanceAs (Decidable (_ ∧ _ ∧ _))

end MarketResolution

end WeatherBot.Domain
