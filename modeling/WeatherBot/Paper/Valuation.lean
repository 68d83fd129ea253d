import WeatherBot.Domain.Reducers
import WeatherBot.Quoting.Evaluator

/-!
# Paper valuation

`paper/valuation.py`: marks at executable bids, and the status report of a paper
account. Money built from a number is in the ledger's currency, which is in
normal form.

* `buildPaperValuation`: a mark for every open position.
* `paperStatus`: the report over a state, the events before it and a valuation.
-/

namespace WeatherBot.Paper

open WeatherBot.Common
open WeatherBot.Domain
open WeatherBot.Markets
open WeatherBot.Quoting

/-- `Money.of`. -/
def moneyOf (amount : Decimal) (currency : String) : Except Error Money := do
  let amount ← asDecimal amount
  return ⟨amount, currency⟩

/-! ## Freshness -/

/-- `OrderBookSnapshot.require_fresh` (`orderbook.py`, 148-162). -/
def requireFresh (book : OrderBookSnapshot Decimal) (now : DateTime) (maximumAge : ℤ) :
    Except MarketError Unit := do
  raiseIf (maximumAge ≤ 0) (.orderBookError "maximum order-book age must be positive")
  let now ← (astimezoneUtc now).mapError .raised
  let age := now.instant - book.observedAt.instant
  raiseIf (age < -(5 * secondMicros))
    (.orderBookError "order-book timestamp is unexpectedly in the future")
  raiseIf (maximumAge < age)
    (.orderBookError ("order book is stale by " ++ fixedThree (totalSeconds age) ++ " seconds"))

/-! ## Liquidation values -/

/-- What is left to sell, and what the bids so far pay. -/
structure Liquidation where
  remaining : Decimal
  gross : Decimal

/-- The loop over the bids. -/
def Liquidation.run (l : Liquidation) : List (OrderLevel Decimal) → Liquidation
  | [] => l
  | level :: levels =>
    let take := pyMin l.remaining level.size
    let l := if 0 < take then ⟨l.remaining - take, l.gross + take * level.price⟩ else l
    if l.remaining ≤ 0 then l else l.run levels

/-- `_liquidation_value` (`valuation.py`, 28-53). -/
def liquidationValue (quantity : Micros) (book : OrderBookSnapshot Decimal)
    (policy : CostPolicy Decimal) (currency : String) : Except Error Money := do
  let sold := Liquidation.run ⟨quantity.toDecimal, 0⟩ book.allBids
  if sold.gross ≤ 0 then return Money.zero currency
  else do
    let grossMoney ← moneyOf sold.gross currency
    let variableFee ← grossMoney.scale policy.platformFeeRate
    let fixedFee ← moneyOf policy.transactionCost currency
    let fee ← variableFee.add fixedFee
    if grossMoney.amount.val ≤ fee.amount.val then return Money.zero currency
    else grossMoney.sub fee

/-! ## Valuation -/

/-- An exception of this module: an `OrderBookError`, or another one. -/
inductive PaperError where
  | orderBookError (message : String)
  | raised (error : Error)
deriving DecidableEq

/-- An exception of an order book, seen from here. -/
def PaperError.ofMarket : MarketError → PaperError
  | .orderBookError message => .orderBookError message
  | .raised e => .raised e

/-- The order of the position keys. -/
def keyLe (a b : (String × String) × Position) : Prop :=
  a.1.1 < b.1.1 ∨ (a.1.1 = b.1.1 ∧ a.1.2 ≤ b.1.2)

instance (a b : (String × String) × Position) : Decidable (keyLe a b) :=
  inferInstanceAs (Decidable (_ ∨ _))

/-- The mark of one open position (`valuation.py`, 77-98). -/
def markPosition (s : LedgerState) (books : Dict (String × String) (OrderBookSnapshot Decimal))
    (policy : CostPolicy Decimal) (observedAt : DateTime) (maximumBookAge : ℤ)
    (entry : (String × String) × Position) : Except PaperError PositionValuation := do
  match books.get? entry.1 with
  | none => throw (.raised
      (.valueError ("paper valuation is missing a book for " ++ entry.1.1 ++ "/" ++ entry.1.2)))
  | some book => do
    (requireFresh book observedAt maximumBookAge).mapError .ofMarket
    let value ← (liquidationValue entry.2.quantity book policy s.currency).mapError .raised
    (PositionValuation.new entry.2.marketId entry.2.outcomeId entry.2.quantity.toDecimal value
      book.observedAt).mapError .raised

/-- `market_value`. -/
def marketValue (currency : String) (marks : List PositionValuation) : Except Error Money :=
  marks.foldlM (fun total mark => total.add mark.liquidationValue) (Money.zero currency)

/-- `build_paper_valuation` (`valuation.py`, 56-106). -/
def buildPaperValuation (s : LedgerState)
    (books : Dict (String × String) (OrderBookSnapshot Decimal)) (policy : CostPolicy Decimal)
    (observedAt : DateTime) (maximumBookAge : ℤ) : Except PaperError PortfolioValuation := do
  let observedAt ← (astimezoneUtc observedAt).mapError .raised
  s.assertInvariants.mapError .raised
  let marks ← (s.openPositions.insertionSort keyLe).mapM
    (markPosition s books policy observedAt maximumBookAge)
  let value ← (marketValue s.currency marks).mapError .raised
  let equity ← (s.cash.add value).mapError .raised
  (PortfolioValuation.new marks equity observedAt
    "paper:bid-side-size-aware-net-exit-fees").mapError .raised

/-! ## Status -/

/-- `PaperStatus` (`paper/model.py`, 245-258). -/
structure PaperStatus where
  startingCash : Money
  cash : Money
  reservedCash : Money
  availableCash : Money
  marketValue : Money
  realizedPnl : Money
  unrealizedPnl : Money
  fees : Money
  exposure : Money
  equity : Money
  highWaterMark : Money
  drawdown : Money
  openPositions : ℤ
deriving DecidableEq

/-- The amounts whose currency is compared with that of the starting cash. -/
def PaperStatus.amounts (p : PaperStatus) : List Money :=
  [p.cash, p.reservedCash, p.availableCash, p.marketValue, p.realizedPnl, p.unrealizedPnl, p.fees,
    p.exposure, p.equity, p.highWaterMark, p.drawdown]

/-- `PaperStatus.__post_init__` (`paper/model.py`, 260-278). -/
def PaperStatus.new (p : PaperStatus) : Except Error PaperStatus := do
  forM p.amounts fun value =>
    raiseIf (value.currency ≠ p.startingCash.currency) (.valueError "paper status mixes currencies")
  raiseIf (p.openPositions < 0) (.valueError "paper status open_positions must not be negative")
  return p

/-- `initial_cash` and `high_water_amount`. -/
structure AccountHistory where
  initialCash : Option Money
  highWaterAmount : Option Micros

/-- `max`. -/
def maxMicros (a b : Micros) : Micros := if a.val < b.val then b else a

/-- The loop over the events (`valuation.py`, 118-126). -/
def AccountHistory.add (s : LedgerState) (h : AccountHistory) :
    LedgerEvent → Except Error AccountHistory
  | .accountOpened e =>
    match h.initialCash with
    | none => return ⟨some e.initialCash, some e.initialCash.amount⟩
    | some _ => return h
  | .portfolioValuationRecorded e => do
    raiseIf (e.valuation.equity.currency ≠ s.currency)
      (.valueError "historical paper valuation uses another currency")
    return { h with
      highWaterAmount := some (h.highWaterAmount.elim e.valuation.equity.amount
        (maxMicros · e.valuation.equity.amount)) }
  | _ => return h

/-- `realized`, `open_cost_basis` and `open_positions`. -/
structure PositionTotals where
  realized : Money
  openCostBasis : Money
  openPositions : ℤ

/-- The loop over the positions (`valuation.py`, 135-142). -/
def PositionTotals.add (t : PositionTotals) (position : Position) : Except Error PositionTotals := do
  let realized ← t.realized.add position.realizedPnl
  if position.status = .open ∧ 0 < position.quantity.val then do
    let openCostBasis ← t.openCostBasis.add position.costBasis
    return ⟨realized, openCostBasis, t.openPositions + 1⟩
  else return { t with realized }

/-- A BUY order whose reservation counts. -/
def activeBuy (order : OrderAggregate) : Prop := order.intent.side = .buy ∧ order.Live

instance (order : OrderAggregate) : Decidable (activeBuy order) :=
  inferInstanceAs (Decidable (_ ∧ _))

/-- `paper_status` (`valuation.py`, 109-170). -/
def paperStatus (s : LedgerState) (events : List LedgerEvent) (valuation : PortfolioValuation) :
    Except Error PaperStatus := do
  s.assertInvariants
  let history ← events.foldlM (AccountHistory.add s) ⟨none, none⟩
  match history.initialCash, history.highWaterAmount with
  | some initialCash, some highWaterAmount => do
    raiseIf (valuation.equity.currency ≠ s.currency)
      (.valueError "paper status valuation uses another currency")
    let value ← marketValue s.currency valuation.positions
    let totals ← s.positions.values.foldlM PositionTotals.add
      ⟨Money.zero s.currency, Money.zero s.currency, 0⟩
    let fees ← s.orders.values.foldlM (fun total order => total.add order.fees)
      (Money.zero s.currency)
    let activeBuyReservations ← (s.orders.values.filter activeBuy).foldlM
      (fun total order => total.add order.reservedCash) (Money.zero s.currency)
    let exposure ← totals.openCostBasis.add activeBuyReservations
    let unrealized ← value.sub totals.openCostBasis
    let highWater := maxMicros highWaterAmount valuation.equity.amount
    let drawdown ← quantize (max 0 (highWater - valuation.equity.amount))
    let availableCash ← s.availableCash
    PaperStatus.new {
      startingCash := initialCash
      cash := s.cash
      reservedCash := s.reservedCash
      availableCash
      marketValue := value
      realizedPnl := totals.realized
      unrealizedPnl := unrealized
      fees
      exposure
      equity := valuation.equity
      highWaterMark := ⟨highWater, s.currency⟩
      drawdown := ⟨drawdown, s.currency⟩
      openPositions := totals.openPositions }
  | _, _ => throw (.valueError "paper status requires an initialized ledger")

end WeatherBot.Paper
