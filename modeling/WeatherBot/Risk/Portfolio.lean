import WeatherBot.Risk.DailyLoss
import WeatherBot.Risk.PortfolioModel

/-!
# Portfolio risk

`evaluate_portfolio_risk` (`risk/portfolio.py`): one new BUY against the exposure,
the losses and the marks of the ledger.
-/

namespace WeatherBot.Risk

open WeatherBot.Common
open WeatherBot.Domain
open WeatherBot.Ledger

/-! ## Scopes and exposure -/

/-- One event of `_risk_scopes`. -/
def addScope (scopes : Dict (String × String) RiskScope) (event : LedgerEvent) :
    Except Error (Dict (String × String) RiskScope) :=
  match event with
  | .riskScopeRegistered e => do
    let key := e.scope.positionKey
    raiseIf (∃ existing ∈ scopes.get? key, existing ≠ e.scope)
      (.valueError ("risk scope changed for " ++ key.1 ++ "/" ++ key.2))
    return scopes.insert key e.scope
  | _ => return scopes

/-- `_risk_scopes` (`portfolio.py`, 57-66). -/
def riskScopes (events : List LedgerEvent) : Except Error (Dict (String × String) RiskScope) :=
  events.foldlM addScope Dict.empty

/-- The order is a BUY that is not terminal. -/
def LiveBuy (order : OrderAggregate) : Prop :=
  order.intent.side = .buy ∧ order.state.isTerminal = false

instance : DecidablePred LiveBuy := fun _ => inferInstanceAs (Decidable (_ ∧ _))

/-- One order of `_exposure_by_position`. -/
def addReservation (s : LedgerState) (exposure : Dict (String × String) Money)
    (order : OrderAggregate) : Except Error (Dict (String × String) Money) :=
  if LiveBuy order then do
    let amount ← ((exposure.get? order.key).getD (Money.zero s.currency)).add order.reservedCash
    return exposure.insert order.key amount
  else return exposure

/-- The positions of `_exposure_by_position`. -/
def openExposure (s : LedgerState) : Dict (String × String) Money :=
  s.openPositions.foldl (fun exposure entry => exposure.insert entry.1 entry.2.costBasis) Dict.empty

/-- `_exposure_by_position` (`portfolio.py`, 69-81). -/
def exposureByPosition (s : LedgerState) : Except Error (Dict (String × String) Money) :=
  s.orders.values.foldlM (addReservation s) (openExposure s)

/-- `missing_keys`. -/
def missingKeys (exposure : Dict (String × String) Money)
    (scopes : Dict (String × String) RiskScope) : List String :=
  ((exposure.keys.filter fun key => scopes.get? key = none).map fun key =>
    key.1 ++ "/" ++ key.2).insertionSort (· ≤ ·)

/-- `scoped_exposure`. -/
def scopedExposure (s : LedgerState) (exposure : Dict (String × String) Money)
    (scopes : Dict (String × String) RiskScope) (P : RiskScope → Prop) [DecidablePred P] :
    Except Error Money :=
  let inScope := exposure.entries.filter fun (entry : (String × String) × Money) =>
    ∃ scope ∈ scopes.get? entry.1, P scope
  sumMoney (inScope.map Prod.snd) s.currency

/-- The exposure of one correlation group (`portfolio.py`, 282-291). -/
def correlationExposure (rt : Runtime) (s : LedgerState) (exposure : Dict (String × String) Money)
    (scopes : Dict (String × String) RiskScope) (proposedCash : Money) (group : String) :
    Except Error CorrelationExposure := do
  let before ← scopedExposure s exposure scopes fun scope => group ∈ scope.allCorrelationGroups rt
  let after ← before.add proposedCash
  CorrelationExposure.new group before after

/-! ## Valuations -/

/-- `value + delta`; the offset stays. -/
def addDelta (value : DateTime) (delta : ℤ) : Except Error DateTime :=
  match DateTime.ofInstant (value.civilMicros + delta) with
  | some wall => return { wall with
      utcoffset := value.utcoffset
      valid := ⟨wall.valid.1, wall.valid.2.1, wall.valid.2.2.1, wall.valid.2.2.2.1,
        value.valid.2.2.2.2⟩ }
  | none => throw ⟨.overflowError, "date value out of range"⟩

/-- The checks of one mark (`portfolio.py`, 151-159). -/
def markError (s : LedgerState) (evaluatedAt : DateTime) (policy : PortfolioRiskPolicy)
    (entry : (String × String) × Position) (mark : PositionValuation) :
    Except Error (Option String) :=
  let name := entry.1.1 ++ "/" ++ entry.1.2
  if mark.quantity ≠ entry.2.quantity then return some ("valuation quantity differs for " ++ name)
  else if mark.liquidationValue.currency ≠ s.currency then
    return some ("valuation currency differs for " ++ name)
  else do
    let latest ← addDelta evaluatedAt policy.futureTolerance
    if latest.instant < mark.observedAt.instant then
      return some ("valuation mark is unexpectedly in the future for " ++ name)
    else if policy.maximumValuationAge < evaluatedAt.instant - mark.observedAt.instant then
      return some ("valuation mark is stale for " ++ name)
    else return none

/-- The loop over the open positions (`portfolio.py`, 147-160): the first mark that is refused, or the
total of the liquidation values. -/
def liquidationTotal (s : LedgerState) (valuation : PortfolioValuation) (evaluatedAt : DateTime)
    (policy : PortfolioRiskPolicy) :
    List ((String × String) × Position) → Money → Except Error (Except String Money)
  | [], total => return .ok total
  | entry :: entries, total => do
    let mark ← valuation.markOf entry.1
    match ← markError s evaluatedAt policy entry mark with
    | some detail => return .error detail
    | none => do
      let total ← total.add mark.liquidationValue
      liquidationTotal s valuation evaluatedAt policy entries total

/-- `_validate_valuation` (`portfolio.py`, 125-164). -/
def validateValuation (s : LedgerState) (valuation : PortfolioValuation) (evaluatedAt : DateTime)
    (policy : PortfolioRiskPolicy) : Except Error (Option String) :=
  if valuation.equity.currency ≠ s.currency then
    return some "portfolio valuation currency differs from ledger currency"
  else do
    let latest ← addDelta evaluatedAt policy.futureTolerance
    if latest.instant < valuation.assembledAt.instant then
      return some "portfolio valuation was assembled in the future"
    else if policy.maximumValuationAge < evaluatedAt.instant - valuation.assembledAt.instant then
      return some "portfolio valuation is stale"
    else if ¬ valuation.Covers s.openPositions then
      return some "portfolio valuation does not cover exactly the open positions"
    else do
      match ← liquidationTotal s valuation evaluatedAt policy s.openPositions (Money.zero s.currency) with
      | .error detail => return some detail
      | .ok total => do
        let equity ← s.cash.add total
        if valuation.equity ≠ equity then
          return some "portfolio valuation equity does not reconcile to cash plus liquidation values"
        else return none

/-- One position of `_unrealized_pnl`. -/
def addUnrealized (valuation : PortfolioValuation) (total : Money)
    (entry : (String × String) × Position) : Except Error Money := do
  let mark ← valuation.markOf entry.1
  let change ← mark.liquidationValue.sub entry.2.costBasis
  total.add change

/-- `_unrealized_pnl` (`portfolio.py`, 167-174). -/
def unrealizedPnl (s : LedgerState) (valuation : PortfolioValuation) : Except Error Money :=
  s.openPositions.foldlM (addUnrealized valuation) (Money.zero s.currency)

/-- The initial cash of an `AccountOpened`. -/
def accountCash : LedgerEvent → Option Money
  | .accountOpened e => some e.initialCash
  | _ => none

/-- The equity of a valuation that was recorded by then. -/
def recordedEquity (evaluatedAt : DateTime) : LedgerEvent → Option Money
  | .portfolioValuationRecorded e =>
    if e.occurredAt.instant ≤ evaluatedAt.instant then some e.valuation.equity else none
  | _ => none

/-- `Money.of` of a number of millionths. -/
def moneyOfMicros (rt : Runtime) (n : ℤ) (currency : String) : Except Error Money :=
  Money.new rt (.ofScaled n quantumPlaces) currency

/-- `_high_water_mark` (`portfolio.py`, 177-200). -/
def highWaterMark (rt : Runtime) (events : List LedgerEvent) (currentEquity : Money)
    (evaluatedAt : DateTime) : Except Error Money :=
  match events.findSome? accountCash with
  | none => throw (.valueError "opened ledger has no AccountOpened event")
  | some initialCash => do
    let priorEquities := events.filterMap (recordedEquity evaluatedAt)
    raiseIf (initialCash.currency ≠ currentEquity.currency)
      (.valueError "initial cash currency differs from current equity")
    raiseIf (∃ equity ∈ priorEquities, equity.currency ≠ currentEquity.currency)
      (.valueError "historical valuation currency differs from current equity")
    moneyOfMicros rt ((priorEquities.map fun m => m.amount.val).foldl max
      (max initialCash.amount.val currentEquity.amount.val)) currentEquity.currency

/-! ## The evaluation -/

/-- What the evaluation finds out before it decides. -/
structure Assessment where
  inputs : DecisionInputs
  valuationError : Option String
  missingKeys : List String
  isDuplicate : Bool

/-- The unrealized profit, the equity and the high-water mark (`portfolio.py`, 306-317). -/
def marksOf (rt : Runtime) (s : LedgerState) (events : List LedgerEvent)
    (valuation : PortfolioValuation) (evaluatedAt : DateTime) (valuationError : Option String) :
    Except Error (Money × Money × Money) :=
  match valuationError with
  | none => do
    let unrealized ← unrealizedPnl s valuation
    let highWater ← highWaterMark rt events valuation.equity evaluatedAt
    return (unrealized, valuation.equity, highWater)
  | some _ => return (Money.zero s.currency, s.cash, s.cash)

section

variable (rt : Runtime) (zoneInfo : String → Option Zone)

/-- The first part of `evaluate_portfolio_risk` (`portfolio.py`, 249-342). -/
def assessPortfolio (s : LedgerState) (events : List LedgerEvent) (proposedScope : RiskScope)
    (proposedCash : Money) (valuation : PortfolioValuation) (policy : PortfolioRiskPolicy)
    (evaluatedAt : DateTime) : Except Error Assessment := do
  s.assertInvariants
  raiseIf (s.opened = false) (.valueError "portfolio risk requires an opened ledger")
  raiseIf (proposedCash.amount.val ≤ 0) (.valueError "proposed cash must be positive")
  raiseIf (proposedCash.currency ≠ s.currency ∨ policy.currency ≠ s.currency)
    (.valueError "portfolio risk inputs use a different currency from the ledger")
  let scopes ← riskScopes events
  raiseIf (∃ registered ∈ scopes.get? proposedScope.positionKey, registered ≠ proposedScope)
    (.valueError "proposed risk scope conflicts with durable registered scope")
  let exposure ← exposureByPosition s
  let totalBefore ← sumMoney exposure.values s.currency
  let totalAfter ← totalBefore.add proposedCash
  let openBefore := exposure.keys.length
  let isDuplicate := decide (proposedScope.positionKey ∈ exposure.keys)
  let eventBefore ← scopedExposure s exposure scopes fun scope => scope.eventId = proposedScope.eventId
  let eventAfter ← eventBefore.add proposedCash
  let cityDateBefore ← scopedExposure s exposure scopes fun scope =>
    scope.cityDateKey = proposedScope.cityDateKey
  let cityDateAfter ← cityDateBefore.add proposedCash
  let correlation ← (proposedScope.allCorrelationGroups rt).mapM
    (correlationExposure rt s exposure scopes proposedCash)
  let valuationError ← validateValuation s valuation evaluatedAt policy
  let realizedToday ← realizedPnlToday rt zoneInfo events s.currency evaluatedAt policy.lossTimezone
  let (unrealized, currentEquity, highWater) ← marksOf rt s events valuation evaluatedAt valuationError
  let dailyPnl ← realizedToday.add unrealized
  let dailyLoss ← moneyOfMicros rt (max 0 (-dailyPnl.amount.val)) s.currency
  let drawdown ← moneyOfMicros rt
    (max 0 (ctxRound (highWater.amount.val - currentEquity.amount.val))) s.currency
  return {
    inputs := {
      proposedScope
      proposedCash
      totalExposureBefore := totalBefore
      totalExposureAfter := totalAfter
      eventExposureBefore := eventBefore
      eventExposureAfter := eventAfter
      cityDateExposureBefore := cityDateBefore
      cityDateExposureAfter := cityDateAfter
      correlationExposures := correlation
      openPositionsBefore := openBefore
      openPositionsAfter := if isDuplicate then openBefore else openBefore + 1
      realizedPnlToday := realizedToday
      unrealizedPnl := unrealized
      dailyPnl
      dailyLoss
      currentEquity
      highWaterMark := highWater
      drawdown
    }
    valuationError
    missingKeys := missingKeys exposure scopes
    isDuplicate
  }

end

/-- What a rejection says. -/
structure Rejection where
  reason : PortfolioRiskRejectionReason
  detail : String
  missingScopeKeys : List String

/-- `part in text`. -/
def occursIn (part text : String) : Bool := decide (part.toList <:+: text.toList)

/-- The reason of a valuation that is refused (`portfolio.py`, 345-349). -/
def valuationReason (detail : String) : PortfolioRiskRejectionReason :=
  if occursIn "stale" detail || occursIn "future" detail then .staleValuation else .valuationMismatch

/-- The limits, in the order in which they are compared (`portfolio.py`, 344-420). -/
def Assessment.rejection (a : Assessment) (policy : PortfolioRiskPolicy) : Option Rejection :=
  match a.valuationError with
  | some detail => some ⟨valuationReason detail, detail, []⟩
  | none =>
    if a.missingKeys ≠ [] then
      some ⟨.missingScope, "existing exposure is missing durable portfolio risk scope", a.missingKeys⟩
    else if a.isDuplicate = true then
      some ⟨.duplicateExposure, "position key already has an open position or active BUY intent", []⟩
    else if policy.maximumDailyLoss.amount.val ≤ a.inputs.dailyLoss.amount.val then
      some ⟨.dailyLoss, "realized-today plus current unrealized loss reached the daily limit", []⟩
    else if policy.maximumDrawdown.amount.val ≤ a.inputs.drawdown.amount.val then
      some ⟨.drawdown, "current liquidation equity reached the drawdown limit", []⟩
    else if policy.maximumOpenPositions < a.inputs.openPositionsAfter then
      some ⟨.maxOpenPositions, "proposed exposure exceeds the maximum open-position count", []⟩
    else if policy.maximumTotalExposure.amount.val < a.inputs.totalExposureAfter.amount.val then
      some ⟨.totalExposure, "proposed exposure exceeds the total portfolio cap", []⟩
    else if policy.maximumEventExposure.amount.val < a.inputs.eventExposureAfter.amount.val then
      some ⟨.eventExposure, "proposed exposure exceeds the event cap", []⟩
    else if policy.maximumCityDateExposure.amount.val < a.inputs.cityDateExposureAfter.amount.val then
      some ⟨.cityDateExposure, "proposed exposure exceeds the city/date cap", []⟩
    else
      (a.inputs.correlationExposures.find? fun item =>
        policy.maximumCorrelationGroupExposure.amount.val < item.after.amount.val).map fun item =>
          ⟨.correlationExposure, "proposed exposure exceeds correlation cap for " ++ item.group, []⟩

/-- `_decision` (`portfolio.py`, 203-235). -/
def Assessment.decision (a : Assessment) (rejection : Option Rejection) :
    Except Error PortfolioRiskDecision :=
  match rejection with
  | none => PortfolioRiskDecision.new ⟨a.inputs, .approved, none, none, []⟩
  | some r => PortfolioRiskDecision.new
      ⟨a.inputs, .rejected, some r.reason, some r.detail, r.missingScopeKeys⟩

/-- `evaluate_portfolio_risk` (`portfolio.py`, 238-427). -/
def evaluatePortfolioRisk (rt : Runtime) (zoneInfo : String → Option Zone) (s : LedgerState)
    (events : List LedgerEvent) (proposedScope : RiskScope) (proposedCash : Money)
    (valuation : PortfolioValuation) (policy : PortfolioRiskPolicy) (evaluatedAt : DateTime) :
    Except Error PortfolioRiskDecision := do
  let a ← assessPortfolio rt zoneInfo s events proposedScope proposedCash valuation policy evaluatedAt
  a.decision (a.rejection policy)

end WeatherBot.Risk
