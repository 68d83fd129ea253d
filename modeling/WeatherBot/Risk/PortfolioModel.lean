import WeatherBot.Common.PyObject
import WeatherBot.Domain.Reducers

/-!
# Portfolio risk contracts

The records of `risk/portfolio_model.py`.

* `PortfolioRiskPolicy`: positive limits in one currency.
* `PortfolioRiskDecision`: the decision on one proposed BUY, with what it rests on.
-/

namespace WeatherBot.Risk

open WeatherBot.Common
open WeatherBot.Domain

/-- `PortfolioRiskRejectionReason` (`portfolio_model.py`, 19-31). -/
inductive PortfolioRiskRejectionReason where
  | invalidInput
  | valuationMismatch
  | staleValuation
  | missingScope
  | duplicateExposure
  | maxOpenPositions
  | totalExposure
  | eventExposure
  | cityDateExposure
  | correlationExposure
  | dailyLoss
  | drawdown
deriving DecidableEq

/-- `PortfolioRiskRejectionReason.value`. -/
def PortfolioRiskRejectionReason.value : PortfolioRiskRejectionReason → String
  | invalidInput => "invalid_input"
  | valuationMismatch => "valuation_mismatch"
  | staleValuation => "stale_valuation"
  | missingScope => "missing_scope"
  | duplicateExposure => "duplicate_exposure"
  | maxOpenPositions => "max_open_positions"
  | totalExposure => "total_exposure"
  | eventExposure => "event_exposure"
  | cityDateExposure => "city_date_exposure"
  | correlationExposure => "correlation_exposure"
  | dailyLoss => "daily_loss"
  | drawdown => "drawdown"

/-! ## Policies -/

/-- The money limits of a policy, with their labels. -/
structure PortfolioLimits where
  maximumTotalExposure : Money
  maximumEventExposure : Money
  maximumCityDateExposure : Money
  maximumCorrelationGroupExposure : Money
  maximumDailyLoss : Money
  maximumDrawdown : Money

/-- `limits` of `PortfolioRiskPolicy.__post_init__`. -/
def PortfolioLimits.labelled (l : PortfolioLimits) : List (String × Money) :=
  [("maximum_total_exposure", l.maximumTotalExposure),
    ("maximum_event_exposure", l.maximumEventExposure),
    ("maximum_city_date_exposure", l.maximumCityDateExposure),
    ("maximum_correlation_group_exposure", l.maximumCorrelationGroupExposure),
    ("maximum_daily_loss", l.maximumDailyLoss),
    ("maximum_drawdown", l.maximumDrawdown)]

/-- One limit of a policy in a currency. -/
def checkLimit (currency : String) (limit : String × Money) : Except Error Unit := do
  raiseIf (limit.2.amount.val ≤ 0) (.valueError (limit.1 ++ " must be positive"))
  raiseIf (limit.2.currency ≠ currency) (.valueError "portfolio risk policy mixes currencies")

/-- `PortfolioRiskPolicy` (`portfolio_model.py`, 34-77). -/
structure PortfolioRiskPolicy extends PortfolioLimits where
  maximumOpenPositions : ℤ
  /-- In microseconds, as the tolerance. -/
  maximumValuationAge : ℤ
  futureTolerance : ℤ
  lossTimezone : String
  limits_checked :
    (toPortfolioLimits.labelled.forM (checkLimit maximumTotalExposure.currency)) = .ok ()
  maximumOpenPositions_pos : 0 < maximumOpenPositions
  maximumValuationAge_pos : 0 < maximumValuationAge
  futureTolerance_nonneg : 0 ≤ futureTolerance
  lossTimezone_text : isBlank lossTimezone = false

namespace PortfolioRiskPolicy

/-- `PortfolioRiskPolicy.__post_init__`. -/
def new (limits : PortfolioLimits) (maximumOpenPositions maximumValuationAge futureTolerance : ℤ)
    (lossTimezone : String) : Except Error PortfolioRiskPolicy := do
  let ⟨hl⟩ ← keepOk (limits.labelled.forM (checkLimit limits.maximumTotalExposure.currency))
  let ⟨hp⟩ ← ensure (0 < maximumOpenPositions)
    (.valueError "maximum_open_positions must be a positive integer")
  let ⟨ha⟩ ← ensure (0 < maximumValuationAge) (.valueError "maximum_valuation_age must be positive")
  let ⟨ht⟩ ← ensure (0 ≤ futureTolerance) (.valueError "future_tolerance must not be negative")
  let ⟨hz⟩ ← ensureText lossTimezone "loss_timezone"
  return ⟨limits, maximumOpenPositions, maximumValuationAge, futureTolerance, lossTimezone, hl, hp, ha,
    ht, hz⟩

/-- `PortfolioRiskPolicy.currency`. -/
def currency (p : PortfolioRiskPolicy) : String := p.maximumTotalExposure.currency

/-- Every limit is positive. -/
theorem limit_pos (p : PortfolioRiskPolicy) {limit : String × Money}
    (h : limit ∈ p.toPortfolioLimits.labelled) : 0 < limit.2.amount.val := by
  have hcheck := forM_eq_ok.mp p.limits_checked limit h
  rw [checkLimit, raiseIf_bind_eq_ok, not_le] at hcheck
  exact hcheck.1

theorem maximumDailyLoss_pos (p : PortfolioRiskPolicy) : 0 < p.maximumDailyLoss.amount.val :=
  have hmem : ("maximum_daily_loss", p.maximumDailyLoss) ∈ p.toPortfolioLimits.labelled := by
    simp [PortfolioLimits.labelled]
  p.limit_pos hmem

theorem maximumDrawdown_pos (p : PortfolioRiskPolicy) : 0 < p.maximumDrawdown.amount.val :=
  have hmem : ("maximum_drawdown", p.maximumDrawdown) ∈ p.toPortfolioLimits.labelled := by
    simp [PortfolioLimits.labelled]
  p.limit_pos hmem

end PortfolioRiskPolicy

/-! ## Decisions -/

/-- `CorrelationExposure` (`portfolio_model.py`, 80-92). -/
structure CorrelationExposure where
  group : String
  before : Money
  after : Money
deriving DecidableEq

/-- `CorrelationExposure.__post_init__`. -/
def CorrelationExposure.new (group : String) (before after : Money) :
    Except Error CorrelationExposure := do
  raiseIf (isBlank group = true) (.valueError "correlation group must not be blank")
  raiseIf (before.currency ≠ after.currency)
    (.valueError "correlation exposure mixes currencies")
  raiseIf (before.amount.val < 0 ∨ after.amount.val < 0)
    (.valueError "correlation exposure must not be negative")
  return ⟨group, before, after⟩

/-- `_DecisionInputs` (`portfolio.py`, 35-54), the fields that a decision takes over. -/
structure DecisionInputs where
  proposedScope : RiskScope
  proposedCash : Money
  totalExposureBefore : Money
  totalExposureAfter : Money
  eventExposureBefore : Money
  eventExposureAfter : Money
  cityDateExposureBefore : Money
  cityDateExposureAfter : Money
  correlationExposures : List CorrelationExposure
  openPositionsBefore : ℤ
  openPositionsAfter : ℤ
  realizedPnlToday : Money
  unrealizedPnl : Money
  dailyPnl : Money
  dailyLoss : Money
  currentEquity : Money
  highWaterMark : Money
  drawdown : Money

/-- `PortfolioRiskDecision` (`portfolio_model.py`, 95-121). -/
structure PortfolioRiskDecision extends DecisionInputs where
  status : RiskDecisionStatus
  rejectionReason : Option PortfolioRiskRejectionReason
  detail : Option String
  missingScopeKeys : List String

namespace PortfolioRiskDecision

variable (d : PortfolioRiskDecision)

/-- The amounts whose currency is compared with that of the proposed cash. -/
def amounts : List Money :=
  [d.totalExposureBefore, d.totalExposureAfter, d.eventExposureBefore, d.eventExposureAfter,
    d.cityDateExposureBefore, d.cityDateExposureAfter, d.realizedPnlToday, d.unrealizedPnl, d.dailyPnl,
    d.dailyLoss, d.currentEquity, d.highWaterMark, d.drawdown]

/-- The amounts that must not be negative. -/
def nonnegativeAmounts : List Money :=
  [d.totalExposureBefore, d.totalExposureAfter, d.eventExposureBefore, d.eventExposureAfter,
    d.cityDateExposureBefore, d.cityDateExposureAfter, d.dailyLoss, d.currentEquity, d.highWaterMark,
    d.drawdown]

/-- The status against the reason (`portfolio_model.py`, 159-165). -/
def checkStatus : Except Error Unit :=
  match d.status with
  | .approved => do
    raiseIf (d.rejectionReason ≠ none)
      (.valueError "approved portfolio risk decision cannot have rejection reason")
    raiseIf (d.proposedCash.amount.val = 0)
      (.valueError "approved portfolio risk decision requires positive cash")
  | .rejected =>
    raiseIf (d.rejectionReason = none)
      (.valueError "rejected portfolio risk decision requires rejection reason")

/-- `PortfolioRiskDecision.__post_init__`. -/
def new (d : PortfolioRiskDecision) : Except Error PortfolioRiskDecision := do
  raiseIf (∃ amount ∈ d.amounts, amount.currency ≠ d.proposedCash.currency)
    (.valueError "portfolio risk decision mixes currencies")
  raiseIf (d.proposedCash.amount.val < 0) (.valueError "proposed cash must not be negative")
  raiseIf (∃ amount ∈ d.nonnegativeAmounts, amount.amount.val < 0)
    (.valueError "nonnegative portfolio risk amount became negative")
  raiseIf (d.openPositionsBefore < 0 ∨ d.openPositionsAfter < 0)
    (.valueError "open position counts must not be negative")
  d.checkStatus
  return d

/-- A decision is the record that it is constructed from. -/
theorem eq_of_new {d d' : PortfolioRiskDecision} (h : d.new = .ok d') : d' = d := by
  rw [new, raiseIf_bind_eq_ok, raiseIf_bind_eq_ok, raiseIf_bind_eq_ok, raiseIf_bind_eq_ok,
    check_bind_eq_ok] at h
  obtain ⟨-, -, -, -, -, h⟩ := h
  cases h
  rfl

/-- `PortfolioRiskDecision.metadata`. -/
def metadata (rt : Runtime) : List (String × PyObject) :=
  [("portfolio_risk_status", .str d.status.value),
    ("portfolio_risk_rejection_reason", .optionalText (d.rejectionReason.map (·.value))),
    ("portfolio_risk_detail", .optionalText d.detail),
    ("portfolio_risk_market_id", .str d.proposedScope.marketId),
    ("portfolio_risk_outcome_id", .str d.proposedScope.outcomeId),
    ("portfolio_risk_event_id", .str d.proposedScope.eventId),
    ("portfolio_risk_city_key", .str d.proposedScope.cityKey),
    ("portfolio_risk_market_date", .str d.proposedScope.marketDate.isoformat),
    ("portfolio_risk_correlation_groups",
      .sequence ((d.proposedScope.allCorrelationGroups rt).map .str)),
    ("portfolio_risk_proposed_cash", .str d.proposedCash.amount.text),
    ("portfolio_risk_total_exposure_before", .str d.totalExposureBefore.amount.text),
    ("portfolio_risk_total_exposure_after", .str d.totalExposureAfter.amount.text),
    ("portfolio_risk_event_exposure_before", .str d.eventExposureBefore.amount.text),
    ("portfolio_risk_event_exposure_after", .str d.eventExposureAfter.amount.text),
    ("portfolio_risk_city_date_exposure_before", .str d.cityDateExposureBefore.amount.text),
    ("portfolio_risk_city_date_exposure_after", .str d.cityDateExposureAfter.amount.text),
    ("portfolio_risk_correlation_exposure", .dict (d.correlationExposures.map fun item =>
      (item.group, .dict [("before", .str item.before.amount.text),
        ("after", .str item.after.amount.text)]))),
    ("portfolio_risk_open_positions_before", .int d.openPositionsBefore),
    ("portfolio_risk_open_positions_after", .int d.openPositionsAfter),
    ("portfolio_risk_realized_pnl_today", .str d.realizedPnlToday.amount.text),
    ("portfolio_risk_unrealized_pnl", .str d.unrealizedPnl.amount.text),
    ("portfolio_risk_daily_pnl", .str d.dailyPnl.amount.text),
    ("portfolio_risk_daily_loss", .str d.dailyLoss.amount.text),
    ("portfolio_risk_current_equity", .str d.currentEquity.amount.text),
    ("portfolio_risk_high_water_mark", .str d.highWaterMark.amount.text),
    ("portfolio_risk_drawdown", .str d.drawdown.amount.text),
    ("portfolio_risk_missing_scope_keys", .sequence (d.missingScopeKeys.map .str))]

end PortfolioRiskDecision

end WeatherBot.Risk
