import WeatherBot.Common.Dict
import WeatherBot.Common.Float
import WeatherBot.Forecasting.Dataset
import WeatherBot.Markets.OrderBook

/-!
# Executable quotes

`quoting/model.py`, over any number type, and what it takes of a weather
snapshot. A `timedelta` is its number of microseconds. Numbers are finite and
texts are texts, so `as_decimal` returns its argument.

* `ValidatedExecutableQuote.new`: the consistency checks of a quote.
* `ValidatedExecutableQuote.fingerprint`: its identity, with the time of evaluation.
-/

namespace WeatherBot.Quoting

open WeatherBot.Common
open WeatherBot.Domain
open WeatherBot.Markets
open WeatherBot.Forecasting (DailyHighForecast)

/-- An exception of this module: `QuoteValidationError`, or another one. -/
inductive QuoteException where
  | quoteValidationError (message : String)
  | raised (error : Error)
deriving DecidableEq

/-- `as_utc` of an aware datetime. -/
def asUtc (value : DateTime) : Except QuoteException DateTime :=
  (astimezoneUtc value).mapError .raised

theorem asUtc_eq_ok {value t : DateTime} : asUtc value = .ok t ↔ value.astimezoneUtc = some t := by
  rw [asUtc, mapError_eq_ok, astimezoneUtc_eq_ok]

/-- `DepthPolicy`. -/
inductive DepthPolicy where
  | reject
  | reduce
deriving DecidableEq

def DepthPolicy.value : DepthPolicy → String
  | .reject => "reject"
  | .reduce => "reduce"

/-- `QuoteRejectionReason`. -/
inductive QuoteRejectionReason where
  | invalidInput
  | snapshotMismatch
  | staleForecast
  | staleEvent
  | staleOrderBook
  | staleBalance
  | insufficientBalance
  | insufficientDepth
  | belowMinimumOrder
  | priceExceeded
  | slippageExceeded
  | nonPositiveEdge
  | feeErasedEdge
  | expectedReturnBelowFloor
deriving DecidableEq

/-! ## Policies and snapshots -/

/-- `FreshnessPolicy` (`model.py`, 61-67), in microseconds. -/
structure FreshnessPolicy where
  maximumForecastAge : ℤ
  maximumEventAge : ℤ
  maximumOrderBookAge : ℤ
  maximumBalanceAge : ℤ
  futureTolerance : ℤ
deriving DecidableEq

/-- `FreshnessPolicy.__post_init__`. -/
def FreshnessPolicy.new (p : FreshnessPolicy) : Except QuoteException FreshnessPolicy := do
  forM [("maximum forecast age", p.maximumForecastAge), ("maximum event age", p.maximumEventAge),
    ("maximum order-book age", p.maximumOrderBookAge), ("maximum balance age", p.maximumBalanceAge)]
    fun age => raiseIf (age.2 ≤ 0) (.quoteValidationError (age.1 ++ " must be positive"))
  raiseIf (p.futureTolerance < 0) (.quoteValidationError "future tolerance must not be negative")
  return p

/-- `CostPolicy` (`model.py`, 83-92). -/
structure CostPolicy (α : Type) where
  platformFeeRate : α
  transactionCost : α
  safetyMarginRate : α
  maximumAverageSlippage : α
  maximumWorstSlippage : α
  maximumAllInPrice : α
  minimumExpectedReturn : α
  depthPolicy : DepthPolicy
deriving DecidableEq

/-- `MarketEventSnapshot` (`model.py`, 147-151). -/
structure MarketEventSnapshot where
  eventId : String
  retrievedAtUtc : DateTime
  sourceUpdatedAtUtc : Option DateTime
deriving DecidableEq

/-- `MarketEventSnapshot.__post_init__`. -/
def MarketEventSnapshot.new (e : MarketEventSnapshot) : Except QuoteException MarketEventSnapshot := do
  let eventId := strip e.eventId
  raiseIf (eventId = "") (.quoteValidationError "event id must not be blank")
  let retrievedAtUtc ← asUtc e.retrievedAtUtc
  let sourceUpdatedAtUtc ← e.sourceUpdatedAtUtc.mapM asUtc
  forM sourceUpdatedAtUtc.toList fun updated => do
    let latest ← (plus retrievedAtUtc (5 * secondMicros)).mapError .raised
    raiseIf (latest.instant < updated.instant)
      (.quoteValidationError "event source update time is later than retrieval time")
  return { eventId, retrievedAtUtc, sourceUpdatedAtUtc }

/-- `BalanceSnapshot` (`model.py`, 171-176). -/
structure BalanceSnapshot (α : Type) where
  availableCash : α
  reservedCash : α
  observedAtUtc : DateTime
  source : String

/-- A `DailyHighForecast` with its times. -/
structure IssuedForecast extends DailyHighForecast where
  snapshotIssuedAtUtc : DateTime
  retrievedAtUtc : DateTime

/-- `WeatherInputSnapshot` (`forecasting/model.py`, 176-182), without its observation. -/
structure WeatherInputSnapshot where
  forecast : IssuedForecast
  assembledAtUtc : DateTime

/-- `WeatherInputSnapshot.signal_temperature_f`. -/
def WeatherInputSnapshot.signalTemperatureF (w : WeatherInputSnapshot) : Decimal :=
  w.forecast.temperatureF

/-- `FreshnessCheck` (`model.py`, 197-202). -/
structure FreshnessCheck where
  label : String
  observedAtUtc : DateTime
  ageSeconds : ℚ
  maximumAgeSeconds : ℚ
deriving DecidableEq

/-- `FreshnessCheck.__post_init__`. -/
def FreshnessCheck.new (c : FreshnessCheck) : Except QuoteException FreshnessCheck := do
  let label := strip c.label
  raiseIf (label = "") (.quoteValidationError "freshness label must not be blank")
  let observedAtUtc ← asUtc c.observedAtUtc
  raiseIf (c.ageSeconds < 0 ∨ c.maximumAgeSeconds ≤ 0)
    (.quoteValidationError "freshness ages must be non-negative and bounded")
  return { c with label, observedAtUtc }

/-- `FreshnessCheck.fresh`. -/
def FreshnessCheck.Fresh (c : FreshnessCheck) : Prop := c.ageSeconds ≤ c.maximumAgeSeconds

instance (c : FreshnessCheck) : Decidable c.Fresh := inferInstanceAs (Decidable (_ ≤ _))

/-! ## Validated quotes -/

/-- The amounts of a quote: what an evaluation computes from the book and the policies. -/
structure QuoteAmounts (α : Type) where
  quote : ExecutableQuote α
  modelProbability : α
  requestedBudget : α
  bookBudgetLimit : α
  executableBudget : α
  platformFee : α
  transactionCost : α
  safetyMargin : α
  totalAllInCost : α
  allInAveragePrice : α
  grossExpectedPayout : α
  expectedProfit : α
  expectedReturn : α
  probabilityEdge : α
  averageSlippage : α
  worstSlippage : α
  depthReduced : Bool

/-- `ValidatedExecutableQuote` (`model.py`, 231-255). -/
structure ValidatedExecutableQuote (α : Type) extends QuoteAmounts α where
  freshnessPolicy : FreshnessPolicy
  costPolicy : CostPolicy α
  evaluatedAtUtc : DateTime
  eventId : String
  freshness : Dict String FreshnessCheck

/-- `expected_maximum_ages`. -/
def FreshnessPolicy.maximumSeconds (p : FreshnessPolicy) : List (String × ℚ) :=
  [("forecast", totalSeconds p.maximumForecastAge), ("event", totalSeconds p.maximumEventAge),
    ("order_book", totalSeconds p.maximumOrderBookAge),
    ("balance", totalSeconds p.maximumBalanceAge)]

section

variable {α : Type} [Zero α] [One α] [Add α] [Sub α] [Mul α] [Div α] [LE α] [LT α] [DecidableLE α]
  [DecidableLT α]

/-- `CostPolicy.__post_init__`. -/
def CostPolicy.new (p : CostPolicy α) : Except QuoteException (CostPolicy α) := do
  forM [("platform fee rate", p.platformFeeRate), ("transaction cost", p.transactionCost),
    ("safety margin rate", p.safetyMarginRate),
    ("maximum average slippage", p.maximumAverageSlippage),
    ("maximum worst slippage", p.maximumWorstSlippage),
    ("minimum expected return", p.minimumExpectedReturn)]
    fun value => raiseIf (value.2 < 0) (.quoteValidationError (value.1 ++ " must not be negative"))
  raiseIf (p.maximumAllInPrice ≤ 0 ∨ 1 ≤ p.maximumAllInPrice)
    (.quoteValidationError "maximum all-in price must be greater than zero and less than one")
  raiseIf (p.maximumWorstSlippage < p.maximumAverageSlippage)
    (.quoteValidationError "maximum average slippage cannot exceed maximum worst slippage")
  return p

/-- `BalanceSnapshot.__post_init__`. -/
def BalanceSnapshot.new (b : BalanceSnapshot α) : Except QuoteException (BalanceSnapshot α) := do
  raiseIf (b.availableCash < 0 ∨ b.reservedCash < 0)
    (.quoteValidationError "balance amounts must not be negative")
  let source := strip b.source
  raiseIf (source = "") (.quoteValidationError "balance source must not be blank")
  let observedAtUtc ← asUtc b.observedAtUtc
  return { b with source, observedAtUtc }

namespace ValidatedExecutableQuote

/-- The checks of the budgets and the signs in `__post_init__`. -/
def checkBudgets (q : QuoteAmounts α) : Except QuoteException Unit := do
  raiseIf (q.modelProbability ≤ 0 ∨ 1 ≤ q.modelProbability)
    (.quoteValidationError "model probability must be between zero and one")
  raiseIf (q.requestedBudget ≤ 0) (.quoteValidationError "requested budget must be positive")
  raiseIf (q.bookBudgetLimit ≤ 0 ∨ q.requestedBudget < q.bookBudgetLimit)
    (.quoteValidationError "book budget limit must be positive and within request")
  raiseIf (q.executableBudget ≤ 0 ∨ q.bookBudgetLimit < q.executableBudget)
    (.quoteValidationError "executable budget must be positive and within the book budget limit")
  forM [("platform fee", q.platformFee), ("transaction cost", q.transactionCost),
    ("safety margin", q.safetyMargin), ("total all in cost", q.totalAllInCost),
    ("all in average price", q.allInAveragePrice),
    ("gross expected payout", q.grossExpectedPayout), ("average slippage", q.averageSlippage),
    ("worst slippage", q.worstSlippage)]
    fun value => raiseIf (value.2 < 0) (.quoteValidationError (value.1 ++ " must not be negative"))

/-- The checks of the costs against the recorded policy. -/
def checkCosts (q : QuoteAmounts α) (policy : CostPolicy α) : Except QuoteException Unit := do
  raiseIf (¬ NumEq q.executableBudget q.quote.totalCost)
    (.quoteValidationError "executable budget must equal order-book cost")
  raiseIf (¬ NumEq q.platformFee (q.quote.totalCost * policy.platformFeeRate))
    (.quoteValidationError "platform fee does not match the recorded policy")
  raiseIf (¬ NumEq q.transactionCost policy.transactionCost)
    (.quoteValidationError "transaction cost does not match the recorded policy")
  raiseIf (¬ NumEq q.safetyMargin (q.quote.totalCost * policy.safetyMarginRate))
    (.quoteValidationError "safety margin does not match the recorded policy")
  raiseIf (¬ NumEq q.averageSlippage (q.quote.averagePrice - q.quote.bestAsk))
    (.quoteValidationError "average slippage does not reconcile")
  raiseIf (¬ NumEq q.worstSlippage (q.quote.worstPrice - q.quote.bestAsk))
    (.quoteValidationError "worst slippage does not reconcile")
  raiseIf (policy.maximumAverageSlippage < q.averageSlippage)
    (.quoteValidationError "average slippage exceeds the recorded policy")
  raiseIf (policy.maximumWorstSlippage < q.worstSlippage)
    (.quoteValidationError "worst slippage exceeds the recorded policy")
  raiseIf (q.totalAllInCost < q.quote.totalCost)
    (.quoteValidationError "all-in cost cannot be below order-book cost")
  raiseIf (q.requestedBudget < q.totalAllInCost)
    (.quoteValidationError "all-in cost exceeds the approved budget")

/-- The checks of the expected return. -/
def checkReturns (q : QuoteAmounts α) (policy : CostPolicy α) : Except QuoteException Unit := do
  raiseIf (¬ NumEq q.allInAveragePrice (q.totalAllInCost / q.quote.shares))
    (.quoteValidationError "all-in average price does not reconcile")
  raiseIf (¬ NumEq q.grossExpectedPayout (q.modelProbability * q.quote.shares))
    (.quoteValidationError "expected payout does not reconcile")
  raiseIf (¬ NumEq q.expectedProfit (q.grossExpectedPayout - q.totalAllInCost))
    (.quoteValidationError "expected profit does not reconcile")
  raiseIf (¬ NumEq q.expectedReturn (q.expectedProfit / q.totalAllInCost))
    (.quoteValidationError "expected return does not reconcile")
  raiseIf (¬ NumEq q.probabilityEdge (q.modelProbability - q.allInAveragePrice))
    (.quoteValidationError "probability edge does not reconcile")
  raiseIf (policy.maximumAllInPrice ≤ q.allInAveragePrice)
    (.quoteValidationError "all-in price exceeds the recorded policy")
  raiseIf (q.expectedProfit ≤ 0 ∨ q.probabilityEdge ≤ 0)
    (.quoteValidationError "validated quote must retain positive executable edge")
  raiseIf (q.expectedReturn < policy.minimumExpectedReturn)
    (.quoteValidationError "expected return is below the recorded policy")
  raiseIf (¬ (q.depthReduced = true ↔ q.executableBudget < q.bookBudgetLimit))
    (.quoteValidationError "depth reduction flag does not match the book budget")
  raiseIf (q.depthReduced = true ∧ policy.depthPolicy = .reject)
    (.quoteValidationError "reject-depth policy cannot produce a reduced quote")

/-- The checks of the freshness of the inputs. -/
def checkFreshness (policy : FreshnessPolicy) (freshness : Dict String FreshnessCheck) :
    Except QuoteException Unit := do
  raiseIf (∃ entry ∈ freshness.entries, ¬ entry.2.Fresh)
    (.quoteValidationError "validated quote contains a stale freshness check")
  forM freshness.entries fun entry =>
    match policy.maximumSeconds.lookup entry.1 with
    | none => throw (.quoteValidationError ("unsupported freshness label: " ++ entry.1))
    | some expected => raiseIf (entry.2.maximumAgeSeconds ≠ expected)
        (.quoteValidationError (entry.1 ++ " freshness limit differs from the recorded policy"))

/-- `ValidatedExecutableQuote.__post_init__`. -/
def new (q : ValidatedExecutableQuote α) : Except QuoteException (ValidatedExecutableQuote α) := do
  checkBudgets q.toQuoteAmounts
  let evaluatedAtUtc ← asUtc q.evaluatedAtUtc
  let eventId := strip q.eventId
  raiseIf (eventId = "") (.quoteValidationError "quote event id must not be blank")
  checkCosts q.toQuoteAmounts q.costPolicy
  checkReturns q.toQuoteAmounts q.costPolicy
  checkFreshness q.freshnessPolicy q.freshness
  return { q with evaluatedAtUtc, eventId }

omit [Add α] in
/-- A constructed quote keeps the amounts it is given. -/
theorem new_eq_ok {q r : ValidatedExecutableQuote α} (h : new q = .ok r) :
    ∃ t, asUtc q.evaluatedAtUtc = .ok t ∧ r = { q with evaluatedAtUtc := t, eventId := strip q.eventId } := by
  rw [new, check_bind_eq_ok] at h
  obtain ⟨-, h⟩ := h
  obtain ⟨t, ht, h⟩ := bind_eq_ok.mp h
  rw [raiseIf_bind_eq_ok, check_bind_eq_ok, check_bind_eq_ok, check_bind_eq_ok] at h
  obtain ⟨-, -, -, -, h⟩ := h
  exact ⟨t, ht, (Except.ok.inj h).symm⟩

end ValidatedExecutableQuote

/-- `ValidatedExecutableQuote.fingerprint`. -/
def ValidatedExecutableQuote.fingerprint {α : Type} (ctx : NumberContext α) (rt : Runtime)
    (q : ValidatedExecutableQuote α) : String :=
  rt.sha256Json (.obj [("token_id", .str q.quote.tokenId), ("book_hash", .str q.quote.bookHash),
    ("event_id", .str q.eventId), ("shares", .str (ctx.format q.quote.shares)),
    ("total_all_in_cost", .str (ctx.format q.totalAllInCost)),
    ("probability", .str (ctx.format q.modelProbability)),
    ("platform_fee_rate", .str (ctx.format q.costPolicy.platformFeeRate)),
    ("transaction_cost", .str (ctx.format q.costPolicy.transactionCost)),
    ("safety_margin_rate", .str (ctx.format q.costPolicy.safetyMarginRate)),
    ("maximum_average_slippage", .str (ctx.format q.costPolicy.maximumAverageSlippage)),
    ("maximum_worst_slippage", .str (ctx.format q.costPolicy.maximumWorstSlippage)),
    ("maximum_all_in_price", .str (ctx.format q.costPolicy.maximumAllInPrice)),
    ("minimum_expected_return", .str (ctx.format q.costPolicy.minimumExpectedReturn)),
    ("depth_policy", .str q.costPolicy.depthPolicy.value),
    ("evaluated_at", .str q.evaluatedAtUtc.isoformat)])

end

/-- `QuoteEvaluation` (`model.py`, 429-435): an accepted quote, or a rejection with its detail. -/
inductive QuoteEvaluation (α : Type) where
  | accepted (evaluatedAtUtc : DateTime) (quote : ValidatedExecutableQuote α)
  | rejected (evaluatedAtUtc : DateTime) (reason : QuoteRejectionReason) (detail : String)
      (freshness : Dict String FreshnessCheck)

end WeatherBot.Quoting
