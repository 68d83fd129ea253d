import WeatherBot.Quoting.Model

/-!
# Evaluation of an executable quote

`quoting/evaluator.py`, over any number type. The inputs are checked for
freshness first; the amounts are then computed from the book and the policies
alone (`price`), without the time of evaluation.

* `evaluateExecutableBuy_eq_accepted`: what an accepted evaluation consists of.
-/

namespace WeatherBot.Quoting

open WeatherBot.Common
open WeatherBot.Domain
open WeatherBot.Markets

/-! ## Freshness -/

/-- `_age` (`evaluator.py`, 27-47). -/
def age (observedAt evaluatedAt : DateTime) (maximumAge futureTolerance : ℤ) (label : String) :
    Except QuoteException FreshnessCheck := do
  let observed ← asUtc observedAt
  let evaluated ← asUtc evaluatedAt
  let difference := evaluated.instant - observed.instant
  raiseIf (difference < -futureTolerance)
    (.quoteValidationError (label ++ " timestamp is unexpectedly in the future"))
  FreshnessCheck.new {
    label := label
    observedAtUtc := observed
    ageSeconds := max 0 (totalSeconds difference)
    maximumAgeSeconds := totalSeconds maximumAge }

/-- One of the `definitions` of `_check_freshness`. -/
structure AgeLimit where
  label : String
  observedAt : DateTime
  maximumAge : ℤ
  reason : QuoteRejectionReason

section

variable {α : Type}

/-- The limits that `_check_freshness` goes through, that of the balance last. -/
def ageLimits (weather : WeatherInputSnapshot) (event : MarketEventSnapshot)
    (orderBook : OrderBookSnapshot α) (balance : Option (BalanceSnapshot α)) (policy : FreshnessPolicy) :
    List AgeLimit :=
  [⟨"forecast", weather.forecast.snapshotIssuedAtUtc, policy.maximumForecastAge, .staleForecast⟩,
    ⟨"event", event.retrievedAtUtc, policy.maximumEventAge, .staleEvent⟩,
    ⟨"order_book", orderBook.observedAt, policy.maximumOrderBookAge, .staleOrderBook⟩] ++
  (balance.map fun b =>
    ⟨"balance", b.observedAtUtc, policy.maximumBalanceAge, .staleBalance⟩).toList

/-- The loop of `_check_freshness` (`evaluator.py`, 64-139): the checks that passed, and the
rejection of the first one that did not. -/
def checkFreshness (evaluatedAt : DateTime) (futureTolerance : ℤ) :
    List AgeLimit → Dict String FreshnessCheck →
      Except QuoteException (Dict String FreshnessCheck × Option (QuoteRejectionReason × String))
  | [], checks => .ok (checks, none)
  | limit :: limits, checks =>
    match age limit.observedAt evaluatedAt limit.maximumAge futureTolerance limit.label with
    | .error (.quoteValidationError message) => .ok (checks, some (.invalidInput, message))
    | .error e => .error e
    | .ok check =>
      let checks := checks.insert limit.label check
      if check.Fresh then checkFreshness evaluatedAt futureTolerance limits checks
      else .ok (checks, some (limit.reason, limit.label ++ " age " ++ fixedThree check.ageSeconds ++
        "s exceeds " ++ fixedThree check.maximumAgeSeconds ++ "s"))

/-! ## Amounts -/

variable [Zero α] [One α] [Add α] [Sub α] [Mul α] [Div α] [LE α] [LT α] [DecidableLE α]
  [DecidableLT α]

/-- `"below minimum" in message`. -/
def belowMinimum (message : String) : Bool :=
  message.toList.tails.any fun rest => "below minimum".toList.isPrefixOf rest

/-- `if bad: return _reject(evaluated, reason, detail, checks)`. -/
def rejectIf (bad : Prop) [Decidable bad] (reason : QuoteRejectionReason) (detail : String) :
    Except (QuoteRejectionReason × String) Unit :=
  raiseIf bad (reason, detail)

/-- The budget for the book, and how much of it is executable (`evaluator.py`, 193-226). -/
def bookBudget (ctx : NumberContext α) (orderBook : OrderBookSnapshot α) (policy : CostPolicy α)
    (budget : α) : Except (QuoteRejectionReason × String) (α × α) := do
  let variableCostMultiplier := 1 + policy.platformFeeRate + policy.safetyMarginRate
  let remainingAfterFixedCost := budget - policy.transactionCost
  rejectIf (remainingAfterFixedCost ≤ 0) .belowMinimumOrder
    "approved budget does not cover the fixed transaction-cost reserve"
  let bookBudgetLimit := ctx.nextMinus (remainingAfterFixedCost / variableCostMultiplier)
  let availableNotional := orderBook.askNotional
  if availableNotional < bookBudgetLimit then
    rejectIf (policy.depthPolicy = .reject) .insufficientDepth
      ("book budget " ++ ctx.str bookBudgetLimit ++ " exceeds displayed ask notional " ++
        ctx.str availableNotional)
    return (bookBudgetLimit, availableNotional)
  else return (bookBudgetLimit, bookBudgetLimit)

/-- `order_book.quote_buy_budget`, its error a rejection (`evaluator.py`, 228-238). -/
def quoteBook (ctx : NumberContext α) (orderBook : OrderBookSnapshot α) (executableBudget : α) :
    Except QuoteException (Except (QuoteRejectionReason × String) (ExecutableQuote α)) :=
  match orderBook.quoteBuyBudget ctx executableBudget with
  | .ok quote => .ok (.ok quote)
  | .error (.orderBookError message) =>
    .ok (.error (if belowMinimum message then .belowMinimumOrder else .insufficientDepth, message))
  | .error (.raised e) => .error (.raised e)

/-- The costs and the expected return of a quote (`evaluator.py`, 240-318). -/
def assess (ctx : NumberContext α) (policy : CostPolicy α)
    (modelProbability budget bookBudgetLimit : α) (quote : ExecutableQuote α) :
    Except (QuoteRejectionReason × String) (QuoteAmounts α) := do
  let averageSlippage := quote.averagePrice - quote.bestAsk
  let worstSlippage := quote.worstPrice - quote.bestAsk
  rejectIf (policy.maximumAverageSlippage < averageSlippage) .slippageExceeded
    ("average slippage " ++ ctx.str averageSlippage ++ " exceeds " ++
      ctx.str policy.maximumAverageSlippage)
  rejectIf (policy.maximumWorstSlippage < worstSlippage) .slippageExceeded
    ("worst slippage " ++ ctx.str worstSlippage ++ " exceeds " ++
      ctx.str policy.maximumWorstSlippage)
  let platformFee := quote.totalCost * policy.platformFeeRate
  let safetyMargin := quote.totalCost * policy.safetyMarginRate
  let totalAllInCost := quote.totalCost + platformFee + policy.transactionCost + safetyMargin
  rejectIf (budget < totalAllInCost) .invalidInput
    "calculated all-in cost exceeds the approved budget"
  let allInAveragePrice := totalAllInCost / quote.shares
  rejectIf (policy.maximumAllInPrice ≤ allInAveragePrice) .priceExceeded
    ("all-in average price " ++ ctx.str allInAveragePrice ++ " reaches or exceeds " ++
      ctx.str policy.maximumAllInPrice)
  let rawProbabilityEdge := modelProbability - quote.averagePrice
  let probabilityEdge := modelProbability - allInAveragePrice
  let grossExpectedPayout := modelProbability * quote.shares
  let expectedProfit := grossExpectedPayout - totalAllInCost
  let expectedReturn := expectedProfit / totalAllInCost
  rejectIf (rawProbabilityEdge ≤ 0) .nonPositiveEdge
    ("model probability " ++ ctx.str modelProbability ++ " does not exceed executable price")
  rejectIf (probabilityEdge ≤ 0 ∨ expectedProfit ≤ 0) .feeErasedEdge
    "fees, transaction cost, or safety margin erase the executable edge"
  rejectIf (expectedReturn < policy.minimumExpectedReturn) .expectedReturnBelowFloor
    ("net expected return " ++ ctx.str expectedReturn ++ " is below " ++
      ctx.str policy.minimumExpectedReturn)
  return {
    quote := quote
    modelProbability := modelProbability
    requestedBudget := budget
    bookBudgetLimit := bookBudgetLimit
    executableBudget := quote.totalCost
    platformFee := platformFee
    transactionCost := policy.transactionCost
    safetyMargin := safetyMargin
    totalAllInCost := totalAllInCost
    allInAveragePrice := allInAveragePrice
    grossExpectedPayout := grossExpectedPayout
    expectedProfit := expectedProfit
    expectedReturn := expectedReturn
    probabilityEdge := probabilityEdge
    averageSlippage := averageSlippage
    worstSlippage := worstSlippage
    depthReduced := decide (quote.totalCost < bookBudgetLimit) }

/-- The amounts for a budget, or the reason why there are none (`evaluator.py`, 193-318). -/
def price (ctx : NumberContext α) (orderBook : OrderBookSnapshot α) (policy : CostPolicy α)
    (modelProbability budget : α) :
    Except QuoteException (Except (QuoteRejectionReason × String) (QuoteAmounts α)) :=
  match bookBudget ctx orderBook policy budget with
  | .error rejection => .ok (.error rejection)
  | .ok (bookBudgetLimit, executableBudget) => do
    let quoted ← quoteBook ctx orderBook executableBudget
    return quoted.bind (assess ctx policy modelProbability budget bookBudgetLimit)

/-! ## Evaluation -/

/-- The arguments of `evaluate_executable_buy`, without the time of evaluation. -/
structure QuoteRequest (α : Type) where
  probability : α
  requestedBudget : α
  weather : WeatherInputSnapshot
  event : MarketEventSnapshot
  orderBook : OrderBookSnapshot α
  freshnessPolicy : FreshnessPolicy
  costPolicy : CostPolicy α
  balance : Option (BalanceSnapshot α)

/-- The checks of the probability and the budget (`evaluator.py`, 163-174). -/
def QuoteRequest.checkInputs (r : QuoteRequest α) : Except (QuoteRejectionReason × String) Unit := do
  rejectIf (r.probability ≤ 0 ∨ 1 ≤ r.probability) .invalidInput
    "model probability must be between zero and one"
  rejectIf (r.requestedBudget ≤ 0) .invalidInput "requested budget must be positive"

/-- The check of the budget against the balance (`evaluator.py`, 193-199). -/
def QuoteRequest.checkBalance (ctx : NumberContext α) (r : QuoteRequest α) :
    Except (QuoteRejectionReason × String) Unit :=
  forM r.balance.toList fun balance =>
    rejectIf (balance.availableCash < r.requestedBudget) .insufficientBalance
      ("requested budget " ++ ctx.str r.requestedBudget ++ " exceeds available cash " ++
        ctx.str balance.availableCash)

/-- `evaluate_executable_buy` (`evaluator.py`, 142-340). -/
def evaluateExecutableBuy (ctx : NumberContext α) (r : QuoteRequest α) (evaluatedAt : DateTime) :
    Except QuoteException (QuoteEvaluation α) := do
  let evaluated ← asUtc evaluatedAt
  match r.checkInputs with
  | .error (reason, detail) => return .rejected evaluated reason detail .empty
  | .ok () =>
  let latest ← (plus evaluated r.freshnessPolicy.futureTolerance).mapError .raised
  if latest.instant < r.weather.assembledAtUtc.instant then
    return .rejected evaluated .snapshotMismatch "weather snapshot was assembled after quote evaluation"
      .empty
  else
  let (checks, stale) ← checkFreshness evaluated r.freshnessPolicy.futureTolerance
    (ageLimits r.weather r.event r.orderBook r.balance r.freshnessPolicy) .empty
  match stale with
  | some (reason, detail) => return .rejected evaluated reason detail checks
  | none =>
  match r.checkBalance ctx with
  | .error (reason, detail) => return .rejected evaluated reason detail checks
  | .ok () =>
  match ← price ctx r.orderBook r.costPolicy r.probability r.requestedBudget with
  | .error (reason, detail) => return .rejected evaluated reason detail checks
  | .ok amounts =>
  let validated ← ValidatedExecutableQuote.new {
    toQuoteAmounts := amounts
    freshnessPolicy := r.freshnessPolicy
    costPolicy := r.costPolicy
    evaluatedAtUtc := evaluated
    eventId := r.event.eventId
    freshness := checks }
  return .accepted evaluated validated

/-- **An accepted evaluation** holds the amounts of the book and the policies, and the time. -/
theorem evaluateExecutableBuy_eq_accepted {ctx : NumberContext α} {r : QuoteRequest α}
    {evaluatedAt evaluated : DateTime} {q : ValidatedExecutableQuote α}
    (h : evaluateExecutableBuy ctx r evaluatedAt = .ok (.accepted evaluated q)) :
    asUtc evaluatedAt = .ok evaluated ∧ ∃ amounts checks,
      price ctx r.orderBook r.costPolicy r.probability r.requestedBudget = .ok (.ok amounts) ∧
      q = { toQuoteAmounts := amounts, freshnessPolicy := r.freshnessPolicy, costPolicy := r.costPolicy,
            evaluatedAtUtc := evaluated, eventId := strip r.event.eventId, freshness := checks } := by
  obtain ⟨u, hu, h⟩ := bind_eq_ok.mp h
  split at h
  · cases h
  obtain ⟨latest, -, h⟩ := bind_eq_ok.mp h
  split_ifs at h
  · cases h
  obtain ⟨⟨checks, stale⟩, -, h⟩ := bind_eq_ok.mp h
  dsimp only at h
  split at h
  · cases h
  split at h
  · cases h
  obtain ⟨priced, hpriced, h⟩ := bind_eq_ok.mp h
  split at h
  · cases h
  rename_i amounts
  obtain ⟨validated, hvalidated, h⟩ := bind_eq_ok.mp h
  cases h
  obtain ⟨t, ht, rfl⟩ := ValidatedExecutableQuote.new_eq_ok hvalidated
  have hut : t = evaluated := by
    rw [asUtc_eq_ok] at ht hu
    rw [DateTime.astimezoneUtc_of_utc (DateTime.utcoffset_astimezoneUtc hu)] at ht
    exact (Option.some.inj ht).symm
  subst hut
  exact ⟨hu, amounts, checks, hpriced, rfl⟩

end

end WeatherBot.Quoting
