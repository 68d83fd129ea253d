import WeatherBot.Domain.Model
import WeatherBot.Quoting.Evaluator

/-!
# Bankroll sizing

`risk/model.py` and `risk/sizing.py`, over any number type. The loop of
`size_executable_buy` quotes a budget, and quotes again at a smaller one where
the quote does not bear it.

* `iterate`: one pass of the loop, with the decision or the smaller budget.
* `sizeExecutableBuy`: the decision that the loop ends with.
-/

namespace WeatherBot.Risk

open WeatherBot.Common
open WeatherBot.Domain
open WeatherBot.Markets
open WeatherBot.Quoting

/-! ## Contracts -/

/-- `BindingCap`. -/
inductive BindingCap where
  | kelly
  | maxCashPerTrade
  | availableCash
  | executableDepth
  | executableSlippage
  | minimumOrder
deriving DecidableEq

/-- `SizingRejectionReason`. -/
inductive SizingRejectionReason where
  | invalidProbability
  | invalidPrice
  | noAvailableCash
  | nonPositiveEdge
  | belowMinimumOrder
  | quoteRejected
  | nonConvergent
deriving DecidableEq

/-- `Money` over a number type. Its currency is in normal form. -/
structure MoneyOf (α : Type) where
  amount : α
  currency : String
deriving DecidableEq

/-- `RiskCapitalSnapshot` (`model.py`, 66-79). -/
structure RiskCapitalSnapshot (α : Type) where
  cash : MoneyOf α
  reservedCash : MoneyOf α
  availableCash : MoneyOf α
  openPositionCostBasis : MoneyOf α
  openPositionCount : ℤ
deriving DecidableEq

/-- `SizingPolicy` (`model.py`, 124-130). -/
structure SizingPolicy (α : Type) where
  fractionalKellyMultiplier : α
  maximumCashPerTrade : MoneyOf α
  maximumIterations : ℕ
deriving DecidableEq

/-- `SizingDecision` (`model.py`, 152-173). -/
structure SizingDecision (α : Type) where
  status : RiskDecisionStatus
  capital : RiskCapitalSnapshot α
  policy : SizingPolicy α
  modelProbability : Option α
  seedPrice : α
  finalAllInPrice : Option α
  rawKelly : α
  fractionalKelly : α
  uncappedKellyCash : MoneyOf α
  targetCash : MoneyOf α
  bindingCap : Option BindingCap
  iterations : ℕ
  quote : Option (ValidatedExecutableQuote α)
  rejectionReason : Option SizingRejectionReason
  quoteRejectionReason : Option QuoteRejectionReason
  detail : Option String
  depthReduced : Bool

/-- The value of a `RatioInput`: a finite number, or what `_ratio` refuses. -/
inductive RatioInput (α : Type) where
  | number (value : α)
  | boolean
  | malformed
  | infinite

/-- `_ratio` (`sizing.py`, 35-44). -/
def ratio {α : Type} (label : String) : RatioInput α → Except Error α
  | .number value => .ok value
  | .boolean => .error (.typeError (label ++ " must not be boolean"))
  | .malformed => .error (.valueError (label ++ " must be decimal"))
  | .infinite => .error (.valueError (label ++ " must be finite"))

section

variable {α : Type} [Zero α] [One α] [Add α] [Sub α] [Mul α] [Div α] [LE α] [LT α] [DecidableLE α]
  [DecidableLT α]

namespace MoneyOf

/-- `Money.of`. -/
def of (ctx : NumberContext α) (value : α) (currency : String) : Except Error (MoneyOf α) :=
  match ctx.roundSix value with
  | some amount => .ok ⟨amount, currency⟩
  | none => .error ⟨.invalidOperation, "quantize result has too many digits for current context"⟩

/-- `Money.zero`. -/
def zero (currency : String) : MoneyOf α := ⟨0, currency⟩

/-- `a - b`. -/
def sub (ctx : NumberContext α) (a b : MoneyOf α) : Except Error (MoneyOf α) := do
  raiseIf (a.currency ≠ b.currency)
    (.invariantViolation ("currency mismatch: " ++ a.currency ++ " != " ++ b.currency))
  of ctx (a.amount - b.amount) a.currency

/-- `is_zero`. -/
def IsZero (m : MoneyOf α) : Prop := NumEq m.amount 0

instance (m : MoneyOf α) : Decidable m.IsZero := inferInstanceAs (Decidable (NumEq _ _))

end MoneyOf

/-- The loop of `__post_init__` over labelled amounts: one currency, none negative. -/
def checkAmounts (currency : String) (amounts : List (String × MoneyOf α)) : Except Error Unit :=
  forM amounts fun entry => do
    raiseIf (entry.2.currency ≠ currency) (.valueError (entry.1 ++ " uses a different currency"))
    raiseIf (entry.2.amount < 0) (.valueError (entry.1 ++ " must not be negative"))

/-- `RiskCapitalSnapshot.__post_init__`. -/
def RiskCapitalSnapshot.new (ctx : NumberContext α) (c : RiskCapitalSnapshot α) :
    Except Error (RiskCapitalSnapshot α) := do
  checkAmounts c.cash.currency [("cash", c.cash), ("reserved_cash", c.reservedCash),
    ("available_cash", c.availableCash), ("open_position_cost_basis", c.openPositionCostBasis)]
  let available ← c.cash.sub ctx c.reservedCash
  raiseIf (¬ NumEq c.availableCash.amount available.amount)
    (.valueError "available_cash must equal cash - reserved_cash")
  raiseIf (c.openPositionCount < 0) (.valueError "open_position_count must be a non-negative integer")
  raiseIf (c.openPositionCount = 0 ∧ ¬ c.openPositionCostBasis.IsZero)
    (.valueError "zero open positions cannot have positive open cost basis")
  return c

/-- `SizingPolicy.__post_init__`. -/
def SizingPolicy.new (p : SizingPolicy α) : Except Error (SizingPolicy α) := do
  raiseIf (p.fractionalKellyMultiplier ≤ 0 ∨ 1 < p.fractionalKellyMultiplier)
    (.valueError "fractional Kelly multiplier must be greater than zero and at most one")
  raiseIf (p.maximumCashPerTrade.amount ≤ 0) (.valueError "maximum_cash_per_trade must be positive")
  raiseIf (p.maximumIterations = 0) (.valueError "maximum_iterations must be a positive integer")
  return p

/-- The checks of `SizingDecision.__post_init__` that depend on the status. -/
def SizingDecision.checkStatus (d : SizingDecision α) : Except Error Unit :=
  match d.status with
  | .approved => do
    raiseIf (d.quote.isNone = true ∨ d.targetCash.IsZero)
      (.valueError "approved sizing requires a positive target and validated quote")
    raiseIf (d.rejectionReason.isSome = true ∨ d.quoteRejectionReason.isSome = true)
      (.valueError "approved sizing cannot contain a rejection reason")
    raiseIf (d.finalAllInPrice.isNone = true)
      (.valueError "approved sizing requires a final all-in price")
  | .rejected => do
    raiseIf (d.quote.isSome = true ∨ ¬ d.targetCash.IsZero)
      (.valueError "rejected sizing must contain no quote or target cash")
    raiseIf (d.rejectionReason.isNone = true)
      (.valueError "rejected sizing requires a rejection reason")

/-- `SizingDecision.__post_init__`. -/
def SizingDecision.new (d : SizingDecision α) : Except Error (SizingDecision α) := do
  checkAmounts d.capital.cash.currency [("uncapped_kelly_cash", d.uncappedKellyCash),
    ("target_cash", d.targetCash), ("maximum_cash_per_trade", d.policy.maximumCashPerTrade)]
  d.checkStatus
  raiseIf (d.capital.availableCash.amount < d.targetCash.amount)
    (.valueError "target cash exceeds available cash")
  raiseIf (d.policy.maximumCashPerTrade.amount < d.targetCash.amount)
    (.valueError "target cash exceeds maximum cash per trade")
  forM d.quote.toList fun quote =>
    raiseIf (quote.requestedBudget < d.targetCash.amount)
      (.valueError "target cash exceeds final validated quote budget")
  return d

/-! ## Helpers -/

/-- `_floor_money` (`sizing.py`, 47-52). -/
def floorMoney (ctx : NumberContext α) (value : α) (currency : String) : Except Error (MoneyOf α) :=
  if value ≤ 0 then .ok (MoneyOf.zero currency)
  else
    match ctx.truncSix value with
    | some floored => MoneyOf.of ctx floored currency
    | none => .error ⟨.invalidOperation, "quantize result has too many digits for current context"⟩

/-- `_kelly` (`sizing.py`, 55-60). -/
def kelly (probability allInPrice : α) : Except Error α := do
  raiseIf (allInPrice ≤ 0 ∨ 1 ≤ allInPrice)
    (.valueError "Kelly price must be greater than zero and less than one")
  if probability ≤ allInPrice then return 0
  else return (probability - allInPrice) / (1 - allInPrice)

/-- What `_cash_from_kelly` returns. -/
structure KellyCash (α : Type) where
  fractionalKelly : α
  uncapped : α
  target : α
  binding : BindingCap

/-- `_cash_from_kelly` (`sizing.py`, 63-83). -/
def cashFromKelly (capital : RiskCapitalSnapshot α) (policy : SizingPolicy α) (rawKelly : α) :
    KellyCash α :=
  let fractionalKelly := rawKelly * policy.fractionalKellyMultiplier
  let uncapped := capital.availableCash.amount * fractionalKelly
  let available := capital.availableCash.amount
  let perTrade := policy.maximumCashPerTrade.amount
  if available ≤ perTrade ∧ available ≤ uncapped then
    ⟨fractionalKelly, uncapped, available, .availableCash⟩
  else if perTrade ≤ uncapped then ⟨fractionalKelly, uncapped, perTrade, .maxCashPerTrade⟩
  else ⟨fractionalKelly, uncapped, uncapped, .kelly⟩

/-- The variables of the loop of `_slippage_limited_requested_budget`. -/
structure Depth (α : Type) where
  shares : α
  bookCost : α

/-- What is taken of a level, or `none` where the loop breaks. -/
def Depth.takeOf (ctx : NumberContext α) (maximumAveragePrice : α) (d : Depth α) (level : OrderLevel α) :
    Option α :=
  if level.price ≤ maximumAveragePrice then some level.size
  else
    let averageHeadroom := maximumAveragePrice * d.shares - d.bookCost
    if averageHeadroom ≤ 0 then none
    else
      let maximumTake := ctx.nextMinus (averageHeadroom / (level.price - maximumAveragePrice))
      some (pyMin level.size maximumTake)

/-- The loop of `_slippage_limited_requested_budget`. -/
def Depth.run (ctx : NumberContext α) (maximumAveragePrice maximumWorstPrice : α) (d : Depth α) :
    List (OrderLevel α) → Depth α
  | [] => d
  | level :: levels =>
    if maximumWorstPrice < level.price then d
    else
      match d.takeOf ctx maximumAveragePrice level with
      | none => d
      | some take =>
        if take ≤ 0 then d
        else
          let d' : Depth α := ⟨d.shares + take, d.bookCost + take * level.price⟩
          if take < level.size ∨ maximumAveragePrice < level.price then d'
          else d'.run ctx maximumAveragePrice maximumWorstPrice levels

/-- `_slippage_limited_requested_budget` (`sizing.py`, 86-131). -/
def slippageLimitedRequestedBudget (ctx : NumberContext α) (orderBook : OrderBookSnapshot α)
    (costPolicy : CostPolicy α) : α :=
  let maximumAveragePrice := orderBook.bestAsk + costPolicy.maximumAverageSlippage
  let maximumWorstPrice := orderBook.bestAsk + costPolicy.maximumWorstSlippage
  let depth := Depth.run ctx maximumAveragePrice maximumWorstPrice ⟨0, 0⟩ orderBook.allAsks
  if depth.shares < orderBook.minimumOrderSize then 0
  else
    let variableCostMultiplier := 1 + costPolicy.platformFeeRate + costPolicy.safetyMarginRate
    depth.bookCost * variableCostMultiplier + costPolicy.transactionCost

/-! ## Sizing -/

/-- The arguments of `size_executable_buy`. -/
structure SizingRequest (α : Type) where
  capital : RiskCapitalSnapshot α
  probability : RatioInput α
  weather : WeatherInputSnapshot
  event : MarketEventSnapshot
  orderBook : OrderBookSnapshot α
  evaluatedAt : DateTime
  freshnessPolicy : FreshnessPolicy
  costPolicy : CostPolicy α
  sizingPolicy : SizingPolicy α
  balance : Option (BalanceSnapshot α)

/-- The arguments of `_decision`, with their defaults. -/
structure Outcome (α : Type) [Zero α] where
  status : RiskDecisionStatus
  probability : Option α
  rawKelly : α := 0
  fractionalKelly : α := 0
  uncappedCash : α := 0
  targetCash : Option (MoneyOf α) := none
  bindingCap : Option BindingCap := none
  iterations : ℕ := 0
  finalAllInPrice : Option α := none
  quote : Option (ValidatedExecutableQuote α) := none
  rejectionReason : Option SizingRejectionReason := none
  quoteRejectionReason : Option QuoteRejectionReason := none
  detail : Option String := none
  depthReduced : Bool := false

/-- `_decision` (`sizing.py`, 134-173). -/
def decision (ctx : NumberContext α) (r : SizingRequest α) (o : Outcome α) :
    Except Error (SizingDecision α) := do
  let currency := r.capital.cash.currency
  let uncappedKellyCash ← MoneyOf.of ctx o.uncappedCash currency
  SizingDecision.new {
    status := o.status
    capital := r.capital
    policy := r.sizingPolicy
    modelProbability := o.probability
    seedPrice := r.orderBook.bestAsk
    finalAllInPrice := o.finalAllInPrice
    rawKelly := o.rawKelly
    fractionalKelly := o.fractionalKelly
    uncappedKellyCash := uncappedKellyCash
    targetCash := o.targetCash.getD (MoneyOf.zero currency)
    bindingCap := o.bindingCap
    iterations := o.iterations
    quote := o.quote
    rejectionReason := o.rejectionReason
    quoteRejectionReason := o.quoteRejectionReason
    detail := o.detail
    depthReduced := o.depthReduced }

/-- The variables of the loop. -/
structure Progress (α : Type) where
  currentBudget : MoneyOf α
  currentBinding : BindingCap
  depthReduced : Bool
  finalAllInPrice : Option α
  rawKelly : α
  fractionalKelly : α
  uncappedCash : α

/-- How a pass of the loop ends: with the arguments of its decision, or with `continue`. -/
inductive Pass (α : Type) [Zero α] where
  | decided (outcome : Outcome α)
  | again (progress : Progress α)

/-- The quote of a pass. -/
def SizingRequest.quoteRequest (r : SizingRequest α) (probability : α) (budget : α) : QuoteRequest α where
  probability := probability
  requestedBudget := budget
  weather := r.weather
  event := r.event
  orderBook := r.orderBook
  freshnessPolicy := r.freshnessPolicy
  costPolicy := r.costPolicy
  balance := r.balance

/-- The budget within the slippage limits, where it is smaller than the current one
(`sizing.py`, 291-303). -/
def smallerSlippageBudget (ctx : NumberContext α) (r : SizingRequest α) (p : Progress α)
    (reason : QuoteRejectionReason) : Except Error (Option (MoneyOf α)) :=
  if reason = .slippageExceeded then do
    let budget ← floorMoney ctx (slippageLimitedRequestedBudget ctx r.orderBook r.costPolicy)
      r.capital.cash.currency
    return if ¬ budget.IsZero ∧ budget.amount < p.currentBudget.amount then some budget else none
  else return none

/-- The decision on a rejected quote (`sizing.py`, 305-331). -/
def rejectQuote (probability : α) (iteration : ℕ) (p : Progress α) (reason : QuoteRejectionReason)
    (detail : String) : Outcome α :=
  let rejectionReason : SizingRejectionReason :=
    if reason = .belowMinimumOrder then .belowMinimumOrder else .quoteRejected
  let rejectionBinding : BindingCap :=
    match reason with
    | .belowMinimumOrder => .minimumOrder
    | .insufficientDepth => .executableDepth
    | .slippageExceeded => .executableSlippage
    | _ => p.currentBinding
  { status := .rejected
    probability := some probability
    rawKelly := p.rawKelly
    fractionalKelly := p.fractionalKelly
    uncappedCash := p.uncappedCash
    bindingCap := some rejectionBinding
    iterations := iteration
    finalAllInPrice := p.finalAllInPrice
    rejectionReason := some rejectionReason
    quoteRejectionReason := some reason
    detail := some detail
    depthReduced := p.depthReduced }

/-- The budget that an accepted quote bears, and what binds it (`sizing.py`, 354-371). -/
def candidateBudget (ctx : NumberContext α) (r : SizingRequest α) (quote : ValidatedExecutableQuote α)
    (cash : KellyCash α) : Except Error (MoneyOf α × BindingCap) := do
  let candidate ← floorMoney ctx cash.target r.capital.cash.currency
  if quote.depthReduced then
    let depth ← floorMoney ctx quote.totalAllInCost r.capital.cash.currency
    return if depth.amount < candidate.amount then (depth, .executableDepth)
      else (candidate, cash.binding)
  else return (candidate, cash.binding)

/-- What follows an accepted quote (`sizing.py`, 333-405). -/
def bearQuote (ctx : NumberContext α) (r : SizingRequest α) (probability : α) (iteration : ℕ)
    (p : Progress α) (quote : ValidatedExecutableQuote α) : Except Error (Pass α) := do
  let allInPrice := quote.allInAveragePrice
  let rawKelly ← kelly probability allInPrice
  if rawKelly ≤ 0 then
    return .decided {
      status := .rejected
      probability := some probability
      rawKelly := rawKelly
      bindingCap := some .kelly
      iterations := iteration
      finalAllInPrice := some allInPrice
      rejectionReason := some .nonPositiveEdge
      detail := some "executable all-in price leaves no positive Kelly fraction"
      depthReduced := p.depthReduced }
  else
  let cash := cashFromKelly r.capital r.sizingPolicy rawKelly
  let (candidate, binding) ← candidateBudget ctx r quote cash
  let depthReduced := p.depthReduced || quote.depthReduced
  if candidate.IsZero then
    return .decided {
      status := .rejected
      probability := some probability
      rawKelly := rawKelly
      fractionalKelly := cash.fractionalKelly
      uncappedCash := cash.uncapped
      bindingCap := some .minimumOrder
      iterations := iteration
      finalAllInPrice := some allInPrice
      rejectionReason := some .belowMinimumOrder
      detail := some "converged Kelly cash rounds below the six-decimal money quantum"
      depthReduced := depthReduced }
  else if candidate.amount < p.currentBudget.amount then
    return .again {
      currentBudget := candidate
      currentBinding := binding
      depthReduced := depthReduced
      finalAllInPrice := some allInPrice
      rawKelly := rawKelly
      fractionalKelly := cash.fractionalKelly
      uncappedCash := cash.uncapped }
  else
    return .decided {
      status := .approved
      probability := some probability
      rawKelly := rawKelly
      fractionalKelly := cash.fractionalKelly
      uncappedCash := cash.uncapped
      targetCash := some p.currentBudget
      bindingCap := some p.currentBinding
      iterations := iteration
      finalAllInPrice := some allInPrice
      quote := some quote
      depthReduced := depthReduced }

/-- An exception of the domain, seen from here. -/
def raising {β : Type} (x : Except Error β) : Except QuoteException β := x.mapError .raised

/-- The body of the loop (`sizing.py`, 273-405). -/
def iterate (ctx : NumberContext α) (r : SizingRequest α) (probability : α) (iteration : ℕ)
    (p : Progress α) : Except QuoteException (Pass α) := do
  match ← evaluateExecutableBuy ctx (r.quoteRequest probability p.currentBudget.amount) r.evaluatedAt with
  | .rejected _ reason detail _ =>
    match ← raising (smallerSlippageBudget ctx r p reason) with
    | some budget =>
      return .again { p with currentBudget := budget, currentBinding := .executableSlippage }
    | none => return .decided (rejectQuote probability iteration p reason detail)
  | .accepted _ quote => raising (bearQuote ctx r probability iteration p quote)

/-- The decision after the last pass (`sizing.py`, 407-422). -/
def notConverged (probability : α) (maximumIterations : ℕ) (p : Progress α) : Outcome α where
  status := .rejected
  probability := some probability
  rawKelly := p.rawKelly
  fractionalKelly := p.fractionalKelly
  uncappedCash := p.uncappedCash
  bindingCap := some p.currentBinding
  iterations := maximumIterations
  finalAllInPrice := p.finalAllInPrice
  rejectionReason := some .nonConvergent
  detail := some "downward-only bankroll sizing did not converge within the iteration limit"
  depthReduced := p.depthReduced

/-- The loop: the number of passes that are left, and the number of the next one. -/
def search (ctx : NumberContext α) (r : SizingRequest α) (probability : α) :
    ℕ → ℕ → Progress α → Except QuoteException (Outcome α)
  | 0, _, p => .ok (notConverged probability r.sizingPolicy.maximumIterations p)
  | left + 1, iteration, p => do
    match ← iterate ctx r probability iteration p with
    | .decided outcome => return outcome
    | .again p' => search ctx r probability left (iteration + 1) p'

/-- What precedes the loop: a decision, or the first budget (`sizing.py`, 191-269). -/
def begin (ctx : NumberContext α) (r : SizingRequest α) :
    Except Error (Outcome α ⊕ (α × Progress α)) := do
  let seedPrice := r.orderBook.bestAsk
  match ratio "model probability" r.probability with
  | .error e =>
    return .inl {
      status := .rejected, probability := none,
      rejectionReason := some .invalidProbability, detail := some e.message }
  | .ok probability =>
  if probability ≤ 0 ∨ 1 ≤ probability then
    return .inl {
      status := .rejected, probability := some probability,
      rejectionReason := some .invalidProbability,
      detail := some "model probability must be greater than zero and less than one" }
  else if r.capital.availableCash.IsZero then
    return .inl {
      status := .rejected, probability := some probability,
      bindingCap := some .availableCash, rejectionReason := some .noAvailableCash,
      detail := some "available cash is zero after active reservations" }
  else if probability ≤ seedPrice then
    return .inl {
      status := .rejected, probability := some probability,
      rejectionReason := some .nonPositiveEdge,
      detail := some "model probability does not exceed the best displayed ask" }
  else
  match kelly probability seedPrice with
  | .error e =>
    return .inl {
      status := .rejected, probability := some probability,
      rejectionReason := some .invalidPrice, detail := some e.message }
  | .ok rawKelly =>
  let cash := cashFromKelly r.capital r.sizingPolicy rawKelly
  let currentBudget ← floorMoney ctx cash.target r.capital.cash.currency
  if currentBudget.IsZero then
    return .inl {
      status := .rejected, probability := some probability, rawKelly := rawKelly,
      fractionalKelly := cash.fractionalKelly, uncappedCash := cash.uncapped,
      bindingCap := some .minimumOrder, rejectionReason := some .belowMinimumOrder,
      detail := some "Kelly cash rounds below the six-decimal money quantum" }
  else
    return .inr (probability, {
      currentBudget := currentBudget
      currentBinding := cash.binding
      depthReduced := false
      finalAllInPrice := none
      rawKelly := rawKelly
      fractionalKelly := cash.fractionalKelly
      uncappedCash := cash.uncapped })

/-- `size_executable_buy` (`sizing.py`, 176-422). -/
def sizeExecutableBuy (ctx : NumberContext α) (r : SizingRequest α) :
    Except QuoteException (SizingDecision α) := do
  match ← raising (begin ctx r) with
  | .inl outcome => raising (decision ctx r outcome)
  | .inr (probability, progress) => do
    let outcome ← search ctx r probability r.sizingPolicy.maximumIterations 1 progress
    raising (decision ctx r outcome)

end

end WeatherBot.Risk
