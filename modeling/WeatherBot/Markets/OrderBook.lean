import WeatherBot.Common.Number
import WeatherBot.Domain.Basic

/-!
# Order books

`markets/orderbook.py`, over any number type.

* `OrderBookSnapshot.quoteBuyBudget`: the asks that a cash budget buys.
* `OrderBookSnapshot.quoteBuy`: what a number of shares costs.
* `quoteBuyBudget_exact`: in exact arithmetic the budget is spent to the last
  unit, at an average price between the best ask and the worst price.
-/

namespace WeatherBot.Markets

open WeatherBot.Common
open WeatherBot.Domain

/-- An exception of this module: `OrderBookError`, or another one. -/
inductive MarketError where
  | orderBookError (message : String)
  | raised (error : Error)
deriving DecidableEq

/-- `value.astimezone(UTC)` of an aware datetime. -/
def astimezoneUtc (value : DateTime) : Except Error DateTime :=
  match value.astimezoneUtc with
  | some t => return t
  | none => throw ⟨.overflowError, "date value out of range"⟩

theorem astimezoneUtc_eq_ok {value t : DateTime} :
    astimezoneUtc value = .ok t ↔ value.astimezoneUtc = some t := by
  unfold astimezoneUtc
  cases value.astimezoneUtc <;> simp

/-- `value + delta` of a datetime in UTC and a number of microseconds. -/
def plus (value : DateTime) (delta : ℤ) : Except Error DateTime :=
  match DateTime.ofInstant (value.instant + delta) with
  | some t => return t
  | none => throw ⟨.overflowError, "date value out of range"⟩

/-- `OrderLevel` (`orderbook.py`, 68-80). -/
structure OrderLevel (α : Type) where
  price : α
  size : α
deriving DecidableEq

/-- `ExecutableQuote` (`orderbook.py`, 83-93). Typed identifiers are their texts. -/
structure ExecutableQuote (α : Type) where
  tokenId : String
  shares : α
  totalCost : α
  averagePrice : α
  worstPrice : α
  bestBid : α
  bestAsk : α
  observedAt : DateTime
  bookHash : String
deriving DecidableEq

/-- `OrderBookSnapshot` (`orderbook.py`, 96-107). The first bid and the first ask stand apart: a
book without them is refused. -/
structure OrderBookSnapshot (α : Type) where
  conditionId : String
  tokenId : String
  observedAt : DateTime
  bid : OrderLevel α
  bids : List (OrderLevel α)
  ask : OrderLevel α
  asks : List (OrderLevel α)
  minimumOrderSize : α
  tickSize : α
  negRisk : Bool
  bookHash : String
deriving DecidableEq

section

variable {α : Type} [Zero α] [One α] [Add α] [Sub α] [Mul α] [Div α] [LE α] [LT α] [DecidableLE α]
  [DecidableLT α]

/-- `OrderLevel.__post_init__`. -/
def OrderLevel.check (l : OrderLevel α) : Except MarketError Unit := do
  raiseIf (¬ (0 < l.price ∧ l.price < 1))
    (.orderBookError "order price must be greater than zero and less than one")
  raiseIf (l.size ≤ 0) (.orderBookError "order size must be positive")

namespace OrderBookSnapshot

/-- `bids` and `asks`. -/
def allBids (b : OrderBookSnapshot α) : List (OrderLevel α) := b.bid :: b.bids

def allAsks (b : OrderBookSnapshot α) : List (OrderLevel α) := b.ask :: b.asks

/-- `best_bid` and `best_ask`. -/
def bestBid (b : OrderBookSnapshot α) : α := b.bid.price

def bestAsk (b : OrderBookSnapshot α) : α := b.ask.price

/-- `OrderBookSnapshot.__post_init__`, and that of its levels. -/
def new (b : OrderBookSnapshot α) : Except MarketError (OrderBookSnapshot α) := do
  forM (b.allBids ++ b.allAsks) OrderLevel.check
  let observedAt ← (astimezoneUtc b.observedAt).mapError .raised
  raiseIf (b.minimumOrderSize ≤ 0) (.orderBookError "minimum order size must be positive")
  raiseIf (b.tickSize ≤ 0 ∨ 1 ≤ b.tickSize)
    (.orderBookError "tick size must be greater than zero and less than one")
  raiseIf (isBlank b.bookHash = true) (.orderBookError "order-book hash must not be blank")
  raiseIf (¬ b.allBids.Pairwise fun l m => m.price ≤ l.price)
    (.orderBookError "bids must be sorted from highest to lowest price")
  raiseIf (¬ b.allAsks.Pairwise fun l m => l.price ≤ m.price)
    (.orderBookError "asks must be sorted from lowest to highest price")
  raiseIf (¬ b.allBids.Pairwise fun l m => ¬ NumEq l.price m.price)
    (.orderBookError "order book contains duplicate bid price levels")
  raiseIf (¬ b.allAsks.Pairwise fun l m => ¬ NumEq l.price m.price)
    (.orderBookError "order book contains duplicate ask price levels")
  raiseIf (b.bestAsk ≤ b.bestBid) (.orderBookError "order book is crossed or locked")
  return { b with observedAt }

/-- `sum(level.price * level.size for level in asks)`. -/
def askNotional (b : OrderBookSnapshot α) : α :=
  b.allAsks.foldl (fun total level => total + level.price * level.size) 0

end OrderBookSnapshot

/-! ## Buying for a budget -/

/-- The variables of the loop of `quote_buy_budget`. -/
structure Fill (α : Type) where
  remainingBudget : α
  shares : α
  cost : α
  worstPrice : Option α

/-- The body of the loop. -/
def Fill.take (f : Fill α) (level : OrderLevel α) : Fill α :=
  let levelCost := level.size * level.price
  if levelCost ≤ f.remainingBudget then
    { remainingBudget := f.remainingBudget - levelCost, shares := f.shares + level.size,
      cost := f.cost + levelCost, worstPrice := some level.price }
  else
    { remainingBudget := 0, shares := f.shares + f.remainingBudget / level.price,
      cost := f.cost + f.remainingBudget, worstPrice := some level.price }

/-- The loop over the asks. -/
def Fill.run (f : Fill α) : List (OrderLevel α) → Fill α
  | [] => f
  | level :: levels =>
    let f := f.take level
    if NumEq f.remainingBudget 0 then f else f.run levels

/-- `quote_buy_budget` (`orderbook.py`, 200-254). -/
def OrderBookSnapshot.quoteBuyBudget (ctx : NumberContext α) (b : OrderBookSnapshot α) (budget : α) :
    Except MarketError (ExecutableQuote α) := do
  raiseIf (budget ≤ 0) (.orderBookError "cash budget must be positive")
  let fill := Fill.run ⟨budget, 0, 0, none⟩ b.allAsks
  raiseIf (0 < fill.remainingBudget)
    (.orderBookError ("insufficient ask depth for cash budget: requested " ++ ctx.str budget ++
      ", executable " ++ ctx.str (budget - fill.remainingBudget)))
  raiseIf (fill.shares < b.minimumOrderSize)
    (.orderBookError ("cash budget buys " ++ ctx.str fill.shares ++ " shares, below minimum " ++
      ctx.str b.minimumOrderSize))
  -- the loop ran at least once, so the worst price is set
  let worstPrice := fill.worstPrice.getD b.bestAsk
  raiseIf (budget < fill.cost) (.orderBookError "executable quote exceeds approved cash budget")
  return {
    tokenId := b.tokenId
    shares := fill.shares
    totalCost := fill.cost
    averagePrice := pyMax (fill.cost / fill.shares) b.bestAsk
    worstPrice := worstPrice
    bestBid := b.bestBid
    bestAsk := b.bestAsk
    observedAt := b.observedAt
    bookHash := b.bookHash }

/-! ## Buying a number of shares -/

/-- The variables of the loop of `quote_buy`. -/
structure Purchase (α : Type) where
  remaining : α
  cost : α
  worstPrice : Option α

/-- The body of the loop. -/
def Purchase.take (p : Purchase α) (level : OrderLevel α) : Purchase α :=
  let take := pyMin p.remaining level.size
  if 0 < take then ⟨p.remaining - take, p.cost + take * level.price, some level.price⟩ else p

/-- The loop over the asks. -/
def Purchase.run (p : Purchase α) : List (OrderLevel α) → Purchase α
  | [] => p
  | level :: levels =>
    let p := p.take level
    if NumEq p.remaining 0 then p else p.run levels

/-- `quote_buy` (`orderbook.py`, 164-198). -/
def OrderBookSnapshot.quoteBuy (ctx : NumberContext α) (b : OrderBookSnapshot α) (shares : α) :
    Except MarketError (ExecutableQuote α) := do
  raiseIf (shares < b.minimumOrderSize)
    (.orderBookError ("requested shares " ++ ctx.str shares ++ " are below minimum " ++
      ctx.str b.minimumOrderSize))
  let purchase := Purchase.run ⟨shares, 0, none⟩ b.allAsks
  raiseIf (0 < purchase.remaining)
    (.orderBookError ("insufficient ask depth: requested " ++ ctx.str shares ++ ", available " ++
      ctx.str (shares - purchase.remaining)))
  return {
    tokenId := b.tokenId
    shares := shares
    totalCost := purchase.cost
    averagePrice := pyMax (purchase.cost / shares) b.bestAsk
    worstPrice := purchase.worstPrice.getD b.bestAsk
    bestBid := b.bestBid
    bestAsk := b.bestAsk
    observedAt := b.observedAt
    bookHash := b.bookHash }

end

/-! ## Exact arithmetic -/

/-- What the constructor of a book guarantees of its asks. -/
structure OrderBookSnapshot.Sound (b : OrderBookSnapshot ℚ) : Prop where
  levels : ∀ l ∈ b.allAsks, (0 < l.price ∧ l.price < 1) ∧ 0 < l.size
  minimum : 0 < b.minimumOrderSize
  sorted : ∀ l ∈ b.allAsks, b.bestAsk ≤ l.price
  uncrossed : b.bestBid < b.bestAsk
  observed : b.observedAt.utcoffset = 0

theorem OrderBookSnapshot.sound_of_new {raw b : OrderBookSnapshot ℚ} (h : new raw = .ok b) :
    b.Sound := by
  rw [new, check_bind_eq_ok, forM_eq_ok] at h
  obtain ⟨hlevels, h⟩ := h
  obtain ⟨t, ht, h⟩ := bind_eq_ok.mp h
  simp only [raiseIf_bind_eq_ok, not_le, not_not] at h
  obtain ⟨hminimum, -, -, -, hsorted, -, -, huncrossed, h⟩ := h
  cases h
  have hcheck : ∀ l ∈ raw.allAsks, (0 < l.price ∧ l.price < 1) ∧ 0 < l.size := by
    intro l hl
    have := hlevels l (List.mem_append_right _ hl)
    rwa [OrderLevel.check, raiseIf_bind_eq_ok, raiseIf_eq_ok, not_not, not_le] at this
  refine ⟨hcheck, hminimum, ?_, huncrossed, ?_⟩
  · intro l hl
    rcases List.mem_cons.mp hl with rfl | hl
    · exact le_rfl
    · exact (List.pairwise_cons.mp hsorted).1 l hl
  · rw [mapError_eq_ok, astimezoneUtc_eq_ok] at ht
    exact DateTime.utcoffset_astimezoneUtc ht

/-- What the loop keeps: the cost is what was spent, at prices within the range. -/
structure Fill.Kept (budget low : ℚ) (f : Fill ℚ) : Prop where
  remaining : 0 ≤ f.remainingBudget
  spent : f.cost + f.remainingBudget = budget
  cost : 0 ≤ f.cost
  worst : ∀ p, f.worstPrice = some p → low ≤ p ∧ p < 1

theorem Fill.Kept.take {budget low : ℚ} {f : Fill ℚ} (h : f.Kept budget low) {level : OrderLevel ℚ}
    (hprice : 0 < level.price ∧ level.price < 1) (hsize : 0 < level.size) (hlow : low ≤ level.price) :
    (f.take level).Kept budget low := by
  have hcost : 0 ≤ level.size * level.price := mul_nonneg hsize.le hprice.1.le
  have hworst : ∀ p, some level.price = some p → low ≤ p ∧ p < 1 := by
    rintro p ⟨⟩
    exact ⟨hlow, hprice.2⟩
  unfold Fill.take
  dsimp only
  split_ifs with hle
  · refine ⟨sub_nonneg.mpr hle, ?_, add_nonneg h.cost hcost, hworst⟩
    rw [← h.spent]
    ring
  · refine ⟨le_rfl, ?_, add_nonneg h.cost h.remaining, hworst⟩
    rw [← h.spent, add_zero]

theorem Fill.Kept.run {budget low : ℚ} {levels : List (OrderLevel ℚ)} {f : Fill ℚ}
    (h : f.Kept budget low)
    (hlevels : ∀ l ∈ levels, ((0 < l.price ∧ l.price < 1) ∧ 0 < l.size) ∧ low ≤ l.price) :
    (f.run levels).Kept budget low := by
  induction levels generalizing f with
  | nil => exact h
  | cons level levels ih =>
    obtain ⟨⟨hprice, hsize⟩, hlow⟩ := hlevels level (List.mem_cons_self ..)
    have htake := h.take hprice hsize hlow
    rw [Fill.run]
    split_ifs
    · exact htake
    · exact ih htake fun l hl => hlevels l (List.mem_cons_of_mem _ hl)

/-- A quote for a budget in exact arithmetic. -/
structure ExactQuote (b : OrderBookSnapshot ℚ) (budget : ℚ) (q : ExecutableQuote ℚ) : Prop where
  cost : q.totalCost = budget
  shares : 0 < q.shares
  average : q.bestAsk ≤ q.averagePrice
  worst : q.bestAsk ≤ q.worstPrice
  bestAsk : q.bestAsk = b.bestAsk

/-- **A quote in exact arithmetic spends the whole budget.** -/
theorem quoteBuyBudget_exact {ctx : NumberContext ℚ} {b : OrderBookSnapshot ℚ} (hb : b.Sound)
    {budget : ℚ} {q : ExecutableQuote ℚ} (h : b.quoteBuyBudget ctx budget = .ok q) :
    ExactQuote b budget q := by
  simp only [OrderBookSnapshot.quoteBuyBudget, raiseIf_bind_eq_ok] at h
  obtain ⟨hbudget, hremaining, hshares, -, h⟩ := h
  cases h
  have hstart : Fill.Kept budget b.bestAsk ⟨budget, 0, 0, none⟩ :=
    ⟨(not_le.mp hbudget).le, zero_add _, le_rfl, nofun⟩
  have hlevels : ∀ l ∈ b.allAsks, ((0 < l.price ∧ l.price < 1) ∧ 0 < l.size) ∧ b.bestAsk ≤ l.price :=
    fun l hl => ⟨hb.levels l hl, hb.sorted l hl⟩
  have hkept := hstart.run hlevels
  set fill := Fill.run ⟨budget, 0, 0, none⟩ b.allAsks
  have hzero : fill.remainingBudget = 0 := le_antisymm (not_lt.mp hremaining) hkept.remaining
  refine ⟨?_, hb.minimum.trans_le (not_lt.mp hshares), ?_, ?_, rfl⟩
  · have := hkept.spent
    rwa [hzero, add_zero] at this
  · rw [pyMax_eq]
    exact le_max_right _ _
  · dsimp only
    cases hworst : fill.worstPrice with
    | none => exact le_rfl
    | some p => exact (hkept.worst p hworst).1

end WeatherBot.Markets
