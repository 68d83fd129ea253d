import WeatherBot.Common.Ladder
import WeatherBot.Markets.OrderBook

/-!
# Quotes in exact arithmetic

The two walks over the asks, by budget and by shares, end in the same quote.

* `quoteAt`: the quote of a number of shares, by the cost of a ladder.
* `quoteBuyBudget_eq_ok`, `quoteBuy_eq_ok`: both walks return it.
* `quoteBuyBudget_optimal`: **a budget quote buys the most that the money buys**,
  and is the quote of its shares.
-/

namespace WeatherBot.Markets

open WeatherBot.Common
open WeatherBot.Common.Ladder

/-! ## The asks as a ladder -/

/-- A level as an offer. -/
def OrderLevel.rung (l : OrderLevel ℚ) : Rung ℚ := ⟨l.price, l.size⟩

/-- Levels as a ladder. -/
def ladder (levels : List (OrderLevel ℚ)) : List (Rung ℚ) := levels.map OrderLevel.rung

@[simp] theorem ladder_cons (level : OrderLevel ℚ) (levels : List (OrderLevel ℚ)) :
    ladder (level :: levels) = level.rung :: ladder levels := rfl

/-- The asks of a book. -/
def OrderBookSnapshot.ladder (b : OrderBookSnapshot ℚ) : List (Rung ℚ) := Markets.ladder b.allAsks

theorem rising_of_new {raw b : OrderBookSnapshot ℚ} (h : OrderBookSnapshot.new raw = .ok b) :
    Rising b.ladder := by
  have hsound := OrderBookSnapshot.sound_of_new h
  refine ⟨?_, ?_⟩
  · intro r hr
    obtain ⟨l, hl, rfl⟩ := List.mem_map.mp hr
    exact ⟨(hsound.levels l hl).1.1, (hsound.levels l hl).2⟩
  · rw [OrderBookSnapshot.new, check_bind_eq_ok, forM_eq_ok] at h
    obtain ⟨-, h⟩ := h
    obtain ⟨t, -, h⟩ := bind_eq_ok.mp h
    simp only [raiseIf_bind_eq_ok, not_not] at h
    obtain ⟨-, -, -, -, hsorted, -, -, -, h⟩ := h
    cases h
    exact List.pairwise_map.mpr hsorted

theorem foldl_askNotional (levels : List (OrderLevel ℚ)) (total : ℚ) :
    levels.foldl (fun total level => total + level.price * level.size) total =
      total + notional (ladder levels) := by
  induction levels generalizing total with
  | nil => simp [ladder]
  | cons level levels ih =>
    rw [List.foldl_cons, ih, ladder_cons, notional_cons]
    simp only [OrderLevel.rung]
    ring

/-- The displayed notional is that of the ladder. -/
theorem askNotional_eq (b : OrderBookSnapshot ℚ) : b.askNotional = notional b.ladder := by
  rw [OrderBookSnapshot.askNotional, foldl_askNotional, zero_add, OrderBookSnapshot.ladder]

/-! ## The two walks -/

/-- The walk by budget buys what the ladder buys. -/
theorem Fill.run_eq {levels : List (OrderLevel ℚ)} (h : Rising (ladder levels)) {f : Fill ℚ}
    (hpos : 0 < f.remainingBudget) (hle : f.remainingBudget ≤ notional (ladder levels)) :
    f.run levels = ⟨0, f.shares + amount (ladder levels) f.remainingBudget,
      f.cost + f.remainingBudget,
      some (marginal (ladder levels) (amount (ladder levels) f.remainingBudget))⟩ := by
  induction levels generalizing f with
  | nil => exact absurd hpos hle.not_gt
  | cons level levels ih =>
    rw [ladder_cons] at h hle ⊢
    rw [notional_cons] at hle
    have hprice : level.price ≠ 0 := h.head.1.ne'
    rw [Fill.run, Fill.take]
    simp only [numEq_iff]
    by_cases hwhole : level.size * level.price ≤ f.remainingBudget
    · rw [if_pos hwhole]
      dsimp only
      by_cases hzero : f.remainingBudget - level.size * level.price = 0
      · -- the budget ends with this level
        have heq : f.remainingBudget = level.rung.size * level.rung.price := sub_eq_zero.mp hzero
        have hamount : amount (level.rung :: ladder levels) f.remainingBudget = level.size := by
          rw [amount, if_pos heq.le, heq]
          exact mul_div_cancel_right₀ _ hprice
        rw [if_pos hzero, hamount, marginal, if_pos (show level.size ≤ level.rung.size from le_rfl),
          hzero, heq]
        rfl
      · have hrest : 0 < f.remainingBudget - level.size * level.price :=
          lt_of_le_of_ne (sub_nonneg.mpr hwhole) (Ne.symm hzero)
        have hlt : ¬ f.remainingBudget ≤ level.rung.size * level.rung.price :=
          not_le.mpr (sub_pos.mp hrest)
        have hamount : amount (level.rung :: ladder levels) f.remainingBudget =
            level.size + amount (ladder levels) (f.remainingBudget - level.size * level.price) := by
          rw [amount, if_neg hlt]
          rfl
        have hpos' := (amount_pos h.tail hrest (by
          have : level.rung.size * level.rung.price = level.size * level.price := rfl
          linarith)).1
        have hmarginal : marginal (level.rung :: ladder levels) (level.size +
            amount (ladder levels) (f.remainingBudget - level.size * level.price)) =
            marginal (ladder levels)
              (amount (ladder levels) (f.remainingBudget - level.size * level.price)) :=
          marginal_add hpos'
        rw [if_neg hzero, ih h.tail hrest (by
          have : level.rung.size * level.rung.price = level.size * level.price := rfl
          dsimp only
          linarith), hamount, hmarginal]
        simp only [Fill.mk.injEq, true_and, and_true]
        constructor <;> ring
    · have hle' : f.remainingBudget ≤ level.rung.size * level.rung.price := (not_le.mp hwhole).le
      have hdiv : f.remainingBudget / level.rung.price ≤ level.rung.size :=
        (div_le_iff₀ h.head.1).mpr hle'
      rw [if_neg hwhole, amount, if_pos hle', marginal, if_pos hdiv]
      dsimp only
      rw [if_pos rfl]
      rfl

/-- A budget beyond the ladder is not spent. -/
theorem Fill.run_beyond {levels : List (OrderLevel ℚ)} (h : Rising (ladder levels)) {f : Fill ℚ}
    (hlt : notional (ladder levels) < f.remainingBudget) : 0 < (f.run levels).remainingBudget := by
  induction levels generalizing f with
  | nil => exact hlt
  | cons level levels ih =>
    rw [ladder_cons] at h hlt
    rw [notional_cons] at hlt
    have hrung : level.rung.size * level.rung.price = level.size * level.price := rfl
    have hrest := h.tail.notional_nonneg
    have hwhole : level.size * level.price ≤ f.remainingBudget := by linarith
    have hleft : notional (ladder levels) < f.remainingBudget - level.size * level.price := by
      linarith
    rw [Fill.run, Fill.take]
    simp only [numEq_iff, if_pos hwhole]
    rw [if_neg (hrest.trans_lt hleft).ne']
    exact ih h.tail hleft

/-- The walk by shares pays what the ladder costs. -/
theorem Purchase.run_eq {levels : List (OrderLevel ℚ)} (h : Rising (ladder levels)) {p : Purchase ℚ}
    (hpos : 0 < p.remaining) (hle : p.remaining ≤ depth (ladder levels)) :
    p.run levels = ⟨0, p.cost + Ladder.cost (ladder levels) p.remaining,
      some (marginal (ladder levels) p.remaining)⟩ := by
  induction levels generalizing p with
  | nil => exact absurd hpos hle.not_gt
  | cons level levels ih =>
    rw [ladder_cons] at h hle ⊢
    rw [depth_cons] at hle
    have hsize : 0 < level.size := h.head.2
    rw [Purchase.run, Purchase.take, Ladder.cost, marginal]
    simp only [numEq_iff, pyMin_eq]
    rw [if_pos (lt_min hpos hsize)]
    dsimp only
    by_cases hpart : p.remaining ≤ level.size
    · have hpart' : p.remaining ≤ level.rung.size := hpart
      rw [min_eq_left hpart, sub_self, if_pos rfl, if_pos hpart', if_pos hpart']
      rfl
    · have hpart' : ¬ p.remaining ≤ level.rung.size := hpart
      have hrest : 0 < p.remaining - level.size := sub_pos.mpr (not_le.mp hpart)
      rw [min_eq_right (not_le.mp hpart).le, if_neg hrest.ne', if_neg hpart', if_neg hpart',
        ih h.tail hrest (by
          have : level.rung.size = level.size := rfl
          dsimp only
          linarith)]
      simp only [Purchase.mk.injEq, true_and, OrderLevel.rung, and_true]
      ring

/-- More shares than the ladder has are not bought. -/
theorem Purchase.run_beyond {levels : List (OrderLevel ℚ)} (h : Rising (ladder levels))
    {p : Purchase ℚ} (hlt : depth (ladder levels) < p.remaining) : 0 < (p.run levels).remaining := by
  induction levels generalizing p with
  | nil => exact hlt
  | cons level levels ih =>
    rw [ladder_cons] at h hlt
    rw [depth_cons] at hlt
    have hsize : 0 < level.size := h.head.2
    have hrung : level.rung.size = level.size := rfl
    have hrest := h.tail.depth_nonneg
    have hwhole : level.size ≤ p.remaining := by linarith
    have hleft : depth (ladder levels) < p.remaining - level.size := by linarith
    rw [Purchase.run, Purchase.take]
    simp only [numEq_iff, pyMin_eq]
    rw [min_eq_right hwhole, if_pos hsize, if_neg (hrest.trans_lt hleft).ne']
    exact ih h.tail hleft

/-! ## The quotes -/

/-- The quote of a number of shares. -/
def OrderBookSnapshot.quoteAt (b : OrderBookSnapshot ℚ) (shares : ℚ) : ExecutableQuote ℚ where
  tokenId := b.tokenId
  shares := shares
  totalCost := cost b.ladder shares
  averagePrice := max (cost b.ladder shares / shares) b.bestAsk
  worstPrice := marginal b.ladder shares
  bestBid := b.bestBid
  bestAsk := b.bestAsk
  observedAt := b.observedAt
  bookHash := b.bookHash

variable {ctx : NumberContext ℚ} {b : OrderBookSnapshot ℚ}

/-- **A budget is quoted iff the asks cover it and it buys the minimum**, with the quote of what it
buys. -/
theorem quoteBuyBudget_eq_ok (h : Rising b.ladder) {budget : ℚ} {q : ExecutableQuote ℚ} :
    b.quoteBuyBudget ctx budget = .ok q ↔
      (0 < budget ∧ budget ≤ notional b.ladder ∧ b.minimumOrderSize ≤ amount b.ladder budget) ∧
        q = b.quoteAt (amount b.ladder budget) := by
  unfold OrderBookSnapshot.quoteBuyBudget
  simp only [raiseIf_bind_eq_ok]
  rw [not_le, and_assoc]
  refine and_congr_right fun hbudget => ?_
  by_cases hle : budget ≤ notional b.ladder
  · have hrun := Fill.run_eq h (f := ⟨budget, 0, 0, none⟩) hbudget hle
    have hcost := cost_amount h hbudget hle
    simp only [OrderBookSnapshot.ladder] at hrun hcost hle
    rw [hrun]
    simp only [zero_add, lt_self_iff_false, not_false_eq_true, not_lt, true_and, hle,
      OrderBookSnapshot.ladder, Option.getD_some, pyMax_eq, pure_eq_ok, Except.ok.injEq]
    refine and_congr_right fun _ => ?_
    rw [OrderBookSnapshot.quoteAt, OrderBookSnapshot.ladder, hcost]
    exact eq_comm
  · have hbeyond := Fill.run_beyond h (f := ⟨budget, 0, 0, none⟩) (not_le.mp hle)
    simp only [hbeyond, not_true_eq_false, false_and, hle]

/-- **A number of shares is quoted iff it is within the minimum and the depth.** -/
theorem quoteBuy_eq_ok (h : Rising b.ladder) (hmin : 0 < b.minimumOrderSize) {shares : ℚ}
    {q : ExecutableQuote ℚ} :
    b.quoteBuy ctx shares = .ok q ↔
      (b.minimumOrderSize ≤ shares ∧ shares ≤ depth b.ladder) ∧ q = b.quoteAt shares := by
  unfold OrderBookSnapshot.quoteBuy
  simp only [raiseIf_bind_eq_ok]
  rw [not_lt, and_assoc]
  refine and_congr_right fun hshares => ?_
  by_cases hle : shares ≤ depth b.ladder
  · have hrun := Purchase.run_eq h (p := ⟨shares, 0, none⟩) (hmin.trans_le hshares) hle
    simp only [OrderBookSnapshot.ladder] at hrun hle
    rw [hrun]
    simp only [zero_add, lt_self_iff_false, not_false_eq_true, true_and, hle, OrderBookSnapshot.ladder,
      Option.getD_some, pyMax_eq, pure_eq_ok, Except.ok.injEq]
    exact eq_comm
  · have hbeyond := Purchase.run_beyond h (p := ⟨shares, 0, none⟩) (not_le.mp hle)
    simp only [hbeyond, not_true_eq_false, false_and, hle]

/-! ## Optimality -/

/-- What the money of a budget can buy of the asks. -/
def Affordable (b : OrderBookSnapshot ℚ) (budget : ℚ) : Set ℚ :=
  {shares | ∃ xs, Choice b.ladder xs ∧ choiceCost b.ladder xs ≤ budget ∧ shares = xs.sum}

/-- The prices of a quote are in order. -/
theorem quoteAt_prices {raw b : OrderBookSnapshot ℚ} (hnew : OrderBookSnapshot.new raw = .ok b)
    {shares : ℚ} (hpos : 0 < shares) (hle : shares ≤ depth b.ladder) :
    b.bestAsk ≤ (b.quoteAt shares).averagePrice ∧
      (b.quoteAt shares).averagePrice ≤ (b.quoteAt shares).worstPrice ∧
      (b.quoteAt shares).worstPrice < 1 := by
  have hrising := rising_of_new hnew
  have hsound := OrderBookSnapshot.sound_of_new hnew
  obtain ⟨r, hr, heq⟩ := marginal_mem hle hpos
  obtain ⟨level, hlevel, rfl⟩ := List.mem_map.mp hr
  have hworst : (b.quoteAt shares).worstPrice = level.price := heq
  have haverage : cost b.ladder shares / shares ≤ level.price := by
    rw [div_le_iff₀ hpos, ← hworst]
    exact cost_le hrising hpos hle
  rw [hworst]
  exact ⟨le_max_right _ _, max_le haverage (hsound.sorted level hlevel),
    (hsound.levels level hlevel).1.2⟩

/-- **Budget quoting is optimal and agrees with share quoting.** A quote for a budget costs the
budget, buys the most that the budget can buy, and is the quote of its shares. A quote of a number
of shares is the quote for its cost. -/
theorem quoteBuyBudget_optimal (ctx : NumberContext ℚ) {raw b : OrderBookSnapshot ℚ}
    (hnew : OrderBookSnapshot.new raw = .ok b) :
    (∀ budget q, b.quoteBuyBudget ctx budget = .ok q →
      q.totalCost = budget ∧ IsGreatest (Affordable b budget) q.shares ∧
      b.bestAsk ≤ q.averagePrice ∧ q.averagePrice ≤ q.worstPrice ∧ q.worstPrice < 1 ∧
      b.quoteBuy ctx q.shares = .ok q) ∧
    ∀ shares q, b.quoteBuy ctx shares = .ok q →
      q.shares = shares ∧ b.quoteBuyBudget ctx q.totalCost = .ok q := by
  have h := rising_of_new hnew
  have hmin := (OrderBookSnapshot.sound_of_new hnew).minimum
  constructor
  · intro budget q hq
    obtain ⟨⟨hpos, hle, hminimum⟩, rfl⟩ := (quoteBuyBudget_eq_ok h).mp hq
    obtain ⟨hamount, hdepth⟩ := amount_pos h hpos hle
    refine ⟨cost_amount h hpos hle, ⟨?_, ?_⟩, ?_⟩
    · obtain ⟨xs, hxs, hcost, hsum⟩ := exists_choice h hpos.le hle
      exact ⟨xs, hxs, hcost, hsum.symm⟩
    · rintro shares ⟨xs, hxs, hcost, rfl⟩
      exact sum_le_amount h hxs hpos.le hcost
    · obtain ⟨hbest, haverage, hworst⟩ := quoteAt_prices hnew hamount hdepth
      exact ⟨hbest, haverage, hworst, (quoteBuy_eq_ok h hmin).mpr ⟨⟨hminimum, hdepth⟩, rfl⟩⟩
  · intro shares q hq
    obtain ⟨⟨hminimum, hdepth⟩, rfl⟩ := (quoteBuy_eq_ok h hmin).mp hq
    have hpos := hmin.trans_le hminimum
    have hamount := amount_cost h hpos.le hdepth
    -- the cost is positive and at most that of the whole depth
    have hcost : 0 < cost b.ladder shares := by
      have hask : 0 < b.bestAsk := (h.pos _ List.mem_cons_self).1
      have := cost_ge h (p := b.bestAsk) (fun r hr => by
        obtain ⟨level, hlevel, rfl⟩ := List.mem_map.mp hr
        exact (OrderBookSnapshot.sound_of_new hnew).sorted level hlevel) hpos.le hdepth
      exact (mul_pos hask hpos).trans_le this
    have hnotional : cost b.ladder shares ≤ notional b.ladder := by
      have hslope := cost_slope h hpos.le hdepth le_rfl
      obtain ⟨r, hr, heq⟩ := marginal_mem hdepth hpos
      have hprice : 0 ≤ marginal b.ladder shares := by
        rw [heq]
        exact (h.pos r hr).1.le
      have := mul_nonneg hprice (sub_nonneg.mpr hdepth)
      rw [cost_depth h] at hslope
      linarith
    refine ⟨rfl, (quoteBuyBudget_eq_ok h).mpr ⟨⟨hcost, hnotional, ?_⟩, ?_⟩⟩
    · show b.minimumOrderSize ≤ amount b.ladder (cost b.ladder shares)
      rwa [hamount]
    · show b.quoteAt shares = b.quoteAt (amount b.ladder (cost b.ladder shares))
      rw [hamount]

namespace Sample

/-- Two bids and three asks. -/
def orderBook : OrderBookSnapshot ℚ where
  conditionId := "0x1"
  tokenId := "1"
  observedAt := Sample.noonOf Sample.firstOfMarch
  bid := ⟨0.4, 100⟩
  bids := [⟨0.3, 50⟩]
  ask := ⟨0.5, 3⟩
  asks := [⟨0.6, 100⟩, ⟨0.7, 100⟩]
  minimumOrderSize := 1
  tickSize := 0.01
  negRisk := false
  bookHash := "h"

end Sample

/-- Three shares at 0.5 and one at 0.6 for 2.1. -/
theorem quoteBuyBudget_optimal_orderBook :
    IsGreatest (Affordable Sample.orderBook 2.1) 4 ∧
      Sample.orderBook.quoteBuy (Exact.context id) 4 = .ok (Sample.orderBook.quoteAt 4) := by
  have hnew : OrderBookSnapshot.new Sample.orderBook = .ok Sample.orderBook := by decide +kernel
  obtain ⟨-, hbest, -, -, -, hshares⟩ := (quoteBuyBudget_optimal (Exact.context id) hnew).1
    2.1 (Sample.orderBook.quoteAt 4) (by decide +kernel)
  exact ⟨hbest, hshares⟩

end WeatherBot.Markets
