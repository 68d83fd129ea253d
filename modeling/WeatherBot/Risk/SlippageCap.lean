import WeatherBot.Markets.Quotes
import WeatherBot.Quoting.Exact
import WeatherBot.Risk.Sizing

/-!
# The budget within the slippage limits

`_slippage_limited_requested_budget` in exact arithmetic, where `next_minus` is
the identity. Its loop ends behind the first level above the average limit, also
where that level is taken whole and the average leaves room for the next one.

* `Depth.run_spec`: how far the loop gets, and when the limits leave room behind it.
* `rejected_iff`: when the evaluation rejects a budget for its slippage.
* `isLargestBudget_iff`: **the budget is the largest one within the limits iff the
  loop does not stop short**, or not even the minimum order is within the limits.
-/

namespace WeatherBot.Risk

open WeatherBot.Common
open WeatherBot.Common.Ladder
open WeatherBot.Domain
open WeatherBot.Markets
open WeatherBot.Quoting

/-- Exact arithmetic. -/
abbrev exact : NumberContext ℚ := Exact.context id

/-! ## How far the loop gets -/

section Loop

variable {A W : ℚ} {d : Depth ℚ} {levels : List (OrderLevel ℚ)}

/-- So many more shares of the levels stay within the limits `A` of the average price and `W` of the
worst price. -/
def Within (A W : ℚ) (d : Depth ℚ) (levels : List (OrderLevel ℚ)) (y : ℚ) : Prop :=
  d.bookCost + cost (ladder levels) y ≤ A * (d.shares + y) ∧
    (0 < y → marginal (ladder levels) y ≤ W)

/-- The first level above `A` is taken whole, below an average of `A`, and the level behind it is
within `W`. -/
def StopsShort (A W : ℚ) : Depth ℚ → List (OrderLevel ℚ) → Prop
  | _, [] => False
  | d, level :: levels =>
    level.price ≤ W ∧
      if level.price ≤ A then
        StopsShort A W ⟨d.shares + level.size, d.bookCost + level.size * level.price⟩ levels
      else d.bookCost + level.size * level.price < A * (d.shares + level.size) ∧
        ∃ next ∈ levels.head?, next.price ≤ W

/-- What the loop has taken, and what is behind it. -/
structure Reached (A W : ℚ) (d : Depth ℚ) (levels : List (OrderLevel ℚ)) (r : Depth ℚ) (y : ℚ) :
    Prop where
  nonneg : 0 ≤ y
  le_depth : y ≤ depth (ladder levels)
  shares : r.shares = d.shares + y
  bookCost : r.bookCost = d.bookCost + cost (ladder levels) y
  within : Within A W d levels y
  largest : ¬ StopsShort A W d levels →
    ∀ z, y < z → z ≤ depth (ladder levels) → ¬ Within A W d levels z
  room : StopsShort A W d levels → ∃ z, y < z ∧ z ≤ depth (ladder levels) ∧ Within A W d levels z

/-- Nothing is taken. -/
theorem reached_zero (h : Rising (ladder levels)) (hd : d.bookCost ≤ A * d.shares)
    (hstop : ¬ StopsShort A W d levels)
    (hnone : ∀ z, 0 < z → z ≤ depth (ladder levels) → ¬ Within A W d levels z) :
    Reached A W d levels d 0 where
  nonneg := le_rfl
  le_depth := h.depth_nonneg
  shares := (add_zero _).symm
  bookCost := by rw [cost_zero h, add_zero]
  within := ⟨by rwa [cost_zero h, add_zero, add_zero], fun hlt => absurd hlt (lt_irrefl _)⟩
  largest _ := hnone
  room hs := absurd hs hstop

variable {level : OrderLevel ℚ}

/-- Shares behind a whole level. -/
theorem within_add (h : Rising (ladder (level :: levels))) {y : ℚ} (hy : 0 ≤ y)
    (hprice : level.price ≤ W) :
    Within A W d (level :: levels) (level.size + y) ↔
      Within A W ⟨d.shares + level.size, d.bookCost + level.size * level.price⟩ levels y := by
  have hcost : cost (ladder (level :: levels)) (level.size + y) =
      level.size * level.price + cost (ladder levels) y := cost_add h hy
  unfold Within
  rw [hcost, ← add_assoc, ← add_assoc]
  refine and_congr_right fun _ => ?_
  rcases hy.eq_or_lt with rfl | hy
  · have hfirst : marginal (ladder (level :: levels)) (level.size + 0) = level.price := by
      rw [ladder_cons, add_zero, marginal, if_pos (show level.size ≤ level.rung.size from le_rfl)]
      rfl
    rw [hfirst]
    exact ⟨fun _ hlt => absurd hlt (lt_irrefl _), fun _ _ => hprice⟩
  · have hbehind : marginal (ladder (level :: levels)) (level.size + y) =
        marginal (ladder levels) y := marginal_add hy
    rw [hbehind]
    exact ⟨fun hm _ => hm (add_pos h.head.2 hy), fun hm _ => hm hy⟩

/-- The level is taken whole, and the loop goes on. -/
theorem Reached.cons (h : Rising (ladder (level :: levels))) (hW : level.price ≤ W)
    (hA : level.price ≤ A) {r : Depth ℚ} {y : ℚ}
    (hr : Reached A W ⟨d.shares + level.size, d.bookCost + level.size * level.price⟩ levels r y) :
    Reached A W d (level :: levels) r (level.size + y) := by
  have hsize : 0 < level.size := h.head.2
  have hstop : StopsShort A W d (level :: levels) ↔
      StopsShort A W ⟨d.shares + level.size, d.bookCost + level.size * level.price⟩ levels := by
    rw [StopsShort, if_pos hA]
    exact and_iff_right hW
  have hdepth : depth (ladder (level :: levels)) = level.size + depth (ladder levels) := depth_cons ..
  have hcost : cost (ladder (level :: levels)) (level.size + y) =
      level.size * level.price + cost (ladder levels) y := cost_add h hr.nonneg
  constructor
  · exact add_nonneg hsize.le hr.nonneg
  · rw [hdepth]
    exact add_le_add_right hr.le_depth _
  · rw [hr.shares, add_assoc]
  · rw [hr.bookCost, hcost, add_assoc]
  · exact (within_add h hr.nonneg hW).mpr hr.within
  · intro hnot z hz hzd
    have hrest : 0 ≤ z - level.size := by linarith [hr.nonneg]
    have hback : level.size + (z - level.size) = z := add_sub_cancel _ _
    rw [← hback, within_add h hrest hW]
    exact hr.largest (fun hs => hnot (hstop.mpr hs)) _ (by linarith) (by linarith)
  · intro hs
    obtain ⟨z, hz, hzd, hwithin⟩ := hr.room (hstop.mp hs)
    exact ⟨level.size + z, add_lt_add_right hz _, by rw [hdepth]; exact add_le_add_right hzd _,
      (within_add h (hr.nonneg.trans hz.le) hW).mpr hwithin⟩

/-- No share behind a quantity that costs `A` on average, at prices above `A`, is within `A`. -/
theorem not_within_of_eq {y z : ℚ} (heq : d.bookCost + cost (ladder levels) y = A * (d.shares + y))
    (hprice : A * (z - y) < cost (ladder levels) z - cost (ladder levels) y) :
    ¬ Within A W d levels z := by
  rintro ⟨hle, -⟩
  have : A * (d.shares + z) = A * (d.shares + y) + A * (z - y) := by ring
  linarith

/-- A level above `A` is taken as far as the average allows. -/
theorem reached_partial (h : Rising (ladder (level :: levels))) (hW : level.price ≤ W)
    (hA : A < level.price) (hd : 0 < A * d.shares - d.bookCost) :
    Reached A W d (level :: levels)
      ⟨d.shares + min level.size ((A * d.shares - d.bookCost) / (level.price - A)),
        d.bookCost + min level.size ((A * d.shares - d.bookCost) / (level.price - A)) * level.price⟩
      (min level.size ((A * d.shares - d.bookCost) / (level.price - A))) := by
  set headroom := A * d.shares - d.bookCost with hheadroom
  have hgap : 0 < level.price - A := sub_pos.mpr hA
  have hsize : 0 < level.size := h.head.2
  have hmax : 0 < headroom / (level.price - A) := div_pos hd hgap
  set take := min level.size (headroom / (level.price - A)) with htake
  have hpos : 0 < take := lt_min hsize hmax
  have hleSize : take ≤ level.size := min_le_left _ _
  have hcost : cost (ladder (level :: levels)) take = take * level.price := by
    rw [ladder_cons, cost, if_pos (show take ≤ level.rung.size from hleSize)]
    rfl
  have hmarginal : marginal (ladder (level :: levels)) take = level.price := by
    rw [ladder_cons, marginal, if_pos (show take ≤ level.rung.size from hleSize)]
    rfl
  have hdepth : depth (ladder (level :: levels)) = level.size + depth (ladder levels) := depth_cons ..
  have hrest : 0 ≤ depth (ladder levels) := h.tail.depth_nonneg
  have hbound : take * (level.price - A) ≤ headroom := (le_div_iff₀ hgap).mp (min_le_right _ _)
  have hstop : StopsShort A W d (level :: levels) ↔
      level.size * (level.price - A) < headroom ∧ ∃ next ∈ levels.head?, next.price ≤ W := by
    rw [StopsShort, if_neg (not_le.mpr hA), and_iff_right hW]
    refine and_congr_left fun _ => ?_
    constructor
    · intro hlt
      linarith [mul_sub level.size level.price A, mul_add A d.shares level.size,
        mul_comm A level.size]
    · intro hlt
      linarith [mul_sub level.size level.price A, mul_add A d.shares level.size,
        mul_comm A level.size]
  have hslope : ∀ z, take < z → z ≤ depth (ladder (level :: levels)) →
      level.price * (z - take) ≤ cost (ladder (level :: levels)) z - take * level.price := by
    intro z hz hzd
    have := cost_slope h hpos.le hz.le hzd
    rwa [hmarginal, hcost] at this
  refine ⟨hpos.le, by rw [hdepth]; linarith, rfl, by rw [hcost], ⟨?_, fun _ => ?_⟩, ?_, ?_⟩
  · rw [hcost]
    linarith [mul_sub take level.price A, mul_add A d.shares take, mul_comm A take]
  · rw [hmarginal]
    exact hW
  · intro hnot z hz hzd
    rcases le_or_gt (headroom / (level.price - A)) level.size with hle | hlt
    · -- the average limit is used up
      have heq : take * (level.price - A) = headroom := by
        rw [htake, min_eq_right hle, div_mul_cancel₀ _ hgap.ne']
      refine not_within_of_eq (y := take) ?_ ?_
      · rw [hcost]
        linarith [mul_sub take level.price A, mul_add A d.shares take, mul_comm A take]
      · have hgain := mul_lt_mul_of_pos_right hA (sub_pos.mpr hz)
        rw [hcost]
        linarith [hslope z hz hzd]
    · -- the level is taken whole, and the next one is above the worst limit
      have heq : take = level.size := by rw [htake, min_eq_left hlt.le]
      have hroom : level.size * (level.price - A) < headroom := (lt_div_iff₀ hgap).mp hlt
      have hnext : ∀ next ∈ levels.head?, W < next.price := by
        intro next hnext
        by_contra hle
        exact hnot (hstop.mpr ⟨hroom, next, hnext, not_lt.mp hle⟩)
      rintro ⟨-, hworst⟩
      have hz0 := hworst (hpos.trans hz)
      cases levels with
      | nil =>
        rw [hdepth, heq.symm] at hzd
        have : depth (ladder ([] : List (OrderLevel ℚ))) = 0 := rfl
        linarith
      | cons next levels =>
        have hback : z = level.size + (z - level.size) := (add_sub_cancel _ _).symm
        have hrest' : 0 < z - level.size := by linarith
        have hbehind : marginal (ladder (level :: next :: levels)) z =
            marginal (ladder (next :: levels)) (z - level.size) := by
          conv_lhs => rw [hback]
          exact marginal_add hrest'
        obtain ⟨r, hr, hprice⟩ := marginal_mem (l := ladder (next :: levels))
          (x := z - level.size) (by linarith) hrest'
        have hnextW := hnext next rfl
        have hle : next.price ≤ r.price := by
          rcases List.mem_cons.mp hr with rfl | hr
          · exact le_rfl
          · exact h.tail.le r hr
        rw [hbehind, hprice] at hz0
        linarith
  · intro hs
    obtain ⟨hroom, next, hnext, hnextW⟩ := hstop.mp hs
    have heq : take = level.size := by
      rw [htake, min_eq_left]
      exact ((lt_div_iff₀ hgap).mpr hroom).le
    cases levels with
    | nil => cases hnext
    | cons first levels =>
      cases hnext
      -- some more shares of the next level fit below the average limit
      have hnextSize : 0 < next.size := h.tail.head.2
      have hnextGap : 0 < next.price - A := by
        have : level.price ≤ next.price := h.le next.rung List.mem_cons_self
        linarith
      set slack := headroom - level.size * (level.price - A) with hslack
      have hslackPos : 0 < slack := sub_pos.mpr hroom
      set more := min next.size (slack / (next.price - A)) with hmore
      have hmorePos : 0 < more := lt_min hnextSize (div_pos hslackPos hnextGap)
      have hmoreSize : more ≤ next.size := min_le_left _ _
      have hmoreBound : more * (next.price - A) ≤ slack :=
        (le_div_iff₀ hnextGap).mp (min_le_right _ _)
      have hnextDepth : depth (ladder (next :: levels)) = next.size + depth (ladder levels) :=
        depth_cons ..
      have hlevels : 0 ≤ depth (ladder levels) := h.tail.tail.depth_nonneg
      refine ⟨level.size + more, by linarith, by rw [hdepth]; linarith, ?_⟩
      rw [within_add h hmorePos.le hW]
      refine ⟨?_, fun _ => ?_⟩
      · rw [ladder_cons, cost, if_pos (show more ≤ next.rung.size from hmoreSize)]
        show d.bookCost + level.size * level.price + more * next.price ≤
          A * (d.shares + level.size + more)
        linarith [mul_sub more next.price A, mul_sub level.size level.price A, mul_comm A more,
          mul_comm A level.size, mul_add A (d.shares + level.size) more,
          mul_add A d.shares level.size]
      · rw [ladder_cons, marginal, if_pos (show more ≤ next.rung.size from hmoreSize)]
        exact hnextW

/-- **How far the loop gets.** -/
theorem Depth.run_spec (h : Rising (ladder levels)) (hd : d.bookCost ≤ A * d.shares) :
    ∃ y, Reached A W d levels (d.run exact A W levels) y := by
  induction levels generalizing d with
  | nil =>
    refine ⟨0, reached_zero h hd id ?_⟩
    intro z hz hzd
    exact absurd hz hzd.not_gt
  | cons level levels ih =>
    have hsize : 0 < level.size := h.head.2
    rw [Depth.run]
    split_ifs with hW
    · refine ⟨0, reached_zero h hd (fun hs => absurd hs.1 (not_le.mpr hW)) ?_⟩
      rintro z hz hzd ⟨-, hworst⟩
      obtain ⟨r, hr, hprice⟩ := marginal_mem hzd hz
      have hle : level.price ≤ r.price := by
        rcases List.mem_cons.mp hr with rfl | hr
        · exact le_rfl
        · exact h.le r hr
      have := hworst hz
      rw [hprice] at this
      linarith
    · have hW := not_lt.mp hW
      unfold Depth.takeOf
      by_cases hA : level.price ≤ A
      · rw [if_pos hA]
        dsimp only
        rw [if_neg (not_le.mpr hsize), if_neg (not_or.mpr ⟨lt_irrefl _, not_lt.mpr hA⟩)]
        have hprice := mul_le_mul_of_nonneg_left hA hsize.le
        obtain ⟨y, hy⟩ := ih (d := ⟨d.shares + level.size, d.bookCost + level.size * level.price⟩)
          h.tail (by
            dsimp only
            linarith [mul_add A d.shares level.size, mul_comm A level.size])
        exact ⟨_, hy.cons h hW hA⟩
      · rw [if_neg hA]
        dsimp only
        have hA := not_le.mp hA
        split_ifs with hheadroom
        · have heq : d.bookCost = A * d.shares := by linarith
          refine ⟨0, reached_zero h hd ?_ ?_⟩
          · rintro ⟨-, hs⟩
            rw [if_neg (not_le.mpr hA)] at hs
            have := mul_lt_mul_of_pos_left hA hsize
            linarith [hs.1, mul_add A d.shares level.size, mul_comm A level.size]
          · intro z hz hzd
            refine not_within_of_eq (y := 0) (by rw [cost_zero h, add_zero, add_zero, heq]) ?_
            have hcost := cost_ge h (p := level.price) (fun r hr => by
              rcases List.mem_cons.mp hr with rfl | hr
              · exact le_rfl
              · exact h.le r hr) hz.le hzd
            rw [cost_zero h, sub_zero, sub_zero]
            exact (mul_lt_mul_of_pos_right hA hz).trans_le hcost
        · have hgap : 0 < level.price - A := sub_pos.mpr hA
          have htake : 0 < min level.size ((A * d.shares - d.bookCost) / (level.price - A)) :=
            lt_min hsize (div_pos (not_le.mp hheadroom) hgap)
          have hmin : pyMin level.size (exact.nextMinus
              ((A * d.shares - d.bookCost) / (level.price - A))) =
              min level.size ((A * d.shares - d.bookCost) / (level.price - A)) := pyMin_eq _ _
          simp only [hmin]
          rw [if_neg (not_le.mpr htake), if_pos (.inr hA)]
          exact ⟨_, reached_partial h hW hA (not_le.mp hheadroom)⟩

end Loop

/-! ## The condition -/

/-- `StopsShort` spelled out: the levels up to the first one above `A` cost less than `A` on average,
and the level behind them is within `W`. -/
theorem stopsShort_iff {A W : ℚ} {d : Depth ℚ} {levels : List (OrderLevel ℚ)}
    (h : Rising (ladder levels)) :
    StopsShort A W d levels ↔ ∃ before level next after,
      levels = before ++ level :: next :: after ∧ (∀ l ∈ before, l.price ≤ A) ∧ A < level.price ∧
        next.price ≤ W ∧ d.bookCost + notional (ladder (before ++ [level])) <
          A * (d.shares + depth (ladder (before ++ [level]))) := by
  induction levels generalizing d with
  | nil =>
    refine ⟨False.elim, ?_⟩
    rintro ⟨before, level, next, after, heq, -⟩
    cases before <;> cases heq
  | cons first levels ih =>
    have hbehind : ∀ l ∈ levels, first.price ≤ l.price := fun l hl =>
      h.le l.rung (List.mem_map_of_mem hl)
    rw [StopsShort]
    split_ifs with hA
    · rw [ih h.tail]
      constructor
      · rintro ⟨-, before, level, next, after, rfl, hbefore, hlevel, hnext, hcost⟩
        refine ⟨first :: before, level, next, after, rfl, List.forall_mem_cons.mpr ⟨hA, hbefore⟩,
          hlevel, hnext, ?_⟩
        rw [List.cons_append, ladder_cons, notional_cons, depth_cons, ← add_assoc, ← add_assoc]
        exact hcost
      · rintro ⟨before, level, next, after, heq, hbefore, hlevel, hnext, hcost⟩
        cases before with
        | nil =>
          cases heq
          exact absurd hA (not_le.mpr hlevel)
        | cons l before =>
          cases heq
          have hmem : next ∈ before ++ level :: next :: after := by simp
          refine ⟨(hbehind next hmem).trans hnext, before, level, next, after, rfl,
            (List.forall_mem_cons.mp hbefore).2, hlevel, hnext, ?_⟩
          rw [List.cons_append, ladder_cons, notional_cons, depth_cons, ← add_assoc, ← add_assoc]
            at hcost
          exact hcost
    · constructor
      · rintro ⟨-, hcost, next, hnext, hnextW⟩
        cases levels with
        | nil => cases hnext
        | cons l levels =>
          cases hnext
          refine ⟨[], first, next, levels, rfl, by simp, not_le.mp hA, hnextW, ?_⟩
          simpa [ladder, OrderLevel.rung] using hcost
      · rintro ⟨before, level, next, after, heq, hbefore, hlevel, hnext, hcost⟩
        cases before with
        | nil =>
          cases heq
          refine ⟨(hbehind next List.mem_cons_self).trans hnext, ?_, next, rfl, hnext⟩
          simpa [ladder, OrderLevel.rung] using hcost
        | cons l before =>
          cases heq
          exact absurd (hbefore first List.mem_cons_self) hA

variable {book : OrderBookSnapshot ℚ} {policy : CostPolicy ℚ}

/-- The asks up to the first one above the average limit cost less than that limit on average, and the
ask behind them is within the limit of the worst price. -/
def StopsEarly (book : OrderBookSnapshot ℚ) (policy : CostPolicy ℚ) : Prop :=
  ∃ before level next after, book.allAsks = before ++ level :: next :: after ∧
    (∀ l ∈ before, l.price ≤ book.bestAsk + policy.maximumAverageSlippage) ∧
    book.bestAsk + policy.maximumAverageSlippage < level.price ∧
    next.price ≤ book.bestAsk + policy.maximumWorstSlippage ∧
    notional (ladder (before ++ [level])) <
      (book.bestAsk + policy.maximumAverageSlippage) * depth (ladder (before ++ [level]))

/-- The two slippage checks. -/
def PassesSlippage (policy : CostPolicy ℚ) (q : ExecutableQuote ℚ) : Prop :=
  q.averagePrice - q.bestAsk ≤ policy.maximumAverageSlippage ∧
    q.worstPrice - q.bestAsk ≤ policy.maximumWorstSlippage

/-- The minimum order is within the slippage limits. -/
def MinimumPasses (book : OrderBookSnapshot ℚ) (policy : CostPolicy ℚ) : Prop :=
  ∃ q, book.quoteBuy exact book.minimumOrderSize = .ok q ∧ PassesSlippage policy q

/-- The notional that an all-in budget leaves for the book. -/
def bookNotional (policy : CostPolicy ℚ) (budget : ℚ) : ℚ :=
  (budget - policy.transactionCost) / (1 + policy.platformFeeRate + policy.safetyMarginRate)

/-- The notional of a budget is positive, within the displayed depth and buys the minimum. -/
structure Quotable (book : OrderBookSnapshot ℚ) (policy : CostPolicy ℚ) (budget : ℚ) : Prop where
  pos : 0 < bookNotional policy budget
  displayed : bookNotional policy budget ≤ book.askNotional
  quoted : ∃ q, book.quoteBuyBudget exact (bookNotional policy budget) = .ok q

/-- The evaluation rejects a budget for its slippage. -/
def SlippageRejected (book : OrderBookSnapshot ℚ) (policy : CostPolicy ℚ) (probability budget : ℚ) :
    Prop :=
  ∃ detail, price exact book policy probability budget = .ok (.error (.slippageExceeded, detail))

/-- The budget within the slippage limits is the largest one: a budget passes the slippage checks iff it
is at most that one, and none passes where that one is 0. -/
def IsLargestBudget (book : OrderBookSnapshot ℚ) (policy : CostPolicy ℚ) : Prop :=
  ∀ probability budget, Quotable book policy budget →
    (budget ≤ slippageLimitedRequestedBudget exact book policy →
      ¬ SlippageRejected book policy probability budget) ∧
    (slippageLimitedRequestedBudget exact book policy < budget →
      SlippageRejected book policy probability budget) ∧
    (slippageLimitedRequestedBudget exact book policy = 0 →
      SlippageRejected book policy probability budget)

/-- A quote is assessed as beyond the slippage limits iff it fails one of the two checks. -/
theorem assess_slippage {probability budget l : ℚ} {q : ExecutableQuote ℚ} :
    (∃ detail, assess exact policy probability budget l q = .error (.slippageExceeded, detail)) ↔
      ¬ PassesSlippage policy q := by
  constructor
  · rintro ⟨detail, h⟩ ⟨haverage, hworst⟩
    simp only [assess, rejectIf, raiseIf_bind_eq_error, not_lt.mpr haverage, not_lt.mpr hworst,
      Prod.mk.injEq, reduceCtorEq, false_and, and_false, false_or, pure_eq_ok] at h
  · intro h
    by_cases haverage : policy.maximumAverageSlippage < q.averagePrice - q.bestAsk
    · exact ⟨_, raiseIf_bind_eq_error.mpr (.inl ⟨haverage, rfl⟩)⟩
    · have hworst : policy.maximumWorstSlippage < q.worstPrice - q.bestAsk := by
        by_contra hworst
        exact h ⟨not_lt.mp haverage, not_lt.mp hworst⟩
      exact ⟨_, raiseIf_bind_eq_error.mpr (.inr ⟨haverage,
        raiseIf_bind_eq_error.mpr (.inl ⟨hworst, rfl⟩)⟩)⟩

/-- The quote of a quotable budget decides whether its slippage is rejected. -/
theorem rejected_iff {probability budget : ℚ} {q : ExecutableQuote ℚ}
    (hb : Quotable book policy budget)
    (hmul : 0 < 1 + policy.platformFeeRate + policy.safetyMarginRate)
    (hq : book.quoteBuyBudget exact (bookNotional policy budget) = .ok q) :
    SlippageRejected book policy probability budget ↔ ¬ PassesSlippage policy q := by
  have hremaining : ¬ budget - policy.transactionCost ≤ 0 := by
    intro hle
    exact absurd hb.pos (div_nonpos_of_nonpos_of_nonneg hle hmul.le).not_gt
  have hbudget : bookBudget exact book policy budget =
      .ok (bookNotional policy budget, bookNotional policy budget) := by
    rw [bookBudget]
    dsimp only [rejectIf]
    rw [raiseIf_of_not _ hremaining]
    exact if_neg (not_lt.mpr hb.displayed)
  have hprice : price exact book policy probability budget =
      .ok (assess exact policy probability budget (bookNotional policy budget) q) := by
    rw [price, hbudget]
    dsimp only
    rw [quoteBook, hq]
    rfl
  unfold SlippageRejected
  rw [hprice, ← assess_slippage (l := bookNotional policy budget)]
  exact exists_congr fun detail => ⟨Except.ok.inj, congrArg Except.ok⟩

/-! ## Monotony -/

/-- Less is within the limits as well. -/
theorem Within.anti {A W : ℚ} {levels : List (OrderLevel ℚ)} (h : Rising (ladder levels)) {x y : ℚ}
    (hy : Within A W ⟨0, 0⟩ levels y) (hx : 0 < x) (hxy : x ≤ y) (hdepth : y ≤ depth (ladder levels)) :
    Within A W ⟨0, 0⟩ levels x := by
  obtain ⟨hcost, hworst⟩ := hy
  have hpos : 0 < y := hx.trans_le hxy
  refine ⟨?_, fun _ => (marginal_mono h hxy hx hdepth).trans (hworst hpos)⟩
  rw [zero_add, zero_add] at hcost ⊢
  have haverage := average_mono h hx hxy hdepth
  refine le_of_mul_le_mul_right ?_ hpos
  calc cost (ladder levels) x * y ≤ cost (ladder levels) y * x := haverage
    _ ≤ A * y * x := mul_le_mul_of_nonneg_right hcost hx.le
    _ = A * x * y := mul_right_comm A y x

/-- The quote of a number of shares passes the checks iff they are within the limits. -/
theorem passes_quoteAt_iff (hslippage : 0 ≤ policy.maximumAverageSlippage) {y : ℚ} (hy : 0 < y) :
    PassesSlippage policy (book.quoteAt y) ↔
      Within (book.bestAsk + policy.maximumAverageSlippage) (book.bestAsk + policy.maximumWorstSlippage)
        ⟨0, 0⟩ book.allAsks y := by
  unfold PassesSlippage Within
  rw [sub_le_iff_le_add', sub_le_iff_le_add', zero_add, zero_add]
  refine and_congr ?_ ⟨fun h _ => h, fun h => h hy⟩
  show max (cost book.ladder y / y) book.bestAsk ≤ book.bestAsk + _ ↔ _
  rw [max_le_iff, and_iff_left (le_add_of_nonneg_right hslippage), div_le_iff₀ hy]
  rfl

/-- The limits of a policy are not negative. -/
theorem slippage_of_new {raw : CostPolicy ℚ} (h : CostPolicy.new raw = .ok policy) :
    0 ≤ policy.maximumAverageSlippage := by
  rw [CostPolicy.new, check_bind_eq_ok, forM_eq_ok, raiseIf_bind_eq_ok, raiseIf_bind_eq_ok] at h
  obtain ⟨hsigns, -, -, h⟩ := h
  cases h
  simp only [List.forall_mem_cons, raiseIf_eq_ok, not_lt] at hsigns
  obtain ⟨-, -, -, hslippage, -⟩ := hsigns
  exact hslippage

/-! ## The largest budget -/

section Largest

/-- The budget that buys so many shares. -/
def budgetOf (book : OrderBookSnapshot ℚ) (policy : CostPolicy ℚ) (x : ℚ) : ℚ :=
  cost book.ladder x * (1 + policy.platformFeeRate + policy.safetyMarginRate) + policy.transactionCost

variable (h : Rising book.ladder) (hmin : 0 < book.minimumOrderSize) (hpolicy : policy.Sound)

include hpolicy in
theorem multiplier_pos : 0 < 1 + policy.platformFeeRate + policy.safetyMarginRate := by
  linarith [hpolicy.fee, hpolicy.safety]

include h hpolicy in
theorem budgetOf_pos {x : ℚ} (hx : 0 < x) (hdepth : x ≤ depth book.ladder) :
    0 < budgetOf book policy x := by
  have hcost := cost_lt h le_rfl hx hdepth
  rw [cost_zero h] at hcost
  exact add_pos_of_pos_of_nonneg (mul_pos hcost (multiplier_pos hpolicy)) hpolicy.transaction

include h hpolicy in
/-- More shares take a larger budget. -/
theorem budgetOf_lt {x y : ℚ} (hx : 0 ≤ x) (hxy : x < y) (hdepth : y ≤ depth book.ladder) :
    budgetOf book policy x < budgetOf book policy y :=
  add_lt_add_left (mul_lt_mul_of_pos_right (cost_lt h hx hxy hdepth) (multiplier_pos hpolicy)) _

include hpolicy in
theorem bookNotional_budgetOf (x : ℚ) :
    bookNotional policy (budgetOf book policy x) = cost book.ladder x := by
  rw [bookNotional, budgetOf, add_sub_cancel_right, mul_div_cancel_right₀ _ (multiplier_pos hpolicy).ne']

include h hmin hpolicy in
/-- **The quotable budgets are those of the shares from the minimum to the depth.** -/
theorem quotable_iff {budget : ℚ} :
    Quotable book policy budget ↔ ∃ x, (book.minimumOrderSize ≤ x ∧ x ≤ depth book.ladder) ∧
      budget = budgetOf book policy x := by
  constructor
  · rintro ⟨hpos, hdisplayed, q, hq⟩
    rw [askNotional_eq] at hdisplayed
    obtain ⟨⟨-, -, hminimum⟩, -⟩ := (quoteBuyBudget_eq_ok h).mp hq
    refine ⟨_, ⟨hminimum, (amount_pos h hpos hdisplayed).2⟩, ?_⟩
    rw [budgetOf, cost_amount h hpos hdisplayed, bookNotional,
      div_mul_cancel₀ _ (multiplier_pos hpolicy).ne', sub_add_cancel]
  · rintro ⟨x, ⟨hminimum, hdepth⟩, rfl⟩
    have hx : 0 < x := hmin.trans_le hminimum
    have hpos := cost_lt h le_rfl hx hdepth
    rw [cost_zero h] at hpos
    have hdisplayed : cost book.ladder x ≤ notional book.ladder := by
      rw [← cost_depth h]
      rcases hdepth.eq_or_lt with rfl | hlt
      · exact le_rfl
      · exact (cost_lt h hx.le hlt le_rfl).le
    constructor
    · rwa [bookNotional_budgetOf hpolicy]
    · rwa [bookNotional_budgetOf hpolicy, askNotional_eq]
    · rw [bookNotional_budgetOf hpolicy]
      refine ⟨_, (quoteBuyBudget_eq_ok h).mpr ⟨⟨hpos, hdisplayed, ?_⟩, rfl⟩⟩
      rwa [amount_cost h hx.le hdepth]

include h hmin hpolicy in
/-- A budget is rejected for its slippage iff its shares are not within the limits. -/
theorem rejected_budgetOf_iff (hslippage : 0 ≤ policy.maximumAverageSlippage) {p x : ℚ}
    (hminimum : book.minimumOrderSize ≤ x) (hdepth : x ≤ depth book.ladder) :
    SlippageRejected book policy p (budgetOf book policy x) ↔
      ¬ Within (book.bestAsk + policy.maximumAverageSlippage)
        (book.bestAsk + policy.maximumWorstSlippage) ⟨0, 0⟩ book.allAsks x := by
  have hx : 0 < x := hmin.trans_le hminimum
  have hquotable := (quotable_iff h hmin hpolicy).mpr ⟨x, ⟨hminimum, hdepth⟩, rfl⟩
  obtain ⟨q, hq⟩ := hquotable.quoted
  rw [rejected_iff hquotable (multiplier_pos hpolicy) hq, ← passes_quoteAt_iff hslippage hx]
  rw [bookNotional_budgetOf hpolicy] at hq
  obtain ⟨-, rfl⟩ := (quoteBuyBudget_eq_ok h).mp hq
  rw [amount_cost h hx.le hdepth]

include h hmin in
theorem minimumPasses_iff (hslippage : 0 ≤ policy.maximumAverageSlippage) :
    MinimumPasses book policy ↔ book.minimumOrderSize ≤ depth book.ladder ∧
      Within (book.bestAsk + policy.maximumAverageSlippage)
        (book.bestAsk + policy.maximumWorstSlippage) ⟨0, 0⟩ book.allAsks book.minimumOrderSize := by
  unfold MinimumPasses
  simp only [quoteBuy_eq_ok h hmin, and_iff_right (le_refl book.minimumOrderSize)]
  rw [← passes_quoteAt_iff hslippage hmin]
  constructor
  · rintro ⟨q, ⟨hdepth, rfl⟩, hpasses⟩
    exact ⟨hdepth, hpasses⟩
  · rintro ⟨hdepth, hpasses⟩
    exact ⟨_, ⟨hdepth, rfl⟩, hpasses⟩

end Largest

/-- **The budget within the slippage limits is the largest one iff the loop does not stop early**, or
not even the minimum order is within the limits. -/
theorem isLargestBudget_iff {raw : OrderBookSnapshot ℚ} (hbook : OrderBookSnapshot.new raw = .ok book)
    {rawPolicy : CostPolicy ℚ} (hnew : CostPolicy.new rawPolicy = .ok policy) :
    IsLargestBudget book policy ↔ ¬ (StopsEarly book policy ∧ MinimumPasses book policy) := by
  have h : Rising book.ladder := rising_of_new hbook
  have hmin := (OrderBookSnapshot.sound_of_new hbook).minimum
  have hpolicy := CostPolicy.sound_of_new hnew
  have hslippage := slippage_of_new hnew
  have hstops := stopsShort_iff (A := book.bestAsk + policy.maximumAverageSlippage)
    (W := book.bestAsk + policy.maximumWorstSlippage) (d := ⟨0, 0⟩) h
  simp only [zero_add] at hstops
  obtain ⟨y, hy⟩ := Depth.run_spec (A := book.bestAsk + policy.maximumAverageSlippage)
    (W := book.bestAsk + policy.maximumWorstSlippage) (d := ⟨0, 0⟩) h (by simp)
  have hbudget : slippageLimitedRequestedBudget exact book policy =
      if y < book.minimumOrderSize then 0 else budgetOf book policy y := by
    unfold slippageLimitedRequestedBudget
    dsimp only
    rw [hy.shares, hy.bookCost, zero_add, zero_add]
    rfl
  constructor
  · rintro hlargest ⟨hearly, hminimum⟩
    rw [minimumPasses_iff h hmin hslippage] at hminimum
    obtain ⟨hdepth, hwithin⟩ := hminimum
    have hbeyond : ∀ x, book.minimumOrderSize ≤ x → x ≤ depth book.ladder →
        slippageLimitedRequestedBudget exact book policy < budgetOf book policy x →
        ¬ Within (book.bestAsk + policy.maximumAverageSlippage)
          (book.bestAsk + policy.maximumWorstSlippage) ⟨0, 0⟩ book.allAsks x := by
      intro x hx hxdepth hlt
      rw [← rejected_budgetOf_iff (p := 0) h hmin hpolicy hslippage hx hxdepth]
      exact (hlargest 0 _ ((quotable_iff h hmin hpolicy).mpr ⟨x, ⟨hx, hxdepth⟩, rfl⟩)).2.1 hlt
    by_cases hlt : y < book.minimumOrderSize
    · refine hbeyond _ le_rfl hdepth ?_ hwithin
      rw [hbudget, if_pos hlt]
      exact budgetOf_pos h hpolicy hmin hdepth
    · -- some more shares are within the limits
      obtain ⟨z, hyz, hzdepth, hz⟩ := hy.room (hstops.mpr hearly)
      refine hbeyond z ((not_lt.mp hlt).trans hyz.le) hzdepth ?_ hz
      rw [hbudget, if_neg hlt]
      exact budgetOf_lt h hpolicy hy.nonneg hyz hzdepth
  · intro hnot probability budget hquotable
    obtain ⟨x, ⟨hx, hxdepth⟩, rfl⟩ := (quotable_iff h hmin hpolicy).mp hquotable
    have hxpos : 0 < x := hmin.trans_le hx
    rw [rejected_budgetOf_iff h hmin hpolicy hslippage hx hxdepth, hbudget]
    -- what is within the limits the loop has reached
    have hreached : Within (book.bestAsk + policy.maximumAverageSlippage)
        (book.bestAsk + policy.maximumWorstSlippage) ⟨0, 0⟩ book.allAsks x → x ≤ y := by
      intro hwithin
      by_contra hlt
      refine hy.largest (fun hs => hnot ⟨hstops.mp hs, ?_⟩) x (not_le.mp hlt) hxdepth hwithin
      rw [minimumPasses_iff h hmin hslippage]
      exact ⟨hx.trans hxdepth, hwithin.anti h hmin hx hxdepth⟩
    split_ifs with hlt
    · have hpos : 0 < budgetOf book policy x := budgetOf_pos h hpolicy hxpos hxdepth
      have hno : ¬ Within (book.bestAsk + policy.maximumAverageSlippage)
          (book.bestAsk + policy.maximumWorstSlippage) ⟨0, 0⟩ book.allAsks x :=
        fun hwithin => absurd (hx.trans (hreached hwithin)) (not_le.mpr hlt)
      exact ⟨fun hle => absurd hle (not_le.mpr hpos), fun _ => hno, fun _ => hno⟩
    · have hypos : 0 < y := hmin.trans_le (not_lt.mp hlt)
      refine ⟨fun hle => ?_, fun hlt hwithin => ?_, fun hzero => ?_⟩
      · rw [not_not]
        refine hy.within.anti h hxpos ?_ hy.le_depth
        by_contra hyx
        exact absurd hle (not_le.mpr (budgetOf_lt h hpolicy hy.nonneg (not_le.mp hyx) hxdepth))
      · rcases (hreached hwithin).eq_or_lt with rfl | hxy
        · exact lt_irrefl _ hlt
        · exact lt_asymm hlt (budgetOf_lt h hpolicy hxpos.le hxy hy.le_depth)
      · exact absurd hzero (budgetOf_pos h hpolicy hypos hy.le_depth).ne'

namespace Sample

/-- Three asks whose average price of 10.41 / 102 is within 0.15. -/
def steepBook : OrderBookSnapshot ℚ where
  conditionId := "0x1"
  tokenId := "1"
  observedAt := Sample.noonOf Sample.firstOfMarch
  bid := ⟨0.05, 100⟩
  bids := []
  ask := ⟨0.1, 100⟩
  asks := [⟨0.2, 1⟩, ⟨0.21, 1⟩]
  minimumOrderSize := 1
  tickSize := 0.01
  negRisk := false
  bookHash := "h"

/-- No costs, and at most 0.05 above the best ask on average. -/
def slippagePolicy : CostPolicy ℚ where
  platformFeeRate := 0
  transactionCost := 0
  safetyMarginRate := 0
  maximumAverageSlippage := 0.05
  maximumWorstSlippage := 0.2
  maximumAllInPrice := 0.9
  minimumExpectedReturn := 0
  depthPolicy := .reject

end Sample

/-- On the sample book the limit is 10.2, and 10.41 passes the checks. -/
theorem not_isLargestBudget_steepBook :
    OrderBookSnapshot.new Sample.steepBook = .ok Sample.steepBook ∧
      CostPolicy.new Sample.slippagePolicy = .ok Sample.slippagePolicy ∧
      ¬ IsLargestBudget Sample.steepBook Sample.slippagePolicy := by
  refine ⟨by decide +kernel, by decide +kernel, fun hlargest => ?_⟩
  have hquotable : Quotable Sample.steepBook Sample.slippagePolicy 10.41 := by
    refine ⟨by decide +kernel, by decide +kernel, ?_⟩
    exact ⟨_, eq_ok_okOr (by decide +kernel) (Sample.steepBook.quoteAt 0)⟩
  obtain ⟨detail, hrejected⟩ := (hlargest 0.9 10.41 hquotable).2.1 (by decide +kernel)
  have haccepted : (price exact Sample.steepBook Sample.slippagePolicy 0.9 10.41).toOption.map
      Except.isOk = some true := by decide +kernel
  rw [hrejected] at haccepted
  cases haccepted

/-- With a limit of 0.2 on average no ask is above it, and the loop takes the whole book. -/
theorem isLargestBudget_steepBook :
    IsLargestBudget Sample.steepBook { Sample.slippagePolicy with maximumAverageSlippage := 0.2 } := by
  have hnew : OrderBookSnapshot.new Sample.steepBook = .ok Sample.steepBook := by decide +kernel
  have hpolicy : CostPolicy.new { Sample.slippagePolicy with maximumAverageSlippage := 0.2 } =
      .ok { Sample.slippagePolicy with maximumAverageSlippage := 0.2 } := by decide +kernel
  refine (isLargestBudget_iff hnew hpolicy).mpr ?_
  rintro ⟨⟨before, level, next, after, heq, -, hlevel, -⟩, -⟩
  have hmem : level ∈ Sample.steepBook.allAsks := by
    rw [heq]
    exact List.mem_append_right _ List.mem_cons_self
  have hall : ∀ l ∈ Sample.steepBook.allAsks, l.price ≤ 0.1 + 0.2 := by decide +kernel
  exact absurd hlevel (not_lt.mpr (hall level hmem))

end WeatherBot.Risk
