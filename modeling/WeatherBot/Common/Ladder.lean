import Mathlib.Algebra.Order.Field.Basic
import Mathlib.Algebra.Order.BigOperators.Group.List
import Mathlib.Tactic

/-!
# Price ladders

A list of offers, each a price and a size, taken from the first one on: what a
quantity costs (`cost`), and what a sum of money buys (`amount`). Over any linearly
ordered field.

* `amount_cost`, `cost_amount`: the two are inverse to each other up to the depth
  of the ladder.
* `cost_slope`: behind a quantity nothing is cheaper than its last unit
  (`marginal`), if the prices rise.
* `average_mono`: the average price rises with the quantity.
* `sum_le_amount`: no choice of offers buys more for the money.
-/

namespace WeatherBot.Common

/-- An offer of a size at a price. -/
structure Rung (K : Type) where
  price : K
  size : K

namespace Ladder

variable {K : Type} [Field K]

/-! ## Definitions -/

/-- The sizes together. -/
def depth (l : List (Rung K)) : K := (l.map Rung.size).sum

/-- What all offers cost. -/
def notional (l : List (Rung K)) : K := (l.map fun r => r.size * r.price).sum

@[simp] theorem depth_nil : depth ([] : List (Rung K)) = 0 := rfl

@[simp] theorem depth_cons (r : Rung K) (l : List (Rung K)) : depth (r :: l) = r.size + depth l := by
  rw [depth, List.map_cons, List.sum_cons, depth]

@[simp] theorem notional_nil : notional ([] : List (Rung K)) = 0 := rfl

@[simp] theorem notional_cons (r : Rung K) (l : List (Rung K)) :
    notional (r :: l) = r.size * r.price + notional l := by
  rw [notional, List.map_cons, List.sum_cons, notional]

variable [LinearOrder K]

/-- What the first `x` units cost. -/
def cost : List (Rung K) → K → K
  | [], _ => 0
  | r :: l, x => if x ≤ r.size then x * r.price else r.size * r.price + cost l (x - r.size)

/-- How much the sum `b` buys. -/
def amount : List (Rung K) → K → K
  | [], _ => 0
  | r :: l, b =>
    if b ≤ r.size * r.price then b / r.price else r.size + amount l (b - r.size * r.price)

/-- The price of the last of the first `x` units. -/
def marginal : List (Rung K) → K → K
  | [], _ => 0
  | r :: l, x => if x ≤ r.size then r.price else marginal l (x - r.size)

/-- Positive prices and sizes, and prices that do not fall. -/
structure Rising (l : List (Rung K)) : Prop where
  pos : ∀ r ∈ l, 0 < r.price ∧ 0 < r.size
  sorted : l.Pairwise fun r r' => r.price ≤ r'.price

variable {l : List (Rung K)} {r : Rung K} {x y b : K}

theorem Rising.head (h : Rising (r :: l)) : 0 < r.price ∧ 0 < r.size :=
  h.pos r List.mem_cons_self

theorem Rising.tail (h : Rising (r :: l)) : Rising l :=
  ⟨fun r' hr' => h.pos r' (List.mem_cons_of_mem _ hr'), (List.pairwise_cons.mp h.sorted).2⟩

theorem Rising.le (h : Rising (r :: l)) : ∀ r' ∈ l, r.price ≤ r'.price :=
  (List.pairwise_cons.mp h.sorted).1

theorem cost_cons_of_lt (hx : r.size < x) :
    cost (r :: l) x = r.size * r.price + cost l (x - r.size) := by
  rw [cost, if_neg hx.not_ge]

@[simp] theorem cost_zero (h : Rising l) : cost l 0 = 0 := by
  cases l with
  | nil => rfl
  | cons r l => rw [cost, if_pos h.head.2.le, zero_mul]

variable [IsStrictOrderedRing K]

theorem Rising.depth_nonneg (h : Rising l) : 0 ≤ depth l := by
  apply List.sum_nonneg
  intro z hz
  obtain ⟨r, hr, rfl⟩ := List.mem_map.mp hz
  exact (h.pos r hr).2.le

theorem Rising.notional_nonneg (h : Rising l) : 0 ≤ notional l := by
  apply List.sum_nonneg
  intro z hz
  obtain ⟨r, hr, rfl⟩ := List.mem_map.mp hz
  exact (mul_pos (h.pos r hr).2 (h.pos r hr).1).le

theorem Rising.head_cost_pos (h : Rising (r :: l)) : 0 < r.size * r.price :=
  mul_pos h.head.2 h.head.1

/-! ## Cost and amount -/

@[simp] theorem amount_zero (h : Rising l) : amount l 0 = 0 := by
  cases l with
  | nil => rfl
  | cons r l => rw [amount, if_pos h.head_cost_pos.le, zero_div]

/-- A whole offer, and what is behind it. -/
theorem cost_add (h : Rising (r :: l)) (hy : 0 ≤ y) :
    cost (r :: l) (r.size + y) = r.size * r.price + cost l y := by
  rcases hy.eq_or_lt with rfl | hy
  · rw [add_zero, cost, if_pos le_rfl, cost_zero h.tail, add_zero]
  · rw [cost_cons_of_lt (lt_add_of_pos_right _ hy), add_sub_cancel_left]

/-- Units behind a whole offer end where they end without it. -/
theorem marginal_add (hy : 0 < y) : marginal (r :: l) (r.size + y) = marginal l y := by
  rw [marginal, if_neg (not_le.mpr (lt_add_of_pos_right _ hy)), add_sub_cancel_left]

/-- The whole ladder costs all offers. -/
theorem cost_depth (h : Rising l) : cost l (depth l) = notional l := by
  induction l with
  | nil => rfl
  | cons r l ih =>
    rw [depth_cons, cost_add h h.tail.depth_nonneg, ih h.tail, notional_cons]

/-- **What the cost of a quantity buys is that quantity.** -/
theorem amount_cost (h : Rising l) (hx : 0 ≤ x) (hdepth : x ≤ depth l) :
    amount l (cost l x) = x := by
  induction l generalizing x with
  | nil => rw [amount]; exact le_antisymm hx hdepth
  | cons r l ih =>
    rw [depth_cons] at hdepth
    rw [cost, amount]
    split_ifs with hle hcost hcost
    · exact mul_div_cancel_right₀ x h.head.1.ne'
    · exact absurd (mul_le_mul_of_nonneg_right hle h.head.1.le) hcost
    · -- nothing behind the first offer is free
      have hpos : 0 < cost l (x - r.size) := by
        have hrest : 0 < x - r.size := sub_pos.mpr (not_le.mp hle)
        by_contra hzero
        have hamount := ih h.tail hrest.le (by linarith)
        have hnonpos : cost l (x - r.size) ≤ 0 := not_lt.mp hzero
        cases l with
        | nil => simp [amount] at hamount; linarith
        | cons r' l =>
          rw [amount, if_pos (hnonpos.trans h.tail.head_cost_pos.le)] at hamount
          have := div_nonpos_of_nonpos_of_nonneg hnonpos h.tail.head.1.le
          linarith
      linarith
    · rw [add_sub_cancel_left, ih h.tail (sub_nonneg.mpr (not_le.mp hle).le) (by linarith)]
      ring

/-- A positive sum buys a positive amount, within the depth. -/
theorem amount_pos (h : Rising l) (hb : 0 < b) (hnotional : b ≤ notional l) :
    0 < amount l b ∧ amount l b ≤ depth l := by
  induction l generalizing b with
  | nil => exact absurd hb hnotional.not_gt
  | cons r l ih =>
    rw [notional_cons] at hnotional
    rw [amount, depth_cons]
    have hdepth := h.tail.depth_nonneg
    split_ifs with hle
    · have hdiv : b / r.price ≤ r.size := (div_le_iff₀ h.head.1).mpr hle
      exact ⟨div_pos hb h.head.1, by linarith⟩
    · obtain ⟨hpos, hmax⟩ := ih h.tail (sub_pos.mpr (not_le.mp hle)) (by linarith)
      have := h.head.2
      exact ⟨by linarith, by linarith⟩

/-- **What a sum buys costs that sum.** -/
theorem cost_amount (h : Rising l) (hb : 0 < b) (hnotional : b ≤ notional l) :
    cost l (amount l b) = b := by
  induction l generalizing b with
  | nil => exact absurd hb hnotional.not_gt
  | cons r l ih =>
    rw [notional_cons] at hnotional
    rw [amount]
    split_ifs with hle
    · have hdiv : b / r.price ≤ r.size := (div_le_iff₀ h.head.1).mpr hle
      rw [cost, if_pos hdiv, div_mul_cancel₀ _ h.head.1.ne']
    · have hrest : 0 < b - r.size * r.price := sub_pos.mpr (not_le.mp hle)
      rw [cost_add h (amount_pos h.tail hrest (by linarith)).1.le,
        ih h.tail hrest (by linarith)]
      ring

/-! ## Prices -/

/-- Nothing costs less than a lower bound of the prices. -/
theorem cost_ge {p : K} (h : Rising l) (hp : ∀ r ∈ l, p ≤ r.price) (hx : 0 ≤ x)
    (hdepth : x ≤ depth l) : p * x ≤ cost l x := by
  induction l generalizing x with
  | nil =>
    have : x = 0 := le_antisymm hdepth hx
    rw [this, cost, mul_zero]
  | cons r l ih =>
    rw [depth_cons] at hdepth
    have hr := hp r List.mem_cons_self
    rw [cost]
    split_ifs with hle
    · rw [mul_comm]
      exact mul_le_mul_of_nonneg_left hr hx
    · have hrest := ih h.tail (fun r' hr' => hp r' (List.mem_cons_of_mem _ hr'))
        (sub_nonneg.mpr (not_le.mp hle).le) (by linarith)
      have := mul_le_mul_of_nonneg_left hr h.head.2.le
      linarith

/-- The price of the last unit is that of an offer. -/
theorem marginal_mem (hx : x ≤ depth l) (hpos : 0 < x) : ∃ r ∈ l, marginal l x = r.price := by
  induction l generalizing x with
  | nil => exact absurd hpos hx.not_gt
  | cons r l ih =>
    rw [depth_cons] at hx
    rw [marginal]
    split_ifs with hle
    · exact ⟨r, List.mem_cons_self, rfl⟩
    · obtain ⟨r', hr', heq⟩ := ih (by linarith) (sub_pos.mpr (not_le.mp hle))
      exact ⟨r', List.mem_cons_of_mem _ hr', heq⟩

/-- **Behind a quantity nothing is cheaper than its last unit.** -/
theorem cost_slope (h : Rising l) (hx : 0 ≤ x) (hxy : x ≤ y) (hy : y ≤ depth l) :
    marginal l x * (y - x) ≤ cost l y - cost l x := by
  induction l generalizing x y with
  | nil => simp [marginal, cost]
  | cons r l ih =>
    rw [depth_cons] at hy
    rw [marginal, cost, cost]
    split_ifs with hxr hyr hyr
    · linarith [mul_sub r.price y x]
    · have hrest := cost_ge h.tail h.le (sub_nonneg.mpr (not_le.mp hyr).le) (by linarith)
      linarith [mul_sub r.price y x, mul_sub r.price y r.size, mul_comm r.price r.size,
        mul_comm r.price x]
    · exact absurd (hxy.trans hyr) hxr
    · have hrest := ih h.tail (x := x - r.size) (y := y - r.size)
        (sub_nonneg.mpr (not_le.mp hxr).le) (by linarith) (by linarith)
      rw [sub_sub_sub_cancel_right] at hrest
      linarith

/-- A larger quantity costs more. -/
theorem cost_lt (h : Rising l) (hx : 0 ≤ x) (hxy : x < y) (hy : y ≤ depth l) :
    cost l x < cost l y := by
  have hprice : 0 < marginal l x := by
    cases l with
    | nil => exact absurd (hx.trans_lt hxy) hy.not_gt
    | cons r l =>
      rcases hx.eq_or_lt with rfl | hx
      · rw [marginal, if_pos h.head.2.le]
        exact h.head.1
      · obtain ⟨r', hr', heq⟩ := marginal_mem (hxy.le.trans hy) hx
        rw [heq]
        exact (h.pos r' hr').1
  have hslope := cost_slope h hx hxy.le hy
  have hrest := mul_pos hprice (sub_pos.mpr hxy)
  linarith

/-- A larger quantity does not end at a lower price. -/
theorem marginal_mono (h : Rising l) (hxy : x ≤ y) (hpos : 0 < x) (hy : y ≤ depth l) :
    marginal l x ≤ marginal l y := by
  induction l generalizing x y with
  | nil => exact le_rfl
  | cons r l ih =>
    rw [depth_cons] at hy
    rw [marginal, marginal]
    split_ifs with hxr hyr hyr
    · exact le_rfl
    · obtain ⟨r', hr', heq⟩ := marginal_mem (l := l) (x := y - r.size) (by linarith)
        (sub_pos.mpr (not_le.mp hyr))
      rw [heq]
      exact h.le r' hr'
    · exact absurd (hxy.trans hyr) hxr
    · exact ih h.tail (by linarith) (sub_pos.mpr (not_le.mp hxr)) (by linarith)

/-- The average price is at most that of the last unit. -/
theorem cost_le (h : Rising l) (hx : 0 < x) (hdepth : x ≤ depth l) :
    cost l x ≤ marginal l x * x := by
  induction l generalizing x with
  | nil => exact absurd hx hdepth.not_gt
  | cons r l ih =>
    rw [depth_cons] at hdepth
    rw [cost, marginal]
    split_ifs with hle
    · rw [mul_comm]
    · have hrest : 0 < x - r.size := sub_pos.mpr (not_le.mp hle)
      have hih := ih h.tail hrest (by linarith)
      obtain ⟨r', hr', heq⟩ := marginal_mem (l := l) (by linarith) hrest
      have hprice := mul_le_mul_of_nonneg_left (heq ▸ h.le r' hr') h.head.2.le
      linarith [mul_sub (marginal l (x - r.size)) x r.size,
        mul_comm (marginal l (x - r.size)) r.size]

/-- **The average price rises with the quantity.** -/
theorem average_mono (h : Rising l) (hx : 0 < x) (hxy : x ≤ y) (hy : y ≤ depth l) :
    cost l x * y ≤ cost l y * x := by
  have hslope := cost_slope h hx.le hxy hy
  have havg := cost_le h hx (hxy.trans hy)
  have h1 := mul_le_mul_of_nonneg_right hslope hx.le
  have h2 := mul_le_mul_of_nonneg_right havg (sub_nonneg.mpr hxy)
  calc cost l x * y = cost l x * x + cost l x * (y - x) := by ring
    _ ≤ cost l x * x + marginal l x * x * (y - x) := by linarith
    _ = cost l x * x + marginal l x * (y - x) * x := by ring
    _ ≤ cost l x * x + (cost l y - cost l x) * x := by linarith
    _ = cost l y * x := by ring

/-! ## The best choice -/

/-- A choice of a part of every offer. -/
def Choice (l : List (Rung K)) (xs : List K) : Prop :=
  List.Forall₂ (fun r x => 0 ≤ x ∧ x ≤ r.size) l xs

/-- What a choice costs. -/
def choiceCost (l : List (Rung K)) (xs : List K) : K := (l.zipWith (fun r x => x * r.price) xs).sum

/-- Every unit of a choice is paid at a lower bound of the prices. -/
theorem Choice.mul_sum_le {p : K} {xs : List K} (h : Choice l xs) (hp : ∀ r ∈ l, p ≤ r.price) :
    p * xs.sum ≤ choiceCost l xs := by
  induction h with
  | nil => simp [choiceCost]
  | @cons r x l xs hx _ ih =>
    have hr := mul_le_mul_of_nonneg_left (hp r List.mem_cons_self) hx.1
    have hrest := ih fun r' hr' => hp r' (List.mem_cons_of_mem _ hr')
    rw [choiceCost] at hrest ⊢
    rw [List.zipWith_cons_cons, List.sum_cons, List.sum_cons]
    linarith [mul_add p x xs.sum, mul_comm p x]

/-- Money that buys nothing below a price `p` buys at most its share at `p` more. -/
theorem amount_add_le {p d : K} (h : Rising l) (hpos : 0 < p) (hp : ∀ r ∈ l, p ≤ r.price)
    (hb : 0 ≤ b) (hd : 0 ≤ d) : amount l (b + d) ≤ amount l b + d / p := by
  induction l generalizing b d with
  | nil => simpa [amount] using div_nonneg hd hpos.le
  | cons r l ih =>
    have hr := hp r List.mem_cons_self
    have htail := fun r' hr' => hp r' (List.mem_cons_of_mem r hr')
    have hdiv : ∀ {z : K}, 0 ≤ z → z / r.price ≤ z / p := fun hz =>
      div_le_div_of_nonneg_left hz hpos hr
    rw [amount, amount]
    split_ifs with h1 h2 h2
    · rw [add_div]
      linarith [hdiv hd]
    · exact absurd ((le_add_of_nonneg_right hd).trans h1) h2
    · -- the rest of the first offer, and then what is behind it
      have hfirst : 0 ≤ r.size * r.price - b := sub_nonneg.mpr h2
      have hrest : 0 ≤ b + d - r.size * r.price := sub_nonneg.mpr (not_le.mp h1).le
      have hih := ih h.tail htail (b := 0) (d := b + d - r.size * r.price) le_rfl hrest
      rw [zero_add, amount_zero h.tail, zero_add] at hih
      have hsize : r.size = b / r.price + (r.size * r.price - b) / r.price := by
        rw [← add_div, add_sub_cancel, mul_div_cancel_right₀ _ h.head.1.ne']
      have hsum : (r.size * r.price - b) / p + (b + d - r.size * r.price) / p = d / p := by
        rw [← add_div]
        congr 1
        ring
      linarith [hdiv hfirst]
    · have hih := ih h.tail htail (b := b - r.size * r.price) (d := d)
        (sub_nonneg.mpr (not_le.mp h2).le) hd
      rw [sub_add_eq_add_sub] at hih
      linarith

/-- **No choice buys more for the money** than the first offers. -/
theorem sum_le_amount (h : Rising l) {xs : List K} (hchoice : Choice l xs) (hb : 0 ≤ b)
    (hcost : choiceCost l xs ≤ b) : xs.sum ≤ amount l b := by
  induction hchoice generalizing b with
  | nil => exact le_rfl
  | @cons r x l xs hx hxs ih =>
    have hprice := h.head.1
    have hrestCost : 0 ≤ choiceCost l xs := by
      have := Choice.mul_sum_le (p := 0) hxs fun r' hr' => (h.tail.pos r' hr').1.le
      rwa [zero_mul] at this
    have hsplit : choiceCost (r :: l) (x :: xs) = x * r.price + choiceCost l xs := by
      rw [choiceCost, List.zipWith_cons_cons, List.sum_cons, choiceCost]
    rw [hsplit] at hcost
    rw [List.sum_cons, amount]
    split_ifs with hle
    · -- all of it is paid at the first price or more
      have hrest := Choice.mul_sum_le hxs h.le
      rw [le_div_iff₀ hprice]
      linarith [add_mul x xs.sum r.price, mul_comm r.price xs.sum]
    · have hrest := ih h.tail (b := b - x * r.price) (by linarith) (by linarith)
      have hleft : 0 ≤ (r.size - x) * r.price := mul_nonneg (sub_nonneg.mpr hx.2) hprice.le
      have hmore := amount_add_le h.tail hprice h.le (b := b - r.size * r.price)
        (d := (r.size - x) * r.price) (sub_nonneg.mpr (not_le.mp hle).le) hleft
      rw [mul_div_cancel_right₀ _ hprice.ne'] at hmore
      have hmoney : b - r.size * r.price + (r.size - x) * r.price = b - x * r.price := by ring
      rw [hmoney] at hmore
      linarith

/-- The first offers are a choice: they buy what the money buys, for the money. -/
theorem exists_choice (h : Rising l) (hb : 0 ≤ b) (hnotional : b ≤ notional l) :
    ∃ xs, Choice l xs ∧ choiceCost l xs ≤ b ∧ xs.sum = amount l b := by
  induction l generalizing b with
  | nil => exact ⟨[], .nil, hb, rfl⟩
  | cons r l ih =>
    rw [notional_cons] at hnotional
    have hprice := h.head.1
    have hsplit : ∀ x xs, choiceCost (r :: l) (x :: xs) = x * r.price + choiceCost l xs := by
      intro x xs
      rw [choiceCost, List.zipWith_cons_cons, List.sum_cons, choiceCost]
    rw [amount]
    split_ifs with hle
    · obtain ⟨xs, hxs, hxsCost, hsum⟩ := ih h.tail (b := 0) le_rfl h.tail.notional_nonneg
      refine ⟨b / r.price :: xs, .cons ⟨div_nonneg hb hprice.le, (div_le_iff₀ hprice).mpr hle⟩ hxs,
        ?_, ?_⟩
      · rw [hsplit, div_mul_cancel₀ _ hprice.ne']
        linarith
      · rw [List.sum_cons, hsum, amount_zero h.tail, add_zero]
    · obtain ⟨xs, hxs, hxsCost, hsum⟩ := ih h.tail (b := b - r.size * r.price)
        (sub_nonneg.mpr (not_le.mp hle).le) (by linarith)
      refine ⟨r.size :: xs, .cons ⟨h.head.2.le, le_rfl⟩ hxs, ?_, ?_⟩
      · rw [hsplit]
        linarith
      · rw [List.sum_cons, hsum]

end Ladder

end WeatherBot.Common
