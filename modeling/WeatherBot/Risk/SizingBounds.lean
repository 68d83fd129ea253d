import WeatherBot.Quoting.Exact
import WeatherBot.Risk.Sizing

/-!
# Bounds of an approved size

In exact arithmetic the loop of `size_executable_buy` keeps its budget within the
available cash and the maximum for a trade (`Progress.Within`), and a pass
either decides or goes on with a smaller budget.

* `iterate_decreases`: a pass that does not decide has a smaller budget.
* `not_requotes_forever`: so the loop would end without its iteration limit, too.
* `bearQuote_approved`: what an approving pass has checked.
* `sizing_bounds`: **an approved size is within every budget and the Kelly bound of
  its own quote**, and sizing ends with a decision.
-/

namespace WeatherBot.Risk

open WeatherBot.Common
open WeatherBot.Domain
open WeatherBot.Markets
open WeatherBot.Quoting

/-! ## Helpers in exact arithmetic -/

/-- `_floor_money` in exact arithmetic. -/
def floored (x : ℚ) : ℚ := if x ≤ 0 then 0 else Exact.truncSix x

theorem floored_le {x : ℚ} (hx : 0 < x) : floored x ≤ x := by
  rw [floored, if_neg hx.not_ge]
  exact Exact.truncSix_le hx.le

theorem floored_nonneg (x : ℚ) : 0 ≤ floored x := by
  unfold floored
  split_ifs with h
  · exact le_rfl
  · exact Exact.truncSix_nonneg (not_le.mp h).le

theorem pos_of_floored_pos {x : ℚ} (h : 0 < floored x) : 0 < x := by
  by_contra hx
  rw [floored, if_pos (not_lt.mp hx)] at h
  exact lt_irrefl _ h

theorem hasSix_floored (x : ℚ) : Exact.HasSix (floored x) := by
  unfold floored
  split_ifs
  · exact Exact.hasSix_zero
  · exact Exact.hasSix_truncSix x

variable {nextMinus : ℚ → ℚ}

theorem floorMoney_exact (x : ℚ) (currency : String) :
    floorMoney (Exact.context nextMinus) x currency = .ok ⟨floored x, currency⟩ := by
  unfold floorMoney floored
  split_ifs
  · rfl
  · dsimp only [Exact.context, MoneyOf.of]
    rw [Exact.roundSix_truncSix]

theorem moneyOf_exact (x : ℚ) (currency : String) :
    MoneyOf.of (Exact.context nextMinus) x currency = .ok ⟨Exact.roundSix x, currency⟩ := rfl

theorem isZero_iff {m : MoneyOf ℚ} : m.IsZero ↔ m.amount = 0 := numEq_iff

/-- The Kelly fraction of a price between zero and one. -/
theorem kelly_exact {p a : ℚ} (ha : 0 < a ∧ a < 1) :
    kelly p a = .ok (if p ≤ a then 0 else (p - a) / (1 - a)) := by
  rw [kelly, raiseIf_of_not _ (not_or.mpr ⟨not_le.mpr ha.1, not_le.mpr ha.2⟩), ok_bind]
  split_ifs <;> rfl

theorem kelly_eq_ok {p a k : ℚ} (h : kelly p a = .ok k) :
    (0 < a ∧ a < 1) ∧ k = if p ≤ a then 0 else (p - a) / (1 - a) := by
  have ha : 0 < a ∧ a < 1 := by
    rw [kelly, raiseIf_bind_eq_ok, not_or, not_le, not_le] at h
    exact h.1
  rw [kelly_exact ha] at h
  exact ⟨ha, (Except.ok.inj h).symm⟩

theorem kelly_nonneg {p a k : ℚ} (h : kelly p a = .ok k) : 0 ≤ k := by
  obtain ⟨ha, rfl⟩ := kelly_eq_ok h
  split_ifs with hp
  · exact le_rfl
  · exact div_nonneg (sub_nonneg.mpr (not_le.mp hp).le) (sub_nonneg.mpr ha.2.le)

/-- A positive Kelly fraction is the edge over the complement of the price. -/
theorem kelly_pos {p a k : ℚ} (h : kelly p a = .ok k) (hk : 0 < k) :
    a < p ∧ k = (p - a) / (1 - a) := by
  obtain ⟨-, rfl⟩ := kelly_eq_ok h
  split_ifs at hk ⊢ with hp
  · exact absurd hk (lt_irrefl _)
  · exact ⟨not_le.mp hp, rfl⟩

/-- The target is within each of the three limits. -/
theorem cashFromKelly_le (capital : RiskCapitalSnapshot ℚ) (policy : SizingPolicy ℚ) (k : ℚ) :
    (cashFromKelly capital policy k).target ≤ capital.availableCash.amount ∧
      (cashFromKelly capital policy k).target ≤ policy.maximumCashPerTrade.amount ∧
      (cashFromKelly capital policy k).target ≤
        capital.availableCash.amount * (k * policy.fractionalKellyMultiplier) := by
  unfold cashFromKelly
  dsimp only
  split_ifs with h1 h2
  · exact ⟨le_rfl, h1.1, h1.2⟩
  · refine ⟨?_, le_rfl, h2⟩
    by_contra hlt
    have hle := (not_le.mp hlt).le
    exact h1 ⟨hle, hle.trans h2⟩
  · have hlt := not_le.mp h2
    refine ⟨?_, hlt.le, le_rfl⟩
    by_contra hav
    have hle := (not_le.mp hav).le
    exact h1 ⟨hle.trans hlt.le, hle⟩

theorem uncapped_cashFromKelly (capital : RiskCapitalSnapshot ℚ) (policy : SizingPolicy ℚ) (k : ℚ) :
    (cashFromKelly capital policy k).uncapped =
      capital.availableCash.amount * (k * policy.fractionalKellyMultiplier) := by
  unfold cashFromKelly
  dsimp only
  split_ifs <;> rfl

/-! ## One pass -/

/-- The budget is positive, within the capital and the policy, and has six places. -/
structure Progress.Within (r : SizingRequest ℚ) (p : Progress ℚ) : Prop where
  positive : 0 < p.currentBudget.amount
  available : p.currentBudget.amount ≤ r.capital.availableCash.amount
  perTrade : p.currentBudget.amount ≤ r.sizingPolicy.maximumCashPerTrade.amount
  currency : p.currentBudget.currency = r.capital.cash.currency
  places : Exact.HasSix p.currentBudget.amount

/-- The budget that an accepted quote bears is at most what Kelly allows. -/
theorem candidateBudget_eq_ok {r : SizingRequest ℚ} {q : ValidatedExecutableQuote ℚ} {cash : KellyCash ℚ}
    {m : MoneyOf ℚ} {b : BindingCap}
    (h : candidateBudget (Exact.context nextMinus) r q cash = .ok (m, b)) :
    m.currency = r.capital.cash.currency ∧ Exact.HasSix m.amount ∧ 0 ≤ m.amount ∧
      m.amount ≤ floored cash.target := by
  rw [candidateBudget, floorMoney_exact, ok_bind] at h
  split_ifs at h with hreduced
  · rw [floorMoney_exact, ok_bind] at h
    dsimp only at h
    by_cases hlt : floored q.totalAllInCost < floored cash.target
    · rw [if_pos hlt] at h
      cases h
      exact ⟨rfl, hasSix_floored _, floored_nonneg _, hlt.le⟩
    · rw [if_neg hlt] at h
      cases h
      exact ⟨rfl, hasSix_floored _, floored_nonneg _, le_rfl⟩
  · cases h
    exact ⟨rfl, hasSix_floored _, floored_nonneg _, le_rfl⟩

/-- A smaller budget for the slippage limits is positive and has six places. -/
theorem smallerSlippageBudget_eq_some {r : SizingRequest ℚ} {p : Progress ℚ}
    {reason : QuoteRejectionReason} {m : MoneyOf ℚ}
    (h : smallerSlippageBudget (Exact.context nextMinus) r p reason = .ok (some m)) :
    m.currency = r.capital.cash.currency ∧ Exact.HasSix m.amount ∧ 0 < m.amount ∧
      m.amount < p.currentBudget.amount := by
  unfold smallerSlippageBudget at h
  split_ifs at h with hreason
  · rw [floorMoney_exact, ok_bind] at h
    dsimp only at h
    rw [pure_eq_ok, Except.ok.injEq] at h
    split_ifs at h with hsmall
    cases h
    refine ⟨rfl, hasSix_floored _, lt_of_le_of_ne (floored_nonneg _) ?_, hsmall.2⟩
    exact fun hz => hsmall.1 (isZero_iff.mpr hz.symm)
  · cases h

/-- How an accepted quote goes on: with a smaller budget, or with a decision. -/
theorem bearQuote_again {r : SizingRequest ℚ} {probability : ℚ} {iteration : ℕ} {p p' : Progress ℚ}
    {q : ValidatedExecutableQuote ℚ}
    (h : bearQuote (Exact.context nextMinus) r probability iteration p q = .ok (.again p')) :
    p'.currentBudget.currency = r.capital.cash.currency ∧ Exact.HasSix p'.currentBudget.amount ∧
      0 < p'.currentBudget.amount ∧ p'.currentBudget.amount < p.currentBudget.amount ∧
      ∃ k, 0 ≤ k ∧ p'.uncappedCash =
        r.capital.availableCash.amount * (k * r.sizingPolicy.fractionalKellyMultiplier) := by
  obtain ⟨k, hk, h⟩ := bind_eq_ok.mp h
  split_ifs at h with hzero
  · cases h
  obtain ⟨⟨m, b⟩, hm, h⟩ := bind_eq_ok.mp h
  dsimp only at h
  obtain ⟨hcurrency, hsix, hnonneg, -⟩ := candidateBudget_eq_ok hm
  split_ifs at h with hz hlt
  · cases h
  · cases h
    refine ⟨hcurrency, hsix, lt_of_le_of_ne hnonneg ?_, hlt, k, kelly_nonneg hk,
      uncapped_cashFromKelly _ _ _⟩
    exact fun hz' => hz (isZero_iff.mpr hz'.symm)
  · cases h

/-- **A pass that does not decide goes on with a smaller budget**, in whole millionths. -/
theorem iterate_decreases {r : SizingRequest ℚ} {probability : ℚ} {iteration : ℕ} {p p' : Progress ℚ}
    (h : iterate (Exact.context nextMinus) r probability iteration p = .ok (.again p')) :
    p'.currentBudget.currency = r.capital.cash.currency ∧ Exact.HasSix p'.currentBudget.amount ∧
      0 < p'.currentBudget.amount ∧ p'.currentBudget.amount < p.currentBudget.amount := by
  obtain ⟨evaluation, -, h⟩ := bind_eq_ok.mp h
  cases evaluation with
  | rejected t reason detail checks =>
    obtain ⟨smaller, hsmaller, h⟩ := bind_eq_ok.mp h
    rw [raising, mapError_eq_ok] at hsmaller
    cases smaller with
    | none => cases h
    | some m =>
      cases h
      exact smallerSlippageBudget_eq_some hsmaller
  | accepted t q =>
    dsimp only at h
    rw [raising, mapError_eq_ok] at h
    obtain ⟨hcurrency, hsix, hpos, hlt, -⟩ := bearQuote_again h
    exact ⟨hcurrency, hsix, hpos, hlt⟩

theorem Progress.Within.iterate {r : SizingRequest ℚ} {probability : ℚ} {iteration : ℕ}
    {p p' : Progress ℚ} (hp : p.Within r)
    (h : Risk.iterate (Exact.context nextMinus) r probability iteration p = .ok (.again p')) :
    p'.Within r := by
  obtain ⟨hcurrency, hsix, hpos, hlt⟩ := iterate_decreases h
  exact ⟨hpos, hlt.le.trans hp.available, hlt.le.trans hp.perTrade, hcurrency, hsix⟩

/-- What an approval has checked: the quote is that of the budget, and the budget is within the Kelly
bound of the quote. -/
structure Outcome.Approved (r : SizingRequest ℚ) (probability : ℚ) (p : Progress ℚ)
    (q : ValidatedExecutableQuote ℚ) (o : Outcome ℚ) : Prop where
  model : o.probability = some probability
  target : o.targetCash = some p.currentBudget
  quote : o.quote = some q
  price : o.finalAllInPrice = some q.allInAveragePrice
  range : 0 < q.allInAveragePrice ∧ q.allInAveragePrice < 1
  edge : q.allInAveragePrice < probability
  kelly : p.currentBudget.amount ≤ r.capital.availableCash.amount *
    r.sizingPolicy.fractionalKellyMultiplier *
    ((probability - q.allInAveragePrice) / (1 - q.allInAveragePrice))
  reasons : o.rejectionReason = none ∧ o.quoteRejectionReason = none

theorem bearQuote_approved {r : SizingRequest ℚ} {probability : ℚ} {iteration : ℕ} {p : Progress ℚ}
    {q : ValidatedExecutableQuote ℚ} {o : Outcome ℚ} (hp : 0 < p.currentBudget.amount)
    (h : bearQuote (Exact.context nextMinus) r probability iteration p q = .ok (.decided o))
    (ho : o.status = .approved) : o.Approved r probability p q := by
  obtain ⟨k, hk, h⟩ := bind_eq_ok.mp h
  split_ifs at h with hzero
  · cases h
    cases ho
  obtain ⟨⟨m, b⟩, hm, h⟩ := bind_eq_ok.mp h
  dsimp only at h
  obtain ⟨-, -, -, hle⟩ := candidateBudget_eq_ok hm
  split_ifs at h with hz hlt
  · cases h
    cases ho
  · cases h
  · cases h
    have hedge := kelly_pos hk (not_le.mp hzero)
    -- the budget is at most the floored target, which is at most what Kelly allows
    have hbudget : p.currentBudget.amount ≤ floored (cashFromKelly r.capital r.sizingPolicy k).target :=
      (not_lt.mp hlt).trans hle
    have htarget := floored_le (pos_of_floored_pos (hp.trans_le hbudget))
    have hcash := (cashFromKelly_le r.capital r.sizingPolicy k).2.2
    refine ⟨rfl, rfl, rfl, rfl, (kelly_eq_ok hk).1, hedge.1, ?_, rfl, rfl⟩
    rw [← hedge.2]
    calc p.currentBudget.amount ≤ (cashFromKelly r.capital r.sizingPolicy k).target :=
          hbudget.trans htarget
      _ ≤ r.capital.availableCash.amount * (k * r.sizingPolicy.fractionalKellyMultiplier) := hcash
      _ = r.capital.availableCash.amount * r.sizingPolicy.fractionalKellyMultiplier * k := by ring

/-- What an approved quote has to do with the budget it was made for. -/
structure Bears (r : SizingRequest ℚ) (probability : ℚ) (p : Progress ℚ)
    (q : ValidatedExecutableQuote ℚ) : Prop where
  requested : q.requestedBudget = p.currentBudget.amount
  total : q.totalAllInCost ≤ p.currentBudget.amount
  model : q.modelProbability = probability
  edge : q.probabilityEdge = probability - q.allInAveragePrice ∧ 0 < q.probabilityEdge

theorem bears_of_accepted {r : SizingRequest ℚ} {probability : ℚ} {p : Progress ℚ} {t : DateTime}
    {q : ValidatedExecutableQuote ℚ}
    (h : evaluateExecutableBuy (Exact.context nextMinus)
      (r.quoteRequest probability p.currentBudget.amount) r.evaluatedAt = .ok (.accepted t q)) :
    Bears r probability p q := by
  obtain ⟨-, a, checks, hprice, rfl⟩ := evaluateExecutableBuy_eq_accepted h
  obtain ⟨limit, executable, quote, -, -, hassess⟩ := price_eq_ok hprice
  have ha := assess_eq_ok hassess
  refine ⟨ha.requested, not_lt.mp ha.withinBudget, ha.probability, ha.edge, ?_⟩
  exact (not_le.mp fun hle => ha.positive (.inl hle))

/-- An approving pass. -/
theorem iterate_approved {r : SizingRequest ℚ} {probability : ℚ} {iteration : ℕ} {p : Progress ℚ}
    {o : Outcome ℚ} (hp : 0 < p.currentBudget.amount)
    (h : iterate (Exact.context nextMinus) r probability iteration p = .ok (.decided o))
    (ho : o.status = .approved) : ∃ q, o.Approved r probability p q ∧ Bears r probability p q := by
  obtain ⟨evaluation, hevaluation, h⟩ := bind_eq_ok.mp h
  cases evaluation with
  | rejected t reason detail checks =>
    obtain ⟨smaller, -, h⟩ := bind_eq_ok.mp h
    cases smaller with
    | none =>
      cases h
      cases ho
    | some m => cases h
  | accepted t q =>
    dsimp only at h
    rw [raising, mapError_eq_ok] at h
    exact ⟨q, bearQuote_approved hp h ho, bears_of_accepted hevaluation⟩

/-! ## The loop -/

/-- **An approval of the loop** is that of one of its passes, within the budgets. -/
theorem search_approved {r : SizingRequest ℚ} {probability : ℚ} {left iteration : ℕ} {p : Progress ℚ}
    {o : Outcome ℚ} (hp : p.Within r)
    (h : search (Exact.context nextMinus) r probability left iteration p = .ok o)
    (ho : o.status = .approved) :
    ∃ p' q, p'.Within r ∧ o.Approved r probability p' q ∧ Bears r probability p' q := by
  induction left generalizing iteration p with
  | zero =>
    cases h
    cases ho
  | succ left ih =>
    obtain ⟨pass, hpass, h⟩ := bind_eq_ok.mp h
    cases pass with
    | decided o' =>
      cases h
      obtain ⟨q, hq⟩ := iterate_approved hp.positive hpass ho
      exact ⟨p, q, hp, hq⟩
    | again p' => exact ih (hp.iterate hpass) h

/-- The loop starts within the budgets, or sizing is over. -/
theorem begin_eq_ok {r : SizingRequest ℚ} {start : Outcome ℚ ⊕ (ℚ × Progress ℚ)}
    (h : begin (Exact.context nextMinus) r = .ok start) :
    match start with
    | .inl o => o.status = .rejected
    | .inr (_, p) => p.Within r := by
  unfold begin at h
  dsimp only at h
  split at h
  · cases h
    rfl
  split_ifs at h
  · cases h
    rfl
  · cases h
    rfl
  · cases h
    rfl
  split at h
  · cases h
    rfl
  rename_i k hk
  rw [floorMoney_exact, ok_bind] at h
  split_ifs at h with hz
  · cases h
    rfl
  · cases h
    set cash := cashFromKelly r.capital r.sizingPolicy k with hcash
    have hpos : 0 < floored cash.target :=
      lt_of_le_of_ne (floored_nonneg _) fun hz' => hz (isZero_iff.mpr hz'.symm)
    have hle := floored_le (pos_of_floored_pos hpos)
    have hlimits := cashFromKelly_le r.capital r.sizingPolicy k
    exact ⟨hpos, hle.trans hlimits.1, hle.trans hlimits.2.1, rfl, hasSix_floored _⟩

/-- The bounds of an approved decision. -/
structure SizingDecision.Bounded (r : SizingRequest ℚ) (d : SizingDecision ℚ)
    (q : ValidatedExecutableQuote ℚ) (probability : ℚ) : Prop where
  requested : q.requestedBudget = d.targetCash.amount
  total : q.totalAllInCost ≤ d.targetCash.amount
  available : d.targetCash.amount ≤ r.capital.availableCash.amount
  perTrade : d.targetCash.amount ≤ r.sizingPolicy.maximumCashPerTrade.amount
  kelly : d.targetCash.amount ≤ r.capital.availableCash.amount *
    r.sizingPolicy.fractionalKellyMultiplier *
    ((probability - q.allInAveragePrice) / (1 - q.allInAveragePrice))
  edge : q.probabilityEdge = probability - q.allInAveragePrice ∧ 0 < q.probabilityEdge

/-- A decision records its arguments. -/
theorem decision_eq_ok {r : SizingRequest ℚ} {o : Outcome ℚ} {d : SizingDecision ℚ}
    (h : decision (Exact.context nextMinus) r o = .ok d) :
    d.status = o.status ∧ d.modelProbability = o.probability ∧ d.quote = o.quote ∧
      d.targetCash = o.targetCash.getD (MoneyOf.zero r.capital.cash.currency) ∧
      d.finalAllInPrice = o.finalAllInPrice := by
  obtain ⟨m, -, h⟩ := bind_eq_ok.mp h
  rw [SizingDecision.new, check_bind_eq_ok, check_bind_eq_ok, raiseIf_bind_eq_ok, raiseIf_bind_eq_ok,
    check_bind_eq_ok] at h
  obtain ⟨-, -, -, -, -, h⟩ := h
  cases h
  exact ⟨rfl, rfl, rfl, rfl, rfl⟩

/-- An approved decision is within its bounds. -/
theorem sizeExecutableBuy_bounded {r : SizingRequest ℚ} {d : SizingDecision ℚ}
    (h : sizeExecutableBuy (Exact.context nextMinus) r = .ok d) (hd : d.status = .approved) :
    ∃ q probability, d.quote = some q ∧ d.modelProbability = some probability ∧
      d.finalAllInPrice = some q.allInAveragePrice ∧ d.Bounded r q probability := by
  obtain ⟨start, hstart, h⟩ := bind_eq_ok.mp h
  rw [raising, mapError_eq_ok] at hstart
  have hbegin := begin_eq_ok hstart
  cases start with
  | inl o =>
    dsimp only at h hbegin
    rw [raising, mapError_eq_ok] at h
    rw [(decision_eq_ok h).1, hbegin] at hd
    cases hd
  | inr start =>
    obtain ⟨probability, p⟩ := start
    obtain ⟨o, ho, h⟩ := bind_eq_ok.mp h
    rw [raising, mapError_eq_ok] at h
    obtain ⟨hstatus, hprobability, hquote, htarget, hprice⟩ := decision_eq_ok h
    rw [hstatus] at hd
    obtain ⟨p', q, hwithin, happroved, hbears⟩ := search_approved hbegin ho hd
    have hamount : d.targetCash.amount = p'.currentBudget.amount := by
      rw [htarget, happroved.target, Option.getD_some]
    refine ⟨q, probability, hquote.trans happroved.quote, hprobability.trans happroved.model,
      hprice.trans happroved.price, ?_⟩
    refine ⟨hbears.requested.trans hamount.symm, ?_, ?_, ?_, ?_, hbears.edge⟩
    · rw [hamount]
      exact hbears.total
    · rw [hamount]
      exact hwithin.available
    · rw [hamount]
      exact hwithin.perTrade
    · rw [hamount]
      exact happroved.kelly

/-! ## The budgets go down -/

/-- One pass goes on to the other. -/
def Requotes (nextMinus : ℚ → ℚ) (r : SizingRequest ℚ) (probability : ℚ) (p p' : Progress ℚ) : Prop :=
  ∃ iteration, iterate (Exact.context nextMinus) r probability iteration p = .ok (.again p')

/-- The budgets that the loop asks quotes for, in order. -/
def quotedBudgets (ctx : NumberContext ℚ) (r : SizingRequest ℚ) (probability : ℚ) :
    ℕ → ℕ → Progress ℚ → List ℚ
  | 0, _, _ => []
  | left + 1, iteration, p =>
    p.currentBudget.amount ::
      match iterate ctx r probability iteration p with
      | .ok (.again p') => quotedBudgets ctx r probability left (iteration + 1) p'
      | _ => []

theorem quotedBudgets_le {r : SizingRequest ℚ} {probability : ℚ} {left iteration : ℕ} {p : Progress ℚ} :
    ∀ b ∈ quotedBudgets (Exact.context nextMinus) r probability left iteration p,
      b ≤ p.currentBudget.amount := by
  induction left generalizing iteration p with
  | zero => simp [quotedBudgets]
  | succ left ih =>
    rw [quotedBudgets]
    refine List.forall_mem_cons.mpr ⟨le_rfl, ?_⟩
    split
    · rename_i p' hp'
      exact fun b hb => (ih b hb).trans (iterate_decreases hp').2.2.2.le
    · simp

/-- **The budgets of the loop strictly decrease.** -/
theorem quotedBudgets_decrease {r : SizingRequest ℚ} {probability : ℚ} {left iteration : ℕ}
    {p : Progress ℚ} :
    (quotedBudgets (Exact.context nextMinus) r probability left iteration p).Pairwise (· > ·) := by
  induction left generalizing iteration p with
  | zero => exact List.Pairwise.nil
  | succ left ih =>
    rw [quotedBudgets]
    split
    · rename_i p' hp'
      refine List.pairwise_cons.mpr ⟨fun b hb => ?_, ih⟩
      exact (quotedBudgets_le b hb).trans_lt (iterate_decreases hp').2.2.2
    · exact List.pairwise_singleton _ _

/-- **There is no endless sequence of passes**: the budgets are whole positive millionths. -/
theorem not_requotes_forever {r : SizingRequest ℚ} {probability : ℚ} (f : ℕ → Progress ℚ) :
    ¬ ∀ n, Requotes nextMinus r probability (f n) (f (n + 1)) := by
  intro h
  have hstep : ∀ n, Exact.HasSix (f (n + 1)).currentBudget.amount ∧
      0 < (f (n + 1)).currentBudget.amount ∧
      (f (n + 1)).currentBudget.amount < (f n).currentBudget.amount := by
    intro n
    obtain ⟨iteration, hn⟩ := h n
    exact (iterate_decreases hn).2
  choose units hunits using fun n => (hstep n).1
  -- in millionths the budgets are natural numbers
  have hpos : ∀ n, 0 < units n := by
    intro n
    have := (hstep n).2.1
    rw [hunits n, lt_div_iff₀ Exact.million_pos, zero_mul] at this
    exact_mod_cast this
  have hlt : ∀ n, units (n + 1) < units n := by
    intro n
    have := (hstep (n + 1)).2.2
    rw [hunits n, hunits (n + 1), div_lt_div_iff_of_pos_right Exact.million_pos] at this
    exact_mod_cast this
  refine not_strictAnti_of_wellFoundedLT (fun n => (units n).toNat) (strictAnti_nat_of_succ_lt ?_)
  intro n
  have := hlt n
  have := hpos n
  have := hpos (n + 1)
  omega

/-! ## Sizing ends with a decision -/

/-- The arguments of a sizing whose records were made by their constructors. -/
structure SizingRequest.Constructed (nextMinus : ℚ → ℚ) (r : SizingRequest ℚ) : Prop where
  capital : ∃ raw, RiskCapitalSnapshot.new (Exact.context nextMinus) raw = .ok r.capital
  event : ∃ raw, MarketEventSnapshot.new raw = .ok r.event
  orderBook : ∃ raw, OrderBookSnapshot.new raw = .ok r.orderBook
  costPolicy : ∃ raw, CostPolicy.new raw = .ok r.costPolicy
  sizingPolicy : ∃ raw, SizingPolicy.new raw = .ok r.sizingPolicy

/-- What the constructors guarantee, as far as sizing depends on it. -/
structure SizingRequest.Sound (r : SizingRequest ℚ) : Prop where
  available : 0 ≤ r.capital.availableCash.amount
  event : strip r.event.eventId ≠ ""
  orderBook : r.orderBook.Sound
  costPolicy : r.costPolicy.Sound
  multiplier : 0 ≤ r.sizingPolicy.fractionalKellyMultiplier
  perTrade : 0 ≤ r.sizingPolicy.maximumCashPerTrade.amount

theorem available_of_new {raw c : RiskCapitalSnapshot ℚ}
    (h : RiskCapitalSnapshot.new (Exact.context nextMinus) raw = .ok c) :
    0 ≤ c.availableCash.amount := by
  rw [RiskCapitalSnapshot.new, check_bind_eq_ok, checkAmounts, forM_eq_ok] at h
  obtain ⟨hamounts, h⟩ := h
  obtain ⟨m, -, h⟩ := bind_eq_ok.mp h
  rw [raiseIf_bind_eq_ok, raiseIf_bind_eq_ok, raiseIf_bind_eq_ok] at h
  obtain ⟨-, -, -, h⟩ := h
  cases h
  have := hamounts ("available_cash", raw.availableCash) (by simp)
  rw [raiseIf_bind_eq_ok, raiseIf_eq_ok, not_lt] at this
  exact this.2

theorem eventId_of_new {raw e : MarketEventSnapshot} (h : MarketEventSnapshot.new raw = .ok e) :
    strip e.eventId ≠ "" := by
  rw [MarketEventSnapshot.new, raiseIf_bind_eq_ok] at h
  obtain ⟨hblank, h⟩ := h
  obtain ⟨t, -, h⟩ := bind_eq_ok.mp h
  obtain ⟨u, -, h⟩ := bind_eq_ok.mp h
  rw [check_bind_eq_ok] at h
  obtain ⟨-, h⟩ := h
  cases h
  dsimp only
  rwa [strip_strip]

theorem sizingPolicy_of_new {raw p : SizingPolicy ℚ} (h : SizingPolicy.new raw = .ok p) :
    0 ≤ p.fractionalKellyMultiplier ∧ 0 ≤ p.maximumCashPerTrade.amount := by
  rw [SizingPolicy.new, raiseIf_bind_eq_ok, raiseIf_bind_eq_ok, raiseIf_bind_eq_ok] at h
  obtain ⟨hmultiplier, hperTrade, -, h⟩ := h
  cases h
  exact ⟨(not_le.mp (not_or.mp hmultiplier).1).le, (not_le.mp hperTrade).le⟩

theorem SizingRequest.Constructed.sound {r : SizingRequest ℚ} (h : r.Constructed nextMinus) :
    r.Sound := by
  obtain ⟨_, hcapital⟩ := h.capital
  obtain ⟨_, hevent⟩ := h.event
  obtain ⟨_, hbook⟩ := h.orderBook
  obtain ⟨_, hcost⟩ := h.costPolicy
  obtain ⟨_, hsizing⟩ := h.sizingPolicy
  exact ⟨available_of_new hcapital, eventId_of_new hevent, OrderBookSnapshot.sound_of_new hbook,
    CostPolicy.sound_of_new hcost, (sizingPolicy_of_new hsizing).1, (sizingPolicy_of_new hsizing).2⟩

/-- The arguments of a decision that its constructor accepts, if the currencies agree. -/
structure Outcome.Conforms (r : SizingRequest ℚ) (o : Outcome ℚ) : Prop where
  uncapped : 0 ≤ o.uncappedCash
  rejected : o.status = .rejected →
    o.quote = none ∧ o.targetCash = none ∧ o.rejectionReason.isSome = true
  approved : o.status = .approved → ∃ probability p q,
    p.Within r ∧ o.Approved r probability p q ∧ Bears r probability p q

/-- Rejections conform. -/
theorem conforms_of_rejected {r : SizingRequest ℚ} {o : Outcome ℚ} (hu : 0 ≤ o.uncappedCash)
    (hs : o.status = .rejected)
    (h : o.quote = none ∧ o.targetCash = none ∧ o.rejectionReason.isSome = true) : o.Conforms r := by
  refine ⟨hu, fun _ => h, fun ha => ?_⟩
  rw [hs] at ha
  cases ha

/-- The uncapped cash of a Kelly fraction is not negative. -/
theorem uncapped_nonneg {r : SizingRequest ℚ} (hr : r.Sound) {k : ℚ} (hk : 0 ≤ k) :
    0 ≤ (cashFromKelly r.capital r.sizingPolicy k).uncapped := by
  rw [uncapped_cashFromKelly]
  exact mul_nonneg hr.available (mul_nonneg hk hr.multiplier)

/-- **The constructor accepts the decision**, unless the currencies differ. -/
theorem decision_error {r : SizingRequest ℚ} (hr : r.Sound) {o : Outcome ℚ} (ho : o.Conforms r)
    {e : Error} (h : decision (Exact.context nextMinus) r o = .error e) :
    r.sizingPolicy.maximumCashPerTrade.currency ≠ r.capital.cash.currency := by
  intro hcurrency
  rw [decision, moneyOf_exact, ok_bind] at h
  have huncapped := Exact.roundSix_nonneg ho.uncapped
  cases hstatus : o.status with
  | rejected =>
    obtain ⟨hquote, htarget, hreason⟩ := ho.rejected hstatus
    have hnone : o.rejectionReason.isNone = false := by
      rw [← Option.not_isSome, hreason]
      rfl
    simp [SizingDecision.new, SizingDecision.checkStatus, checkAmounts, hstatus, hquote, htarget,
      hcurrency, raiseIf, MoneyOf.zero, huncapped.not_gt, hr.perTrade.not_gt, hr.available.not_gt,
      hnone, isZero_iff] at h
  | approved =>
    obtain ⟨probability, p, q, hwithin, happroved, hbears⟩ := ho.approved hstatus
    simp [SizingDecision.new, SizingDecision.checkStatus, checkAmounts, hstatus, happroved.quote,
      happroved.target, happroved.price, happroved.reasons, hcurrency, hwithin.currency, raiseIf,
      huncapped.not_gt, hr.perTrade.not_gt, hwithin.positive.not_gt, hwithin.available.not_gt,
      hwithin.perTrade.not_gt, hwithin.positive.ne', hbears.requested, isZero_iff] at h

section

variable {r : SizingRequest ℚ} (hr : r.Sound) {probability : ℚ} {p : Progress ℚ}
  (hp : p.Within r) (hu : 0 ≤ p.uncappedCash)

include hr hp hu

omit hu in
/-- An accepted quote is borne without an exception. -/
theorem bearQuote_conforms (iteration : ℕ) {q : ValidatedExecutableQuote ℚ}
    (hq : 0 < q.allInAveragePrice ∧ q.allInAveragePrice < 1) (hbears : Bears r probability p q) :
    ∃ pass, bearQuote (Exact.context nextMinus) r probability iteration p q = .ok pass ∧
      ∀ o, pass = .decided o → o.Conforms r := by
  obtain ⟨k, hk⟩ : ∃ k, kelly probability q.allInAveragePrice = .ok k := ⟨_, kelly_exact hq⟩
  obtain ⟨⟨m, b⟩, hm⟩ : ∃ candidate, candidateBudget (Exact.context nextMinus) r q
      (cashFromKelly r.capital r.sizingPolicy k) = .ok candidate := by
    rw [candidateBudget, floorMoney_exact, ok_bind]
    split_ifs
    · rw [floorMoney_exact, ok_bind]
      exact ⟨_, rfl⟩
    · exact ⟨_, rfl⟩
  cases hpass : bearQuote (Exact.context nextMinus) r probability iteration p q with
  | error e =>
    rw [bearQuote, hk, ok_bind] at hpass
    split_ifs at hpass
    · cases hpass
    · dsimp only at hpass
      rw [hm, ok_bind] at hpass
      dsimp only at hpass
      split_ifs at hpass <;> cases hpass
  | ok pass =>
    refine ⟨pass, rfl, ?_⟩
    rintro o rfl
    cases hs : o.status with
    | approved =>
      have happroved := bearQuote_approved hp.positive hpass hs
      rw [bearQuote, hk, ok_bind] at hpass
      have huncapped : 0 ≤ o.uncappedCash := by
        split_ifs at hpass
        · cases hpass
          exact le_rfl
        · dsimp only at hpass
          rw [hm, ok_bind] at hpass
          dsimp only at hpass
          split_ifs at hpass <;> cases hpass <;> exact uncapped_nonneg hr (kelly_nonneg hk)
      exact ⟨huncapped, fun h => absurd (hs.symm.trans h) (by decide),
        fun _ => ⟨probability, p, q, hp, happroved, hbears⟩⟩
    | rejected =>
      rw [bearQuote, hk, ok_bind] at hpass
      split_ifs at hpass
      · cases hpass
        exact conforms_of_rejected le_rfl rfl ⟨rfl, rfl, rfl⟩
      · dsimp only at hpass
        rw [hm, ok_bind] at hpass
        dsimp only at hpass
        split_ifs at hpass
        · cases hpass
          exact conforms_of_rejected (uncapped_nonneg hr (kelly_nonneg hk)) rfl ⟨rfl, rfl, rfl⟩
        · cases hpass
        · cases hpass
          cases hs

/-- **A pass raises nothing but an overflow**, and its decision conforms. -/
theorem iterate_conforms (hnext : Predecessor nextMinus) (iteration : ℕ) :
    (∀ e, iterate (Exact.context nextMinus) r probability iteration p = .error e → e = overflow) ∧
    (∀ o, iterate (Exact.context nextMinus) r probability iteration p = .ok (.decided o) →
      o.Conforms r) ∧
    ∀ p', iterate (Exact.context nextMinus) r probability iteration p = .ok (.again p') →
      0 ≤ p'.uncappedCash := by
  cases hevaluation : evaluateExecutableBuy (Exact.context nextMinus)
      (r.quoteRequest probability p.currentBudget.amount) r.evaluatedAt with
  | error e =>
    rw [iterate, hevaluation, error_bind]
    have he := evaluateExecutableBuy_error hnext (r := r.quoteRequest probability p.currentBudget.amount)
      hr.orderBook hr.costPolicy hr.event hevaluation
    refine ⟨fun e' h => ?_, fun o h => ?_, fun p' h => ?_⟩
    · rw [← Except.error.inj h, he]
    · cases h
    · cases h
  | ok evaluation =>
    rw [iterate, hevaluation, ok_bind]
    cases evaluation with
    | rejected t reason detail checks =>
      obtain ⟨smaller, hsmaller⟩ : ∃ smaller,
          smallerSlippageBudget (Exact.context nextMinus) r p reason = .ok smaller := by
        unfold smallerSlippageBudget
        split_ifs
        · rw [floorMoney_exact, ok_bind]
          exact ⟨_, rfl⟩
        · exact ⟨_, rfl⟩
      dsimp only
      rw [hsmaller, raising, Except.mapError, ok_bind]
      cases smaller with
      | none =>
        refine ⟨fun e h => ?_, fun o h => ?_, fun p' h => ?_⟩
        · cases h
        · cases h
          exact conforms_of_rejected hu rfl ⟨rfl, rfl, rfl⟩
        · cases h
      | some m =>
        refine ⟨fun e h => ?_, fun o h => ?_, fun p' h => ?_⟩
        · cases h
        · cases h
        · cases h
          exact hu
    | accepted t q =>
      have hbears := bears_of_accepted hevaluation
      have hrange : 0 < q.allInAveragePrice ∧ q.allInAveragePrice < 1 := by
        obtain ⟨-, a, checks, hprice, rfl⟩ := evaluateExecutableBuy_eq_accepted hevaluation
        exact (price_exact hnext hr.orderBook hr.costPolicy hprice).allIn_bounds hr.costPolicy
      obtain ⟨pass, hpass, hconforms⟩ := bearQuote_conforms hr hp iteration hrange hbears
      dsimp only
      rw [hpass, raising, Except.mapError]
      refine ⟨fun e h => ?_, fun o h => ?_, fun p' h => ?_⟩
      · cases h
      · cases h
        exact hconforms o rfl
      · cases h
        obtain ⟨-, -, -, -, k, hk, huncapped⟩ := bearQuote_again hpass
        rw [huncapped]
        exact mul_nonneg hr.available (mul_nonneg hk hr.multiplier)

end

/-- **The loop raises nothing but an overflow**, and its decision conforms. -/
theorem search_conforms (hnext : Predecessor nextMinus) {r : SizingRequest ℚ} (hr : r.Sound)
    {probability : ℚ} {left iteration : ℕ} {p : Progress ℚ} (hp : p.Within r)
    (hu : 0 ≤ p.uncappedCash) :
    (∀ e, search (Exact.context nextMinus) r probability left iteration p = .error e → e = overflow) ∧
    ∀ o, search (Exact.context nextMinus) r probability left iteration p = .ok o → o.Conforms r := by
  induction left generalizing iteration p with
  | zero =>
    refine ⟨fun e h => ?_, fun o h => ?_⟩
    · cases h
    · cases h
      exact conforms_of_rejected hu rfl ⟨rfl, rfl, rfl⟩
  | succ left ih =>
    obtain ⟨herror, hdecided, hagain⟩ := iterate_conforms hr hp hu hnext iteration
    rw [search]
    cases hpass : iterate (Exact.context nextMinus) r probability iteration p with
    | error e =>
      refine ⟨fun e' h => ?_, fun o h => ?_⟩
      · rw [← Except.error.inj h]
        exact herror e hpass
      · cases h
    | ok pass =>
      rw [ok_bind]
      cases pass with
      | decided o =>
        refine ⟨fun e h => ?_, fun o' h => ?_⟩
        · cases h
        · cases h
          exact hdecided o hpass
      | again p' => exact ih (hp.iterate hpass) (hagain p' hpass)

/-- What precedes the loop raises nothing, and its decision conforms. -/
theorem begin_conforms (nextMinus : ℚ → ℚ) {r : SizingRequest ℚ} (hr : r.Sound) :
    ∃ start, begin (Exact.context nextMinus) r = .ok start ∧
      match start with
      | .inl o => o.Conforms r
      | .inr (_, p) => 0 ≤ p.uncappedCash := by
  unfold begin
  dsimp only
  split
  · exact ⟨_, rfl, conforms_of_rejected le_rfl rfl ⟨rfl, rfl, rfl⟩⟩
  split_ifs
  · exact ⟨_, rfl, conforms_of_rejected le_rfl rfl ⟨rfl, rfl, rfl⟩⟩
  · exact ⟨_, rfl, conforms_of_rejected le_rfl rfl ⟨rfl, rfl, rfl⟩⟩
  · exact ⟨_, rfl, conforms_of_rejected le_rfl rfl ⟨rfl, rfl, rfl⟩⟩
  split
  · exact ⟨_, rfl, conforms_of_rejected le_rfl rfl ⟨rfl, rfl, rfl⟩⟩
  rename_i k hk
  have huncapped := uncapped_nonneg hr (kelly_nonneg hk)
  rw [floorMoney_exact, ok_bind]
  split_ifs
  · exact ⟨_, rfl, conforms_of_rejected huncapped rfl ⟨rfl, rfl, rfl⟩⟩
  · exact ⟨_, rfl, huncapped⟩

/-- Sizing raises only where the time of evaluation is out of range or the maximum for a trade is
in another currency. -/
theorem sizeExecutableBuy_error (hnext : Predecessor nextMinus) {r : SizingRequest ℚ} (hr : r.Sound)
    {e : QuoteException} (h : sizeExecutableBuy (Exact.context nextMinus) r = .error e) :
    e = overflow ∨ r.sizingPolicy.maximumCashPerTrade.currency ≠ r.capital.cash.currency := by
  obtain ⟨start, hstart, hconforms⟩ := begin_conforms nextMinus hr
  have hwithin := begin_eq_ok hstart
  rw [sizeExecutableBuy, hstart, raising, Except.mapError, ok_bind] at h
  cases start with
  | inl o =>
    dsimp only at h hconforms
    cases hd : decision (Exact.context nextMinus) r o with
    | error e' => exact .inr (decision_error hr hconforms hd)
    | ok d =>
      rw [hd] at h
      cases h
  | inr start =>
    obtain ⟨probability, p⟩ := start
    rcases bind_eq_error.mp h with h | ⟨o, ho, h⟩
    · exact .inl ((search_conforms hnext hr hwithin hconforms).1 e h)
    have hsearch := (search_conforms hnext hr hwithin hconforms).2 o ho
    cases hd : decision (Exact.context nextMinus) r o with
    | error e' => exact .inr (decision_error hr hsearch hd)
    | ok d =>
      rw [hd] at h
      cases h

/-- **Approved sizing stays within every budget and the Kelly bound.** In exact arithmetic, for every
request and every predecessor function: an approved decision is bounded by the quote that it returns;
the budgets of the loop strictly decrease, and would without its iteration limit; and for records that
their constructors made, sizing returns a decision, unless the time of evaluation is out of range or
the maximum for a trade is in another currency. -/
theorem sizing_bounds (nextMinus : ℚ → ℚ) (r : SizingRequest ℚ) :
    (∀ d, sizeExecutableBuy (Exact.context nextMinus) r = .ok d → d.status = .approved →
      ∃ q probability, d.quote = some q ∧ d.modelProbability = some probability ∧
        d.finalAllInPrice = some q.allInAveragePrice ∧ d.Bounded r q probability) ∧
    (∀ probability left iteration p,
      (quotedBudgets (Exact.context nextMinus) r probability left iteration p).Pairwise (· > ·)) ∧
    (∀ probability (f : ℕ → Progress ℚ), ¬ ∀ n, Requotes nextMinus r probability (f n) (f (n + 1))) ∧
    (Predecessor nextMinus → r.Constructed nextMinus →
      (∃ d, sizeExecutableBuy (Exact.context nextMinus) r = .ok d ∧
        (d.status = .approved ∨ d.status = .rejected)) ∨
      sizeExecutableBuy (Exact.context nextMinus) r = .error overflow ∨
      r.sizingPolicy.maximumCashPerTrade.currency ≠ r.capital.cash.currency) := by
  refine ⟨fun d h hd => sizeExecutableBuy_bounded h hd, fun _ _ _ _ => quotedBudgets_decrease,
    fun _ f => not_requotes_forever f, fun hnext hr => ?_⟩
  cases h : sizeExecutableBuy (Exact.context nextMinus) r with
  | error e =>
    rcases sizeExecutableBuy_error hnext hr.sound h with rfl | hdiffer
    · exact .inr (.inl rfl)
    · exact .inr (.inr hdiffer)
  | ok d =>
    refine .inl ⟨d, rfl, ?_⟩
    cases d.status
    · exact .inl rfl
    · exact .inr rfl

namespace Sample

/-- The predecessor of a number of 28 digits, up to its leading digit. -/
def below (x : ℚ) : ℚ := x * (1 - 1 / 10 ^ 28)

theorem predecessor_below : Predecessor below := by
  intro x hx
  unfold below
  exact ⟨mul_pos hx (by norm_num), mul_le_of_le_one_right hx.le (by norm_num)⟩

def time : DateTime := Sample.noonOf Sample.firstOfMarch

def orderBook : OrderBookSnapshot ℚ where
  conditionId := "0x1"
  tokenId := "1"
  observedAt := time
  bid := ⟨0.4, 100⟩
  bids := []
  ask := ⟨0.5, 3⟩
  asks := [⟨0.6, 100⟩]
  minimumOrderSize := 1
  tickSize := 0.01
  negRisk := false
  bookHash := "h"

def usdc (amount : ℚ) : MoneyOf ℚ := ⟨amount, "USDC"⟩

/-- A request whose first budget is lowered once. -/
def request : SizingRequest ℚ where
  capital := ⟨usdc 10, usdc 0, usdc 10, usdc 0, 0⟩
  probability := .number 0.7
  weather := {
    forecast := {
      temperatureF := ⟨false, 70, 0⟩
      marketDate := Sample.firstOfMarch
      marketTimezone := "UTC"
      source := .openMeteoEcmwfIfs025
      modelRunInitializedAtUtc := none
      snapshotIssuedAtUtc := time
      retrievedAtUtc := time }
    assembledAtUtc := time }
  event := ⟨"e", time, none⟩
  orderBook := orderBook
  evaluatedAt := time
  freshnessPolicy := ⟨60 * secondMicros, 60 * secondMicros, 60 * secondMicros, 60 * secondMicros,
    5 * secondMicros⟩
  costPolicy := ⟨0.01, 0, 0, 0.1, 0.2, 0.95, 0, .reduce⟩
  sizingPolicy := ⟨0.5, usdc 5, 8⟩
  balance := none

theorem constructed_request : request.Constructed below where
  capital := ⟨request.capital, by decide +kernel⟩
  event := ⟨request.event, by decide⟩
  orderBook := ⟨orderBook, by decide +kernel⟩
  costPolicy := ⟨request.costPolicy, by decide +kernel⟩
  sizingPolicy := ⟨request.sizingPolicy, by decide +kernel⟩

theorem approved_request : (sizeExecutableBuy (Exact.context below) request).toOption.map
    SizingDecision.status = some .approved := by decide +kernel

end Sample

/-- The sample request is approved within its bounds, after one smaller budget. -/
theorem sizing_bounds_request :
    (∃ d, sizeExecutableBuy (Exact.context Sample.below) Sample.request = .ok d ∧
      d.status = .approved ∧ ∃ q probability, d.quote = some q ∧ d.modelProbability = some probability ∧
        d.finalAllInPrice = some q.allInAveragePrice ∧ d.Bounded Sample.request q probability) ∧
    ((∃ d, sizeExecutableBuy (Exact.context Sample.below) Sample.request = .ok d ∧
        (d.status = .approved ∨ d.status = .rejected)) ∨
      sizeExecutableBuy (Exact.context Sample.below) Sample.request = .error overflow ∨
      Sample.request.sizingPolicy.maximumCashPerTrade.currency ≠
        Sample.request.capital.cash.currency) := by
  have h := sizing_bounds Sample.below Sample.request
  refine ⟨?_, h.2.2.2 Sample.predecessor_below Sample.constructed_request⟩
  cases hd : sizeExecutableBuy (Exact.context Sample.below) Sample.request with
  | error e =>
    have := Sample.approved_request
    rw [hd] at this
    cases this
  | ok d =>
    have := Sample.approved_request
    rw [hd] at this
    have hstatus : d.status = .approved := Option.some.inj this
    exact ⟨d, rfl, hstatus, h.1 d hd hstatus⟩

end WeatherBot.Risk
