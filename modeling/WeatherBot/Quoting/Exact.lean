import WeatherBot.Quoting.Evaluator

/-!
# Quotes in exact arithmetic

With rational numbers the amounts of an accepted evaluation pass every check of
`ValidatedExecutableQuote`, so an evaluation only raises where the time of
evaluation cannot be computed.

* `price_exact`: what the amounts of an accepted quote satisfy.
* `ValidatedExecutableQuote.new_exact`: such amounts make a quote.
* `evaluateExecutableBuy_error`: **an evaluation raises nothing but an overflow.**
-/

namespace WeatherBot.Quoting

open WeatherBot.Common
open WeatherBot.Domain
open WeatherBot.Markets

/-! ## What the evaluator returns -/

section

variable {α : Type} [Zero α] [One α] [Add α] [Sub α] [Mul α] [Div α] [LE α] [LT α] [DecidableLE α]
  [DecidableLT α] {ctx : NumberContext α}

/-- The steps that lead to the amounts of a quote. -/
theorem price_eq_ok {book : OrderBookSnapshot α} {policy : CostPolicy α} {p budget : α}
    {a : QuoteAmounts α} (h : price ctx book policy p budget = .ok (.ok a)) :
    ∃ limit executable quote, bookBudget ctx book policy budget = .ok (limit, executable) ∧
      book.quoteBuyBudget ctx executable = .ok quote ∧
      assess ctx policy p budget limit quote = .ok a := by
  unfold price at h
  split at h
  · cases h
  · rename_i limit executable hbudget
    obtain ⟨quoted, hquoted, h⟩ := bind_eq_ok.mp h
    unfold quoteBook at hquoted
    split at hquoted
    · rename_i quote hquote
      cases hquoted
      exact ⟨limit, executable, quote, hbudget, hquote, Except.ok.inj h⟩
    · cases hquoted
      cases h
    · cases hquoted

omit [One α] in
/-- A book raises only its own error when it is asked for a quote. -/
theorem quoteBuyBudget_error {book : OrderBookSnapshot α} {budget : α} {e : MarketError}
    (h : book.quoteBuyBudget ctx budget = .error e) : ∃ message, e = .orderBookError message := by
  simp only [OrderBookSnapshot.quoteBuyBudget, raiseIf_bind_eq_error] at h
  rcases h with ⟨-, h⟩ | ⟨-, ⟨-, h⟩ | ⟨-, ⟨-, h⟩ | ⟨-, ⟨-, h⟩ | ⟨-, h⟩⟩⟩⟩
  · exact ⟨_, h.symm⟩
  · exact ⟨_, h.symm⟩
  · exact ⟨_, h.symm⟩
  · exact ⟨_, h.symm⟩
  · cases h

/-- The amounts are always computed, or refused for a reason. -/
theorem price_isOk (ctx : NumberContext α) (book : OrderBookSnapshot α) (policy : CostPolicy α) (p budget : α) :
    ∃ priced, price ctx book policy p budget = .ok priced := by
  unfold price
  split
  · exact ⟨_, rfl⟩
  · rename_i limit executable _
    unfold quoteBook
    cases hquote : book.quoteBuyBudget ctx executable with
    | ok quote => exact ⟨_, rfl⟩
    | error e =>
      obtain ⟨message, rfl⟩ := quoteBuyBudget_error hquote
      exact ⟨_, rfl⟩

/-- The amounts that `assess` returns, and the limits that they keep. -/
structure Assessed (policy : CostPolicy α) (p budget limit : α) (q : ExecutableQuote α)
    (a : QuoteAmounts α) : Prop where
  quoted : a.quote = q
  probability : a.modelProbability = p
  requested : a.requestedBudget = budget
  bookLimit : a.bookBudgetLimit = limit
  executable : a.executableBudget = q.totalCost
  fee : a.platformFee = q.totalCost * policy.platformFeeRate
  transaction : a.transactionCost = policy.transactionCost
  safety : a.safetyMargin = q.totalCost * policy.safetyMarginRate
  total : a.totalAllInCost = q.totalCost + a.platformFee + policy.transactionCost + a.safetyMargin
  allIn : a.allInAveragePrice = a.totalAllInCost / q.shares
  payout : a.grossExpectedPayout = p * q.shares
  profit : a.expectedProfit = a.grossExpectedPayout - a.totalAllInCost
  expected : a.expectedReturn = a.expectedProfit / a.totalAllInCost
  edge : a.probabilityEdge = p - a.allInAveragePrice
  average : a.averageSlippage = q.averagePrice - q.bestAsk
  worst : a.worstSlippage = q.worstPrice - q.bestAsk
  reduced : a.depthReduced = true ↔ q.totalCost < limit
  averageLimit : ¬ policy.maximumAverageSlippage < a.averageSlippage
  worstLimit : ¬ policy.maximumWorstSlippage < a.worstSlippage
  withinBudget : ¬ budget < a.totalAllInCost
  priceLimit : ¬ policy.maximumAllInPrice ≤ a.allInAveragePrice
  positive : ¬ (a.probabilityEdge ≤ 0 ∨ a.expectedProfit ≤ 0)
  returnFloor : ¬ a.expectedReturn < policy.minimumExpectedReturn

omit [One α] in
theorem assess_eq_ok {policy : CostPolicy α} {p budget limit : α} {quote : ExecutableQuote α}
    {a : QuoteAmounts α} (h : assess ctx policy p budget limit quote = .ok a) :
    Assessed policy p budget limit quote a := by
  simp only [assess, rejectIf, raiseIf_bind_eq_ok] at h
  obtain ⟨haverage, hworst, hbudget, hprice, -, hpositive, hreturn, h⟩ := h
  cases h
  exact ⟨rfl, rfl, rfl, rfl, rfl, rfl, rfl, rfl, rfl, rfl, rfl, rfl, rfl, rfl, rfl, rfl,
    decide_eq_true_iff, haverage, hworst, hbudget, hprice, hpositive, hreturn⟩

end

/-! ## Freshness -/

/-- A check of one of these limits. -/
def Passed (limits : List AgeLimit) (entry : String × FreshnessCheck) : Prop :=
  entry.2.Fresh ∧ ∃ limit ∈ limits, entry.1 = limit.label ∧
    entry.2.maximumAgeSeconds = totalSeconds limit.maximumAge

theorem age_maximum {observedAt evaluatedAt : DateTime} {maximumAge tolerance : ℤ} {label : String}
    {check : FreshnessCheck} (h : age observedAt evaluatedAt maximumAge tolerance label = .ok check) :
    check.maximumAgeSeconds = totalSeconds maximumAge := by
  obtain ⟨observed, -, h⟩ := bind_eq_ok.mp h
  obtain ⟨evaluated, -, h⟩ := bind_eq_ok.mp h
  rw [raiseIf_bind_eq_ok, FreshnessCheck.new, raiseIf_bind_eq_ok] at h
  obtain ⟨-, -, h⟩ := h
  obtain ⟨t, -, h⟩ := bind_eq_ok.mp h
  rw [raiseIf_bind_eq_ok] at h
  obtain ⟨-, h⟩ := h
  cases h
  rfl

/-- Where no input is rejected, every check is fresh and belongs to one of the limits. -/
theorem checkFreshness_passed {evaluatedAt : DateTime} {tolerance : ℤ} {all limits : List AgeLimit}
    {before checks : Dict String FreshnessCheck} (hlimits : ∀ limit ∈ limits, limit ∈ all)
    (hbefore : ∀ entry ∈ before.entries, Passed all entry)
    (h : checkFreshness evaluatedAt tolerance limits before = .ok (checks, none)) :
    ∀ entry ∈ checks.entries, Passed all entry := by
  induction limits generalizing before with
  | nil =>
    cases h
    exact hbefore
  | cons limit limits ih =>
    rw [checkFreshness] at h
    split at h
    · cases h
    · cases h
    · rename_i check hcheck
      dsimp only at h
      by_cases hfresh : check.Fresh
      swap
      · rw [if_neg hfresh] at h
        cases h
      rw [if_pos hfresh] at h
      refine ih (fun l hl => hlimits l (List.mem_cons_of_mem _ hl)) ?_ h
      intro entry hentry
      rcases Dict.mem_insert.mp hentry with rfl | ⟨hold, -⟩
      · exact ⟨hfresh, limit, hlimits limit (List.mem_cons_self ..), rfl, age_maximum hcheck⟩
      · exact hbefore entry hold

/-- The limits of an evaluation are those of its policy. -/
theorem lookup_ageLimits {weather : WeatherInputSnapshot} {event : MarketEventSnapshot} {α : Type}
    {book : OrderBookSnapshot α} {balance : Option (BalanceSnapshot α)} {policy : FreshnessPolicy}
    {limit : AgeLimit} (h : limit ∈ ageLimits weather event book balance policy) :
    policy.maximumSeconds.lookup limit.label = some (totalSeconds limit.maximumAge) := by
  rw [ageLimits, List.mem_append] at h
  rcases h with h | h
  · simp only [List.mem_cons, List.not_mem_nil, or_false] at h
    rcases h with rfl | rfl | rfl <;> rfl
  · cases balance with
    | none => cases h
    | some b =>
      rw [Option.map_some, Option.toList_some, List.mem_singleton] at h
      subst h
      rfl

theorem checkFreshness_of_passed {weather : WeatherInputSnapshot} {event : MarketEventSnapshot}
    {α : Type} {book : OrderBookSnapshot α} {balance : Option (BalanceSnapshot α)}
    {policy : FreshnessPolicy} {checks : Dict String FreshnessCheck}
    (h : ∀ entry ∈ checks.entries, Passed (ageLimits weather event book balance policy) entry) :
    ValidatedExecutableQuote.checkFreshness policy checks = .ok () := by
  rw [ValidatedExecutableQuote.checkFreshness, raiseIf_bind_eq_ok]
  constructor
  · rintro ⟨entry, hentry, hstale⟩
    exact hstale (h entry hentry).1
  · rw [forM_eq_ok]
    intro entry hentry
    obtain ⟨-, limit, hlimit, hlabel, hmaximum⟩ := h entry hentry
    rw [hlabel, lookup_ageLimits hlimit]
    exact raiseIf_of_not _ (not_not.mpr hmaximum)

/-! ## Amounts -/

/-- What the constructor of a policy guarantees. -/
structure CostPolicy.Sound (p : CostPolicy ℚ) : Prop where
  fee : 0 ≤ p.platformFeeRate
  transaction : 0 ≤ p.transactionCost
  safety : 0 ≤ p.safetyMarginRate
  price : p.maximumAllInPrice < 1

theorem CostPolicy.sound_of_new {raw p : CostPolicy ℚ} (h : new raw = .ok p) : p.Sound := by
  rw [new, check_bind_eq_ok, forM_eq_ok, raiseIf_bind_eq_ok, raiseIf_bind_eq_ok] at h
  obtain ⟨hsigns, hprice, -, h⟩ := h
  cases h
  simp only [List.forall_mem_cons, raiseIf_eq_ok, not_lt] at hsigns
  obtain ⟨hfee, htransaction, hsafety, -⟩ := hsigns
  exact ⟨hfee, htransaction, hsafety, not_le.mp (not_or.mp hprice).2⟩

/-- A predecessor function: below its argument, and positive where it is. -/
def Predecessor (nextMinus : ℚ → ℚ) : Prop := ∀ x, 0 < x → 0 < nextMinus x ∧ nextMinus x ≤ x

section

variable {nextMinus : ℚ → ℚ} {book : OrderBookSnapshot ℚ} {policy : CostPolicy ℚ}

/-- The budget for the book is positive and within the request. -/
theorem bookBudget_exact (hnext : Predecessor nextMinus) (hpolicy : policy.Sound)
    {budget limit executable : ℚ}
    (h : bookBudget (Exact.context nextMinus) book policy budget = .ok (limit, executable)) :
    (0 < limit ∧ limit ≤ budget) ∧ executable ≤ limit ∧
      (policy.depthPolicy = .reject → executable = limit) := by
  simp only [bookBudget, rejectIf, raiseIf_bind_eq_ok, not_le] at h
  obtain ⟨hremaining, h⟩ := h
  have hmultiplier : (1 : ℚ) ≤ 1 + policy.platformFeeRate + policy.safetyMarginRate := by
    linarith [hpolicy.fee, hpolicy.safety]
  have hpos : (0 : ℚ) < 1 + policy.platformFeeRate + policy.safetyMarginRate := by linarith
  set spread := (budget - policy.transactionCost) / (1 + policy.platformFeeRate + policy.safetyMarginRate)
    with hspread
  have hlimit := hnext spread (div_pos hremaining hpos)
  have hle : spread ≤ budget := by
    calc spread ≤ budget - policy.transactionCost := div_le_self hremaining.le hmultiplier
      _ ≤ budget := sub_le_self _ hpolicy.transaction
  have hbounds : 0 < nextMinus spread ∧ nextMinus spread ≤ budget := ⟨hlimit.1, hlimit.2.trans hle⟩
  split_ifs at h with hdepth
  · rw [raiseIf_bind_eq_ok] at h
    obtain ⟨hreject, h⟩ := h
    cases h
    exact ⟨hbounds, hdepth.le, fun hr => absurd hr hreject⟩
  · cases h
    exact ⟨hbounds, le_rfl, fun _ => rfl⟩

/-- The amounts of a quote, with what they need to pass the checks of a validated quote. -/
structure ExactAmounts (policy : CostPolicy ℚ) (p budget : ℚ) (a : QuoteAmounts ℚ) : Prop where
  assessed : Assessed policy p budget a.bookBudgetLimit a.quote a
  limit : 0 < a.bookBudgetLimit ∧ a.bookBudgetLimit ≤ budget
  cost : 0 < a.quote.totalCost ∧ a.quote.totalCost ≤ a.bookBudgetLimit
  shares : 0 < a.quote.shares
  average : a.quote.bestAsk ≤ a.quote.averagePrice
  worst : a.quote.bestAsk ≤ a.quote.worstPrice
  whole : policy.depthPolicy = .reject → a.quote.totalCost = a.bookBudgetLimit

/-- **The amounts of an accepted quote** in exact arithmetic. -/
theorem price_exact (hnext : Predecessor nextMinus) (hbook : book.Sound) (hpolicy : policy.Sound)
    {p budget : ℚ} {a : QuoteAmounts ℚ}
    (h : price (Exact.context nextMinus) book policy p budget = .ok (.ok a)) :
    ExactAmounts policy p budget a := by
  obtain ⟨limit, executable, quote, hbudget, hquote, hassess⟩ := price_eq_ok h
  obtain ⟨hlimit, hexecutable, hwhole⟩ := bookBudget_exact hnext hpolicy hbudget
  have hassessed := assess_eq_ok hassess
  have hexact := quoteBuyBudget_exact hbook hquote
  have hpositive : 0 < executable := by
    simp only [OrderBookSnapshot.quoteBuyBudget, raiseIf_bind_eq_ok] at hquote
    exact not_le.mp hquote.1
  obtain rfl := hassessed.quoted
  obtain rfl := hassessed.bookLimit
  exact ⟨hassessed, hlimit, by rw [hexact.cost]; exact ⟨hpositive, hexecutable⟩, hexact.shares,
    hexact.average, hexact.worst, fun hr => by rw [hexact.cost, hwhole hr]⟩

namespace ExactAmounts

variable {p budget : ℚ} {a : QuoteAmounts ℚ} (h : ExactAmounts policy p budget a)
  (hpolicy : policy.Sound)

include h hpolicy

theorem fee_nonneg : 0 ≤ a.platformFee := by
  rw [h.assessed.fee]
  exact mul_nonneg h.cost.1.le hpolicy.fee

theorem safety_nonneg : 0 ≤ a.safetyMargin := by
  rw [h.assessed.safety]
  exact mul_nonneg h.cost.1.le hpolicy.safety

theorem cost_le_total : a.quote.totalCost ≤ a.totalAllInCost := by
  rw [h.assessed.total]
  linarith [h.fee_nonneg hpolicy, h.safety_nonneg hpolicy, hpolicy.transaction]

theorem total_pos : 0 < a.totalAllInCost := h.cost.1.trans_le (h.cost_le_total hpolicy)

/-- The all-in price lies between zero and one. -/
theorem allIn_bounds : 0 < a.allInAveragePrice ∧ a.allInAveragePrice < 1 := by
  constructor
  · rw [h.assessed.allIn]
    exact div_pos (h.total_pos hpolicy) h.shares
  · exact (not_le.mp h.assessed.priceLimit).trans hpolicy.price

theorem checkBudgets (hp : 0 < p ∧ p < 1) (hbudget : 0 < budget) :
    ValidatedExecutableQuote.checkBudgets a = .ok () := by
  have hfields := h.assessed
  simp only [ValidatedExecutableQuote.checkBudgets, raiseIf_bind_eq_ok, not_or, not_le, not_lt,
    hfields.probability, hfields.requested, hfields.executable]
  refine ⟨hp, hbudget, h.limit, h.cost, ?_⟩
  rw [forM_eq_ok]
  have hsigns : 0 ≤ a.platformFee ∧ 0 ≤ a.transactionCost ∧ 0 ≤ a.safetyMargin ∧
      0 ≤ a.totalAllInCost ∧ 0 ≤ a.allInAveragePrice ∧ 0 ≤ a.grossExpectedPayout ∧
      0 ≤ a.averageSlippage ∧ 0 ≤ a.worstSlippage := by
    refine ⟨h.fee_nonneg hpolicy, ?_, h.safety_nonneg hpolicy, (h.total_pos hpolicy).le,
      (h.allIn_bounds hpolicy).1.le, ?_, ?_, ?_⟩
    · rw [hfields.transaction]
      exact hpolicy.transaction
    · rw [hfields.payout]
      exact (mul_pos hp.1 h.shares).le
    · rw [hfields.average]
      exact sub_nonneg.mpr h.average
    · rw [hfields.worst]
      exact sub_nonneg.mpr h.worst
  obtain ⟨h1, h2, h3, h4, h5, h6, h7, h8⟩ := hsigns
  intro entry hentry
  refine raiseIf_of_not _ (not_lt.mpr ?_)
  simp only [List.mem_cons, List.not_mem_nil, or_false] at hentry
  rcases hentry with rfl | rfl | rfl | rfl | rfl | rfl | rfl | rfl <;> assumption

theorem checkCosts : ValidatedExecutableQuote.checkCosts a policy = .ok () := by
  have hfields := h.assessed
  simp only [ValidatedExecutableQuote.checkCosts, raiseIf_bind_eq_ok, raiseIf_eq_ok, not_not,
    hfields.executable, hfields.fee, hfields.transaction, hfields.safety, hfields.requested,
    numEq_refl, true_and]
  rw [← hfields.average, ← hfields.worst]
  exact ⟨numEq_refl _, numEq_refl _, hfields.averageLimit, hfields.worstLimit,
    not_lt.mpr (h.cost_le_total hpolicy), hfields.withinBudget⟩

omit hpolicy in
theorem checkReturns : ValidatedExecutableQuote.checkReturns a policy = .ok () := by
  have hfields := h.assessed
  simp only [ValidatedExecutableQuote.checkReturns, raiseIf_bind_eq_ok, raiseIf_eq_ok, not_not,
    hfields.executable, hfields.probability]
  rw [← hfields.allIn, ← hfields.payout, ← hfields.profit, ← hfields.expected, ← hfields.edge]
  refine ⟨numEq_refl _, numEq_refl _, numEq_refl _, numEq_refl _, numEq_refl _, hfields.priceLimit,
    fun hbad => hfields.positive hbad.symm, hfields.returnFloor, hfields.reduced, ?_⟩
  rintro ⟨hreduced, hreject⟩
  exact absurd (hfields.reduced.mp hreduced) (h.whole hreject).not_lt

end ExactAmounts

/-- **Exact amounts make a validated quote.** -/
theorem ValidatedExecutableQuote.new_exact (hpolicy : policy.Sound) {p budget : ℚ} {a : QuoteAmounts ℚ}
    (h : ExactAmounts policy p budget a) (hp : 0 < p ∧ p < 1) (hbudget : 0 < budget)
    {q : ValidatedExecutableQuote ℚ} (ha : q.toQuoteAmounts = a) (hq : q.costPolicy = policy)
    (hutc : asUtc q.evaluatedAtUtc = .ok q.evaluatedAtUtc) (hevent : strip q.eventId ≠ "")
    (hfresh : checkFreshness q.freshnessPolicy q.freshness = .ok ()) : ∃ r, new q = .ok r := by
  subst ha hq
  refine ⟨{ q with eventId := strip q.eventId }, ?_⟩
  rw [new, h.checkBudgets hpolicy hp hbudget, ok_bind, hutc, ok_bind]
  dsimp only
  rw [raiseIf_of_not _ hevent, ok_bind, h.checkCosts hpolicy, ok_bind, h.checkReturns, ok_bind, hfresh,
    ok_bind, pure_eq_ok]

end

/-! ## What an evaluation raises -/

/-- The exception of a datetime outside years 1 to 9999. -/
def overflow : QuoteException := .raised ⟨.overflowError, "date value out of range"⟩

theorem asUtc_error {value : DateTime} {e : QuoteException} (h : asUtc value = .error e) :
    e = overflow := by
  unfold asUtc astimezoneUtc at h
  split at h <;> cases h
  rfl

theorem plus_error {value : DateTime} {delta : ℤ} {e : QuoteException}
    (h : (plus value delta).mapError .raised = .error e) : e = overflow := by
  unfold plus at h
  split at h <;> cases h
  rfl

/-- An age is computed, or out of range, or refused. -/
theorem age_error {observedAt evaluatedAt : DateTime} {maximumAge tolerance : ℤ} {label : String}
    {e : QuoteException} (h : age observedAt evaluatedAt maximumAge tolerance label = .error e) :
    e = overflow ∨ ∃ message, e = .quoteValidationError message := by
  unfold age FreshnessCheck.new at h
  rcases bind_eq_error.mp h with h | ⟨observed, -, h⟩
  · exact .inl (asUtc_error h)
  rcases bind_eq_error.mp h with h | ⟨evaluated, -, h⟩
  · exact .inl (asUtc_error h)
  rcases raiseIf_bind_eq_error.mp h with ⟨-, rfl⟩ | ⟨-, h⟩
  · exact .inr ⟨_, rfl⟩
  rcases raiseIf_bind_eq_error.mp h with ⟨-, rfl⟩ | ⟨-, h⟩
  · exact .inr ⟨_, rfl⟩
  rcases bind_eq_error.mp h with h | ⟨t, -, h⟩
  · exact .inl (asUtc_error h)
  rcases raiseIf_bind_eq_error.mp h with ⟨-, rfl⟩ | ⟨-, h⟩
  · exact .inr ⟨_, rfl⟩
  · cases h

/-- A refused age is a rejection, so only an overflow is raised. -/
theorem checkFreshness_error {evaluatedAt : DateTime} {tolerance : ℤ} {limits : List AgeLimit}
    {before : Dict String FreshnessCheck} {e : QuoteException}
    (h : checkFreshness evaluatedAt tolerance limits before = .error e) : e = overflow := by
  induction limits generalizing before with
  | nil => cases h
  | cons limit limits ih =>
    rw [checkFreshness] at h
    split at h
    · cases h
    · rename_i e' hnot hage
      cases h
      rcases age_error hage with rfl | ⟨message, rfl⟩
      · rfl
      · exact absurd rfl (hnot message)
    · rename_i check hcheck
      dsimp only at h
      by_cases hfresh : check.Fresh
      · rw [if_pos hfresh] at h
        exact ih h
      · rw [if_neg hfresh] at h
        cases h

/-- **An evaluation raises nothing but an overflow**: where it accepts, the quote passes its own
checks. -/
theorem evaluateExecutableBuy_error {nextMinus : ℚ → ℚ} (hnext : Predecessor nextMinus)
    {r : QuoteRequest ℚ} (hbook : r.orderBook.Sound) (hpolicy : r.costPolicy.Sound)
    (hevent : strip r.event.eventId ≠ "") {evaluatedAt : DateTime} {e : QuoteException}
    (h : evaluateExecutableBuy (Exact.context nextMinus) r evaluatedAt = .error e) : e = overflow := by
  rcases bind_eq_error.mp h with h | ⟨evaluated, hevaluated, h⟩
  · exact asUtc_error h
  split at h
  · cases h
  rename_i hinputs
  rcases bind_eq_error.mp h with h | ⟨latest, -, h⟩
  · exact plus_error h
  split_ifs at h
  · cases h
  rcases bind_eq_error.mp h with h | ⟨⟨checks, stale⟩, hchecks, h⟩
  · exact checkFreshness_error h
  dsimp only at h
  split at h
  · cases h
  split at h
  · cases h
  obtain ⟨priced, hpriced⟩ :=
    price_isOk (Exact.context nextMinus) r.orderBook r.costPolicy r.probability r.requestedBudget
  rw [hpriced, ok_bind] at h
  cases priced with
  | error rejection => cases h
  | ok a =>
    simp only [QuoteRequest.checkInputs, rejectIf, raiseIf_bind_eq_ok, raiseIf_eq_ok, not_or,
      not_le] at hinputs
    have hutc : asUtc evaluated = .ok evaluated := by
      rw [asUtc_eq_ok] at hevaluated ⊢
      exact DateTime.astimezoneUtc_of_utc (DateTime.utcoffset_astimezoneUtc hevaluated)
    have hpassed := checkFreshness_passed (fun _ hl => hl) (by simp) hchecks
    obtain ⟨q, hq⟩ := ValidatedExecutableQuote.new_exact hpolicy
      (price_exact hnext hbook hpolicy hpriced) hinputs.1 hinputs.2
      (q := { toQuoteAmounts := a, freshnessPolicy := r.freshnessPolicy, costPolicy := r.costPolicy,
              evaluatedAtUtc := evaluated, eventId := r.event.eventId, freshness := checks })
      rfl rfl hutc hevent (checkFreshness_of_passed hpassed)
    dsimp only at h
    rw [hq] at h
    cases h

end WeatherBot.Quoting
