import WeatherBot.Quoting.Exact
import WeatherBot.Risk.Sizing

/-!
# Approvals

What an approval rests on, in any arithmetic: its target is floored money, and
its quote is the one that the evaluator accepted for that target.

* `approval_of_sizeExecutableBuy`: **an approved decision** holds an accepted quote
  for a floored budget.
-/

namespace WeatherBot.Risk

open WeatherBot.Common
open WeatherBot.Domain
open WeatherBot.Markets
open WeatherBot.Quoting

variable {α : Type} [Zero α] [One α] [Add α] [Sub α] [Mul α] [Div α] [LE α] [LT α] [DecidableLE α]
  [DecidableLT α] {ctx : NumberContext α} {r : SizingRequest α}

/-- Money that `_floor_money` returns. -/
def Floored (ctx : NumberContext α) (currency : String) (m : MoneyOf α) : Prop :=
  ∃ x, floorMoney ctx x currency = .ok m

/-- The quote is the one that was accepted for the budget. -/
structure Approval (ctx : NumberContext α) (r : SizingRequest α) (probability : α)
    (budget : MoneyOf α) (q : ValidatedExecutableQuote α) : Prop where
  floored : Floored ctx r.capital.cash.currency budget
  accepted : ∃ t, evaluateExecutableBuy ctx (r.quoteRequest probability budget.amount) r.evaluatedAt =
    .ok (.accepted t q)

/-! ## One pass -/

theorem smallerSlippageBudget_floored {p : Progress α} {reason : QuoteRejectionReason}
    {m : MoneyOf α} (h : smallerSlippageBudget ctx r p reason = .ok (some m)) :
    Floored ctx r.capital.cash.currency m := by
  unfold smallerSlippageBudget at h
  split_ifs at h
  · obtain ⟨budget, hbudget, h⟩ := bind_eq_ok.mp h
    rw [pure_eq_ok, Except.ok.injEq] at h
    split_ifs at h
    cases h
    exact ⟨_, hbudget⟩
  · cases h

omit [One α] [Add α] [Sub α] [Mul α] [Div α] in
theorem candidateBudget_floored {q : ValidatedExecutableQuote α} {cash : KellyCash α} {m : MoneyOf α}
    {b : BindingCap} (h : candidateBudget ctx r q cash = .ok (m, b)) :
    Floored ctx r.capital.cash.currency m := by
  obtain ⟨candidate, hcandidate, h⟩ := bind_eq_ok.mp h
  split_ifs at h
  · obtain ⟨depth, hdepth, h⟩ := bind_eq_ok.mp h
    rw [pure_eq_ok, Except.ok.injEq] at h
    split_ifs at h
    · cases h
      exact ⟨_, hdepth⟩
    · cases h
      exact ⟨_, hcandidate⟩
  · cases h
    exact ⟨_, hcandidate⟩

omit [Add α] in
theorem bearQuote_floored {probability : α} {iteration : ℕ} {p p' : Progress α}
    {q : ValidatedExecutableQuote α} (h : bearQuote ctx r probability iteration p q = .ok (.again p')) :
    Floored ctx r.capital.cash.currency p'.currentBudget := by
  obtain ⟨k, -, h⟩ := bind_eq_ok.mp h
  split_ifs at h
  · cases h
  obtain ⟨⟨m, b⟩, hm, h⟩ := bind_eq_ok.mp h
  dsimp only at h
  split_ifs at h
  · cases h
  · cases h
    exact candidateBudget_floored hm
  · cases h

/-- A pass that does not decide goes on with floored money. -/
theorem iterate_floored {probability : α} {iteration : ℕ} {p p' : Progress α}
    (h : iterate ctx r probability iteration p = .ok (.again p')) :
    Floored ctx r.capital.cash.currency p'.currentBudget := by
  obtain ⟨evaluation, -, h⟩ := bind_eq_ok.mp h
  cases evaluation with
  | rejected t reason detail checks =>
    obtain ⟨smaller, hsmaller, h⟩ := bind_eq_ok.mp h
    rw [raising, mapError_eq_ok] at hsmaller
    cases smaller with
    | none => cases h
    | some m =>
      cases h
      exact smallerSlippageBudget_floored hsmaller
  | accepted t q =>
    dsimp only at h
    rw [raising, mapError_eq_ok] at h
    exact bearQuote_floored h

omit [Add α] in
/-- An approval records the budget of the pass and its quote. -/
theorem bearQuote_records {probability : α} {iteration : ℕ} {p : Progress α}
    {q : ValidatedExecutableQuote α} {o : Outcome α}
    (h : bearQuote ctx r probability iteration p q = .ok (.decided o)) (ho : o.status = .approved) :
    o.quote = some q ∧ o.targetCash = some p.currentBudget := by
  obtain ⟨k, -, h⟩ := bind_eq_ok.mp h
  split_ifs at h
  · cases h
    cases ho
  obtain ⟨⟨m, b⟩, -, h⟩ := bind_eq_ok.mp h
  dsimp only at h
  split_ifs at h
  · cases h
    cases ho
  · cases h
  · cases h
    exact ⟨rfl, rfl⟩

theorem iterate_approval {probability : α} {iteration : ℕ} {p : Progress α} {o : Outcome α}
    (hp : Floored ctx r.capital.cash.currency p.currentBudget)
    (h : iterate ctx r probability iteration p = .ok (.decided o)) (ho : o.status = .approved) :
    ∃ q, Approval ctx r probability p.currentBudget q ∧ o.quote = some q ∧
      o.targetCash = some p.currentBudget := by
  obtain ⟨evaluation, hevaluation, h⟩ := bind_eq_ok.mp h
  cases evaluation with
  | rejected t reason detail checks =>
    obtain ⟨smaller, -, h⟩ := bind_eq_ok.mp h
    cases smaller with
    | none =>
      cases h
      cases ho
    | some m => cases h
  | accepted t q =>
    dsimp only at h
    rw [raising, mapError_eq_ok] at h
    exact ⟨q, ⟨hp, t, hevaluation⟩, bearQuote_records h ho⟩

/-! ## The loop -/

theorem search_approval {probability : α} {left iteration : ℕ} {p : Progress α} {o : Outcome α}
    (hp : Floored ctx r.capital.cash.currency p.currentBudget)
    (h : search ctx r probability left iteration p = .ok o) (ho : o.status = .approved) :
    ∃ budget q, Approval ctx r probability budget q ∧ o.quote = some q ∧
      o.targetCash = some budget := by
  induction left generalizing iteration p with
  | zero =>
    cases h
    cases ho
  | succ left ih =>
    obtain ⟨pass, hpass, h⟩ := bind_eq_ok.mp h
    cases pass with
    | decided o' =>
      cases h
      obtain ⟨q, hq⟩ := iterate_approval hp hpass ho
      exact ⟨p.currentBudget, q, hq⟩
    | again p' => exact ih (iterate_floored hpass) h

omit [Add α] [LT α] [DecidableLT α] in
/-- What precedes the loop rejects, or hands over floored money and a probability in range. -/
theorem begin_floored {start : Outcome α ⊕ (α × Progress α)} (h : begin ctx r = .ok start) :
    match start with
    | .inl o => o.status = .rejected
    | .inr (probability, p) => ¬ (probability ≤ 0 ∨ 1 ≤ probability) ∧
        Floored ctx r.capital.cash.currency p.currentBudget := by
  unfold begin at h
  dsimp only at h
  split at h
  · cases h
    rfl
  split_ifs at h with hrange
  · cases h
    rfl
  · cases h
    rfl
  · cases h
    rfl
  split at h
  · cases h
    rfl
  obtain ⟨budget, hbudget, h⟩ := bind_eq_ok.mp h
  split_ifs at h
  · cases h
    rfl
  · cases h
    exact ⟨hrange, _, hbudget⟩

omit [One α] [Add α] [Sub α] [Mul α] [Div α] in
/-- What a decision records, and what its constructor has checked of the target. -/
theorem decision_records {o : Outcome α} {d : SizingDecision α} (h : decision ctx r o = .ok d) :
    d.status = o.status ∧ d.quote = o.quote ∧
      d.targetCash = o.targetCash.getD (MoneyOf.zero r.capital.cash.currency) ∧
      ¬ d.targetCash.amount < 0 := by
  obtain ⟨m, -, h⟩ := bind_eq_ok.mp h
  rw [SizingDecision.new, check_bind_eq_ok, check_bind_eq_ok, raiseIf_bind_eq_ok, raiseIf_bind_eq_ok,
    check_bind_eq_ok] at h
  obtain ⟨hamounts, -, -, -, -, h⟩ := h
  cases h
  rw [checkAmounts, forM_eq_ok] at hamounts
  have htarget := hamounts _ (List.mem_cons_of_mem _ (List.mem_cons_self ..))
  rw [raiseIf_bind_eq_ok, raiseIf_eq_ok] at htarget
  exact ⟨rfl, rfl, rfl, htarget.2⟩

/-- **An approved decision** holds an accepted quote for a floored budget. -/
theorem approval_of_sizeExecutableBuy {d : SizingDecision α} (h : sizeExecutableBuy ctx r = .ok d)
    (hd : d.status = .approved) :
    ∃ probability q, d.quote = some q ∧ ¬ (probability ≤ 0 ∨ 1 ≤ probability) ∧
      Approval ctx r probability d.targetCash q ∧ ¬ d.targetCash.amount < 0 := by
  obtain ⟨start, hstart, h⟩ := bind_eq_ok.mp h
  rw [raising, mapError_eq_ok] at hstart
  have hbegin := begin_floored hstart
  cases start with
  | inl o =>
    dsimp only at h hbegin
    rw [raising, mapError_eq_ok] at h
    rw [(decision_records h).1, hbegin] at hd
    cases hd
  | inr start =>
    obtain ⟨probability, p⟩ := start
    obtain ⟨o, ho, h⟩ := bind_eq_ok.mp h
    rw [raising, mapError_eq_ok] at h
    obtain ⟨hstatus, hquote, htarget, hnonneg⟩ := decision_records h
    rw [hstatus] at hd
    obtain ⟨budget, q, happroval, hq, hbudget⟩ := search_approval hbegin.2 ho hd
    rw [hbudget, Option.getD_some] at htarget
    rw [← htarget] at happroval
    exact ⟨probability, q, hquote.trans hq, hbegin.1, happroval, hnonneg⟩

end WeatherBot.Risk
