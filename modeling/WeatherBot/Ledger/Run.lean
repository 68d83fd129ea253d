import WeatherBot.Domain.Step

/-!
# Runs of the ledger

Every state of a run passes the checks of `assert_invariants`. What a `Step`
keeps, a run keeps.

* `Reachable`: a state that `replay` returns.
* `applyEvents_preserves`, `Reachable.preserves`: the induction over a run.
-/

namespace WeatherBot.Ledger

open WeatherBot.Common
open WeatherBot.Domain

variable {rt : Runtime}

/-! ## The checks along a run -/

theorem invariants_fresh (currency : String) : (LedgerState.fresh currency).Invariants where
  cash_currency := rfl
  reservedCash_currency := rfl
  reservedCash_nonneg := le_rfl
  available_nonneg := le_rfl
  orders := by simp [LedgerState.fresh]
  reservedCash_eq := rfl
  positions := by simp [LedgerState.fresh]
  sell_position := by simp [LedgerState.fresh, LedgerState.sellReserved]
  evidence := by simp [LedgerState.fresh]
  observations := by simp [LedgerState.fresh]
  opened _ := by simp [LedgerState.HasFinancialState, LedgerState.fresh]

/-- The fingerprints of events are not financial state. -/
theorem invariants_recordEvent {s : LedgerState} {eventId eventFp : String} :
    (recordEvent s eventId eventFp).Invariants ↔ s.Invariants := by
  constructor
  · intro h
    exact ⟨h.1, h.2, h.3, h.4, h.5, h.6, fun p hp => ⟨(h.7 p hp).1, (h.7 p hp).2, (h.7 p hp).3,
      (h.7 p hp).4, (h.7 p hp).5, (h.7 p hp).6⟩, h.8, h.9, h.10, h.11⟩
  · intro h
    exact ⟨h.1, h.2, h.3, h.4, h.5, h.6, fun p hp => ⟨(h.7 p hp).1, (h.7 p hp).2, (h.7 p hp).3,
      (h.7 p hp).4, (h.7 p hp).5, (h.7 p hp).6⟩, h.8, h.9, h.10, h.11⟩

theorem applyEvent_invariants {s s' : LedgerState} {event : LedgerEvent} (hs : s.Invariants)
    (h : applyEvent rt s event = .ok s') : s'.Invariants := by
  rcases applyEvent_eq_ok.mp h with ⟨-, rfl⟩ | ⟨-, next, -, -, hinv⟩
  · exact hs
  · exact hinv

/-- An accepted event changes nothing, or makes a step whose result passes the checks. -/
theorem applyEvent_step {s s' : LedgerState} {event : LedgerEvent} (hs : s.Invariants)
    (h : applyEvent rt s event = .ok s') :
    s' = s ∨ ∃ next, Step rt s event next ∧ next.Invariants ∧
      s' = recordEvent next event.eventId (fingerprint rt event.canonical) := by
  rcases applyEvent_eq_ok.mp h with ⟨-, rfl⟩ | ⟨-, next, hnext, rfl, hinv⟩
  · exact .inl rfl
  · exact .inr ⟨next, step_of_reduce hs.wellKeyed hnext, invariants_recordEvent.mp hinv, rfl⟩

/-! ## Induction over a run -/

section Preserved

variable {P : LedgerState → Prop}
  (hrecord : ∀ s eventId eventFp, P s → P (recordEvent s eventId eventFp))
  (hstep : ∀ s event next, s.Invariants → next.Invariants → P s → Step rt s event next → P next)

include hrecord hstep

/-- What a step keeps, an accepted event keeps. -/
theorem applyEvent_preserves {s s' : LedgerState} {event : LedgerEvent} (hs : s.Invariants)
    (hP : P s) (h : applyEvent rt s event = .ok s') : P s' := by
  rcases applyEvent_step hs h with rfl | ⟨next, hnext, hinv, rfl⟩
  · exact hP
  · exact hrecord _ _ _ (hstep s event next hs hinv hP hnext)

/-- What a step keeps, a run keeps. -/
theorem applyEvents_preserves {s s' : LedgerState} {events : List LedgerEvent} (hs : s.Invariants)
    (hP : P s) (h : applyEvents rt s events = .ok s') : s'.Invariants ∧ P s' :=
  foldlM_invariant (fun s => s.Invariants ∧ P s)
    (fun _ _ _ hs h => ⟨applyEvent_invariants hs.1 h,
      applyEvent_preserves hrecord hstep hs.1 hs.2 h⟩) events s s' ⟨hs, hP⟩ h

end Preserved

theorem applyEvents_invariants {s s' : LedgerState} {events : List LedgerEvent} (hs : s.Invariants)
    (h : applyEvents rt s events = .ok s') : s'.Invariants :=
  foldlM_invariant LedgerState.Invariants (fun _ _ _ hs h => applyEvent_invariants hs h)
    events s s' hs h

/-! ## The currency -/

theorem currency_of_step {s next : LedgerState} {event : LedgerEvent} (h : Step rt s event next) :
    next.currency = s.currency := by
  cases h <;> rfl

theorem currency_of_applyEvent {s s' : LedgerState} {event : LedgerEvent} (hs : s.Invariants)
    (h : applyEvent rt s event = .ok s') : s'.currency = s.currency := by
  rcases applyEvent_step hs h with rfl | ⟨next, hnext, -, rfl⟩
  · rfl
  · have hcur : next.currency = s.currency := currency_of_step hnext
    exact hcur

/-! ## Reachable states -/

/-- A state that `replay` returns. -/
def Reachable (rt : Runtime) (s : LedgerState) : Prop :=
  ∃ events currency, replay rt events currency = .ok s

/-- A replay starts from a fresh state. -/
theorem replay_eq_ok {events : List LedgerEvent} {currency : String} {s : LedgerState} :
    replay rt events currency = .ok s ↔
      rt.upper.normalize currency ≠ "" ∧
        applyEvents rt (.fresh (rt.upper.normalize currency)) events = .ok s := by
  rw [replay, LedgerState.empty, bind_eq_ok]
  constructor
  · rintro ⟨s₀, hs₀, h⟩
    obtain ⟨hne, hs₀⟩ := raiseIf_bind_eq_ok.mp hs₀
    cases hs₀
    exact ⟨hne, h⟩
  · rintro ⟨hne, h⟩
    exact ⟨_, raiseIf_bind_eq_ok.mpr ⟨hne, rfl⟩, h⟩

theorem Reachable.next {s s' : LedgerState} {event : LedgerEvent} (hs : Reachable rt s)
    (h : applyEvent rt s event = .ok s') : Reachable rt s' := by
  obtain ⟨events, currency, hs⟩ := hs
  obtain ⟨hne, hs⟩ := replay_eq_ok.mp hs
  refine ⟨events ++ [event], currency, replay_eq_ok.mpr ⟨hne, ?_⟩⟩
  exact foldlM_append_eq_ok.mpr ⟨s, hs, foldlM_cons_eq_ok.mpr ⟨s', h, rfl⟩⟩

theorem Reachable.invariants {s : LedgerState} (h : Reachable rt s) : s.Invariants := by
  obtain ⟨events, currency, h⟩ := h
  exact applyEvents_invariants (invariants_fresh _) (replay_eq_ok.mp h).2

/-- What holds of a fresh state and is kept by every step holds of every reachable state. -/
theorem Reachable.preserves {P : LedgerState → Prop} (hfresh : ∀ currency, P (.fresh currency))
    (hrecord : ∀ s eventId eventFp, P s → P (recordEvent s eventId eventFp))
    (hstep : ∀ s event next, s.Invariants → next.Invariants → P s → Step rt s event next → P next)
    {s : LedgerState} (h : Reachable rt s) : P s := by
  obtain ⟨events, currency, h⟩ := h
  exact (applyEvents_preserves hrecord hstep (invariants_fresh _) (hfresh _) (replay_eq_ok.mp h).2).2

/-- Every step leads to an opened ledger. -/
theorem opened_of_step {s next : LedgerState} {event : LedgerEvent} (hs : s.Invariants)
    (hnext : next.Invariants) (h : Step rt s event next) : next.opened = true := by
  by_contra hopened
  rw [Bool.not_eq_true] at hopened
  have hempty := hnext.opened hopened
  have horder : ∀ {intentId o}, s.orders.get? intentId = some o → s.opened = false → False :=
    fun hget hclosed => hs.opened hclosed (hasFinancialState_of_order hget)
  cases h with
  | unchanged _ hstarted =>
    rcases hstarted with h | h
    · exact absurd (h.symm.trans hopened) (by decide)
    · exact hempty h
  | opened => cases hopened
  | buyIntent => exact hempty (.inr (.inr (.inl (Dict.entries_insert_ne_nil _ _ _))))
  | sellIntent => exact hempty (.inr (.inr (.inl (Dict.entries_insert_ne_nil _ _ _))))
  | moved _ _ _ _ _ _ hget => exact horder hget hopened
  | closedBuy _ _ _ _ _ _ hget => exact horder hget hopened
  | closedSell _ _ _ _ _ _ _ hget => exact horder hget hopened
  | buyFill _ _ _ _ _ _ h => exact horder h.get hopened
  | sellFill _ _ _ _ _ _ _ _ h => exact horder h.get hopened
  | recorded _ _ _ _ hsome =>
    rcases hsome with h | h | h
    · exact hempty (.inr (.inr (.inr (.inr (.inl h)))))
    · exact hempty (.inr (.inr (.inr (.inr (.inr (.inl h))))))
    · exact hempty (.inr (.inr (.inr (.inr (.inr (.inr h))))))
  | settled _ _ _ _ _ h =>
    exact hempty (.inr (.inr (.inr (.inl (Dict.entries_insert_ne_nil _ _ _)))))

/-! ## Sample events

All at one time, in one currency and on one outcome of one market. -/

namespace Sample

def noon : DateTime := Sample.noonOf Sample.newYear

/-! What the samples' amounts are checked for. -/

theorem fits_million : Fits 1000000 := by decide

theorem fits_twoMillion : Fits 2000000 := by decide

theorem fits_half : Fits 500000 := by decide

theorem fits_fourTenths : Fits 400000 := by decide

theorem million_at_half : (0 : ℤ) < 1000000 ∧ (0 : ℤ) < 500000 ∧ (500000 : ℤ) ≤ one := by decide

theorem fits_one : Fits one := by decide

theorem one_range : 0 ≤ one ∧ one ≤ one := by decide

/-- An amount in millionths of a dollar. -/
def usd (n : ℤ) (h : Fits n) : Money := ⟨⟨n, h⟩, "USD"⟩

def event (eventId : String) (h : isBlank eventId = false) : DomainEvent := ⟨eventId, noon, h⟩

def accountOpened (base : DomainEvent) (cash : Money) (h : 0 ≤ cash.amount.val) : LedgerEvent :=
  .accountOpened { base with initialCash := cash, initialCash_nonneg := h }

/-- An order without a fee reserve. -/
def intent (intentId : String) (side : Side) (quantity limitPrice : Micros)
    (h : isBlank intentId = false ∧ 0 < quantity.val ∧ 0 < limitPrice.val ∧ limitPrice.val ≤ one) :
    OrderIntent where
  intentId
  strategyId := "strategy"
  decisionId := intentId
  marketId := "market"
  outcomeId := "yes"
  side
  quantity
  limitPrice
  feeReserve := Money.zero "USD"
  createdAt := noon
  intentId_text := h.1
  strategyId_text := by decide
  decisionId_text := h.1
  marketId_text := .refl false
  outcomeId_text := .refl false
  quantity_pos := h.2.1
  limitPrice_range := h.2.2
  feeReserve_nonneg := le_rfl
  sell_feeReserve _ := rfl

def intentCreated (base : DomainEvent) (intent : OrderIntent) : LedgerEvent :=
  .orderIntentCreated { base with intent }

def submitted (base : DomainEvent) (intentId : String) : LedgerEvent :=
  .orderSubmitted { base with
    intentId
    backendOrderId := "backend"
    backendOrderId_text := by decide }

/-- A fill without a fee, named as its event. -/
def fill (base : DomainEvent) (intentId : String) (quantity price : Micros)
    (h : 0 < quantity.val ∧ 0 < price.val ∧ price.val ≤ one) : FillReceived :=
  { base with
    intentId
    fillId := base.eventId
    quantity
    price
    fee := Money.zero "USD"
    quantity_pos := h.1
    price_range := h.2
    fillId_text := base.eventId_text
    fee_nonneg := le_rfl }

def acknowledged (base : DomainEvent) (intentId : String) : LedgerEvent :=
  .orderAcknowledged { base with intentId }

def unknown (base : DomainEvent) (intentId : String) : LedgerEvent :=
  .orderOutcomeUnknown { base with intentId, reason := "timeout", reason_text := by decide }

def cancelled (base : DomainEvent) (intentId : String) : LedgerEvent :=
  .orderCancelled { base with intentId, reason := "cancelled", reason_text := by decide }

/-- The outcome pays one. -/
def resolved (base : DomainEvent) : LedgerEvent :=
  .marketResolved { base with resolution := {
    marketId := "market"
    payouts := [⟨"yes", ⟨one, fits_one⟩, one_range⟩]
    resolvedAt := noon
    marketId_text := by decide
    payouts_ne := by decide
    payouts_nodup := by decide } }

def settled (base : DomainEvent) : LedgerEvent :=
  .positionSettled { base with
    marketId := "market"
    outcomeId := "yes"
    fee := Money.zero "USD"
    fee_nonneg := le_rfl }

/-- A submitted order of three shares. -/
def submittedOrder : List LedgerEvent :=
  [accountOpened (event "1" (.refl false)) (usd 10000000 (by decide)) (by decide),
    intentCreated (event "2" (.refl false))
      (intent "buy" .buy ⟨3000000, by decide⟩ ⟨333333, by decide⟩ (by decide)),
    submitted (event "3" (.refl false)) "buy"]

def firstFill : FillReceived :=
  fill (event "4" (.refl false)) "buy" ⟨1000001, by decide⟩ ⟨333333, by decide⟩ (by decide)

def secondFill : FillReceived :=
  fill (event "5" (.refl false)) "buy" ⟨1999999, by decide⟩ ⟨250001, by decide⟩ (by decide)

/-- One share sold above the limit. -/
def oneShare : FillReceived :=
  fill (event "8" (by decide)) "sell" ⟨1000000, fits_million⟩ ⟨500000, fits_half⟩ million_at_half

/-- Three shares bought in two fills, two offered for sale and one of them sold, the rest
settled. -/
def roundTrip : List LedgerEvent :=
  submittedOrder ++
    [.fillReceived firstFill,
      .fillReceived secondFill,
      intentCreated (event "6" (.refl false))
        (intent "sell" .sell ⟨2000000, fits_twoMillion⟩ ⟨400000, fits_fourTenths⟩ (by decide)),
      submitted (event "7" (.refl false)) "sell",
      .fillReceived oneShare,
      cancelled (event "9" (by decide)) "sell",
      resolved (event "10" (by decide)),
      settled (event "11" (by decide))]

end Sample

end WeatherBot.Ledger
