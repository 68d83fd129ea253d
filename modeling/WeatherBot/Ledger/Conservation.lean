import WeatherBot.Ledger.Run

/-!
# Cash conservation

Money is only moved between cash, the cost of positions and realized profit.

* `balance_of_step`: no step but the opening changes the balance.
* `cash_conservation`: **cash plus cost minus realized profit is the initial
  cash**, after any list of accepted events.
-/

namespace WeatherBot.Ledger

open WeatherBot.Common
open WeatherBot.Domain

variable {rt : Runtime}

/-! ## The balance -/

/-- The cost of all positions. -/
def totalCostBasis (s : LedgerState) : ℤ := Dict.sumBy (fun _ p => p.costBasis.amount.val) s.positions

/-- The realized profit of all positions. -/
def totalRealizedPnl (s : LedgerState) : ℤ :=
  Dict.sumBy (fun _ p => p.realizedPnl.amount.val) s.positions

/-- Cash, plus what positions cost, minus what they have earned. -/
def balance (s : LedgerState) : ℤ := s.cash.amount + totalCostBasis s - totalRealizedPnl s

/-- What a position holds of the initial cash. -/
def Position.held (p : Position) : ℤ := p.costBasis.amount - p.realizedPnl.amount

theorem balance_eq (s : LedgerState) :
    balance s = s.cash.amount + Dict.sumBy (fun _ p => Position.held p) s.positions := by
  have h : Dict.sumBy (fun _ p => Position.held p) s.positions =
      totalCostBasis s - totalRealizedPnl s := by
    exact Dict.sumBy_sub _ _ _
  rw [balance, h]
  ring

/-- Replacing a position keeps the balance when cash makes up for the difference. -/
theorem balance_insert {s t : LedgerState} {p : Position} (p' : Position)
    (hpositions : t.positions = s.positions.insert p'.key p')
    (hget : s.positions.get? p'.key = some p)
    (hcash : t.cash.amount + Position.held p' = s.cash.amount + Position.held p) :
    balance t = balance s := by
  rw [balance_eq, balance_eq, hpositions, Dict.sumBy_insert_of_some _ hget]
  linarith

/-- The same for a position that a fill may create. -/
theorem balance_insert_positionOrEmpty {s t : LedgerState} (o : OrderAggregate) (p' : Position)
    (hpositions : t.positions = s.positions.insert p'.key p') (hkey : p'.key = o.key)
    (hcash : t.cash.amount + Position.held p' =
      s.cash.amount + Position.held (positionOrEmpty s o)) : balance t = balance s := by
  rw [positionOrEmpty] at hcash
  cases hget : s.positions.get? o.key with
  | some p =>
    rw [hget] at hcash
    exact balance_insert p' hpositions (hkey ▸ hget) hcash
  | none =>
    rw [hget] at hcash
    rw [balance_eq, balance_eq, hpositions, hkey, Dict.sumBy_insert_of_none _ hget]
    simp only [Option.getD_none, Position.held, Position.empty, Money.zero_amount, Micros.zero_val]
      at hcash
    unfold Position.held
    linarith

/-! ## Steps -/

/-- A step of an opened ledger keeps the balance. -/
theorem balance_of_step {s next : LedgerState} {event : LedgerEvent} (hs : s.Invariants)
    (hopened : s.opened = true) (h : Step rt s event next) : balance next = balance s := by
  have hkeyed := hs.wellKeyed
  cases h with
  | unchanged => rfl
  | opened e hclosed => exact absurd (hclosed.symm.trans hopened) (by decide)
  | buyIntent => rfl
  | sellIntent e order p r hnew hside hcurrency horder hposition =>
    exact balance_insert _ rfl (p := p) (hkeyed.position hposition ▸ hposition) rfl
  | moved => rfl
  | closedBuy => rfl
  | closedSell event intentId order target reason p r hget hside htarget hallowed hposition =>
    exact balance_insert _ rfl (p := p) (hkeyed.position hposition ▸ hposition) rfl
  | buyFill fill o o' p' cash reservedCash h =>
    refine balance_insert_positionOrEmpty o p' rfl (h.key_eq hkeyed) ?_
    -- the debit leaves cash and enters the cost
    have hpnl : p'.realizedPnl = (positionOrEmpty s o).realizedPnl := by rw [h.position]
    show cash.amount + Position.held p' = _
    rw [Position.held, Position.held, hpnl, h.cash_eq, h.costBasis]
    ring
  | sellFill fill o o' p p' cash net allocated h =>
    refine balance_insert p' rfl (by rw [h.key_eq hkeyed]; exact h.position) ?_
    -- the allocated cost leaves both the cost and the profit
    show cash.amount + Position.held p' = _
    rw [Position.held, Position.held, h.cash_eq, h.costBasis, h.realizedPnl]
    ring
  | recorded => rfl
  | settled e p p' cash net h =>
    refine balance_insert p' rfl (by rw [h.key_eq hkeyed]; exact h.position) ?_
    have hcost : p'.costBasis.amount.val = 0 := by rw [h.position']; rfl
    show cash.amount + Position.held p' = _
    rw [Position.held, Position.held, h.cash_eq, hcost, h.realizedPnl]
    ring

/-- A run of an opened ledger keeps the balance. -/
theorem balance_of_run {s s' : LedgerState} {events : List LedgerEvent} (hs : s.Invariants)
    (hopened : s.opened = true) (h : applyEvents rt s events = .ok s') : balance s' = balance s := by
  refine (applyEvents_preserves (P := fun t => t.opened = true ∧ balance t = balance s) ?_ ?_ hs
    ⟨hopened, rfl⟩ h).2.2
  · intro t eventId eventFp ht
    exact ht
  · intro t event next ht hnext hP hstep
    exact ⟨opened_of_step ht hnext hstep, (balance_of_step ht hP.1 hstep).trans hP.2⟩

/-! ## The opening -/

/-- The initial cash of an `AccountOpened` event. -/
def initialCash : LedgerEvent → Option ℤ
  | .accountOpened e => some e.initialCash.amount
  | _ => none

/-- The initial cash of the account that a list of events opens; zero if none. -/
def openingCash (events : List LedgerEvent) : ℤ := (events.findSome? initialCash).getD 0

/-- The first event of a run opens the account. -/
theorem accountOpened_of_fresh {currency : String} {event : LedgerEvent} {s : LedgerState}
    (h : applyEvent rt (.fresh currency) event = .ok s) :
    ∃ e, event = .accountOpened e ∧ s.opened = true ∧ balance s = e.initialCash.amount := by
  have hempty := (invariants_fresh currency).opened rfl
  rcases applyEvent_eq_ok.mp h with ⟨hfp, -⟩ | ⟨-, next, hreduce, rfl, hinv⟩
  · cases hfp
  have hnext := invariants_recordEvent.mp hinv
  have hstep := step_of_reduce (invariants_fresh currency).wellKeyed hreduce
  have hopened := opened_of_step (invariants_fresh currency) hnext hstep
  cases hstep with
  | opened e hclosed hcurrency =>
    refine ⟨e, rfl, rfl, ?_⟩
    show e.initialCash.amount.val + 0 - 0 = _
    ring
  | unchanged _ hstarted =>
    rcases hstarted with h | h
    · cases h
    · exact absurd h hempty
  | buyIntent => cases hopened
  | sellIntent => cases hopened
  | moved _ _ _ _ _ _ hget => cases hget
  | closedBuy _ _ _ _ _ _ hget => cases hget
  | closedSell _ _ _ _ _ _ _ hget => cases hget
  | buyFill _ _ _ _ _ _ hfill => cases hfill.get
  | sellFill _ _ _ _ _ _ _ _ hfill => cases hfill.get
  | recorded => cases hopened
  | settled _ _ _ _ _ hsettled => cases hsettled.position

/-- **Cash conservation.** After any list of accepted events, cash plus the cost of all positions
minus all realized profit is the initial cash, to the millionth. -/
theorem cash_conservation (rt : Runtime) (events : List LedgerEvent) (currency : String)
    (s : LedgerState) (h : replay rt events currency = .ok s) :
    s.cash.amount.val + totalCostBasis s - totalRealizedPnl s = openingCash events := by
  obtain ⟨-, h⟩ := replay_eq_ok.mp h
  cases events with
  | nil =>
    cases h
    rfl
  | cons event rest =>
    obtain ⟨t, ht, hrest⟩ := foldlM_cons_eq_ok.mp h
    obtain ⟨e, rfl, hopened, hbalance⟩ := accountOpened_of_fresh ht
    have hinv := applyEvent_invariants (invariants_fresh _) ht
    exact (balance_of_run hinv hopened hrest).trans hbalance

theorem cash_conservation_roundTrip : ∃ s, replay .utc Sample.roundTrip "usd" = .ok s ∧
    s.cash.amount.val + totalCostBasis s - totalRealizedPnl s = openingCash Sample.roundTrip := by
  have hs := eq_ok_okOr (x := replay .utc Sample.roundTrip "usd") (by decide +kernel) (.fresh "USD")
  exact ⟨_, hs, cash_conservation .utc Sample.roundTrip "usd" _ hs⟩

end WeatherBot.Ledger
