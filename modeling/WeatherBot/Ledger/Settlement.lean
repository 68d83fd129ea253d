import WeatherBot.Ledger.Lifecycle

/-!
# Live orders on settled positions

A SELL order reserves shares, so its position cannot be settled under it, and
nothing can be sold from a settled position. Nothing of the kind holds BUY
orders and settlement apart: a BUY order can be created on a settled outcome,
and an outcome can be settled under a live BUY order.

* `sell_position_open`: live SELL orders are on open positions.
* `noLiveOnSettled_iff`: **the runs in which no live order is on a settled
  position are those whose steps keep BUY orders and settlement apart.**
-/

namespace WeatherBot.Ledger

open WeatherBot.Common
open WeatherBot.Domain

variable {rt : Runtime} {s next : LedgerState}

/-! ## The property -/

/-- Every live order is on an open position, or on one that does not exist. -/
def NoLiveOnSettled (s : LedgerState) : Prop :=
  ∀ intentId o, s.orders.get? intentId = some o → o.Live →
    ∀ p, s.positions.get? o.key = some p → p.status = .open

/-- A new BUY order is not on a settled position, and a new settlement is not of a position with a
live BUY order. -/
def KeepsApart (s : LedgerState) : LedgerEvent → Prop
  | .orderIntentCreated e => s.eventFingerprints.get? e.eventId = none →
      s.orders.get? e.intent.intentId = none → e.intent.side = .buy →
      ∀ p, s.positions.get? e.intent.key = some p → p.status = .open
  | .positionSettled e => s.eventFingerprints.get? e.eventId = none →
      ∀ intentId o, s.orders.get? intentId = some o → o.intent.side = .buy →
      o.key = (e.marketId, e.outcomeId) → ¬ o.Live
  | _ => True

/-! ## SELL orders -/

/-- **A live SELL order is on an open position**: it reserves what is left to sell. -/
theorem sell_position_open (hs : s.Invariants) {intentId : String} {o : OrderAggregate}
    (hget : s.orders.get? intentId = some o) (hside : o.intent.side = .sell) (hlive : o.Live)
    (hleft : o.filledQuantity.val < o.intent.quantity.val) {p : Position}
    (hp : s.positions.get? o.key = some p) : p.status = .open := by
  by_contra hstatus
  have hsettled : p.status = .settled := by
    cases h : p.status with
    | «open» => exact absurd h hstatus
    | settled => rfl
  have hpos := hs.position hp
  have ho := hs.order hget
  have hzero : s.sellReserved o.key = 0 := by
    rw [← hpos.reserved_eq]
    exact (hpos.settled hsettled).2.1
  have hreserved := hs.sell_reserved_eq_zero hget hside hzero
  have hsell := ho.sell_live hside hlive
  omega

/-! ## Settled positions -/

/-- A settled position was settled before the step, or the step settles it. -/
theorem settled_of_step {event : LedgerEvent} (hs : s.WellKeyed) (h : Step rt s event next)
    {k : String × String} {p' : Position} (hget : next.positions.get? k = some p')
    (hsettled : p'.status = .settled) :
    (∃ p, s.positions.get? k = some p ∧ p.status = .settled) ∨
      ∃ e, event = .positionSettled e ∧ k = (e.marketId, e.outcomeId) := by
  -- a position that is replaced by one with the same status
  have hreplaced : ∀ {p q : Position}, s.positions.get? q.key = some p → q.status = p.status →
      (s.positions.insert q.key q).get? k = some p' →
      ∃ p, s.positions.get? k = some p ∧ p.status = .settled := by
    intro p q hp hstatus hget
    rw [Dict.get?_insert] at hget
    split_ifs at hget with hk
    · cases hget
      exact ⟨p, hk ▸ hp, hstatus ▸ hsettled⟩
    · exact ⟨p', hget, hsettled⟩
  cases h with
  | unchanged => exact .inl ⟨p', hget, hsettled⟩
  | opened => exact .inl ⟨p', hget, hsettled⟩
  | buyIntent => exact .inl ⟨p', hget, hsettled⟩
  | moved => exact .inl ⟨p', hget, hsettled⟩
  | closedBuy => exact .inl ⟨p', hget, hsettled⟩
  | recorded => exact .inl ⟨p', hget, hsettled⟩
  | sellIntent _ _ p r _ _ _ _ hp =>
    have hp' := hs.position hp ▸ hp
    exact .inl (hreplaced (q := { p with reservedQuantity := r }) hp' rfl hget)
  | closedSell _ _ _ _ _ p r _ _ _ _ hp =>
    have hp' := hs.position hp ▸ hp
    exact .inl (hreplaced (q := { p with reservedQuantity := r }) hp' rfl hget)
  | buyFill fill o o' q cash reservedCash hfill =>
    have hstatus : q.status = .open := by
      rw [hfill.position]
      exact hfill.position_open
    have hget : (s.positions.insert q.key q).get? k = some p' := hget
    rw [Dict.get?_insert] at hget
    split_ifs at hget with hk
    · cases hget
      exact absurd (hstatus.symm.trans hsettled) (by decide)
    · exact .inl ⟨p', hget, hsettled⟩
  | sellFill fill o o' p q cash net allocated hfill =>
    have hp : s.positions.get? q.key = some p := by
      rw [hfill.key_eq hs]
      exact hfill.position
    have hstatus : q.status = p.status := by rw [hfill.position']
    exact .inl (hreplaced hp hstatus hget)
  | settled e p q cash net hsettlement =>
    have hget : (s.positions.insert q.key q).get? k = some p' := hget
    rw [Dict.get?_insert, hsettlement.key_eq hs] at hget
    split_ifs at hget with hk
    · exact .inr ⟨e, rfl, hk.symm⟩
    · exact .inl ⟨p', hget, hsettled⟩

/-! ## One step -/

/-- A step that keeps BUY orders and settlement apart keeps the property. -/
theorem noLiveOnSettled_of_step {event : LedgerEvent} (hs : s.Invariants) (hnext : next.Invariants)
    (hleft : ∀ intentId o, next.orders.get? intentId = some o → o.Live →
      o.filledQuantity.val < o.intent.quantity.val)
    (hnew : s.eventFingerprints.get? event.eventId = none) (hapart : KeepsApart s event)
    (h : NoLiveOnSettled s) (hstep : Step rt s event next) : NoLiveOnSettled next := by
  intro intentId o' hget hlive p' hp'
  cases hside : o'.intent.side with
  | sell => exact sell_position_open hnext hget hside hlive (hleft intentId o' hget hlive) hp'
  | buy =>
    by_contra hstatus
    have hsettled : p'.status = .settled := by
      cases h : p'.status with
      | «open» => exact absurd h hstatus
      | settled => rfl
    -- where the order comes from
    have horder : (∃ o, s.orders.get? intentId = some o ∧ o.Live ∧ o.intent = o'.intent) ∨
        (s.orders.get? intentId = none ∧ ∃ e, event = .orderIntentCreated e ∧
          e.intent.intentId = intentId ∧ e.intent = o'.intent) := by
      rcases order_of_step hs.wellKeyed hstep hget with hold | ⟨hnone, e, he, hid, hcreated⟩ |
        ⟨o, hold, ho⟩
      · exact .inl ⟨o', hold, hlive, rfl⟩
      · exact .inr ⟨hnone, e, he, hid, (OrderAggregate.new_eq_ok hcreated).1.symm⟩
      · exact .inl ⟨o, hold, ho.live, ho.intent.symm⟩
    rcases settled_of_step hs.wellKeyed hstep hp' hsettled with ⟨p, hp, hpsettled⟩ | ⟨e, rfl, hkey⟩
    · rcases horder with ⟨o, hold, holive, hintent⟩ | ⟨hnone, e, rfl, rfl, hintent⟩
      · have hkey : o.key = o'.key := by rw [OrderAggregate.key, OrderAggregate.key, hintent]
        rw [← hkey] at hp
        exact absurd ((h intentId o hold holive p hp).symm.trans hpsettled) (by decide)
      · have hkey : e.intent.key = o'.key := by rw [OrderAggregate.key, hintent]
        rw [← hkey] at hp
        have hopen := hapart hnew hnone (hintent ▸ hside) p hp
        exact absurd (hopen.symm.trans hpsettled) (by decide)
    · rcases horder with ⟨o, hold, holive, hintent⟩ | ⟨-, e', he', -⟩
      · have hkey' : o.key = o'.key := by rw [OrderAggregate.key, OrderAggregate.key, hintent]
        exact hapart hnew intentId o hold (hintent ▸ hside) (hkey'.trans hkey) holive
      · cases he'

/-- A step that does not keep them apart leads to a live order on a settled position. -/
theorem keepsApart_of_noLiveOnSettled {event : LedgerEvent} (hs : s.WellKeyed)
    (hreduce : reduce rt s event = .ok next) (h : NoLiveOnSettled next) : KeepsApart s event := by
  cases event with
  | orderIntentCreated e =>
    intro _ hnone hside p hp
    obtain ⟨order, reservedCash, horder, -, -, -, rfl⟩ := applyIntentCreated_buy hnone hside hreduce
    obtain ⟨hintent, hstate, -⟩ := OrderAggregate.new_eq_ok horder
    refine h e.intent.intentId order ?_ ?_ p ?_
    · show (s.orders.insert order.intent.intentId order).get? e.intent.intentId = some order
      rw [hintent, Dict.get?_insert_self]
    · rw [OrderAggregate.Live, hstate]
      rfl
    · show s.positions.get? order.key = some p
      rw [OrderAggregate.key, hintent]
      exact hp
  | positionSettled e =>
    intro _ intentId o hget _ hkey hlive
    obtain ⟨p, p', cash, net, hsettled, rfl⟩ := applySettlement_eq_ok hreduce
    have hp' : (s.positions.insert p'.key p').get? o.key = some p' := by
      rw [hsettled.key_eq hs, hkey, Dict.get?_insert_self]
    have hopen := h intentId o hget hlive p' hp'
    rw [hsettled.position'] at hopen
    cases hopen
  | _ => trivial

/-! ## Runs -/

theorem left_of_run {currency : String} {events : List LedgerEvent}
    (h : replay rt events currency = .ok s) (intentId : String) (o : OrderAggregate)
    (hget : s.orders.get? intentId = some o) (hlive : o.Live) :
    o.filledQuantity.val < o.intent.quantity.val := by
  obtain ⟨hfills, hlife⟩ := lifecycle_of_run h intentId o hget
  exact hlife.lt_of_live hfills hlive

/-- The states of a run are good if all its steps keep BUY orders and settlement apart. -/
theorem noLiveOnSettled_of_run {currency : String} {events : List LedgerEvent}
    (h : replay rt events currency = .ok s)
    (hapart : ∀ pre event t, pre ++ [event] <+: events → replay rt pre currency = .ok t →
      KeepsApart t event) : NoLiveOnSettled s := by
  refine replay_induction (P := fun events s => (∀ pre event t, pre ++ [event] <+: events →
    replay rt pre currency = .ok t → KeepsApart t event) → NoLiveOnSettled s) ?_ ?_ h hapart
  · intro s h _ intentId o hget
    obtain ⟨-, h⟩ := replay_eq_ok.mp h
    cases h
    cases hget
  · intro pre event s s' hpre hevent ih hapart
    have hs : s.Invariants := Reachable.invariants ⟨pre, currency, hpre⟩
    have hgood : NoLiveOnSettled s := ih fun pre' event' t hstart =>
      hapart pre' event' t (hstart.trans (List.prefix_append _ _))
    have hrun : replay rt (pre ++ [event]) currency = .ok s' := by
      obtain ⟨hcurrency, hpre⟩ := replay_eq_ok.mp hpre
      exact replay_eq_ok.mpr ⟨hcurrency, foldlM_append_eq_ok.mpr
        ⟨s, hpre, foldlM_cons_eq_ok.mpr ⟨s', hevent, rfl⟩⟩⟩
    rcases applyEvent_eq_ok.mp hevent with ⟨-, rfl⟩ | ⟨hnew, next, hnext, rfl, hinv⟩
    · exact hgood
    · have hgood' : NoLiveOnSettled next :=
        noLiveOnSettled_of_step hs (invariants_recordEvent.mp hinv) (fun id o hget => left_of_run hrun id o hget) hnew
          (hapart pre event s (List.prefix_refl _) hpre) hgood (step_of_reduce hs.wellKeyed hnext)
      exact hgood'

/-- **No live order is on a settled position, in every state of a run, iff every step of the run
keeps BUY orders and settlement apart.** -/
theorem noLiveOnSettled_iff (rt : Runtime) (events : List LedgerEvent) (currency : String)
    (s : LedgerState) (h : replay rt events currency = .ok s) :
    (∀ pre t, pre <+: events → replay rt pre currency = .ok t → NoLiveOnSettled t) ↔
      ∀ pre event t, pre ++ [event] <+: events → replay rt pre currency = .ok t →
        KeepsApart t event := by
  constructor
  · intro hgood pre event t hstart ht
    -- the run goes on through this event
    obtain ⟨rest, hrest⟩ := hstart
    obtain ⟨hcurrency, h⟩ := replay_eq_ok.mp h
    rw [← hrest] at h
    obtain ⟨t', ht', -⟩ := foldlM_append_eq_ok.mp h
    have hgood' := hgood (pre ++ [event]) t' ⟨rest, hrest⟩ (replay_eq_ok.mpr ⟨hcurrency, ht'⟩)
    obtain ⟨t₁, ht₁, hevent⟩ := foldlM_append_eq_ok.mp ht'
    obtain ⟨t₂, hevent, hnil⟩ := foldlM_cons_eq_ok.mp hevent
    cases hnil
    have heq : t₁ = t := Except.ok.inj (ht₁.symm.trans (replay_eq_ok.mp ht).2)
    subst heq
    have hkeyed : t₁.WellKeyed := (Reachable.invariants ⟨pre, currency, ht⟩).wellKeyed
    rcases applyEvent_eq_ok.mp hevent with ⟨hdup, -⟩ | ⟨-, next, hnext, rfl, -⟩
    · -- a repeated delivery is not a step
      cases event <;> first | trivial | exact fun hnew => absurd (hnew.symm.trans hdup) (by simp)
    · exact keepsApart_of_noLiveOnSettled hkeyed hnext hgood'
  · intro hapart pre t hstart ht
    exact noLiveOnSettled_of_run ht fun pre' event t' hstart' =>
      hapart pre' event t' (hstart'.trans hstart)

namespace Sample

/-- One share is bought, and the outcome is settled under a second BUY order. -/
def settledUnderOrder : List LedgerEvent :=
  [accountOpened (event "1" (.refl false)) (usd 2000000 fits_twoMillion) (by decide),
    intentCreated (event "2" (.refl false))
      (intent "first" .buy ⟨1000000, fits_million⟩ ⟨500000, fits_half⟩ (by decide)),
    submitted (event "3" (.refl false)) "first",
    .fillReceived (Sample.fill (event "4" (.refl false)) "first" ⟨1000000, fits_million⟩
      ⟨500000, fits_half⟩ million_at_half),
    intentCreated (event "5" (.refl false))
      (intent "second" .buy ⟨1000000, fits_million⟩ ⟨500000, fits_half⟩ (by decide)),
    resolved (event "6" (.refl false)),
    settled (event "7" (.refl false))]

/-- The state after these events. -/
def settledState : LedgerState := okOr (replay .utc settledUnderOrder "USD") (.fresh "USD")

/-- The second order. -/
def secondOrder : OrderAggregate := (settledState.orders.get? "second").get (by decide)

/-- The settled position. -/
def settledPosition : Position :=
  (settledState.positions.get? secondOrder.key).get (by decide)

theorem replay_settledUnderOrder : replay .utc settledUnderOrder "USD" = .ok settledState :=
  eq_ok_okOr (by decide) _

theorem get_secondOrder : settledState.orders.get? "second" = some secondOrder := (Option.some_get _).symm

theorem get_settledPosition : settledState.positions.get? secondOrder.key = some settledPosition :=
  (Option.some_get _).symm

theorem live_secondOrder : secondOrder.Live := by decide +kernel

theorem status_settledPosition : settledPosition.status = .settled := by decide +kernel

end Sample

/-- This run has a step that does not keep BUY orders and settlement apart. -/
theorem noLiveOnSettled_iff_settledUnderOrder : ∃ pre event t,
    pre ++ [event] <+: Sample.settledUnderOrder ∧ replay .utc pre "USD" = .ok t ∧
      ¬ KeepsApart t event := by
  by_contra hnone
  have hapart : ∀ pre event t, pre ++ [event] <+: Sample.settledUnderOrder →
      replay .utc pre "USD" = .ok t → KeepsApart t event := by
    intro pre event t hstart ht
    by_contra hstep
    exact hnone ⟨pre, event, t, hstart, ht, hstep⟩
  have hgood : NoLiveOnSettled Sample.settledState :=
    (noLiveOnSettled_iff .utc Sample.settledUnderOrder "USD" _ Sample.replay_settledUnderOrder).mpr
      hapart _ _ (List.prefix_refl _) Sample.replay_settledUnderOrder
  have hopen := hgood "second" Sample.secondOrder Sample.get_secondOrder Sample.live_secondOrder
    Sample.settledPosition Sample.get_settledPosition
  exact absurd (hopen.symm.trans Sample.status_settledPosition) (by decide)

/-- A live BUY order on a settled position. -/
theorem live_order_on_settled : Reachable .utc Sample.settledState ∧
    Sample.settledState.orders.get? "second" = some Sample.secondOrder ∧
    Sample.secondOrder.Live ∧ Sample.secondOrder.reservedCash.amount.val = 500000 ∧
    Sample.settledState.positions.get? Sample.secondOrder.key = some Sample.settledPosition ∧
    Sample.settledPosition.status = .settled :=
  ⟨⟨Sample.settledUnderOrder, "USD", Sample.replay_settledUnderOrder⟩, Sample.get_secondOrder,
    Sample.live_secondOrder, by decide +kernel, Sample.get_settledPosition,
    Sample.status_settledPosition⟩

end WeatherBot.Ledger
