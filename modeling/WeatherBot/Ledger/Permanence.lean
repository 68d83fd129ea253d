import WeatherBot.Ledger.Redelivery

/-!
# Settlements and resolutions are final

* `settledAt_of_step`: only a settlement of its own position settles a position.
* `settlementCash`: what the settlements of a position add to the cash of a run.
* `settlement_once`: settled positions, resolutions and evidence never change,
  and a position is paid out once.
-/

namespace WeatherBot.Ledger

open WeatherBot.Common
open WeatherBot.Domain

variable {rt : Runtime}

/-! ## One settlement -/

/-- The event settles the position of `key`. -/
def SettlesKey (key : String × String) : LedgerEvent → Prop
  | .positionSettled e => (e.marketId, e.outcomeId) = key
  | _ => False

instance (key : String × String) (event : LedgerEvent) : Decidable (SettlesKey key event) := by
  cases event <;> unfold SettlesKey <;> infer_instance

/-- The position of `key` is settled. -/
def SettledAt (s : LedgerState) (key : String × String) : Prop :=
  ∃ p, s.positions.get? key = some p ∧ p.status = .settled

/-- A replaced position is not settled unless it was, or is a new settled one. -/
theorem settledAt_insert {s : LedgerState} {positions : Dict (String × String) Position}
    {p' : Position} {key : String × String} (hpos : positions = s.positions.insert p'.key p')
    (hp' : p'.status = .settled → SettledAt s p'.key)
    (h : ∃ p, positions.get? key = some p ∧ p.status = .settled) : SettledAt s key := by
  obtain ⟨p, hp, hsettled⟩ := h
  rw [hpos, Dict.get?_insert] at hp
  split_ifs at hp with hk
  · cases hp
    rw [← hk]
    exact hp' hsettled
  · exact ⟨p, hp, hsettled⟩

/-- **Only a settlement of its own position settles a position.** -/
theorem settledAt_of_step {s next : LedgerState} {event : LedgerEvent} {key : String × String}
    (hs : s.WellKeyed) (h : Step rt s event next) (hnot : ¬ SettlesKey key event)
    (hnext : SettledAt next key) : SettledAt s key := by
  cases h with
  | unchanged _ hstarted => exact hnext
  | opened e hclosed hcurrency => exact hnext
  | buyIntent e order reservedCash => exact hnext
  | sellIntent e order p reservedQuantity hnew hside hcurrency horder hposition hopen =>
    refine settledAt_insert rfl (fun hsettled => ?_) hnext
    exact absurd (hopen.symm.trans hsettled) (by decide)
  | moved _ intentId order target backendOrderId unknownReason hget => exact hnext
  | closedBuy _ intentId order target reason reservedCash hget => exact hnext
  | closedSell _ intentId order target reason p reservedQuantity hget hside htarget hallowed
      hposition hreserved =>
    refine settledAt_insert rfl ?_ hnext
    intro hsettled
    exact ⟨p, (congrArg s.positions.get? (hs.position hposition)).trans hposition, hsettled⟩
  | buyFill fill order order' p' cash reservedCash h =>
    refine settledAt_insert rfl (fun hsettled => ?_) hnext
    rw [h.position] at hsettled
    exact absurd (h.position_open.symm.trans hsettled) (by decide)
  | sellFill fill order order' p p' cash net allocated h =>
    refine settledAt_insert rfl (fun hsettled => ?_) hnext
    rw [h.position'] at hsettled
    exact absurd (h.position_open.symm.trans hsettled) (by decide)
  | recorded => exact hnext
  | settled e p p' cash net h =>
    obtain ⟨q, hq, hsettled⟩ := hnext
    have hkey := h.key_eq hs
    have hne : p'.key ≠ key := by
      rw [hkey]
      exact hnot
    have hq : (s.positions.insert p'.key p').get? key = some q := hq
    rw [Dict.get?_insert_of_ne _ _ hne] at hq
    exact ⟨q, hq, hsettled⟩

/-- The payout of a settlement. -/
structure PaidOut (s : LedgerState) (e : PositionSettled) (next : LedgerState) (q p : Position)
    (payout : Micros) : Prop where
  before : s.positions.get? (e.marketId, e.outcomeId) = some q
  before_open : q.status = .open
  after : next.positions.get? (e.marketId, e.outcomeId) = some p
  after_settled : p.status = .settled
  settlementPayout : p.settlementPayout = some payout
  resolution : ∃ r, s.resolutions.get? e.marketId = some r ∧ r.payoutFor e.outcomeId = .ok payout
  cash : next.cash.amount.val - s.cash.amount.val =
    roundedProduct payout q.quantity - e.fee.amount.val

theorem resolutionOf_eq_ok {s : LedgerState} {marketId : String} {r : MarketResolution} :
    Domain.resolutionOf s marketId = .ok r ↔ s.resolutions.get? marketId = some r := by
  unfold Domain.resolutionOf
  cases s.resolutions.get? marketId with
  | none => simp
  | some r' => simp

theorem paidOut_of_settlement {s next : LedgerState} {e : PositionSettled} (hs : s.WellKeyed)
    (h : applySettlement s e = .ok next) : ∃ q p payout, PaidOut s e next q p payout := by
  obtain ⟨q, hq, h⟩ := bind_eq_ok.mp h
  obtain ⟨hopen, h⟩ := raiseIf_bind_eq_ok.mp h
  obtain ⟨hreserved, h⟩ := raiseIf_bind_eq_ok.mp h
  obtain ⟨r, hr, h⟩ := bind_eq_ok.mp h
  obtain ⟨-, h⟩ := raiseIf_bind_eq_ok.mp h
  obtain ⟨payout, hpayout, h⟩ := bind_eq_ok.mp h
  obtain ⟨gross, hgross, h⟩ := bind_eq_ok.mp h
  obtain ⟨hfee, h⟩ := raiseIf_bind_eq_ok.mp h
  obtain ⟨net, hnet, h⟩ := bind_eq_ok.mp h
  obtain ⟨proceeds, -, h⟩ := bind_eq_ok.mp h
  obtain ⟨realizedPnl, -, h⟩ := bind_eq_ok.mp h
  obtain ⟨cash, hcash, h⟩ := bind_eq_ok.mp h
  have hform : ∃ p', next = afterSale s p' cash ∧ p'.key = q.key ∧ p'.status = .settled ∧
      p'.settlementPayout = some payout := by
    cases h
    exact ⟨_, rfl, rfl, rfl, rfl⟩
  obtain ⟨p', rfl, hkey, hstatus, hpay⟩ := hform
  have hq := positionOf_eq_ok.mp hq
  rw [hs.position hq] at hkey
  obtain ⟨-, hnet, -⟩ := Money.sub_eq_ok.mp hnet
  obtain ⟨-, hcash, -⟩ := Money.add_eq_ok.mp hcash
  obtain ⟨hgross, -⟩ := moneyFromUnitPrice_eq_ok.mp hgross
  rw [not_or, not_not] at hopen
  refine ⟨q, p', payout, hq, hopen.1, ?_, hstatus, hpay, ⟨r, resolutionOf_eq_ok.mp hr, hpayout⟩, ?_⟩
  · rw [← hkey]
    exact Dict.get?_insert_self ..
  · show cash.amount.val - s.cash.amount.val = _
    rw [hcash, hnet, hgross]
    ring

/-! ## The settlements of a run -/

/-- What the settlements of `key` add to the cash, along the events that are accepted. -/
def settlementCash (rt : Runtime) (key : String × String) : LedgerState → List LedgerEvent → ℤ
  | _, [] => 0
  | s, event :: rest =>
    match applyEvent rt s event with
    | .error _ => 0
    | .ok s' =>
      (if SettlesKey key event then s'.cash.amount.val - s.cash.amount.val else 0) +
        settlementCash rt key s' rest

theorem settlementCash_cons {s s' : LedgerState} {event : LedgerEvent} {rest : List LedgerEvent}
    {key : String × String} (h : applyEvent rt s event = .ok s') :
    settlementCash rt key s (event :: rest) =
      (if SettlesKey key event then s'.cash.amount.val - s.cash.amount.val else 0) +
        settlementCash rt key s' rest := by
  rw [settlementCash, h]

/-- A settled position is not paid out again. -/
theorem settlementCash_of_settled {s s' : LedgerState} {events : List LedgerEvent}
    {key : String × String} (hs : s.Invariants) (hsettled : SettledAt s key)
    (h : applyEvents rt s events = .ok s') : settlementCash rt key s events = 0 := by
  induction events generalizing s with
  | nil => rfl
  | cons event rest ih =>
    obtain ⟨t, ht, hrest⟩ := foldlM_cons_eq_ok.mp h
    have hinv := applyEvent_invariants hs ht
    obtain ⟨p, hp, hstatus⟩ := hsettled
    have hp' := (extends_of_applyEvent hs ht).settled key p hp hstatus
    rw [settlementCash_cons ht, ih hinv ⟨p, hp', hstatus⟩ hrest, add_zero]
    rcases applyEvent_eq_ok.mp ht with ⟨-, rfl⟩ | ⟨-, next, hnext, rfl, -⟩
    · simp
    · rw [if_neg]
      intro hkey
      cases event with
      | positionSettled e =>
        obtain ⟨q, _, _, hpaid⟩ := paidOut_of_settlement hs.wellKeyed hnext
        have hq := hpaid.before
        have hkey : (e.marketId, e.outcomeId) = key := hkey
        rw [hkey, hp] at hq
        cases hq
        exact absurd (hpaid.before_open.symm.trans hstatus) (by decide)
      | _ => exact hkey

/-- How a run settled a position. -/
structure SettledIn (rt : Runtime) (s : LedgerState) (events : List LedgerEvent) (s' : LedgerState)
    (key : String × String) (p : Position) (before after : List LedgerEvent) (e : PositionSettled)
    (t : LedgerState) (q : Position) (payout : Micros) : Prop where
  split : events = before ++ .positionSettled e :: after
  run : applyEvents rt s before = .ok t
  key_eq : (e.marketId, e.outcomeId) = key
  held : t.positions.get? key = some q
  held_open : q.status = .open
  settlementPayout : p.settlementPayout = some payout
  resolution : ∃ r, s'.resolutions.get? key.1 = some r ∧ r.payoutFor key.2 = .ok payout
  cash : settlementCash rt key s events = roundedProduct payout q.quantity - e.fee.amount.val

theorem SettledIn.cons {s t s' : LedgerState} {event : LedgerEvent} {rest : List LedgerEvent}
    {key : String × String} {p : Position} {before after : List LedgerEvent} {e : PositionSettled}
    {u : LedgerState} {q : Position} {payout : Micros} (ht : applyEvent rt s event = .ok t)
    (hzero : settlementCash rt key s (event :: rest) = settlementCash rt key t rest)
    (h : SettledIn rt t rest s' key p before after e u q payout) :
    SettledIn rt s (event :: rest) s' key p (event :: before) after e u q payout where
  split := by rw [h.split, List.cons_append]
  run := foldlM_cons_eq_ok.mpr ⟨t, ht, h.run⟩
  key_eq := h.key_eq
  held := h.held
  held_open := h.held_open
  settlementPayout := h.settlementPayout
  resolution := h.resolution
  cash := hzero.trans h.cash

/-- A run that does not settle a position adds nothing; one that does pays it out once. -/
theorem settlementCash_of_run {s s' : LedgerState} {events : List LedgerEvent}
    {key : String × String} (hs : s.Invariants) (hnot : ¬ SettledAt s key)
    (h : applyEvents rt s events = .ok s') :
    (¬ SettledAt s' key → settlementCash rt key s events = 0) ∧
    ∀ p, s'.positions.get? key = some p → p.status = .settled →
      ∃ before e after t q payout, SettledIn rt s events s' key p before after e t q payout := by
  induction events generalizing s with
  | nil =>
    cases h
    exact ⟨fun _ => rfl, fun p hp hsettled => absurd ⟨p, hp, hsettled⟩ hnot⟩
  | cons event rest ih =>
    obtain ⟨t, ht, hrest⟩ := foldlM_cons_eq_ok.mp h
    have hinv := applyEvent_invariants hs ht
    -- the event changes no cash of `key`, or it is the settlement
    have hcases : (settlementCash rt key s (event :: rest) = settlementCash rt key t rest ∧
        ¬ SettledAt t key) ∨
        ∃ e q p payout next, event = .positionSettled e ∧ (e.marketId, e.outcomeId) = key ∧
          PaidOut s e next q p payout ∧
          t = recordEvent next event.eventId (fingerprint rt event.canonical) := by
      rcases applyEvent_eq_ok.mp ht with ⟨-, rfl⟩ | ⟨-, next, hnext, rfl, -⟩
      · refine .inl ⟨?_, hnot⟩
        rw [settlementCash_cons ht]
        simp
      · by_cases hkey : SettlesKey key event
        · cases event with
          | positionSettled e =>
            obtain ⟨q, p, payout, hpaid⟩ := paidOut_of_settlement hs.wellKeyed hnext
            exact .inr ⟨e, q, p, payout, next, rfl, hkey, hpaid, rfl⟩
          | _ => exact hkey.elim
        · refine .inl ⟨?_, ?_⟩
          · rw [settlementCash_cons ht, if_neg hkey, zero_add]
          · exact fun hsettled =>
              hnot (settledAt_of_step hs.wellKeyed (step_of_reduce hs.wellKeyed hnext) hkey hsettled)
    rcases hcases with ⟨hzero, ht'⟩ | ⟨e, q, p, payout, next, rfl, hkey, hpaid, rfl⟩
    · obtain ⟨hnone, hsome⟩ := ih hinv ht' hrest
      refine ⟨fun hn => hzero.trans (hnone hn), fun p hp hsettled => ?_⟩
      obtain ⟨before, e, after, u, q, payout, hin⟩ := hsome p hp hsettled
      exact ⟨event :: before, e, after, u, q, payout, hin.cons ht hzero⟩
    · have hafter := hpaid.after
      rw [hkey] at hafter
      have hext := extends_of_applyEvents hinv hrest
      have hp' := hext.settled key p hafter hpaid.after_settled
      refine ⟨fun hn => absurd ⟨p, hp', hpaid.after_settled⟩ hn, fun p₁ hp₁ _ => ?_⟩
      rw [hp'] at hp₁
      cases hp₁
      obtain ⟨r, hr, hpayout⟩ := hpaid.resolution
      have hr' : s'.resolutions.get? e.marketId = some r :=
        (extends_of_applyEvents hs h).resolution _ r hr
      refine ⟨[], e, rest, s, q, payout, ?_⟩
      exact {
        split := rfl
        run := rfl
        key_eq := hkey
        held := by rw [← hkey]; exact hpaid.before
        held_open := hpaid.before_open
        settlementPayout := hpaid.settlementPayout
        resolution := ⟨r, by rw [← hkey]; exact hr', by rw [← hkey]; exact hpayout⟩
        cash := by
          rw [settlementCash_cons ht, if_pos (show SettlesKey key (.positionSettled e) from hkey),
            settlementCash_of_settled hinv ⟨p, hafter, hpaid.after_settled⟩ hrest, add_zero]
          exact hpaid.cash }

/-- **Settlement happens once and a resolution is immutable.** -/
theorem settlement_once {events : List LedgerEvent} {currency : String} {s : LedgerState}
    (h : replay rt events currency = .ok s) :
    (∀ later s', applyEvents rt s later = .ok s' →
      (∀ key p, s.positions.get? key = some p → p.status = .settled →
        s'.positions.get? key = some p) ∧
      (∀ marketId r, s.resolutions.get? marketId = some r →
        s'.resolutions.get? marketId = some r) ∧
      ∀ marketId e, s.resolutionEvidence.get? marketId = some e →
        s'.resolutionEvidence.get? marketId = some e) ∧
    (∀ marketId r e, s.resolutions.get? marketId = some r →
      s.resolutionEvidence.get? marketId = some e → r.payouts = e.payouts) ∧
    (∀ key p, s.positions.get? key = some p → p.status = .settled →
      ∃ before e after t q payout, SettledIn rt (.fresh (rt.upper.normalize currency)) events s key p
        before after e t q payout) ∧
    ∀ key, ¬ SettledAt s key →
      settlementCash rt key (.fresh (rt.upper.normalize currency)) events = 0 := by
  have hinv : s.Invariants := Reachable.invariants ⟨events, currency, h⟩
  have hrun := (replay_eq_ok.mp h).2
  have hfresh : ∀ key, ¬ SettledAt (.fresh (rt.upper.normalize currency)) key := by
    rintro key ⟨p, hp, -⟩
    cases hp
  refine ⟨?_, ?_, ?_, ?_⟩
  · intro later s' hlater
    have hext := extends_of_applyEvents hinv hlater
    exact ⟨hext.settled, hext.resolution, hext.resolutionEvidence⟩
  · intro marketId r e hr he
    exact (payouts_of_evidence hinv hr he).symm
  · intro key p hp hsettled
    exact (settlementCash_of_run (invariants_fresh _) (hfresh key) hrun).2 p hp hsettled
  · intro key hn
    exact (settlementCash_of_run (invariants_fresh _) (hfresh key) hrun).1 hn

/-- In the sample run two shares are held and the outcome pays one. -/
theorem settlement_once_roundTrip : ∃ s p before e after t q payout,
    replay .utc Sample.roundTrip "USD" = .ok s ∧
    SettledIn .utc (.fresh "USD") Sample.roundTrip s ("market", "yes") p before after e t q
      payout := by
  have hs := eq_ok_okOr (x := replay .utc Sample.roundTrip "USD") (by decide +kernel) (.fresh "USD")
  have hp := (Option.some_get (x := Sample.finalState.positions.get? ("market", "yes"))
    (by decide +kernel)).symm
  obtain ⟨before, e, after, t, q, payout, hin⟩ :=
    (settlement_once hs).2.2.1 ("market", "yes") _ hp (by decide +kernel)
  exact ⟨_, _, before, e, after, t, q, payout, hs, hin⟩

end WeatherBot.Ledger
