import WeatherBot.Ledger.CostBasis
import WeatherBot.Ledger.Fills
import WeatherBot.Ledger.Reservation

/-!
# Filling a reserved SELL order

A SELL order reserves part of a position, which buys into the position and sales
by other orders leave to it. A fill that keeps to the order is accepted.

* `Sellable`: a fill that keeps to the terms of a live SELL order.
* `reserved_le`: an order's reservation is part of its position's.
* `applyNewFill_sell_ok`, `invariants_of_sellFill`: the reducer returns, and its
  result passes the checks.
* `sellFill_accepted`: **a fill that keeps to its order is accepted**, and takes at
  most the cost of the position with it.
-/

namespace WeatherBot.Ledger

open WeatherBot.Common
open WeatherBot.Domain

variable {rt : Runtime} {s : LedgerState} {o : OrderAggregate} {fill : FillReceived}

/-! ## Fills that keep to their order -/

/-- A fill of a live SELL order within its quantity and its limit price, with a fee that its
proceeds cover. -/
structure Sellable (s : LedgerState) (o : OrderAggregate) (fill : FillReceived) : Prop where
  get : s.orders.get? fill.intentId = some o
  side : o.intent.side = .sell
  state : o.state = .submitted ∨ o.state = .acknowledged ∨ o.state = .partiallyFilled ∨
    o.state = .unknown
  event_new : s.eventFingerprints.get? fill.eventId = none
  fill_new : o.fillFingerprints.get? fill.fillId = none
  quantity_le : fill.quantity.val ≤ o.intent.quantity - o.filledQuantity
  price_ge : o.intent.limitPrice.val ≤ fill.price.val
  fee_currency : fill.fee.currency = s.currency
  fee_le : fill.fee.amount.val ≤ roundedProduct fill.price fill.quantity

/-- The sums that a sale adds to have at most 28 digits. -/
structure SaleRepresentable (s : LedgerState) (o : OrderAggregate) (fill : FillReceived) : Prop where
  grossValue : Fits (o.grossValue.amount + roundedProduct fill.price fill.quantity)
  fees : Fits (o.fees.amount + fill.fee.amount)
  cash : Fits (s.cash.amount + roundedProduct fill.price fill.quantity)
  profit : ∀ p, s.positions.get? o.key = some p →
    Fits (p.realizedPnl.amount + roundedProduct fill.price fill.quantity)
  loss : ∀ p, s.positions.get? o.key = some p → Fits (p.realizedPnl.amount - p.costBasis.amount)

/-! ## Reservations of a position -/

/-- A sum of reservations that is representable is not rounded. -/
theorem foldl_addSellReserved_eq {k : String × String} {l : List OrderAggregate}
    (hl : ∀ o ∈ l, 0 ≤ o.reservedQuantity.val) {total : ℤ} (htotal : 0 ≤ total)
    (hfits : Fits (total + (l.map (sellHeld k)).sum)) :
    l.foldl (addSellReserved k) total = total + (l.map (sellHeld k)).sum := by
  induction l generalizing total with
  | nil => simp
  | cons o l ih =>
    rw [List.forall_mem_cons] at hl
    rw [List.map_cons, List.sum_cons, ← add_assoc] at hfits ⊢
    have hheld : ∀ o : OrderAggregate, 0 ≤ o.reservedQuantity.val → 0 ≤ sellHeld k o := by
      intro o ho
      unfold sellHeld
      split_ifs
      · exact ho
      · exact le_rfl
    have hrest : 0 ≤ (l.map (sellHeld k)).sum := by
      apply List.sum_nonneg
      intro x hx
      obtain ⟨o', ho', rfl⟩ := List.mem_map.mp hx
      exact hheld o' (hl.2 o' ho')
    have hnext : 0 ≤ total + sellHeld k o := add_nonneg htotal (hheld o hl.1)
    have hadd : addSellReserved k total o = total + sellHeld k o := by
      unfold addSellReserved sellHeld
      simp only [and_comm (a := o.key = k)]
      split_ifs with hk
      · refine ctxRound_of_lt ?_
        have hsmall : Fits (total + sellHeld k o) :=
          LedgerState.fits_of_le (a := ⟨_, hfits⟩) hnext (le_add_of_nonneg_right hrest)
        rwa [sellHeld, if_pos hk.symm] at hsmall
      · exact (add_zero _).symm
    rw [List.foldl_cons, hadd, ih hl.2 hnext hfits]

/-- What SELL orders reserve of a position, where the sum is representable. -/
theorem sellReserved_eq {k : String × String}
    (horders : ∀ q ∈ s.orders.entries, 0 ≤ q.2.reservedQuantity.val)
    (hfits : Fits (orderSum (sellHeld k) s)) : s.sellReserved k = orderSum (sellHeld k) s := by
  have hsum : ((s.orders.entries.map Prod.snd).map (sellHeld k)).sum = orderSum (sellHeld k) s := by
    rw [List.map_map]
    rfl
  rw [LedgerState.sellReserved, foldl_addSellReserved_eq _ le_rfl (by rwa [hsum, zero_add]), hsum,
    zero_add]
  intro o' ho'
  obtain ⟨q, hq, rfl⟩ := List.mem_map.mp ho'
  exact horders q hq

/-- A SELL order counts at its own position only. -/
theorem sellReserved_replaceOrder_of_ne {o' : OrderAggregate} {k : String × String}
    (hget : s.orders.get? o'.intent.intentId = some o) (hk : o.key ≠ k) (hk' : o'.key ≠ k) :
    (replaceOrder s o').sellReserved k = s.sellReserved k := by
  refine Dict.foldl_values_insert hget ?_ 0
  intro total
  simp [addSellReserved, hk, hk']

/-! ## The position of a live SELL order -/

section Position

variable (hs : Reachable rt s) (hfill : Sellable s o fill)

include hs hfill

omit hs in
theorem Sellable.live : o.Live := by
  unfold OrderAggregate.Live
  rcases hfill.state with h | h | h | h <;> rw [h] <;> rfl

/-- What the order reserves. -/
theorem Sellable.reservedQuantity_eq :
    o.reservedQuantity.val = o.intent.quantity - o.filledQuantity :=
  (hs.invariants.order hfill.get).sell_live hfill.side hfill.live

/-- A live SELL order has an open position. -/
theorem Sellable.position : ∃ p, s.positions.get? o.key = some p ∧ p.status = .open := by
  have hinv := hs.invariants
  have hpos : 0 < o.reservedQuantity.val := by
    rw [hfill.reservedQuantity_eq hs]
    exact fill.quantity_pos.trans_le hfill.quantity_le
  have hreserved : s.sellReserved o.key ≠ 0 := by
    intro hzero
    exact hpos.ne' (hinv.sell_reserved_eq_zero hfill.get hfill.side hzero)
  obtain ⟨p, hp⟩ := Option.ne_none_iff_exists'.mp (hinv.sell_position _ hreserved)
  refine ⟨p, hp, ?_⟩
  have hinvp := hinv.position hp
  cases hstatus : p.status with
  | «open» => rfl
  | settled =>
    -- a settled position has nothing reserved
    rw [← hinvp.reserved_eq] at hreserved
    exact absurd (hinvp.settled hstatus).2.1 hreserved

/-- **An order's reservation is part of its position's.** -/
theorem reserved_le {p : Position} (hp : s.positions.get? o.key = some p) (hopen : p.status = .open) :
    o.reservedQuantity.val ≤ p.reservedQuantity.val := by
  have hopenAt : OpenAt s o.key := by
    intro q hq
    rw [hp] at hq
    cases hq
    exact hopen
  have hheld := (holdings_of_reachable hs o.key hopenAt).reserved
  have hat : reservedAt s o.key = p.reservedQuantity.val := by
    rw [reservedAt, hp]
    rfl
  have hown : sellHeld o.key o = o.reservedQuantity.val := by
    rw [sellHeld_sell hfill.side, if_pos rfl]
  rw [← hat, hheld, ← hown]
  refine Dict.le_sumBy (f := fun _ o' => sellHeld o.key o') ?_ hfill.get
  intro q hq
  unfold sellHeld
  split_ifs
  · exact (hs.invariants.orders q hq).reservedQuantity
  · exact le_rfl

end Position

/-! ## The reducer returns -/

/-- A number between two representable ones. -/
theorem fits_between {l n u : ℤ} (hl : Fits l) (hu : Fits u) (hln : l ≤ n) (hnu : n ≤ u) : Fits n := by
  unfold Fits at *
  omega

/-- The cost that stays with a position is computed. -/
theorem remainingCost_ok {p : Position} {remaining : Micros} {allocated : Money}
    (hcur : allocated.currency = p.costBasis.currency) (h0 : 0 ≤ allocated.amount.val)
    (hle : allocated.amount.val ≤ p.costBasis.amount.val) :
    ∃ m, remainingCost s p remaining allocated = .ok m := by
  unfold remainingCost
  split_ifs
  · exact ⟨_, rfl⟩
  · exact ⟨_, Money.sub_of_fits hcur (LedgerState.fits_sub h0 hle)⟩

/-- A reservation that is part of its position's is released. -/
theorem releaseReservations_sell_ok {p : Position} (hside : o.intent.side = .sell)
    (hp : s.positions.get? o.key = some p) (h0 : 0 ≤ o.reservedQuantity.val)
    (hle : o.reservedQuantity.val ≤ p.reservedQuantity.val) :
    ∃ r, releaseReservations s o = .ok r := by
  unfold releaseReservations
  rw [hside]
  dsimp only
  rw [positionOf_eq_ok.mpr hp, ok_bind, raiseIf_of_not _ (not_lt.mpr hle), ok_bind,
    quantize_of_fits (LedgerState.fits_sub h0 hle)]
  exact ⟨_, rfl⟩

section Returns

variable (hs : Reachable rt s) (hfill : Sellable s o fill) (hsmall : SaleRepresentable s o fill)

include hs hfill hsmall

/-- The accounting of a sale returns. -/
theorem applySellFill_ok {gross : Money}
    (hgross : gross.amount.val = roundedProduct fill.price fill.quantity)
    (hcur : gross.currency = s.currency) :
    ∃ s' o', applySellFill s o fill gross = .ok (s', o') := by
  obtain ⟨p, hp, hopen⟩ := hfill.position hs
  have hinv := hs.invariants
  have hinvp := hinv.position hp
  have hreserved := reserved_le hs hfill hp hopen
  have horder := hfill.reservedQuantity_eq hs
  have hq := fill.quantity_pos
  have hqle := hfill.quantity_le
  have hfee0 := fill.fee_nonneg
  have hfee := hfill.fee_le
  have hbound := hinvp.reserved
  have hcash0 : 0 ≤ s.cash.amount.val := hinv.reservedCash_nonneg.trans hinv.available_nonneg
  have hpcur := hs.pnlCurrency.get hp
  have hccur : p.costBasis.currency = s.currency := hs.costCurrency _ (Dict.get?_eq_some.mp hp)
  obtain ⟨allocated, halloc, hallocCur, halloc0, hallocLe, -⟩ :=
    allocatedCost_spec hinvp.costBasis hq (by omega)
  -- each amount lies between representable ones
  have hgrossLe : fill.fee.amount.val ≤ gross.amount.val := by omega
  have hnet := LedgerState.fits_sub hfee0 hgrossLe
  have hquantity : Fits (p.quantity - fill.quantity : ℤ) := LedgerState.fits_sub hq.le (by omega)
  have hpositionReserved : Fits (p.reservedQuantity - fill.quantity : ℤ) :=
    LedgerState.fits_sub hq.le (by omega)
  have horderReserved : Fits (o.reservedQuantity - fill.quantity : ℤ) :=
    LedgerState.fits_sub hq.le (by omega)
  have hproceeds : Fits (p.realizedPnl.amount + (gross.amount - fill.fee.amount) : ℤ) :=
    fits_between p.realizedPnl.amount.fits (hsmall.profit p hp) (by omega) (by omega)
  have hpnl : Fits (p.realizedPnl.amount + (gross.amount - fill.fee.amount) - allocated.amount : ℤ) :=
    fits_between (hsmall.loss p hp) (hsmall.profit p hp) (by omega) (by omega)
  have hcash : Fits (s.cash.amount + (gross.amount - fill.fee.amount) : ℤ) :=
    fits_between s.cash.amount.fits hsmall.cash (by omega) (by omega)
  obtain ⟨costBasis, hcost⟩ := @remainingCost_ok s _ ⟨_, hquantity⟩ _ hallocCur halloc0 hallocLe
  have h1 := Money.sub_of_fits (hfill.fee_currency.trans hcur.symm) hnet
  have h2 := Money.add_of_fits (a := p.realizedPnl) (b := ⟨⟨_, hnet⟩, gross.currency⟩)
    (hcur.trans hpcur.symm) hproceeds
  have h3 := Money.sub_of_fits (a := ⟨⟨_, hproceeds⟩, p.realizedPnl.currency⟩) (b := allocated)
    (hallocCur.trans (hccur.trans hpcur.symm)) hpnl
  have h4 := Money.add_of_fits (a := s.cash) (b := ⟨⟨_, hnet⟩, gross.currency⟩)
    (hcur.trans hinv.cash_currency.symm) hcash
  unfold applySellFill
  rw [raiseIf_of_not _ (not_lt.mpr hfill.price_ge), ok_bind, positionOf_eq_ok.mpr hp, ok_bind,
    raiseIf_of_not _ (not_not.mpr hopen), ok_bind, raiseIf_of_not _ (by omega), ok_bind,
    raiseIf_of_not _ (by omega), ok_bind, raiseIf_of_not _ (by omega), ok_bind,
    raiseIf_of_not _ (not_lt.mpr hgrossLe), ok_bind, h1, ok_bind, halloc, ok_bind,
    quantize_of_fits hquantity, ok_bind, quantize_of_fits hpositionReserved, ok_bind, hcost, ok_bind,
    h2, ok_bind, h3, ok_bind, quantize_of_fits horderReserved, ok_bind, h4, ok_bind]
  exact ⟨_, _, rfl⟩

/-- The reducer returns. -/
theorem applyNewFill_sell_ok : ∃ next, applyNewFill rt s o fill = .ok next := by
  have hinv := hs.invariants
  have ho := hinv.order hfill.get
  have hq := fill.quantity_pos
  have hqle := hfill.quantity_le
  have hfilled0 := ho.filled_nonneg
  have hgross0 := roundedProduct_nonneg fill.price_range.1.le fill.quantity_pos.le
  have hcash0 : 0 ≤ s.cash.amount.val := hinv.reservedCash_nonneg.trans hinv.available_nonneg
  have hfilled : Fits (o.filledQuantity + fill.quantity : ℤ) :=
    LedgerState.fits_of_le (a := o.intent.quantity) (by omega) (by omega)
  have hgrossFits : Fits (roundedProduct fill.price fill.quantity) :=
    fits_between fits_zero hsmall.cash hgross0 (by omega)
  have hallowed : fillTarget o ⟨_, hfilled⟩ ∈ allowedTransitions o.state := by
    unfold fillTarget
    rcases hfill.state with h | h | h | h <;> rw [h] <;> split_ifs <;> decide
  have hgross : moneyFromUnitPrice fill.price fill.quantity s.currency =
    .ok ⟨⟨_, hgrossFits⟩, s.currency⟩ := moneyFromUnitPrice_eq_ok.mpr ⟨rfl, rfl⟩
  obtain ⟨s₁, o₁, hsell⟩ : ∃ s₁ o₁,
      applySellFill s o fill ⟨⟨_, hgrossFits⟩, s.currency⟩ = .ok (s₁, o₁) :=
    applySellFill_ok hs hfill hsmall rfl rfl
  have hside : applySideFill s o fill ⟨⟨_, hgrossFits⟩, s.currency⟩ = .ok (s₁, o₁) := by
    rw [applySideFill, hfill.side]
    exact hsell
  obtain ⟨p, cash, net, allocated, costBasis, realizedPnl, quantity, reservedQuantity, orderReserved,
    hp, hopen, -, -, -, -, -, hreserved, -, -, -, horderReserved, -, -, rfl, rfl⟩ :=
    applySellFill_eq_ok hsell
  have hgrossAdd := Money.add_of_fits (a := o.grossValue) (b := ⟨⟨_, hgrossFits⟩, s.currency⟩)
    ho.grossValue.1.symm hsmall.grossValue
  have hfeesAdd := Money.add_of_fits (a := o.fees) (hfill.fee_currency.trans ho.fees.1.symm)
    hsmall.fees
  unfold applyNewFill
  rw [quantize_of_fits hfilled, ok_bind, raiseIf_of_not _ (by simp; omega), ok_bind]
  dsimp only
  rw [(requireTransition_eq_ok (u := ())).mpr hallowed, ok_bind,
    raiseIf_of_not _ (not_not.mpr hfill.fee_currency), ok_bind, hgross, ok_bind, hside, ok_bind,
    recordFill, hgrossAdd, ok_bind, hfeesAdd, ok_bind]
  dsimp only
  split_ifs
  · -- the completing fill releases what the order still reserves
    have hkey : p.key = o.key := hinv.wellKeyed.position hp
    have hle := reserved_le hs hfill hp hopen
    have hremaining := hfill.reservedQuantity_eq hs
    have hget : (afterSale s { p with quantity, reservedQuantity, costBasis, realizedPnl }
        cash).positions.get? o.key =
          some { p with quantity, reservedQuantity, costBasis, realizedPnl } := by
      rw [← hkey]
      exact Dict.get?_insert_self _ _ _
    obtain ⟨r, hr⟩ := releaseReservations_sell_ok
      (o := OrderAggregate.withFill rt { o with reservedQuantity := orderReserved } fill
        (fillTarget o ⟨_, hfilled⟩) ⟨_, hfilled⟩ ⟨⟨_, hsmall.grossValue⟩, o.grossValue.currency⟩
        ⟨⟨_, hsmall.fees⟩, o.fees.currency⟩)
      hfill.side hget (by show 0 ≤ orderReserved.val; omega)
      (by show orderReserved.val ≤ reservedQuantity.val; omega)
    rw [hr, ok_bind]
    exact ⟨_, rfl⟩
  · exact ⟨_, rfl⟩

end Returns

/-! ## The checks pass -/

theorem orderInvariant_of_sellFill {o' : OrderAggregate} {p p' : Position}
    {cash net allocated : Money} (hlive : o.Live) (ho : OrderInvariant s.currency fill.intentId o)
    (h : SellFill rt s fill o o' p p' cash net allocated) :
    OrderInvariant s.currency o'.intent.intentId o' := by
  have hq := fill.quantity_pos
  have hgross0 := roundedProduct_nonneg fill.price_range.1.le fill.quantity_pos.le
  have hfee0 := fill.fee_nonneg
  have hfilled := h.filled.filled
  have hfilledle := h.filled.filled_le
  have hgross := h.filled.grossValue
  have hfees := h.filled.fees
  have hside : o'.intent.side = .sell := by rw [h.filled.intent]; exact h.side
  have hreserved := h.order_reserved
  have hheld := ho.sell_live h.side hlive
  have h0 := ho.filled_nonneg
  have h1 := ho.grossValue.2
  have h2 := ho.fees.2
  exact {
    key := rfl
    filled_nonneg := by omega
    filled_le := by rw [h.filled.intent]; exact hfilledle
    grossValue := ⟨h.filled.grossValue_currency.trans ho.grossValue.1, by omega⟩
    fees := ⟨h.filled.fees_currency.trans ho.fees.1, by omega⟩
    reservedCash := by rw [h.order_reservedCash]; exact ho.reservedCash
    feeReserve := by rw [h.filled.intent]; exact ho.feeReserve
    reservedQuantity := by rw [hreserved]; split_ifs <;> omega
    terminal := by
      intro ht
      rw [h.order_reservedCash, hreserved]
      refine ⟨ho.sell h.side, if_pos ?_⟩
      rw [h.filled.state] at ht ⊢
      split_ifs at ht ⊢
      · rfl
      · cases ht
    buy := fun hbuy => absurd (hside.symm.trans hbuy) (by decide)
    buy_live := fun hbuy => absurd (hside.symm.trans hbuy) (by decide)
    sell := by
      intro _
      rw [h.order_reservedCash]
      exact ho.sell h.side
    sell_live := by
      intro _ hlive'
      rw [hreserved, if_neg, h.filled.intent]
      · omega
      · intro ht
        rw [OrderAggregate.Live, ht] at hlive'
        cases hlive' }

/-- The position after a sale: its cost stays within what it was. -/
theorem position_of_sellFill {o' : OrderAggregate} {p p' : Position} {cash net allocated : Money}
    (hs : s.Invariants) (h : SellFill rt s fill o o' p p' cash net allocated) :
    0 ≤ allocated.amount.val ∧ allocated.amount.val ≤ p.costBasis.amount.val ∧
      0 ≤ p'.costBasis.amount.val ∧ (p'.quantity.val = 0 → p'.costBasis.amount.val = 0) := by
  have hinvp := hs.position h.position
  have hcost := h.costBasis
  have hquantity := h.quantity
  obtain ⟨m, hm, -, h0, hle, hall⟩ := allocatedCost_spec hinvp.costBasis fill.quantity_pos h.enough
  rw [h.allocated_eq] at hm
  cases hm
  refine ⟨h0, hle, by omega, ?_⟩
  intro hzero
  rw [hall (Micros.ext (by omega))] at hcost
  omega

/-- The result of a SELL fill passes the checks. -/
theorem invariants_of_sellFill {o' : OrderAggregate} {p p' : Position} {cash net allocated : Money}
    (hs : Reachable rt s) (hfill : Sellable s o fill)
    (h : SellFill rt s fill o o' p p' cash net allocated) :
    (replaceOrder (afterSale s p' cash) o').Invariants := by
  have hinv := hs.invariants
  have hkeyed := hinv.wellKeyed
  have ho := hinv.order h.get
  have ho' := orderInvariant_of_sellFill hfill.live ho h
  have hside : o'.intent.side = .sell := by rw [h.filled.intent]; exact h.side
  have hid : o'.intent.intentId = fill.intentId := by rw [h.filled.intent, ← ho.key]
  have hget : s.orders.get? o'.intent.intentId = some o := hid ▸ h.get
  have hkey := h.key_eq hkeyed
  have hokey : o'.key = o.key := by rw [OrderAggregate.key, h.filled.intent, OrderAggregate.key]
  have hpositions : (replaceOrder (afterSale s p' cash) o').positions = s.positions.insert p'.key p' :=
    rfl
  have horders : ∀ q ∈ (s.orders.insert o'.intent.intentId o').entries,
      OrderInvariant s.currency q.1 q.2 :=
    Dict.forall_mem_insert ho' fun q hq _ => hinv.orders q hq
  have hinvp := hinv.position h.position
  have hreserved := reserved_le hs hfill h.position h.position_open
  have hremaining := hfill.reservedQuantity_eq hs
  have hq := fill.quantity_pos
  have hqle := hfill.quantity_le
  have h1 := h.quantity
  have h2 := h.reserved
  have h3 := ho'.reservedQuantity
  have h4 := h.order_reserved
  have h5 := hinvp.reserved
  have hfilled := h.filled.filled
  -- what the orders hold of the position sold is what it has reserved
  have hsellReserved : (replaceOrder (afterSale s p' cash) o').sellReserved p'.key =
      p'.reservedQuantity.val := by
    have hstatus : p'.status = .open := by rw [h.position']; exact h.position_open
    have hstep : Step rt s (.fillReceived fill) (replaceOrder (afterSale s p' cash) o') :=
      .sellFill fill o o' p p' cash net allocated h
    have hopen : OpenAt (replaceOrder (afterSale s p' cash) o') p'.key := by
      intro q hq
      rw [hpositions, Dict.get?_insert_self] at hq
      cases hq
      exact hstatus
    have hbalanced := balanced_of_step hinv hstep p'.key
    have hheld := (hbalanced.holdings hopen
      (holdings_of_reachable hs p'.key (hbalanced.openAt hopen))).reserved
    rw [reservedAt_insert hpositions, if_pos rfl] at hheld
    rw [hheld]
    refine sellReserved_eq (fun q hq => (horders q hq).reservedQuantity) ?_
    rw [← hheld]
    exact p'.reservedQuantity.fits
  have hother : ∀ k, p'.key ≠ k →
      (replaceOrder (afterSale s p' cash) o').sellReserved k = s.sellReserved k := by
    intro k hk
    rw [hkey] at hk
    exact sellReserved_replaceOrder_of_ne (s := afterSale s p' cash) hget hk (hokey ▸ hk)
  obtain ⟨-, -, hcost0, hflat⟩ := position_of_sellFill hinv h
  have hp' : PositionInvariant (replaceOrder (afterSale s p' cash) o') p'.key p' := by
    refine ⟨rfl, by have := h.enough; omega, ?_, hcost0, hsellReserved.symm, ?_⟩
    · rw [h4] at h2
      split_ifs at h2 with ht
      · -- the order is filled, so that the fill is all it had reserved
        have hstate := h.filled.state
        rw [ht] at hstate
        split_ifs at hstate with hall
        have hall := congrArg Micros.val hall
        omega
      · omega
    · intro hsettled
      have hstatus : p'.status = .open := by rw [h.position']; exact h.position_open
      exact absurd (hstatus.symm.trans hsettled) (by decide)
  have hcash : cash.amount.val = s.cash.amount.val + net.amount.val := h.cash_eq
  have hnet := h.net_nonneg
  exact {
    cash_currency := h.cash_currency.trans hinv.cash_currency
    reservedCash_currency := hinv.reservedCash_currency
    reservedCash_nonneg := hinv.reservedCash_nonneg
    available_nonneg := by
      have := hinv.available_nonneg
      show s.reservedCash.amount.val ≤ cash.amount.val
      omega
    orders := horders
    reservedCash_eq := by
      show s.reservedCash.amount.val =
        Dict.sumBy (fun _ o => o.buyReserved) (s.orders.insert o'.intent.intentId o')
      rw [Dict.sumBy_insert_of_some _ hget, hinv.reservedCash_eq]
      simp [OrderAggregate.buyReserved, hside, h.side]
    positions := by
      refine Dict.forall_mem_insert hp' fun q hq hne => ?_
      have hold := hinv.positions q hq
      exact ⟨hold.key, hold.quantity, hold.reserved, hold.costBasis,
        hold.reserved_eq.trans (hother _ (Ne.symm hne)).symm, hold.settled⟩
    sell_position := by
      intro k hne
      rw [hpositions, Dict.get?_insert]
      split_ifs with hk
      · exact Option.some_ne_none _
      · rw [hother k hk] at hne
        exact hinv.sell_position k hne
    evidence := hinv.evidence
    observations := hinv.observations
    opened := fun hopened => absurd (hasFinancialState_of_order h.get) (hinv.opened hopened) }

/-! ## Acceptance -/

/-- **A fill that keeps to the terms of a reserved SELL order is accepted.** It takes at most the
cost of the position with it, and the whole cost with the last unit. -/
theorem sellFill_accepted (rt : Runtime) {s : LedgerState} (hs : Reachable rt s)
    {o : OrderAggregate} {fill : FillReceived} (hfill : Sellable s o fill)
    (hsmall : SaleRepresentable s o fill) :
    ∃ s' p p' allocated, applyEvent rt s (.fillReceived fill) = .ok s' ∧
      s.positions.get? o.key = some p ∧ s'.positions.get? o.key = some p' ∧
      allocatedCost p fill.quantity = .ok allocated ∧
      0 ≤ allocated.amount.val ∧ allocated.amount.val ≤ p.costBasis.amount.val ∧
      p'.quantity.val = p.quantity - fill.quantity ∧
      p'.costBasis.amount.val = p.costBasis.amount - allocated.amount ∧
      0 ≤ p'.costBasis.amount.val ∧ (p'.quantity.val = 0 → p'.costBasis.amount.val = 0) := by
  have hinv := hs.invariants
  have hnew := hfill.fill_new
  obtain ⟨next, hnext⟩ := applyNewFill_sell_ok hs hfill hsmall
  obtain ⟨o', p, p', cash, net, allocated, hsell, rfl⟩ :=
    step_of_sellFill hinv.wellKeyed hfill.get hnew hfill.side hnext
  have hreduce : reduce rt s (.fillReceived fill) = .ok (replaceOrder (afterSale s p' cash) o') := by
    show applyFill rt s fill = _
    rw [applyFill, orderOf_eq_ok.mpr hfill.get, ok_bind, hnew]
    exact hnext
  obtain ⟨halloc0, hallocLe, hcost0, hflat⟩ := position_of_sellFill hinv hsell
  refine ⟨_, p, p', allocated, applyEvent_eq_ok.mpr (.inr ⟨hfill.event_new, _, hreduce, rfl,
    invariants_recordEvent.mpr (invariants_of_sellFill hs hfill hsell)⟩), hsell.position, ?_,
    hsell.allocated_eq, halloc0, hallocLe, hsell.quantity, hsell.costBasis, hcost0, hflat⟩
  rw [← hsell.key_eq hinv.wellKeyed]
  exact Dict.get?_insert_self _ _ _

namespace Sample

/-- The sample run up to the submission of its SELL order of two shares out of three. -/
def offeredState : LedgerState := okOr (replay .utc (roundTrip.take 7) "USD") (.fresh "USD")

def offeredOrder : OrderAggregate := (offeredState.orders.get? "sell").get (by decide +kernel)

theorem sellable_offeredOrder : Sellable offeredState offeredOrder oneShare where
  get := (Option.some_get _).symm
  side := by decide
  state := .inl (by decide)
  event_new := by decide
  fill_new := by
    have hempty : offeredOrder.fillFingerprints.entries = [] := by decide
    exact Dict.get?_eq_none.mpr fun v => by simp [hempty]
  quantity_le := by decide
  price_ge := by decide
  fee_currency := by decide
  fee_le := by decide

end Sample

/-- The sale of one share is accepted. -/
theorem sellFill_accepted_oneShare :
    ∃ s', applyEvent .utc Sample.offeredState (.fillReceived Sample.oneShare) = .ok s' := by
  have hposition : ∀ p, Sample.offeredState.positions.get? Sample.offeredOrder.key = some p →
      p.realizedPnl = Money.zero "USD" ∧ p.costBasis.amount.val = 833335 := by
    intro p hp
    have hall : (Sample.offeredState.positions.get? Sample.offeredOrder.key).all (fun p =>
        p.realizedPnl = Money.zero "USD" ∧ p.costBasis.amount.val = 833335) = true := by
      decide
    rw [hp] at hall
    simpa using hall
  have hsmall : SaleRepresentable Sample.offeredState Sample.offeredOrder Sample.oneShare := {
    grossValue := by decide
    fees := by decide
    cash := by decide +kernel
    profit := by
      intro p hp
      rw [(hposition p hp).1]
      decide
    loss := by
      intro p hp
      rw [(hposition p hp).1, (hposition p hp).2]
      decide }
  obtain ⟨s', -, -, -, h, -⟩ := sellFill_accepted .utc
    ⟨Sample.roundTrip.take 7, "USD", eq_ok_okOr (by decide) _⟩
    Sample.sellable_offeredOrder hsmall
  exact ⟨s', h⟩

end WeatherBot.Ledger
