import WeatherBot.Ledger.Run

/-!
# Filling a reserved BUY order

A fill that keeps to its order is refused in one case: all cash is reserved, and
the debit and the new reservation, rounded one by one, come to one millionth
more than the old reservation.

* `Fillable`: a fill that keeps to the terms of a live BUY order.
* `applyNewFill_ok`, `invariants_of_buyFill`: the reducer returns, and its result
  passes the checks, when cash covers reservations afterwards.
* `buyFill_accepted_iff`: **a fillable fill is accepted iff it is covered.**
-/

namespace WeatherBot.Ledger

open WeatherBot.Common
open WeatherBot.Domain

variable {rt : Runtime} {s : LedgerState} {o : OrderAggregate} {fill : FillReceived}

/-! ## Fills that keep to their order -/

/-- A fill of a live BUY order within its quantity, its limit price and its fee reserve. -/
structure Fillable (s : LedgerState) (o : OrderAggregate) (fill : FillReceived) : Prop where
  get : s.orders.get? fill.intentId = some o
  side : o.intent.side = .buy
  state : o.state = .submitted ∨ o.state = .acknowledged ∨ o.state = .partiallyFilled ∨
    o.state = .unknown
  position_open : ∀ p, s.positions.get? o.key = some p → p.status = .open
  event_new : s.eventFingerprints.get? fill.eventId = none
  fill_new : o.fillFingerprints.get? fill.fillId = none
  quantity_le : fill.quantity.val ≤ o.intent.quantity - o.filledQuantity
  price_le : fill.price.val ≤ o.intent.limitPrice.val
  fee_currency : fill.fee.currency = s.currency
  fee_le : fill.fee.amount.val ≤ o.intent.feeReserve.amount - o.fees.amount

/-- The sums that a fill adds to have at most 28 digits. -/
structure Representable (s : LedgerState) (o : OrderAggregate) (fill : FillReceived) : Prop where
  grossValue : Fits (o.grossValue.amount + roundedProduct fill.price fill.quantity)
  quantity : Fits ((positionOrEmpty s o).quantity + fill.quantity)
  costBasis : Fits ((positionOrEmpty s o).costBasis.amount +
    (roundedProduct fill.price fill.quantity + fill.fee.amount))

/-- The quantity that a fill leaves open. -/
def quantityLeft (o : OrderAggregate) (fill : FillReceived) : ℤ :=
  o.intent.quantity - o.filledQuantity - fill.quantity

/-- Some cash is not reserved, or the two amounts that a reservation is split into, each rounded,
do not exceed it. -/
def Covered (s : LedgerState) (o : OrderAggregate) (fill : FillReceived) : Prop :=
  s.reservedCash.amount.val < s.cash.amount.val ∨
    roundedProduct fill.price fill.quantity +
        roundedProduct o.intent.limitPrice (quantityLeft o fill) ≤
      roundedProduct o.intent.limitPrice (o.intent.quantity - o.filledQuantity)

/-! ## Currencies of positions -/

/-- Every position's cost is in the ledger's currency. -/
def CostCurrency (s : LedgerState) : Prop :=
  ∀ p ∈ s.positions.entries, p.2.costBasis.currency = s.currency

theorem costCurrency_positionOrEmpty (h : CostCurrency s) (o : OrderAggregate) :
    (positionOrEmpty s o).costBasis.currency = s.currency := by
  unfold positionOrEmpty
  cases hp : s.positions.get? o.key with
  | none => rfl
  | some p => exact h _ (Dict.get?_eq_some.mp hp)

theorem costCurrency_of_step {next : LedgerState} {event : LedgerEvent} (h : CostCurrency s)
    (hstep : Step rt s event next) : CostCurrency next := by
  have hget : ∀ {k p}, s.positions.get? k = some p → p.costBasis.currency = s.currency :=
    fun hp => h _ (Dict.get?_eq_some.mp hp)
  have hinsert : ∀ p : Position, p.costBasis.currency = s.currency →
      ∀ q ∈ (s.positions.insert p.key p).entries, q.2.costBasis.currency = s.currency :=
    fun p hp => Dict.forall_mem_insert hp fun q hq _ => h q hq
  cases hstep with
  | unchanged => exact h
  | opened => exact h
  | buyIntent => exact h
  | sellIntent _ _ p r _ _ _ _ hp =>
    have hc := hget hp
    exact hinsert { p with reservedQuantity := r } hc
  | moved => exact h
  | closedBuy => exact h
  | closedSell _ _ _ _ _ p r _ _ _ _ hp =>
    have hc := hget hp
    exact hinsert { p with reservedQuantity := r } hc
  | buyFill _ o _ _ _ _ hf =>
    exact hinsert _ (hf.costBasis_currency.trans (costCurrency_positionOrEmpty h o))
  | sellFill _ _ _ _ _ _ _ _ hf =>
    refine hinsert _ ?_
    rcases hf.costBasis_currency with hc | hc
    · exact hc
    · exact hc.trans (hget hf.position)
  | recorded => exact h
  | settled _ _ _ _ _ hf =>
    refine hinsert _ ?_
    rw [hf.position']
    rfl

theorem Reachable.costCurrency (h : Reachable rt s) : CostCurrency s :=
  h.preserves (fun _ => by simp [CostCurrency, LedgerState.fresh]) (fun _ _ _ h => h)
    fun _ _ _ _ _ h hstep => costCurrency_of_step h hstep

/-! ## The amounts of a fill -/

section Amounts

variable (hs : s.Invariants) (hfill : Fillable s o fill)

include hs hfill

theorem Fillable.orderInvariant : OrderInvariant s.currency fill.intentId o :=
  hs.order hfill.get

omit hs in
theorem Fillable.live : o.Live := by
  unfold OrderAggregate.Live
  rcases hfill.state with h | h | h | h <;> rw [h] <;> rfl

/-- What the order reserves. -/
theorem Fillable.reservedCash_eq : o.reservedCash.amount.val =
    roundedProduct o.intent.limitPrice (o.intent.quantity - o.filledQuantity) +
      (o.intent.feeReserve.amount - o.fees.amount) :=
  (hfill.orderInvariant hs).buy_live hfill.side hfill.live

omit hs in
theorem Fillable.quantityLeft_nonneg : 0 ≤ quantityLeft o fill := by
  have := hfill.quantity_le
  unfold quantityLeft
  omega

/-- An order's reservation is part of the ledger's. -/
theorem Fillable.reservedCash_le : o.reservedCash.amount.val ≤ s.reservedCash.amount.val := by
  have hb : o.buyReserved = o.reservedCash.amount := by
    rw [OrderAggregate.buyReserved, if_pos hfill.side]
  rw [hs.reservedCash_eq, ← hb]
  refine Dict.le_sumBy (f := fun _ o => o.buyReserved) ?_ hfill.get
  intro p hp
  unfold OrderAggregate.buyReserved
  split_ifs
  · exact (hs.orders p hp).reservedCash.2
  · exact le_rfl

omit hs in
/-- The price paid is at most the reservation of what is open. -/
theorem Fillable.gross_le : roundedProduct fill.price fill.quantity ≤
    roundedProduct o.intent.limitPrice (o.intent.quantity - o.filledQuantity) :=
  roundedProduct_mono fill.price_range.1.le fill.quantity_pos.le hfill.price_le hfill.quantity_le

omit hs in
/-- The reservation of what stays open is at most that of what is open. -/
theorem Fillable.left_le : roundedProduct o.intent.limitPrice (quantityLeft o fill) ≤
    roundedProduct o.intent.limitPrice (o.intent.quantity - o.filledQuantity) := by
  have := fill.quantity_pos
  refine roundedProduct_mono o.intent.limitPrice_range.1.le hfill.quantityLeft_nonneg le_rfl ?_
  unfold quantityLeft
  omega

/-- A covered fill leaves enough cash for what is reserved afterwards. -/
theorem Fillable.covered_le (h : Covered s o fill) :
    roundedProduct fill.price fill.quantity +
        roundedProduct o.intent.limitPrice (quantityLeft o fill) ≤
      roundedProduct o.intent.limitPrice (o.intent.quantity - o.filledQuantity) +
        (s.cash.amount - s.reservedCash.amount) := by
  have havail := hs.available_nonneg
  rcases h with h | h
  · -- one millionth of free cash makes up for the rounding
    have hgross := roundedProduct_nonneg fill.price_range.1.le fill.quantity_pos.le
    have hleft := roundedProduct_nonneg o.intent.limitPrice_range.1.le hfill.quantityLeft_nonneg
    have hfee := fill.fee_nonneg.trans hfill.fee_le
    have hres := hfill.reservedCash_eq hs
    have hwhole : Fits (roundedProduct o.intent.limitPrice
        (o.intent.quantity - o.filledQuantity)) :=
      LedgerState.fits_of_le (a := o.reservedCash.amount) (hgross.trans hfill.gross_le) (by omega)
    have hsplit := roundedProduct_split fill.price_range.1.le hfill.price_le fill.quantity_pos.le
      hfill.quantity_le
      (LedgerState.fits_of_le (a := ⟨_, hwhole⟩) hgross hfill.gross_le)
      (LedgerState.fits_of_le (a := ⟨_, hwhole⟩) hleft hfill.left_le) hwhole
    unfold quantityLeft
    omega
  · omega

/-- Cash covers the debit of a covered fill. -/
theorem Fillable.debit_le (h : Covered s o fill) :
    roundedProduct fill.price fill.quantity + fill.fee.amount.val ≤ s.cash.amount.val := by
  have hcovered := hfill.covered_le hs h
  have hleft := roundedProduct_nonneg o.intent.limitPrice_range.1.le hfill.quantityLeft_nonneg
  have hres := hfill.reservedCash_eq hs
  have hle := hfill.reservedCash_le hs
  have hfee := hfill.fee_le
  omega

end Amounts

/-! ## The reducer returns -/

/-- A BUY fill is recorded when the sums are representable. -/
theorem recordFill_ok {target : OrderState} {filledQuantity : Micros} {gross : Money}
    (hside : o.intent.side = .buy) (hgrossCur : gross.currency = o.grossValue.currency)
    (hgross : Fits (o.grossValue.amount + gross.amount))
    (hfeeCur : fill.fee.currency = o.fees.currency) (hfees : Fits (o.fees.amount + fill.fee.amount))
    (hcur : o.reservedCash.currency = s.reservedCash.currency)
    (hrelease : Fits (s.reservedCash.amount - o.reservedCash.amount)) :
    ∃ next, recordFill rt s o fill target filledQuantity gross = .ok next := by
  unfold recordFill
  rw [Money.add_of_fits hgrossCur hgross, ok_bind, Money.add_of_fits hfeeCur hfees, ok_bind]
  dsimp only
  split_ifs
  · unfold releaseReservations
    dsimp only [OrderAggregate.withFill]
    rw [hside]
    dsimp only
    rw [Money.sub_of_fits hcur hrelease]
    exact ⟨_, rfl⟩
  · exact ⟨_, rfl⟩

section Returns

variable (hs : s.Invariants) (hfill : Fillable s o fill)

include hs hfill

/-- The new reservation is computed. -/
theorem remainingReservation_ok : ∃ r, remainingReservation s o fill = .ok r ∧
    r.amount.val = roundedProduct o.intent.limitPrice (quantityLeft o fill) +
      (o.intent.feeReserve.amount - o.fees.amount - fill.fee.amount) ∧
    r.currency = s.currency ∧ r.amount.val ≤ o.reservedCash.amount.val := by
  have ho := hfill.orderInvariant hs
  have hq := fill.quantity_pos
  have hqle := hfill.quantity_le
  have hfee := hfill.fee_le
  have hfee0 := fill.fee_nonneg
  have hleft0 := roundedProduct_nonneg o.intent.limitPrice_range.1.le hfill.quantityLeft_nonneg
  have hres := hfill.reservedCash_eq hs
  have hleft := hfill.left_le
  unfold quantityLeft at hleft0 hleft ⊢
  -- each amount is at most one that the order already holds
  have hremaining := LedgerState.fits_sub (a := o.intent.quantity) ho.filled_nonneg ho.filled_le
  have hopen : Fits (o.intent.quantity - o.filledQuantity - fill.quantity : ℤ) :=
    LedgerState.fits_of_le (a := ⟨_, hremaining⟩) (by omega) (by simp; omega)
  have hnotional : Fits (roundedProduct o.intent.limitPrice
      (o.intent.quantity - o.filledQuantity - fill.quantity)) :=
    LedgerState.fits_of_le (a := o.reservedCash.amount) hleft0 (by omega)
  have hreserve := LedgerState.fits_sub (a := o.intent.feeReserve.amount) ho.fees.2 (by omega)
  have hrest : Fits (o.intent.feeReserve.amount - o.fees.amount - fill.fee.amount : ℤ) :=
    LedgerState.fits_of_le (a := ⟨_, hreserve⟩) (by omega) (by simp; omega)
  have hsum : Fits (roundedProduct o.intent.limitPrice
      (o.intent.quantity - o.filledQuantity - fill.quantity) +
      (o.intent.feeReserve.amount - o.fees.amount - fill.fee.amount)) :=
    LedgerState.fits_of_le (a := o.reservedCash.amount) (by omega) (by omega)
  have hle : roundedProduct o.intent.limitPrice
      (o.intent.quantity - o.filledQuantity - fill.quantity) +
      (o.intent.feeReserve.amount - o.fees.amount - fill.fee.amount) ≤
      o.reservedCash.amount.val := by omega
  have h1 := Money.sub_of_fits (ho.fees.1.trans ho.feeReserve.1.symm) hreserve
  have h2 : o.remainingQuantity = _ := quantize_of_fits hremaining
  have h3 := quantize_of_fits hopen
  have h4 : moneyFromUnitPrice o.intent.limitPrice ⟨_, hopen⟩ s.currency =
    .ok ⟨⟨_, hnotional⟩, s.currency⟩ := moneyFromUnitPrice_eq_ok.mpr ⟨rfl, rfl⟩
  have h5 := Money.sub_of_fits (a := ⟨⟨_, hreserve⟩, o.intent.feeReserve.currency⟩)
    (hfill.fee_currency.trans ho.feeReserve.1.symm) hrest
  have h6 := Money.add_of_fits (a := ⟨⟨_, hnotional⟩, s.currency⟩)
    (b := ⟨⟨_, hrest⟩, o.intent.feeReserve.currency⟩) ho.feeReserve.1 hsum
  refine ⟨⟨⟨_, hsum⟩, s.currency⟩, ?_, rfl, rfl, hle⟩
  unfold remainingReservation
  rw [raiseIf_of_not _ (not_lt.mpr hfill.price_le), ok_bind, h1, ok_bind,
    raiseIf_of_not _ (not_lt.mpr hfill.fee_le), ok_bind, h2, ok_bind, h3, ok_bind, h4, ok_bind, h5,
    ok_bind, h6, ok_bind, raiseIf_of_not _ (not_lt.mpr hle), ok_bind]
  rfl

/-- The accounting of a BUY fill returns when cash covers the debit. -/
theorem applyBuyFill_ok (hsmall : Representable s o fill) (hcost : CostCurrency s)
    (hdebit : roundedProduct fill.price fill.quantity + fill.fee.amount.val ≤ s.cash.amount.val)
    (gross : Money) (hgross : gross.amount.val = roundedProduct fill.price fill.quantity)
    (hcur : gross.currency = s.currency) : ∃ s' o', applyBuyFill s o fill gross = .ok (s', o') := by
  have ho := hfill.orderInvariant hs
  obtain ⟨r, hr, hrval, hrcur, hrle⟩ := remainingReservation_ok hs hfill
  have hgross0 := roundedProduct_nonneg fill.price_range.1.le fill.quantity_pos.le
  have hleft0 := roundedProduct_nonneg o.intent.limitPrice_range.1.le hfill.quantityLeft_nonneg
  have hfee0 := fill.fee_nonneg
  have hfee := hfill.fee_le
  have hresle := hfill.reservedCash_le hs
  have hr0 : 0 ≤ r.amount.val := by omega
  -- what is released, debited and reserved afterwards
  have hrelease := LedgerState.fits_sub hr0 hrle
  have hdebitFits : Fits (gross.amount + fill.fee.amount : ℤ) :=
    LedgerState.fits_of_le (a := s.cash.amount) (by omega) (by omega)
  have hcash : Fits (s.cash.amount - (gross.amount + fill.fee.amount) : ℤ) :=
    LedgerState.fits_sub (a := s.cash.amount) (b := ⟨_, hdebitFits⟩) (by simp; omega) (by simp; omega)
  have hreserved : Fits (s.reservedCash.amount - (o.reservedCash.amount - r.amount) : ℤ) :=
    LedgerState.fits_of_le (a := s.reservedCash.amount) (by omega) (by omega)
  have hbasis : Fits ((positionOrEmpty s o).costBasis.amount +
      (gross.amount + fill.fee.amount) : ℤ) := by
    rw [hgross]
    exact hsmall.costBasis
  have hopen : (positionOrEmpty s o).status = .open := by
    unfold positionOrEmpty
    cases hp : s.positions.get? o.key with
    | none => rfl
    | some p => exact hfill.position_open p hp
  have h1 := Money.sub_of_fits (hrcur.trans ho.reservedCash.1.symm) hrelease
  have h2 := Money.add_of_fits (hfill.fee_currency.trans hcur.symm) hdebitFits
  have h3 := Money.sub_of_fits (a := s.cash) (b := ⟨⟨_, hdebitFits⟩, gross.currency⟩)
    (hcur.trans hs.cash_currency.symm) hcash
  have h4 := Money.sub_of_fits (a := s.reservedCash) (b := ⟨⟨_, hrelease⟩, o.reservedCash.currency⟩)
    (ho.reservedCash.1.trans hs.reservedCash_currency.symm) hreserved
  have h5 := quantize_of_fits hsmall.quantity
  have h6 := Money.add_of_fits (a := (positionOrEmpty s o).costBasis)
    (b := ⟨⟨_, hdebitFits⟩, gross.currency⟩)
    (hcur.trans (costCurrency_positionOrEmpty hcost o).symm) hbasis
  have hle : ¬ s.cash.amount.val < gross.amount + fill.fee.amount := by omega
  unfold applyBuyFill
  rw [hr, ok_bind, h1, ok_bind, h2, ok_bind, raiseIf_of_not _ hle, ok_bind, h3, ok_bind, h4, ok_bind]
  dsimp only
  rw [raiseIf_of_not _ (not_not.mpr hopen), ok_bind, h5, ok_bind, h6, ok_bind]
  exact ⟨_, _, rfl⟩

/-- The reducer returns when cash covers the debit. -/
theorem applyNewFill_ok (rt : Runtime) (hsmall : Representable s o fill) (hcost : CostCurrency s)
    (hdebit : roundedProduct fill.price fill.quantity + fill.fee.amount.val ≤ s.cash.amount.val) :
    ∃ next, applyNewFill rt s o fill = .ok next := by
  have ho := hfill.orderInvariant hs
  have hq := fill.quantity_pos
  have hqle := hfill.quantity_le
  have hfilled0 := ho.filled_nonneg
  have hgross0 := roundedProduct_nonneg fill.price_range.1.le fill.quantity_pos.le
  have hfee0 := fill.fee_nonneg
  have hfee := hfill.fee_le
  have hfees0 := ho.fees.2
  have hfilled : Fits (o.filledQuantity + fill.quantity : ℤ) :=
    LedgerState.fits_of_le (a := o.intent.quantity) (by omega) (by omega)
  have hgrossFits : Fits (roundedProduct fill.price fill.quantity) :=
    LedgerState.fits_of_le (a := s.cash.amount) hgross0 (by omega)
  have hfeesFits : Fits (o.fees.amount + fill.fee.amount : ℤ) :=
    LedgerState.fits_of_le (a := o.intent.feeReserve.amount) (by omega) (by omega)
  have hallowed : fillTarget o ⟨_, hfilled⟩ ∈ allowedTransitions o.state := by
    unfold fillTarget
    rcases hfill.state with h | h | h | h <;> rw [h] <;> split_ifs <;> decide
  have hgross : moneyFromUnitPrice fill.price fill.quantity s.currency =
    .ok ⟨⟨_, hgrossFits⟩, s.currency⟩ := moneyFromUnitPrice_eq_ok.mpr ⟨rfl, rfl⟩
  obtain ⟨s₁, o₁, hbuy⟩ := applyBuyFill_ok hs hfill hsmall hcost hdebit
    ⟨⟨_, hgrossFits⟩, s.currency⟩ rfl rfl
  have hside : applySideFill s o fill ⟨⟨_, hgrossFits⟩, s.currency⟩ = .ok (s₁, o₁) := by
    rw [applySideFill, hfill.side]
    exact hbuy
  obtain ⟨cash, reservedCash, reservation, costBasis, quantity, -, -, -, hresCur, -, -, hreserved,
    hreservedCur, -, -, -, -, rfl, rfl⟩ := applyBuyFill_eq_ok hbuy
  have hrelease : Fits (reservedCash.amount - reservation.amount : ℤ) := by
    have hle := hfill.reservedCash_le hs
    have h0 := ho.reservedCash.2
    exact LedgerState.fits_of_le (a := s.reservedCash.amount) (by omega) (by omega)
  unfold applyNewFill
  rw [quantize_of_fits hfilled, ok_bind, raiseIf_of_not _ (by simp; omega), ok_bind]
  dsimp only
  rw [(requireTransition_eq_ok (u := ())).mpr hallowed, ok_bind, raiseIf_of_not _ (not_not.mpr hfill.fee_currency),
    ok_bind, hgross, ok_bind, hside, ok_bind]
  exact recordFill_ok hfill.side ho.grossValue.1.symm hsmall.grossValue
    (hfill.fee_currency.trans ho.fees.1.symm) hfeesFits
    (hresCur.trans (hreservedCur.trans hs.reservedCash_currency).symm) hrelease

end Returns

/-! ## The checks pass -/

/-- A BUY order does not count in what SELL orders reserve. -/
theorem sellReserved_replaceOrder {o' : OrderAggregate} (hget : s.orders.get? o'.intent.intentId = some o)
    (hside : o.intent.side = .buy) (hside' : o'.intent.side = .buy) (k : String × String) :
    (replaceOrder s o').sellReserved k = s.sellReserved k := by
  refine Dict.foldl_values_insert hget ?_ 0
  intro total
  simp [addSellReserved, hside, hside']

theorem orderInvariant_of_buyFill {o' : OrderAggregate} {p' : Position} {cash reservedCash : Money}
    (ho : OrderInvariant s.currency fill.intentId o)
    (h : BuyFill rt s fill o o' p' cash reservedCash) :
    OrderInvariant s.currency o'.intent.intentId o' := by
  have hq := fill.quantity_pos
  have hgross0 := roundedProduct_nonneg fill.price_range.1.le fill.quantity_pos.le
  have hfee0 := fill.fee_nonneg
  have hfee := h.fee_le
  have hfilled := h.filled.filled
  have hfilledle := h.filled.filled_le
  have hgross := h.filled.grossValue
  have hfees := h.filled.fees
  have hside : o'.intent.side = .buy := by rw [h.filled.intent]; exact h.side
  have hleft : 0 ≤ roundedProduct o.intent.limitPrice (o.intent.quantity - o'.filledQuantity) :=
    roundedProduct_nonneg o.intent.limitPrice_range.1.le (by omega)
  have hbuy := ho.buy h.side
  have h0 := ho.filled_nonneg
  have h1 := ho.grossValue.2
  have h2 := ho.fees.2
  have hkept := h.kept
  unfold keptReservation at hkept
  exact {
    key := rfl
    filled_nonneg := by omega
    filled_le := by rw [h.filled.intent]; exact hfilledle
    grossValue := ⟨h.filled.grossValue_currency.trans ho.grossValue.1, by omega⟩
    fees := ⟨h.filled.fees_currency.trans ho.fees.1, by omega⟩
    reservedCash := ⟨h.kept_currency, by rw [hkept]; split_ifs <;> omega⟩
    feeReserve := by rw [h.filled.intent]; exact ho.feeReserve
    reservedQuantity := by rw [h.reservedQuantity]; exact ho.reservedQuantity
    terminal := by
      intro ht
      rw [h.reservedQuantity]
      refine ⟨?_, hbuy.1⟩
      rw [hkept, if_pos]
      rw [h.filled.state] at ht ⊢
      split_ifs at ht ⊢
      · rfl
      · cases ht
    buy := by
      intro _
      rw [h.reservedQuantity, h.filled.intent]
      exact ⟨hbuy.1, by omega⟩
    buy_live := by
      intro _ hlive
      rw [hkept, if_neg, h.filled.intent]
      intro ht
      rw [OrderAggregate.Live, ht] at hlive
      cases hlive
    sell := fun hsell => absurd (hside.symm.trans hsell) (by decide)
    sell_live := fun hsell => absurd (hside.symm.trans hsell) (by decide) }

/-- The result of a BUY fill passes the checks when cash covers what is reserved. -/
theorem invariants_of_buyFill {o' : OrderAggregate} {p' : Position} {cash reservedCash : Money}
    (hs : s.Invariants) (h : BuyFill rt s fill o o' p' cash reservedCash)
    (havail : reservedCash.amount.val ≤ cash.amount.val) :
    (afterBuyFill s o' p' cash reservedCash).Invariants := by
  have hkeyed := hs.wellKeyed
  have ho := hs.order h.get
  have ho' := orderInvariant_of_buyFill ho h
  have hside : o'.intent.side = .buy := by rw [h.filled.intent]; exact h.side
  have hid : o'.intent.intentId = fill.intentId := by rw [h.filled.intent, ← ho.key]
  have hget : s.orders.get? o'.intent.intentId = some o := hid ▸ h.get
  have hkey := h.key_eq hkeyed
  have hsum : reservedCash.amount.val =
      Dict.sumBy (fun _ o => o.buyReserved) (s.orders.insert o'.intent.intentId o') := by
    rw [Dict.sumBy_insert_of_some _ hget, h.reservedCash_eq, hs.reservedCash_eq]
    simp [OrderAggregate.buyReserved, hside, h.side]
  have hsell : ∀ k, (afterBuyFill s o' p' cash reservedCash).sellReserved k = s.sellReserved k :=
    sellReserved_replaceOrder (s := replacePosition { s with cash, reservedCash } p') hget h.side hside
  have horders : ∀ q ∈ (s.orders.insert o'.intent.intentId o').entries,
      OrderInvariant s.currency q.1 q.2 :=
    Dict.forall_mem_insert ho' fun q hq _ => hs.orders q hq
  exact {
    cash_currency := h.cash_currency.trans hs.cash_currency
    reservedCash_currency := h.reservedCash_currency.trans hs.reservedCash_currency
    reservedCash_nonneg := by
      show 0 ≤ reservedCash.amount.val
      rw [hsum]
      refine Dict.sumBy_nonneg ?_
      intro q hq
      unfold OrderAggregate.buyReserved
      split_ifs
      · exact (horders q hq).reservedCash.2
      · exact le_rfl
    available_nonneg := havail
    orders := horders
    reservedCash_eq := hsum
    positions := by
      have hq := fill.quantity_pos
      have hgross := roundedProduct_nonneg fill.price_range.1.le fill.quantity_pos.le
      have hfee := fill.fee_nonneg
      refine Dict.forall_mem_insert ?_ fun q hq _ => ?_
      · -- the position bought into, or an empty one
        have hold : PositionInvariant s o.key (positionOrEmpty s o) := by
          unfold positionOrEmpty
          cases hp : s.positions.get? o.key with
          | some p => exact hs.position hp
          | none =>
            have hzero : s.sellReserved o.key = 0 := by
              by_contra hne
              exact hs.sell_position _ hne hp
            exact ⟨rfl, le_rfl, ⟨le_rfl, le_rfl⟩, le_rfl, hzero.symm, fun _ => ⟨rfl, rfl, rfl⟩⟩
        have hreserved : p'.reservedQuantity = (positionOrEmpty s o).reservedQuantity := by
          rw [h.position]
        have hstatus : p'.status = .open := by
          rw [h.position]
          exact h.position_open
        have h1 := h.quantity
        have h2 := h.costBasis
        have h3 := hold.quantity
        have h4 := hold.reserved
        have h5 := hold.costBasis
        refine ⟨rfl, by show 0 ≤ p'.quantity.val; omega, ?_, by show 0 ≤ p'.costBasis.amount.val; omega,
          ?_, ?_⟩
        · show 0 ≤ p'.reservedQuantity.val ∧ p'.reservedQuantity.val ≤ p'.quantity.val
          rw [hreserved]
          omega
        · show p'.reservedQuantity.val = _
          rw [hsell, hreserved, hold.reserved_eq, hkey]
        · intro hsettled
          exact absurd (hstatus.symm.trans hsettled) (by decide)
      · have hold := hs.positions q hq
        exact ⟨hold.key, hold.quantity, hold.reserved, hold.costBasis,
          hold.reserved_eq.trans (hsell _).symm, hold.settled⟩
    sell_position := by
      intro k hne
      rw [hsell] at hne
      show (s.positions.insert p'.key p').get? k ≠ none
      rw [Dict.get?_insert]
      split_ifs
      · exact Option.some_ne_none _
      · exact hs.sell_position k hne
    evidence := hs.evidence
    observations := hs.observations
    opened := fun hopened => absurd (hasFinancialState_of_order h.get) (hs.opened hopened) }

/-! ## Acceptance -/

/-- **A fill that keeps to the terms of a reserved BUY order is accepted iff some cash is not
reserved, or rounding the two parts does not exceed the reservation of the whole.** -/
theorem buyFill_accepted_iff (rt : Runtime) {s : LedgerState} (hs : Reachable rt s)
    {o : OrderAggregate} {fill : FillReceived} (hfill : Fillable s o fill)
    (hsmall : Representable s o fill) :
    (∃ s', applyEvent rt s (.fillReceived fill) = .ok s') ↔ Covered s o fill := by
  have hinv := hs.invariants
  have hres := hfill.reservedCash_eq hinv
  -- what is available afterwards, for any accepted accounting
  have havail : ∀ {o' p' cash reservedCash}, BuyFill rt s fill o o' p' cash reservedCash →
      (reservedCash.amount.val ≤ cash.amount.val ↔ o'.state = .filled ∨
        roundedProduct fill.price fill.quantity +
            roundedProduct o.intent.limitPrice (quantityLeft o fill) ≤
          roundedProduct o.intent.limitPrice (o.intent.quantity - o.filledQuantity) +
            (s.cash.amount - s.reservedCash.amount)) := by
    intro o' p' cash reservedCash h
    have hgross := hfill.gross_le
    have hfee := hfill.fee_le
    have hle := hinv.available_nonneg
    have hkept := h.kept
    have hfilled := h.filled.filled
    have hfees := h.filled.fees
    have hleft : o.intent.quantity.val - o'.filledQuantity.val = quantityLeft o fill := by
      unfold quantityLeft
      omega
    rw [keptReservation, hleft] at hkept
    rw [h.reservedCash_eq, h.cash_eq, hkept]
    split_ifs with ht
    · simp only [ht, true_or, iff_true]
      omega
    · simp only [ht, false_or]
      omega
  have hnew := hfill.fill_new
  have hreduce : ∀ next, reduce rt s (.fillReceived fill) = .ok next ↔
      applyNewFill rt s o fill = .ok next := by
    intro next
    show applyFill rt s fill = .ok next ↔ _
    rw [applyFill, orderOf_eq_ok.mpr hfill.get, ok_bind, hnew]
  constructor
  · rintro ⟨s', h⟩
    rcases applyEvent_eq_ok.mp h with ⟨hdup, -⟩ | ⟨-, next, hnext, rfl, hnextInv⟩
    · exact absurd (hfill.event_new.symm.trans hdup) (by simp)
    rw [hreduce] at hnext
    obtain ⟨o', p', cash, reservedCash, hbuy, rfl⟩ :=
      step_of_buyFill hfill.get hnew hfill.side hnext
    have hcovered := (havail hbuy).mp (invariants_recordEvent.mp hnextInv).available_nonneg
    unfold Covered
    rcases hcovered with ht | hle
    · -- the completing fill leaves nothing to reserve
      right
      have hzero : quantityLeft o fill = 0 := by
        have hstate := hbuy.filled.state
        have hfilled := hbuy.filled.filled
        rw [ht] at hstate
        split_ifs at hstate with hall
        rw [hall] at hfilled
        unfold quantityLeft
        omega
      rw [hzero, roundedProduct_zero, add_zero]
      exact hfill.gross_le
    · have := hinv.available_nonneg
      omega
  · intro hcovered
    obtain ⟨next, hnext⟩ := applyNewFill_ok hinv hfill rt hsmall hs.costCurrency
      (hfill.debit_le hinv hcovered)
    obtain ⟨o', p', cash, reservedCash, hbuy, rfl⟩ :=
      step_of_buyFill hfill.get hnew hfill.side hnext
    refine ⟨_, applyEvent_eq_ok.mpr (.inr ⟨hfill.event_new, _, (hreduce _).mpr hnext, rfl, ?_⟩)⟩
    exact invariants_recordEvent.mpr (invariants_of_buyFill hinv hbuy
      ((havail hbuy).mpr (.inr (hfill.covered_le hinv hcovered))))

namespace Sample

/-- All cash is reserved by an order of 20.000038 shares at 0.027. -/
def reservedAll : List LedgerEvent :=
  [accountOpened (event "1" (.refl false)) (usd 540001 (by decide)) (by decide),
    intentCreated (event "2" (.refl false))
      (intent "buy" .buy ⟨20000038, by decide⟩ ⟨27000, by decide⟩ (by decide)),
    submitted (event "3" (.refl false)) "buy"]

/-- The state after these events. -/
def reservedState : LedgerState := okOr (replay .utc reservedAll "USD") (.fresh "USD")

/-- The order that reserves all cash. -/
def reservedOrder : OrderAggregate :=
  (reservedState.orders.get? "buy").get (by decide)

/-- Half of the order, at its limit. -/
def halfFill : FillReceived :=
  Sample.fill (event "4" (.refl false)) "buy" ⟨10000019, by decide⟩ ⟨27000, by decide⟩ (by decide)

/-- All of the order, at its limit. -/
def wholeFill : FillReceived :=
  Sample.fill (event "4" (.refl false)) "buy" ⟨20000038, by decide⟩ ⟨27000, by decide⟩ (by decide)

theorem reachable_reservedState : Reachable .utc reservedState :=
  ⟨reservedAll, "USD", eq_ok_okOr (by decide) _⟩

theorem fillable_reservedOrder {fill : FillReceived} (hid : fill.intentId = "buy")
    (hevent : reservedState.eventFingerprints.get? fill.eventId = none)
    (hquantity : fill.quantity.val ≤ 20000038) (hprice : fill.price.val ≤ 27000)
    (hfee : fill.fee = Money.zero "USD") : Fillable reservedState reservedOrder fill where
  get := by rw [hid]; exact (Option.some_get _).symm
  side := by decide
  state := .inl (by decide)
  position_open p hp := by
    have hnone : (reservedState.positions.get? reservedOrder.key).isNone = true := by decide
    rw [hp] at hnone
    cases hnone
  event_new := hevent
  fill_new := by
    have hempty : reservedOrder.fillFingerprints.entries = [] := by decide
    exact Dict.get?_eq_none.mpr fun v => by simp [hempty]
  quantity_le := hquantity.trans (by decide)
  price_le := hprice.trans (by decide)
  fee_currency := by rw [hfee]; decide
  fee_le := by rw [hfee]; decide

end Sample

/-- The fill of the whole order is accepted. -/
theorem buyFill_accepted_wholeFill :
    ∃ s', applyEvent .utc Sample.reservedState (.fillReceived Sample.wholeFill) = .ok s' :=
  (buyFill_accepted_iff .utc Sample.reachable_reservedState
    (Sample.fillable_reservedOrder rfl (by decide) (by decide) (by decide)
      rfl) ⟨by decide, by decide, by decide⟩).mpr (.inr (by decide))

/-- The fill of half the order is refused. -/
theorem buyFill_refused_halfFill : Reachable .utc Sample.reservedState ∧
    Fillable Sample.reservedState Sample.reservedOrder Sample.halfFill ∧
    Representable Sample.reservedState Sample.reservedOrder Sample.halfFill ∧
    ¬ ∃ s', applyEvent .utc Sample.reservedState (.fillReceived Sample.halfFill) = .ok s' := by
  refine ⟨Sample.reachable_reservedState, Sample.fillable_reservedOrder rfl (by decide)
    (by decide) (by decide) rfl, ⟨by decide, by decide,
    by decide⟩, ?_⟩
  rintro ⟨s', h⟩
  have hok : (applyEvent .utc Sample.reservedState (.fillReceived Sample.halfFill)).isOk = false := by
    decide
  rw [h] at hok
  cases hok

end WeatherBot.Ledger
