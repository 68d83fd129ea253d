import WeatherBot.Domain.Invariants

/-!
# What one event does

`Step` lists what an accepted event can do to a ledger, with the amounts of every
change. Invariants are proved by its cases, without going back to the reducers.

* `step_of_reduce`: a reducer that returns makes a `Step`.
* `applyEvent_eq_ok`: an event is a repeat, or a reducer's result that passes the
  checks.
* `BuyFill`, `SellFill`, `Settlement`: the three operations with rounding.
-/

namespace WeatherBot.Domain

open WeatherBot.Common

/-! ## Keys -/

/-- Orders and positions are filed under their own identifiers. -/
structure LedgerState.WellKeyed (s : LedgerState) : Prop where
  order : ∀ {intentId o}, s.orders.get? intentId = some o → o.intent.intentId = intentId
  position : ∀ {k p}, s.positions.get? k = some p → p.key = k

theorem LedgerState.Invariants.wellKeyed {s : LedgerState} (h : s.Invariants) : s.WellKeyed where
  order ho := (h.order ho).key.symm
  position hp := (h.position hp).key.symm

/-- The position a fill adds to has the order's key. -/
theorem LedgerState.WellKeyed.positionOrEmpty_key {s : LedgerState} (h : s.WellKeyed)
    (order : OrderAggregate) : (positionOrEmpty s order).key = order.key := by
  unfold positionOrEmpty
  cases hp : s.positions.get? order.key with
  | none => rfl
  | some p => exact h.position hp

/-! ## Fills -/

/-- What a fill does to its order, apart from the reservation. -/
structure OrderFilled (rt : Runtime) (fill : FillReceived) (order order' : OrderAggregate) : Prop where
  intent : order'.intent = order.intent
  state : order'.state =
    if order'.filledQuantity = order.intent.quantity then .filled else .partiallyFilled
  allowed : order'.state ∈ allowedTransitions order.state
  filled : order'.filledQuantity.val = order.filledQuantity + fill.quantity
  filled_le : order'.filledQuantity.val ≤ order.intent.quantity.val
  grossValue : order'.grossValue.amount.val =
    order.grossValue.amount + roundedProduct fill.price fill.quantity
  grossValue_currency : order'.grossValue.currency = order.grossValue.currency
  fees : order'.fees.amount.val = order.fees.amount + fill.fee.amount
  fees_currency : order'.fees.currency = order.fees.currency
  backendOrderId : order'.backendOrderId = order.backendOrderId
  terminalReason : order'.terminalReason = order.terminalReason
  unknownReason : order'.unknownReason = none
  fillFingerprints : order'.fillFingerprints =
    order.fillFingerprints.insert fill.fillId (fill.deliveryFingerprint rt)

/-- The reservation that a BUY order keeps after a fill. -/
def keptReservation (order order' : OrderAggregate) : ℤ :=
  if order'.state = .filled then 0
  else roundedProduct order.intent.limitPrice (order.intent.quantity - order'.filledQuantity) +
    (order.intent.feeReserve.amount - order'.fees.amount)

/-- What a BUY fill does: cash becomes cost, and the reservation is computed anew. -/
structure BuyFill (rt : Runtime) (s : LedgerState) (fill : FillReceived)
    (order order' : OrderAggregate) (p' : Position) (cash reservedCash : Money) : Prop where
  get : s.orders.get? fill.intentId = some order
  new : order.fillFingerprints.get? fill.fillId = none
  side : order.intent.side = .buy
  filled : OrderFilled rt fill order order'
  price_le : fill.price.val ≤ order.intent.limitPrice.val
  fee_le : fill.fee.amount.val ≤ order.intent.feeReserve.amount - order.fees.amount
  fee_currency : fill.fee.currency = s.currency
  kept : order'.reservedCash.amount.val = keptReservation order order'
  kept_currency : order'.reservedCash.currency = s.currency
  reservedQuantity : order'.reservedQuantity = order.reservedQuantity
  position : p' = { positionOrEmpty s order with
    quantity := p'.quantity, costBasis := p'.costBasis }
  position_open : (positionOrEmpty s order).status = .open
  quantity : p'.quantity.val = (positionOrEmpty s order).quantity + fill.quantity
  costBasis : p'.costBasis.amount.val = (positionOrEmpty s order).costBasis.amount +
    (roundedProduct fill.price fill.quantity + fill.fee.amount)
  costBasis_currency : p'.costBasis.currency = (positionOrEmpty s order).costBasis.currency
  cash_eq : cash.amount.val =
    s.cash.amount - (roundedProduct fill.price fill.quantity + fill.fee.amount)
  cash_currency : cash.currency = s.cash.currency
  reservedCash_eq : reservedCash.amount.val =
    s.reservedCash.amount - order.reservedCash.amount + order'.reservedCash.amount
  reservedCash_currency : reservedCash.currency = s.reservedCash.currency

/-- The state after a BUY fill. -/
def afterBuyFill (s : LedgerState) (order' : OrderAggregate) (p' : Position)
    (cash reservedCash : Money) : LedgerState :=
  replaceOrder (replacePosition { s with cash, reservedCash } p') order'

/-- What a SELL fill does: the allocated cost and the net proceeds leave the position. -/
structure SellFill (rt : Runtime) (s : LedgerState) (fill : FillReceived)
    (order order' : OrderAggregate) (p p' : Position) (cash net allocated : Money) : Prop where
  get : s.orders.get? fill.intentId = some order
  new : order.fillFingerprints.get? fill.fillId = none
  side : order.intent.side = .sell
  filled : OrderFilled rt fill order order'
  position : s.positions.get? order.key = some p
  position_open : p.status = .open
  enough : fill.quantity.val ≤ p.quantity.val
  net_eq : net.amount.val = roundedProduct fill.price fill.quantity - fill.fee.amount
  net_nonneg : 0 ≤ net.amount.val
  allocated_eq : allocatedCost p fill.quantity = .ok allocated
  position' : p' = { p with
    quantity := p'.quantity
    reservedQuantity := p'.reservedQuantity
    costBasis := p'.costBasis
    realizedPnl := p'.realizedPnl }
  quantity : p'.quantity.val = p.quantity - fill.quantity
  reserved : p'.reservedQuantity.val =
    p.reservedQuantity.val - order.reservedQuantity.val + order'.reservedQuantity.val
  order_reserved : order'.reservedQuantity.val =
    if order'.state = .filled then 0 else order.reservedQuantity.val - fill.quantity.val
  order_reservedCash : order'.reservedCash = order.reservedCash
  costBasis : p'.costBasis.amount.val = p.costBasis.amount - allocated.amount
  costBasis_currency :
    p'.costBasis.currency = s.currency ∨ p'.costBasis.currency = p.costBasis.currency
  realizedPnl : p'.realizedPnl.amount.val = p.realizedPnl.amount + net.amount - allocated.amount
  cash_eq : cash.amount.val = s.cash.amount + net.amount
  cash_currency : cash.currency = s.cash.currency

/-- The state after a SELL fill or a settlement. -/
def afterSale (s : LedgerState) (p' : Position) (cash : Money) : LedgerState :=
  replacePosition { s with cash } p'

/-! ## Settlement -/

/-- What a settlement does: the payout replaces the cost. -/
structure Settlement (s : LedgerState) (event : PositionSettled) (p p' : Position)
    (cash net : Money) : Prop where
  position : s.positions.get? (event.marketId, event.outcomeId) = some p
  position_open : p.status = .open
  quantity_pos : 0 < p.quantity.val
  reserved : p.reservedQuantity.val = 0
  position' : p' = { p with
    quantity := Micros.zero
    reservedQuantity := Micros.zero
    costBasis := Money.zero s.currency
    realizedPnl := p'.realizedPnl
    status := .settled
    settlementPayout := p'.settlementPayout }
  net_nonneg : 0 ≤ net.amount.val
  realizedPnl : p'.realizedPnl.amount.val = p.realizedPnl.amount + net.amount - p.costBasis.amount
  cash_eq : cash.amount.val = s.cash.amount + net.amount
  cash_currency : cash.currency = s.cash.currency

/-! ## Steps -/

/-- What an accepted event does to a ledger. -/
inductive Step (rt : Runtime) (s : LedgerState) : LedgerEvent → LedgerState → Prop
  /-- A repeated delivery, a risk scope or a valuation. -/
  | unchanged (event : LedgerEvent) (hstarted : s.opened = true ∨ s.HasFinancialState) :
      Step rt s event s
  | opened (e : AccountOpened) (hclosed : s.opened = false)
      (hcurrency : e.initialCash.currency = s.currency) :
      Step rt s (.accountOpened e) { s with opened := true, cash := e.initialCash }
  | buyIntent (e : OrderIntentCreated) (order : OrderAggregate) (reservedCash : Money)
      (hnew : s.orders.get? e.intent.intentId = none) (hside : e.intent.side = .buy)
      (hcurrency : e.intent.feeReserve.currency = s.currency)
      (horder : OrderAggregate.new e.intent = .ok order)
      (havailable : order.reservedCash.amount.val ≤ s.cash.amount - s.reservedCash.amount)
      (hreserved : reservedCash.amount.val = s.reservedCash.amount + order.reservedCash.amount)
      (hreservedCurrency : reservedCash.currency = s.reservedCash.currency) :
      Step rt s (.orderIntentCreated e) (replaceOrder { s with reservedCash } order)
  | sellIntent (e : OrderIntentCreated) (order : OrderAggregate) (p : Position)
      (reservedQuantity : Micros)
      (hnew : s.orders.get? e.intent.intentId = none) (hside : e.intent.side = .sell)
      (hcurrency : e.intent.feeReserve.currency = s.currency)
      (horder : OrderAggregate.new e.intent = .ok order)
      (hposition : s.positions.get? e.intent.key = some p) (hopen : p.status = .open)
      (havailable : e.intent.quantity.val ≤ p.quantity - p.reservedQuantity)
      (hreserved : reservedQuantity.val = p.reservedQuantity + e.intent.quantity) :
      Step rt s (.orderIntentCreated e)
        (replaceOrder (replacePosition s { p with reservedQuantity }) order)
  /-- Submitted, acknowledged or unknown. -/
  | moved (event : LedgerEvent) (intentId : String) (order : OrderAggregate) (target : OrderState)
      (backendOrderId unknownReason : Option String)
      (hget : s.orders.get? intentId = some order)
      (htarget : target = .submitted ∨ target = .acknowledged ∨ target = .unknown)
      (hallowed : target ∈ allowedTransitions order.state) :
      Step rt s event
        (replaceOrder s { order with state := target, backendOrderId, unknownReason })
  /-- A BUY order rejected or cancelled. -/
  | closedBuy (event : LedgerEvent) (intentId : String) (order : OrderAggregate)
      (target : OrderState) (reason : String) (reservedCash : Money)
      (hget : s.orders.get? intentId = some order) (hside : order.intent.side = .buy)
      (htarget : target = .rejected ∨ target = .cancelled)
      (hallowed : target ∈ allowedTransitions order.state)
      (hreserved : reservedCash.amount.val = s.reservedCash.amount - order.reservedCash.amount)
      (hreservedCurrency : reservedCash.currency = s.reservedCash.currency) :
      Step rt s event (replaceOrder { s with reservedCash } { order with
        reservedCash := Money.zero s.currency
        state := target
        terminalReason := some reason
        unknownReason := none })
  /-- A SELL order rejected or cancelled. -/
  | closedSell (event : LedgerEvent) (intentId : String) (order : OrderAggregate)
      (target : OrderState) (reason : String) (p : Position) (reservedQuantity : Micros)
      (hget : s.orders.get? intentId = some order) (hside : order.intent.side = .sell)
      (htarget : target = .rejected ∨ target = .cancelled)
      (hallowed : target ∈ allowedTransitions order.state)
      (hposition : s.positions.get? order.key = some p)
      (hreserved : reservedQuantity.val = p.reservedQuantity - order.reservedQuantity) :
      Step rt s event (replaceOrder (replacePosition s { p with reservedQuantity }) { order with
        reservedQuantity := Micros.zero
        state := target
        terminalReason := some reason
        unknownReason := none })
  | buyFill (fill : FillReceived) (order order' : OrderAggregate) (p' : Position)
      (cash reservedCash : Money) (h : BuyFill rt s fill order order' p' cash reservedCash) :
      Step rt s (.fillReceived fill) (afterBuyFill s order' p' cash reservedCash)
  | sellFill (fill : FillReceived) (order order' : OrderAggregate) (p p' : Position)
      (cash net allocated : Money) (h : SellFill rt s fill order order' p p' cash net allocated) :
      Step rt s (.fillReceived fill) (replaceOrder (afterSale s p' cash) order')
  /-- An observation, resolution evidence or a resolution recorded. -/
  | recorded (event : LedgerEvent) (resolutions : Dict String MarketResolution)
      (resolutionEvidence : Dict String MarketResolutionEvidence)
      (weatherObservations : Dict String (List WeatherObservationEvidence))
      (hsome : resolutions.entries ≠ [] ∨ resolutionEvidence.entries ≠ [] ∨
        weatherObservations.entries ≠ []) :
      Step rt s event { s with resolutions, resolutionEvidence, weatherObservations }
  | settled (e : PositionSettled) (p p' : Position) (cash net : Money)
      (h : Settlement s e p p' cash net) :
      Step rt s (.positionSettled e) (afterSale s p' cash)

/-! ## Keys of the positions -/

theorem BuyFill.key_eq {rt : Runtime} {s : LedgerState} {fill : FillReceived}
    {order order' : OrderAggregate} {p' : Position} {cash reservedCash : Money}
    (hkeyed : s.WellKeyed) (h : BuyFill rt s fill order order' p' cash reservedCash) :
    p'.key = order.key := by
  rw [h.position]
  exact hkeyed.positionOrEmpty_key order

theorem SellFill.key_eq {rt : Runtime} {s : LedgerState} {fill : FillReceived}
    {order order' : OrderAggregate} {p p' : Position} {cash net allocated : Money}
    (hkeyed : s.WellKeyed) (h : SellFill rt s fill order order' p p' cash net allocated) :
    p'.key = order.key := by
  have hkey : p'.key = p.key := by rw [h.position']; rfl
  rw [hkey, hkeyed.position h.position]

theorem Settlement.key_eq {s : LedgerState} {event : PositionSettled} {p p' : Position}
    {cash net : Money} (hkeyed : s.WellKeyed) (h : Settlement s event p p' cash net) :
    p'.key = (event.marketId, event.outcomeId) := by
  have hkey : p'.key = p.key := by rw [h.position']; rfl
  rw [hkey, hkeyed.position h.position]

/-! ## Lookups -/

theorem orderOf_eq_ok {s : LedgerState} {intentId : String} {o : OrderAggregate} :
    orderOf s intentId = .ok o ↔ s.orders.get? intentId = some o := by
  unfold orderOf
  cases s.orders.get? intentId with
  | none => simp
  | some o' => simp

theorem positionOf_eq_ok {s : LedgerState} {k : String × String} {p : Position} :
    positionOf s k = .ok p ↔ s.positions.get? k = some p := by
  unfold positionOf
  cases s.positions.get? k with
  | none => simp
  | some p' => simp

theorem requireOpened_eq_ok {s : LedgerState} {u : Unit} :
    requireOpened s = .ok u ↔ s.opened = true := by
  rw [requireOpened, raiseIf_eq_ok, Bool.not_eq_false]

/-- A ledger with an order has financial state. -/
theorem hasFinancialState_of_order {s : LedgerState} {intentId : String} {o : OrderAggregate}
    (h : s.orders.get? intentId = some o) : s.HasFinancialState :=
  .inr (.inr (.inl (Dict.entries_ne_nil_of_get? h)))

/-! ## New orders -/

/-- The fields of a new order. -/
theorem OrderAggregate.new_eq_ok {i : OrderIntent} {o : OrderAggregate}
    (h : OrderAggregate.new i = .ok o) :
    o.intent = i ∧ o.state = .created ∧ o.filledQuantity = Micros.zero ∧
      o.grossValue = Money.zero i.feeReserve.currency ∧ o.fees = Money.zero i.feeReserve.currency ∧
      o.fillFingerprints = Dict.empty ∧ i.cashReservation = .ok o.reservedCash ∧
      o.reservedQuantity = if i.side = .sell then i.quantity else Micros.zero := by
  obtain ⟨r, hr, h⟩ := bind_eq_ok.mp h
  cases h
  exact ⟨rfl, rfl, rfl, rfl, rfl, rfl, hr, rfl⟩

/-- A new BUY order takes a reservation and leaves the positions alone. -/
theorem applyIntentCreated_buy {s next : LedgerState} {e : OrderIntentCreated}
    (hnew : s.orders.get? e.intent.intentId = none) (hside : e.intent.side = .buy)
    (h : applyIntentCreated s e = .ok next) :
    ∃ (order : OrderAggregate) (reservedCash : Money), OrderAggregate.new e.intent = .ok order ∧
      order.reservedCash.amount.val ≤ s.cash.amount - s.reservedCash.amount ∧
      reservedCash.amount.val = s.reservedCash.amount.val + order.reservedCash.amount.val ∧
      reservedCash.currency = s.reservedCash.currency ∧
      next = replaceOrder { s with reservedCash } order := by
  obtain ⟨-, h⟩ := check_bind_eq_ok.mp h
  simp only [hnew] at h
  obtain ⟨-, h⟩ := raiseIf_bind_eq_ok.mp h
  obtain ⟨order, horder, h⟩ := bind_eq_ok.mp h
  obtain ⟨s₁, hreserve, h⟩ := bind_eq_ok.mp h
  cases h
  unfold reserveOrder at hreserve
  rw [(OrderAggregate.new_eq_ok horder).1, hside] at hreserve
  obtain ⟨available, havail, hreserve⟩ := bind_eq_ok.mp hreserve
  obtain ⟨hle, hreserve⟩ := raiseIf_bind_eq_ok.mp hreserve
  obtain ⟨reserved, hres, hreserve⟩ := bind_eq_ok.mp hreserve
  cases hreserve
  obtain ⟨-, havail, -⟩ := Money.sub_eq_ok.mp havail
  obtain ⟨-, hres, hresCur⟩ := Money.add_eq_ok.mp hres
  exact ⟨order, reserved, horder, by omega, hres, hresCur, rfl⟩

theorem step_of_intentCreated {rt : Runtime} {s next : LedgerState} {e : OrderIntentCreated}
    (hcreated : applyIntentCreated s e = .ok next) : Step rt s (.orderIntentCreated e) next := by
  obtain ⟨hopened, h⟩ := check_bind_eq_ok.mp hcreated
  cases hget : s.orders.get? e.intent.intentId with
  | some existing =>
    simp only [hget] at h
    split_ifs at h
    cases h
    exact .unchanged _ (.inl (requireOpened_eq_ok.mp hopened))
  | none =>
    simp only [hget] at h
    obtain ⟨hcur, h⟩ := raiseIf_bind_eq_ok.mp h
    rw [not_not] at hcur
    cases hside : e.intent.side with
    | buy =>
      obtain ⟨order, reserved, horder, hle, hres, hresCur, rfl⟩ :=
        applyIntentCreated_buy hget hside hcreated
      exact .buyIntent e order reserved hget hside hcur horder hle hres hresCur
    | sell =>
      obtain ⟨order, horder, h⟩ := bind_eq_ok.mp h
      obtain ⟨s₁, hreserve, h⟩ := bind_eq_ok.mp h
      cases h
      have hintent := (OrderAggregate.new_eq_ok horder).1
      unfold reserveOrder at hreserve
      rw [hintent, hside] at hreserve
      obtain ⟨p, hp, hreserve⟩ := bind_eq_ok.mp hreserve
      obtain ⟨hopen, hreserve⟩ := raiseIf_bind_eq_ok.mp hreserve
      obtain ⟨available, havail, hreserve⟩ := bind_eq_ok.mp hreserve
      obtain ⟨hle, hreserve⟩ := raiseIf_bind_eq_ok.mp hreserve
      obtain ⟨reserved, hres, hreserve⟩ := bind_eq_ok.mp hreserve
      cases hreserve
      rw [positionOf_eq_ok, OrderAggregate.key, hintent] at hp
      rw [Position.availableQuantity, quantize_eq_ok] at havail
      rw [quantize_eq_ok] at hres
      exact .sellIntent e order p reserved hget hside hcur horder hp (not_not.mp hopen) (by omega) hres

/-! ## Moves -/

theorem step_of_submitted {rt : Runtime} {s next : LedgerState} {e : OrderSubmitted}
    (h : applySubmitted s e = .ok next) : Step rt s (.orderSubmitted e) next := by
  obtain ⟨order, hget, h⟩ := bind_eq_ok.mp h
  obtain ⟨hallowed, h⟩ := check_bind_eq_ok.mp h
  obtain ⟨-, h⟩ := raiseIf_bind_eq_ok.mp h
  cases h
  exact .moved _ e.intentId order .submitted (some e.backendOrderId) order.unknownReason
    (orderOf_eq_ok.mp hget) (.inl rfl) (requireTransition_eq_ok.mp hallowed)

theorem step_of_acknowledged {rt : Runtime} {s next : LedgerState} {e : OrderAcknowledged}
    (h : applyAcknowledged s e = .ok next) : Step rt s (.orderAcknowledged e) next := by
  obtain ⟨order, hget, h⟩ := bind_eq_ok.mp h
  obtain ⟨hallowed, h⟩ := check_bind_eq_ok.mp h
  cases h
  exact .moved _ e.intentId order .acknowledged order.backendOrderId none
    (orderOf_eq_ok.mp hget) (.inr (.inl rfl)) (requireTransition_eq_ok.mp hallowed)

theorem step_of_unknown {rt : Runtime} {s next : LedgerState} {e : OrderOutcomeUnknown}
    (h : applyUnknown s e = .ok next) : Step rt s (.orderOutcomeUnknown e) next := by
  obtain ⟨order, hget, h⟩ := bind_eq_ok.mp h
  obtain ⟨hallowed, h⟩ := check_bind_eq_ok.mp h
  cases h
  exact .moved _ e.intentId order .unknown order.backendOrderId (some e.reason)
    (orderOf_eq_ok.mp hget) (.inr (.inr rfl)) (requireTransition_eq_ok.mp hallowed)

/-- What releasing an order's reservation does. -/
theorem releaseReservations_eq_ok {s s' : LedgerState} {o o' : OrderAggregate}
    (h : releaseReservations s o = .ok (s', o')) :
    (o.intent.side = .buy ∧ ∃ reservedCash : Money,
      reservedCash.amount.val = s.reservedCash.amount - o.reservedCash.amount ∧
      reservedCash.currency = s.reservedCash.currency ∧ s' = { s with reservedCash } ∧
      o' = { o with reservedCash := Money.zero s.currency }) ∨
    (o.intent.side = .sell ∧ ∃ (p : Position) (reservedQuantity : Micros),
      s.positions.get? o.key = some p ∧
      reservedQuantity.val = p.reservedQuantity - o.reservedQuantity ∧
      s' = replacePosition s { p with reservedQuantity } ∧
      o' = { o with reservedQuantity := Micros.zero }) := by
  unfold releaseReservations at h
  cases hside : o.intent.side with
  | buy =>
    rw [hside] at h
    obtain ⟨r, hr, h⟩ := bind_eq_ok.mp h
    obtain ⟨-, hr, hc⟩ := Money.sub_eq_ok.mp hr
    cases h
    exact .inl ⟨rfl, r, hr, hc, rfl, rfl⟩
  | sell =>
    rw [hside] at h
    obtain ⟨p, hp, h⟩ := bind_eq_ok.mp h
    obtain ⟨-, h⟩ := raiseIf_bind_eq_ok.mp h
    obtain ⟨r, hr, h⟩ := bind_eq_ok.mp h
    cases h
    exact .inr ⟨rfl, p, r, positionOf_eq_ok.mp hp, quantize_eq_ok.mp hr, rfl, rfl⟩

theorem step_of_terminal {rt : Runtime} {s next : LedgerState} {event : LedgerEvent}
    {intentId reason : String} {target : OrderState}
    (htarget : target = .rejected ∨ target = .cancelled)
    (h : applyTerminal s intentId target reason = .ok next) : Step rt s event next := by
  obtain ⟨order, hget, h⟩ := bind_eq_ok.mp h
  obtain ⟨hallowed, h⟩ := check_bind_eq_ok.mp h
  obtain ⟨⟨s₁, o₁⟩, hrelease, h⟩ := bind_eq_ok.mp h
  cases h
  have hget := orderOf_eq_ok.mp hget
  have hallowed := requireTransition_eq_ok.mp hallowed
  rcases releaseReservations_eq_ok hrelease with
    ⟨hside, r, hr, hc, rfl, rfl⟩ | ⟨hside, p, r, hp, hr, rfl, rfl⟩
  · exact .closedBuy event intentId order target reason r hget hside htarget hallowed hr hc
  · exact .closedSell event intentId order target reason p r hget hside htarget hallowed hp hr

/-! ## Fills -/

/-- What a BUY fill computes before it is recorded. -/
theorem applyBuyFill_eq_ok {s s' : LedgerState} {o o' : OrderAggregate} {fill : FillReceived}
    {gross : Money} (h : applyBuyFill s o fill gross = .ok (s', o')) :
    ∃ (cash reservedCash reservation costBasis : Money) (quantity : Micros),
      fill.price.val ≤ o.intent.limitPrice.val ∧
      fill.fee.amount.val ≤ o.intent.feeReserve.amount - o.fees.amount ∧
      reservation.amount.val =
        roundedProduct o.intent.limitPrice (o.intent.quantity - o.filledQuantity - fill.quantity) +
          (o.intent.feeReserve.amount - o.fees.amount - fill.fee.amount) ∧
      reservation.currency = s.currency ∧
      cash.amount.val = s.cash.amount - (gross.amount + fill.fee.amount) ∧
      cash.currency = s.cash.currency ∧
      reservedCash.amount.val =
        s.reservedCash.amount - o.reservedCash.amount + reservation.amount ∧
      reservedCash.currency = s.reservedCash.currency ∧
      (positionOrEmpty s o).status = .open ∧
      quantity.val = (positionOrEmpty s o).quantity + fill.quantity ∧
      costBasis.amount.val =
        (positionOrEmpty s o).costBasis.amount + (gross.amount + fill.fee.amount) ∧
      costBasis.currency = (positionOrEmpty s o).costBasis.currency ∧
      s' = replacePosition { s with cash, reservedCash }
        { positionOrEmpty s o with quantity, costBasis } ∧
      o' = { o with reservedCash := reservation } := by
  obtain ⟨reservation, hreservation, h⟩ := bind_eq_ok.mp h
  obtain ⟨release, hrelease, h⟩ := bind_eq_ok.mp h
  obtain ⟨debit, hdebit, h⟩ := bind_eq_ok.mp h
  obtain ⟨-, h⟩ := raiseIf_bind_eq_ok.mp h
  obtain ⟨cash, hcash, h⟩ := bind_eq_ok.mp h
  obtain ⟨reservedCash, hreserved, h⟩ := bind_eq_ok.mp h
  obtain ⟨hopen, h⟩ := raiseIf_bind_eq_ok.mp h
  obtain ⟨quantity, hquantity, h⟩ := bind_eq_ok.mp h
  obtain ⟨costBasis, hcost, h⟩ := bind_eq_ok.mp h
  cases h
  -- the reservation that is left
  obtain ⟨hprice, hres⟩ := raiseIf_bind_eq_ok.mp hreservation
  obtain ⟨rest, hrest, hres⟩ := bind_eq_ok.mp hres
  obtain ⟨hfee, hres⟩ := raiseIf_bind_eq_ok.mp hres
  obtain ⟨remaining, hremaining, hres⟩ := bind_eq_ok.mp hres
  obtain ⟨left, hleft, hres⟩ := bind_eq_ok.mp hres
  obtain ⟨notional, hnotional, hres⟩ := bind_eq_ok.mp hres
  obtain ⟨feeReserve, hfeeReserve, hres⟩ := bind_eq_ok.mp hres
  obtain ⟨sum, hsum, hres⟩ := bind_eq_ok.mp hres
  obtain ⟨-, hres⟩ := raiseIf_bind_eq_ok.mp hres
  cases hres
  obtain ⟨-, hrest, -⟩ := Money.sub_eq_ok.mp hrest
  rw [OrderAggregate.remainingQuantity, quantize_eq_ok] at hremaining
  rw [quantize_eq_ok, hremaining] at hleft
  rw [moneyFromUnitPrice_eq_ok, hleft] at hnotional
  obtain ⟨-, hfeeReserve, -⟩ := Money.sub_eq_ok.mp hfeeReserve
  obtain ⟨-, hsum, hsumCur⟩ := Money.add_eq_ok.mp hsum
  obtain ⟨-, hrelease, -⟩ := Money.sub_eq_ok.mp hrelease
  obtain ⟨-, hdebit, -⟩ := Money.add_eq_ok.mp hdebit
  obtain ⟨-, hcash, hcashCur⟩ := Money.sub_eq_ok.mp hcash
  obtain ⟨-, hreserved, hreservedCur⟩ := Money.sub_eq_ok.mp hreserved
  obtain ⟨-, hcost, hcostCur⟩ := Money.add_eq_ok.mp hcost
  rw [quantize_eq_ok] at hquantity
  refine ⟨cash, reservedCash, reservation, costBasis, quantity, not_lt.mp hprice, ?_, ?_,
    hsumCur.trans hnotional.2, ?_, hcashCur, ?_, hreservedCur, not_not.mp hopen, hquantity, ?_,
    hcostCur, rfl, rfl⟩
  · rw [not_lt, hrest] at hfee
    exact hfee
  · rw [hsum, hnotional.1, hfeeReserve, hrest]
  · rw [hcash, hdebit]
  · rw [hreserved, hrelease]
    ring
  · rw [hcost, hdebit]

/-- What a SELL fill computes before it is recorded. -/
theorem applySellFill_eq_ok {s s' : LedgerState} {o o' : OrderAggregate} {fill : FillReceived}
    {gross : Money} (h : applySellFill s o fill gross = .ok (s', o')) :
    ∃ (p : Position) (cash net allocated costBasis realizedPnl : Money)
      (quantity reservedQuantity orderReserved : Micros),
      s.positions.get? o.key = some p ∧ p.status = .open ∧ fill.quantity.val ≤ p.quantity.val ∧
      net.amount.val = gross.amount - fill.fee.amount ∧ 0 ≤ net.amount.val ∧
      allocatedCost p fill.quantity = .ok allocated ∧
      quantity.val = p.quantity - fill.quantity ∧
      reservedQuantity.val = p.reservedQuantity - fill.quantity ∧
      costBasis.amount.val = p.costBasis.amount - allocated.amount ∧
      (costBasis.currency = s.currency ∨ costBasis.currency = p.costBasis.currency) ∧
      realizedPnl.amount.val = p.realizedPnl.amount + net.amount - allocated.amount ∧
      orderReserved.val = o.reservedQuantity - fill.quantity ∧
      cash.amount.val = s.cash.amount + net.amount ∧ cash.currency = s.cash.currency ∧
      s' = afterSale s { p with quantity, reservedQuantity, costBasis, realizedPnl } cash ∧
      o' = { o with reservedQuantity := orderReserved } := by
  obtain ⟨-, h⟩ := raiseIf_bind_eq_ok.mp h
  obtain ⟨p, hp, h⟩ := bind_eq_ok.mp h
  obtain ⟨hopen, h⟩ := raiseIf_bind_eq_ok.mp h
  obtain ⟨hq, h⟩ := raiseIf_bind_eq_ok.mp h
  obtain ⟨-, h⟩ := raiseIf_bind_eq_ok.mp h
  obtain ⟨-, h⟩ := raiseIf_bind_eq_ok.mp h
  obtain ⟨hfee, h⟩ := raiseIf_bind_eq_ok.mp h
  obtain ⟨net, hnet, h⟩ := bind_eq_ok.mp h
  obtain ⟨allocated, halloc, h⟩ := bind_eq_ok.mp h
  obtain ⟨quantity, hquantity, h⟩ := bind_eq_ok.mp h
  obtain ⟨reservedQuantity, hreserved, h⟩ := bind_eq_ok.mp h
  obtain ⟨costBasis, hcost, h⟩ := bind_eq_ok.mp h
  obtain ⟨proceeds, hproceeds, h⟩ := bind_eq_ok.mp h
  obtain ⟨realizedPnl, hpnl, h⟩ := bind_eq_ok.mp h
  obtain ⟨orderReserved, horder, h⟩ := bind_eq_ok.mp h
  obtain ⟨cash, hcash, h⟩ := bind_eq_ok.mp h
  cases h
  obtain ⟨-, hnet, -⟩ := Money.sub_eq_ok.mp hnet
  obtain ⟨-, hproceeds, -⟩ := Money.add_eq_ok.mp hproceeds
  obtain ⟨-, hpnl, -⟩ := Money.sub_eq_ok.mp hpnl
  obtain ⟨-, hcash, hcashCur⟩ := Money.add_eq_ok.mp hcash
  rw [quantize_eq_ok] at hquantity hreserved horder
  have hcost' : costBasis.amount.val = p.costBasis.amount - allocated.amount ∧
      (costBasis.currency = s.currency ∨ costBasis.currency = p.costBasis.currency) := by
    unfold remainingCost at hcost
    by_cases hzero : quantity.val = 0
    · -- the whole position is sold, so its whole cost is allocated
      rw [if_pos hzero] at hcost
      cases hcost
      have hall : fill.quantity = p.quantity := Micros.ext (by omega)
      rw [allocatedCost, if_pos hall] at halloc
      cases halloc
      exact ⟨by simp, .inl rfl⟩
    · rw [if_neg hzero] at hcost
      obtain ⟨-, hcost, hcostCur⟩ := Money.sub_eq_ok.mp hcost
      exact ⟨hcost, .inr hcostCur⟩
  refine ⟨p, cash, net, allocated, costBasis, realizedPnl, quantity, reservedQuantity,
    orderReserved, positionOf_eq_ok.mp hp, not_not.mp hopen, not_lt.mp hq, hnet, ?_, halloc,
    hquantity, hreserved, hcost'.1, hcost'.2, ?_, horder, hcash, hcashCur, rfl, rfl⟩
  · omega
  · rw [hpnl, hproceeds]

/-- What recording a fill does. -/
theorem recordFill_eq_ok {rt : Runtime} {s next : LedgerState} {o : OrderAggregate}
    {fill : FillReceived} {target : OrderState} {filledQuantity : Micros} {gross : Money}
    (h : recordFill rt s o fill target filledQuantity gross = .ok next) :
    ∃ grossValue fees : Money,
      grossValue.amount.val = o.grossValue.amount + gross.amount ∧
      grossValue.currency = o.grossValue.currency ∧
      fees.amount.val = o.fees.amount + fill.fee.amount ∧ fees.currency = o.fees.currency ∧
      if target = .filled then
        ∃ s₁ o₁,
          releaseReservations s (o.withFill rt fill target filledQuantity grossValue fees) =
            .ok (s₁, o₁) ∧
          next = replaceOrder s₁ o₁
      else next = replaceOrder s (o.withFill rt fill target filledQuantity grossValue fees) := by
  obtain ⟨grossValue, hgross, h⟩ := bind_eq_ok.mp h
  obtain ⟨fees, hfees, h⟩ := bind_eq_ok.mp h
  obtain ⟨-, hgross, hgrossCur⟩ := Money.add_eq_ok.mp hgross
  obtain ⟨-, hfees, hfeesCur⟩ := Money.add_eq_ok.mp hfees
  refine ⟨grossValue, fees, hgross, hgrossCur, hfees, hfeesCur, ?_⟩
  by_cases ht : target = .filled
  · rw [if_pos ht] at h ⊢
    obtain ⟨⟨s₁, o₁⟩, hrelease, h⟩ := bind_eq_ok.mp h
    cases h
    exact ⟨s₁, o₁, hrelease, rfl⟩
  · rw [if_neg ht] at h ⊢
    cases h
    rfl

/-- A BUY fill that is accepted. -/
theorem step_of_buyFill {rt : Runtime} {s next : LedgerState} {o : OrderAggregate}
    {fill : FillReceived} (hget : s.orders.get? fill.intentId = some o)
    (hnew : o.fillFingerprints.get? fill.fillId = none) (hside : o.intent.side = .buy)
    (h : applyNewFill rt s o fill = .ok next) :
    ∃ o' p' cash reservedCash, BuyFill rt s fill o o' p' cash reservedCash ∧
      next = afterBuyFill s o' p' cash reservedCash := by
  obtain ⟨filled, hfilled, h⟩ := bind_eq_ok.mp h
  obtain ⟨hle, h⟩ := raiseIf_bind_eq_ok.mp h
  obtain ⟨hallowed, h⟩ := check_bind_eq_ok.mp h
  obtain ⟨hfeeCur, h⟩ := raiseIf_bind_eq_ok.mp h
  obtain ⟨gross, hgross, h⟩ := bind_eq_ok.mp h
  obtain ⟨⟨s₁, o₁⟩, hbuy, h⟩ := bind_eq_ok.mp h
  rw [applySideFill, hside] at hbuy
  obtain ⟨cash, reservedCash, reservation, costBasis, quantity, hprice, hfee, hres, hresCur, hcash,
    hcashCur, hreserved, hreservedCur, hopen, hquantity, hcost, hcostCur, rfl, rfl⟩ :=
    applyBuyFill_eq_ok hbuy
  obtain ⟨grossValue, fees, hgrossVal, hgrossCur, hfees, hfeesCur, hnext⟩ := recordFill_eq_ok h
  rw [quantize_eq_ok] at hfilled
  rw [moneyFromUnitPrice_eq_ok] at hgross
  rw [requireTransition_eq_ok] at hallowed
  rw [hgross.1] at hgrossVal
  have hremaining : o.intent.quantity.val - o.filledQuantity.val - fill.quantity.val =
      o.intent.quantity.val - filled.val := by omega
  rw [hremaining] at hres
  by_cases ht : fillTarget o filled = .filled
  · -- the completing fill releases what the order still reserves
    rw [if_pos ht] at hnext
    obtain ⟨s₂, o₂, hrelease, rfl⟩ := hnext
    obtain ⟨-, r, hr, hrCur, rfl, rfl⟩ | ⟨hsell, -⟩ := releaseReservations_eq_ok hrelease
    · refine ⟨_, { positionOrEmpty s o with quantity, costBasis }, cash, r, ?_, rfl⟩
      have hr : r.amount.val = reservedCash.amount.val - reservation.amount.val := hr
      exact {
        get := hget
        new := hnew
        side := hside
        filled := ⟨rfl, rfl, hallowed, hfilled, not_lt.mp hle, hgrossVal,
          hgrossCur, hfees, hfeesCur, rfl, rfl, rfl, rfl⟩
        price_le := hprice
        fee_le := hfee
        fee_currency := not_not.mp hfeeCur
        kept := (if_pos ht).symm
        kept_currency := rfl
        reservedQuantity := rfl
        position := rfl
        position_open := hopen
        quantity := hquantity
        costBasis := by rw [hcost, hgross.1]
        costBasis_currency := hcostCur
        cash_eq := by rw [hcash, hgross.1]
        cash_currency := hcashCur
        reservedCash_eq := by rw [hr, hreserved]; simp
        reservedCash_currency := hrCur.trans hreservedCur }
    · exact absurd (hside.symm.trans hsell) (by decide)
  · rw [if_neg ht] at hnext
    subst hnext
    have hkept : reservation.amount.val =
        if fillTarget o filled = .filled then 0
        else roundedProduct o.intent.limitPrice (o.intent.quantity - filled) +
          (o.intent.feeReserve.amount - fees.amount) := by
      rw [if_neg ht, hfees, ← sub_sub]
      exact hres
    refine ⟨_, { positionOrEmpty s o with quantity, costBasis }, cash, reservedCash, ?_, rfl⟩
    exact {
      get := hget
      new := hnew
      side := hside
      filled := ⟨rfl, rfl, hallowed, hfilled, not_lt.mp hle, hgrossVal,
        hgrossCur, hfees, hfeesCur, rfl, rfl, rfl, rfl⟩
      price_le := hprice
      fee_le := hfee
      fee_currency := not_not.mp hfeeCur
      kept := hkept
      kept_currency := hresCur
      reservedQuantity := rfl
      position := rfl
      position_open := hopen
      quantity := hquantity
      costBasis := by rw [hcost, hgross.1]
      costBasis_currency := hcostCur
      cash_eq := by rw [hcash, hgross.1]
      cash_currency := hcashCur
      reservedCash_eq := hreserved
      reservedCash_currency := hreservedCur }

/-- A SELL fill that is accepted. -/
theorem step_of_sellFill {rt : Runtime} {s next : LedgerState} {o : OrderAggregate}
    {fill : FillReceived} (hkeyed : s.WellKeyed) (hget : s.orders.get? fill.intentId = some o)
    (hnew : o.fillFingerprints.get? fill.fillId = none) (hside : o.intent.side = .sell)
    (h : applyNewFill rt s o fill = .ok next) :
    ∃ o' p p' cash net allocated, SellFill rt s fill o o' p p' cash net allocated ∧
      next = replaceOrder (afterSale s p' cash) o' := by
  obtain ⟨filled, hfilled, h⟩ := bind_eq_ok.mp h
  obtain ⟨hle, h⟩ := raiseIf_bind_eq_ok.mp h
  obtain ⟨hallowed, h⟩ := check_bind_eq_ok.mp h
  obtain ⟨-, h⟩ := raiseIf_bind_eq_ok.mp h
  obtain ⟨gross, hgross, h⟩ := bind_eq_ok.mp h
  obtain ⟨⟨s₁, o₁⟩, hsell, h⟩ := bind_eq_ok.mp h
  rw [applySideFill, hside] at hsell
  obtain ⟨p, cash, net, allocated, costBasis, realizedPnl, quantity, reservedQuantity, orderReserved,
    hp, hopen, hq, hnet, hnet0, halloc, hquantity, hreserved, hcost, hcostCur, hpnl, horder, hcash,
    hcashCur, rfl, rfl⟩ := applySellFill_eq_ok hsell
  obtain ⟨grossValue, fees, hgrossVal, hgrossCur, hfees, hfeesCur, hnext⟩ := recordFill_eq_ok h
  rw [quantize_eq_ok] at hfilled
  rw [moneyFromUnitPrice_eq_ok] at hgross
  rw [requireTransition_eq_ok] at hallowed
  rw [hgross.1] at hgrossVal
  by_cases ht : fillTarget o filled = .filled
  · rw [if_pos ht] at hnext
    obtain ⟨s₂, o₂, hrelease, rfl⟩ := hnext
    obtain ⟨hbuy, -⟩ | ⟨-, p₁, r, hp₁, hr, rfl, rfl⟩ := releaseReservations_eq_ok hrelease
    · exact absurd (hside.symm.trans hbuy) (by decide)
    · -- the position released is the one just replaced
      have hkey : p.key = o.key := hkeyed.position hp
      let sold : Position := { p with quantity, reservedQuantity, costBasis, realizedPnl }
      have hp₁ : (s.positions.insert p.key sold).get? o.key = some p₁ := hp₁
      rw [← hkey, Dict.get?_insert_self, Option.some.injEq] at hp₁
      subst hp₁
      have hr : r.val = reservedQuantity.val - orderReserved.val := hr
      refine ⟨{ OrderAggregate.withFill rt { o with reservedQuantity := orderReserved } fill
          (fillTarget o filled) filled grossValue fees with reservedQuantity := Micros.zero }, p,
        { p with quantity, reservedQuantity := r, costBasis, realizedPnl }, cash, net, allocated,
        ?_, ?_⟩
      · exact {
          get := hget
          new := hnew
          side := hside
          filled := ⟨rfl, rfl, hallowed, hfilled, not_lt.mp hle, hgrossVal,
            hgrossCur, hfees, hfeesCur, rfl, rfl, rfl, rfl⟩
          position := hp
          position_open := hopen
          enough := hq
          net_eq := by rw [hnet, hgross.1]
          net_nonneg := hnet0
          allocated_eq := halloc
          position' := rfl
          quantity := hquantity
          reserved := by
            show r.val = p.reservedQuantity.val - o.reservedQuantity.val + 0
            omega
          order_reserved := (if_pos ht).symm
          order_reservedCash := rfl
          costBasis := hcost
          costBasis_currency := hcostCur
          realizedPnl := hpnl
          cash_eq := hcash
          cash_currency := hcashCur }
      · unfold afterSale replaceOrder replacePosition
        simp only [Position.key, Dict.insert_insert, sold]
  · rw [if_neg ht] at hnext
    subst hnext
    refine ⟨_, p, { p with quantity, reservedQuantity, costBasis, realizedPnl }, cash, net,
      allocated, ?_, rfl⟩
    exact {
      get := hget
      new := hnew
      side := hside
      filled := ⟨rfl, rfl, hallowed, hfilled, not_lt.mp hle, hgrossVal,
        hgrossCur, hfees, hfeesCur, rfl, rfl, rfl, rfl⟩
      position := hp
      position_open := hopen
      enough := hq
      net_eq := by rw [hnet, hgross.1]
      net_nonneg := hnet0
      allocated_eq := halloc
      position' := rfl
      quantity := hquantity
      reserved := by
        show reservedQuantity.val =
          p.reservedQuantity.val - o.reservedQuantity.val + orderReserved.val
        omega
      order_reserved := horder.trans (if_neg ht).symm
      order_reservedCash := rfl
      costBasis := hcost
      costBasis_currency := hcostCur
      realizedPnl := hpnl
      cash_eq := hcash
      cash_currency := hcashCur }

theorem step_of_fill {rt : Runtime} {s next : LedgerState} {fill : FillReceived}
    (hkeyed : s.WellKeyed) (h : applyFill rt s fill = .ok next) :
    Step rt s (.fillReceived fill) next := by
  obtain ⟨o, hget, h⟩ := bind_eq_ok.mp h
  have hget := orderOf_eq_ok.mp hget
  cases hfp : o.fillFingerprints.get? fill.fillId with
  | some existing =>
    simp only [hfp] at h
    split_ifs at h
    cases h
    exact .unchanged _ (.inr (hasFinancialState_of_order hget))
  | none =>
    simp only [hfp] at h
    cases hside : o.intent.side with
    | buy =>
      obtain ⟨o', p', cash, reservedCash, hfill, rfl⟩ := step_of_buyFill hget hfp hside h
      exact .buyFill fill o o' p' cash reservedCash hfill
    | sell =>
      obtain ⟨o', p, p', cash, net, allocated, hfill, rfl⟩ := step_of_sellFill hkeyed hget hfp hside h
      exact .sellFill fill o o' p p' cash net allocated hfill

/-! ## Records and settlement -/

theorem step_of_weatherObservation {rt : Runtime} {s next : LedgerState}
    {e : WeatherObservationRecorded} (h : applyWeatherObservation s e = .ok next) :
    Step rt s (.weatherObservationRecorded e) next := by
  obtain ⟨hopened, h⟩ := check_bind_eq_ok.mp h
  dsimp only at h
  split at h
  · split_ifs at h
    cases h
    exact .unchanged _ (.inl (requireOpened_eq_ok.mp hopened))
  · obtain ⟨-, h⟩ := check_bind_eq_ok.mp h
    cases h
    exact .recorded _ s.resolutions s.resolutionEvidence _
      (.inr (.inr (Dict.entries_insert_ne_nil _ _ _)))

theorem step_of_resolutionEvidence {rt : Runtime} {s next : LedgerState}
    {e : MarketResolutionEvidenceRecorded} (h : applyResolutionEvidence s e = .ok next) :
    Step rt s (.marketResolutionEvidenceRecorded e) next := by
  obtain ⟨hopened, h⟩ := check_bind_eq_ok.mp h
  dsimp only at h
  split at h
  · split_ifs at h
    cases h
    exact .unchanged _ (.inl (requireOpened_eq_ok.mp hopened))
  · obtain ⟨-, h⟩ := raiseIf_bind_eq_ok.mp h
    cases h
    exact .recorded _ s.resolutions _ s.weatherObservations
      (.inr (.inl (Dict.entries_insert_ne_nil _ _ _)))

theorem step_of_resolution {rt : Runtime} {s next : LedgerState} {e : MarketResolved}
    (h : applyResolution s e = .ok next) : Step rt s (.marketResolved e) next := by
  obtain ⟨-, h⟩ := raiseIf_bind_eq_ok.mp h
  split at h
  next existing hget =>
    split_ifs at h
    cases h
    exact .unchanged _ (.inr (.inr (.inr (.inr (.inr (.inl (Dict.entries_ne_nil_of_get? hget)))))))
  · cases h
    exact .recorded _ _ s.resolutionEvidence s.weatherObservations
      (.inl (Dict.entries_insert_ne_nil _ _ _))

/-- A settlement that is accepted. -/
theorem applySettlement_eq_ok {s next : LedgerState} {e : PositionSettled}
    (h : applySettlement s e = .ok next) :
    ∃ p p' cash net, Settlement s e p p' cash net ∧ next = afterSale s p' cash := by
  obtain ⟨p, hp, h⟩ := bind_eq_ok.mp h
  obtain ⟨hopen, h⟩ := raiseIf_bind_eq_ok.mp h
  obtain ⟨hreserved, h⟩ := raiseIf_bind_eq_ok.mp h
  obtain ⟨resolution, -, h⟩ := bind_eq_ok.mp h
  obtain ⟨-, h⟩ := raiseIf_bind_eq_ok.mp h
  obtain ⟨payout, -, h⟩ := bind_eq_ok.mp h
  obtain ⟨gross, -, h⟩ := bind_eq_ok.mp h
  obtain ⟨hfee, h⟩ := raiseIf_bind_eq_ok.mp h
  obtain ⟨net, hnet, h⟩ := bind_eq_ok.mp h
  obtain ⟨proceeds, hproceeds, h⟩ := bind_eq_ok.mp h
  obtain ⟨realizedPnl, hpnl, h⟩ := bind_eq_ok.mp h
  obtain ⟨cash, hcash, h⟩ := bind_eq_ok.mp h
  cases h
  rw [not_or, not_not, not_le] at hopen
  obtain ⟨-, hnet, -⟩ := Money.sub_eq_ok.mp hnet
  obtain ⟨-, hproceeds, -⟩ := Money.add_eq_ok.mp hproceeds
  obtain ⟨-, hpnl, -⟩ := Money.sub_eq_ok.mp hpnl
  obtain ⟨-, hcash, hcashCur⟩ := Money.add_eq_ok.mp hcash
  refine ⟨p, _, cash, net, ?_, rfl⟩
  exact {
    position := positionOf_eq_ok.mp hp
    position_open := hopen.1
    quantity_pos := hopen.2
    reserved := not_not.mp hreserved
    position' := rfl
    net_nonneg := by omega
    realizedPnl := by rw [hpnl, hproceeds]
    cash_eq := hcash
    cash_currency := hcashCur }

theorem step_of_settlement {rt : Runtime} {s next : LedgerState} {e : PositionSettled}
    (h : applySettlement s e = .ok next) : Step rt s (.positionSettled e) next := by
  obtain ⟨p, p', cash, net, hsettled, rfl⟩ := applySettlement_eq_ok h
  exact .settled e p p' cash net hsettled

/-! ## Every event -/

/-- **A reducer that returns makes a step.** -/
theorem step_of_reduce {rt : Runtime} {s next : LedgerState} {event : LedgerEvent}
    (hkeyed : s.WellKeyed) (h : reduce rt s event = .ok next) : Step rt s event next := by
  cases event with
  | accountOpened e =>
    obtain ⟨hclosed, h⟩ := raiseIf_bind_eq_ok.mp h
    obtain ⟨hcur, h⟩ := raiseIf_bind_eq_ok.mp h
    cases h
    exact .opened e (Bool.not_eq_true _ ▸ hclosed) (not_not.mp hcur)
  | orderIntentCreated e => exact step_of_intentCreated h
  | orderSubmitted e => exact step_of_submitted h
  | orderAcknowledged e => exact step_of_acknowledged h
  | fillReceived e => exact step_of_fill hkeyed h
  | orderRejected e => exact step_of_terminal (.inl rfl) h
  | orderCancelled e => exact step_of_terminal (.inr rfl) h
  | orderOutcomeUnknown e => exact step_of_unknown h
  | weatherObservationRecorded e => exact step_of_weatherObservation h
  | marketResolutionEvidenceRecorded e => exact step_of_resolutionEvidence h
  | marketResolved e => exact step_of_resolution h
  | positionSettled e => exact step_of_settlement h
  | riskScopeRegistered e =>
    obtain ⟨hopened, h⟩ := check_bind_eq_ok.mp h
    cases h
    exact .unchanged _ (.inl (requireOpened_eq_ok.mp hopened))
  | portfolioValuationRecorded e =>
    obtain ⟨hopened, h⟩ := check_bind_eq_ok.mp h
    obtain ⟨-, h⟩ := raiseIf_bind_eq_ok.mp h
    obtain ⟨-, h⟩ := raiseIf_bind_eq_ok.mp h
    obtain ⟨total, -, h⟩ := bind_eq_ok.mp h
    obtain ⟨equity, -, h⟩ := bind_eq_ok.mp h
    obtain ⟨-, h⟩ := raiseIf_bind_eq_ok.mp h
    cases h
    exact .unchanged _ (.inl (requireOpened_eq_ok.mp hopened))

/-- An accepted event is a repeat, or its reducer's result passes the checks. -/
theorem applyEvent_eq_ok {rt : Runtime} {s s' : LedgerState} {event : LedgerEvent} :
    applyEvent rt s event = .ok s' ↔
      (s.eventFingerprints.get? event.eventId = some (fingerprint rt event.canonical) ∧ s' = s) ∨
      (s.eventFingerprints.get? event.eventId = none ∧
        ∃ next, reduce rt s event = .ok next ∧
          s' = recordEvent next event.eventId (fingerprint rt event.canonical) ∧ s'.Invariants) := by
  unfold applyEvent
  cases hfp : s.eventFingerprints.get? event.eventId with
  | some existing =>
    by_cases he : existing = fingerprint rt event.canonical
    · subst he
      simp [eq_comm]
    · simp [he]
  | none =>
    constructor
    · intro h
      obtain ⟨next, hnext, h⟩ := bind_eq_ok.mp h
      obtain ⟨hinv, h⟩ := check_bind_eq_ok.mp h
      cases h
      exact .inr ⟨rfl, next, hnext, rfl, LedgerState.assertInvariants_eq_ok.mp hinv⟩
    · rintro (⟨h, -⟩ | ⟨-, next, hnext, rfl, hinv⟩)
      · cases h
      · exact bind_eq_ok.mpr ⟨next, hnext, check_bind_eq_ok.mpr
          ⟨LedgerState.assertInvariants_eq_ok.mpr hinv, rfl⟩⟩

end WeatherBot.Domain
