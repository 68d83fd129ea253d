import WeatherBot.Ledger.CostBasis
import WeatherBot.Risk.PortfolioPolicy

/-!
# What one event does to the exposure

* `netExposure`: the exposure less one millionth for each BUY fill, the slack of
  recomputed reservations.
* `netExposure_step`: **only a new BUY order adds to it**.
* `Narrows`: only a new BUY order exposes a key.
-/

namespace WeatherBot.Risk

open WeatherBot.Common
open WeatherBot.Domain
open WeatherBot.Ledger

section

variable (P : String × String → Prop) [DecidablePred P]

/-- The fills of a BUY order for a key with the property. -/
def orderFills (_ : String) (order : OrderAggregate) : ℤ :=
  if P order.key ∧ order.intent.side = .buy then order.fillFingerprints.entries.length else 0

/-- The BUY fills of the keys with a property. -/
def fillCount (s : LedgerState) : ℤ := Dict.sumBy (orderFills P) s.orders

/-- What an order adds to the net exposure. -/
def orderNet (intentId : String) (order : OrderAggregate) : ℤ :=
  orderExposure P intentId order - orderFills P intentId order

/-- The exposure of the keys with a property, less a millionth for each BUY fill. -/
def netExposure (s : LedgerState) : ℤ := exposureOf s P - fillCount P s

/-- What the position of a key adds to the exposure. -/
def exposureAt (s : LedgerState) (key : String × String) : ℤ :=
  ((s.positions.get? key).map (positionExposure P key)).getD 0

variable {P}

theorem netExposure_eq (s : LedgerState) :
    netExposure P s = Dict.sumBy (positionExposure P) s.positions + Dict.sumBy (orderNet P) s.orders := by
  rw [netExposure, exposureOf, fillCount, add_sub_assoc, ← Dict.sumBy_sub]
  rfl

theorem netExposure_congr {s t : LedgerState} (horders : t.orders = s.orders)
    (hpositions : t.positions = s.positions) : netExposure P t = netExposure P s := by
  rw [netExposure_eq, netExposure_eq, horders, hpositions]

theorem netExposure_replaceOrder {s : LedgerState} {o o' : OrderAggregate}
    (h : s.orders.get? o'.intent.intentId = some o) :
    netExposure P (replaceOrder s o') = netExposure P s - orderNet P o'.intent.intentId o +
      orderNet P o'.intent.intentId o' := by
  rw [netExposure_eq, netExposure_eq, replaceOrder, Dict.sumBy_insert_of_some _ h]
  dsimp only
  omega

theorem netExposure_newOrder {s : LedgerState} {o : OrderAggregate}
    (h : s.orders.get? o.intent.intentId = none) :
    netExposure P (replaceOrder s o) = netExposure P s + orderNet P o.intent.intentId o := by
  rw [netExposure_eq, netExposure_eq, replaceOrder, Dict.sumBy_insert_of_none _ h]
  dsimp only
  omega

theorem netExposure_replacePosition (s : LedgerState) (p : Position) :
    netExposure P (replacePosition s p) =
      netExposure P s - exposureAt P s p.key + positionExposure P p.key p := by
  rw [netExposure_eq, netExposure_eq, replacePosition, exposureAt, Dict.sumBy_insert]
  dsimp only
  omega

theorem exposureAt_eq {s : LedgerState} {key : String × String} {p : Position}
    (h : s.positions.get? key = some p) : exposureAt P s key = positionExposure P key p := by
  rw [exposureAt, h]
  rfl

/-- The reserved quantity does not matter. -/
theorem netExposure_reservedQuantity {s : LedgerState} {key : String × String} {p : Position}
    (hs : s.WellKeyed) (h : s.positions.get? key = some p) (q : Micros) :
    netExposure P (replacePosition s { p with reservedQuantity := q }) = netExposure P s := by
  have hkey : p.key = key := hs.position h
  have hsame : positionExposure P key { p with reservedQuantity := q } = positionExposure P key p := rfl
  rw [netExposure_replacePosition]
  show netExposure P s - exposureAt P s p.key + positionExposure P p.key _ = _
  rw [hkey, exposureAt_eq h, hsame]
  omega

theorem orderNet_of_not {intentId : String} {o : OrderAggregate} (h : ¬ P o.key) :
    orderNet P intentId o = 0 := by
  rw [orderNet, orderExposure, orderFills, if_neg (fun hl => h hl.1), if_neg (fun hl => h hl.1),
    sub_zero]

/-- A BUY order for a key with the property. -/
theorem orderNet_buy {intentId : String} {o : OrderAggregate} (hP : P o.key)
    (hside : o.intent.side = .buy) :
    orderNet P intentId o =
      (if o.Live then o.reservedCash.amount.val else 0) - o.fillFingerprints.entries.length := by
  have hfills : orderFills P intentId o = o.fillFingerprints.entries.length := if_pos ⟨hP, hside⟩
  rw [orderNet, hfills, orderExposure]
  by_cases hlive : o.Live
  · rw [if_pos hlive, if_pos ⟨hP, hside, hlive⟩]
  · rw [if_neg hlive, if_neg (fun hl => hlive hl.2.2)]

/-- A SELL order adds nothing. -/
theorem orderNet_sell {intentId : String} {o : OrderAggregate} (h : o.intent.side = .sell) :
    orderNet P intentId o = 0 := by
  have hlive : ¬ LiveBuy o := fun hl => by
    rw [LiveBuy, h] at hl
    cases hl.1
  have hbuy : ¬ (P o.key ∧ o.intent.side = .buy) := fun hb => by
    rw [h] at hb
    cases hb.2
  rw [orderNet, orderExposure, orderFills, if_neg (fun hl => hlive hl.2), if_neg hbuy, sub_zero]

/-- A live order whose state moves on reserves as much. -/
theorem orderNet_moved {intentId : String} {o o' : OrderAggregate} (hintent : o'.intent = o.intent)
    (hlive : o.Live) (hlive' : o'.Live) (hreserved : o'.reservedCash = o.reservedCash)
    (hfills : o'.fillFingerprints = o.fillFingerprints) :
    orderNet P intentId o' = orderNet P intentId o := by
  have hkey : o'.key = o.key := by rw [OrderAggregate.key, hintent]; rfl
  have hbuy : LiveBuy o' ↔ LiveBuy o := by
    rw [LiveBuy, LiveBuy, hintent]
    exact and_congr_right fun _ => iff_of_true hlive' hlive
  rw [orderNet, orderNet, orderExposure, orderExposure, orderFills, orderFills, hkey, hintent,
    hreserved, hfills]
  simp only [hbuy]

/-- A BUY order that is closed reserves nothing. -/
theorem orderNet_closed {intentId : String} {o o' : OrderAggregate} (hintent : o'.intent = o.intent)
    (hclosed : o'.state.isTerminal = true) (hreserved : 0 ≤ o.reservedCash.amount.val)
    (hfills : o'.fillFingerprints = o.fillFingerprints) :
    orderNet P intentId o' ≤ orderNet P intentId o := by
  have hkey : o'.key = o.key := by rw [OrderAggregate.key, hintent]; rfl
  have hdead : ¬ LiveBuy o' := fun hl => by
    rw [LiveBuy, hclosed] at hl
    cases hl.2
  rw [orderNet, orderNet, orderExposure, orderExposure, orderFills, orderFills, hkey, hintent, hfills,
    if_neg (fun hl => hdead hl.2)]
  split_ifs <;> omega

/-! ## The fills -/

theorem length_entries_insert {K V : Type} [DecidableEq K] {d : Dict K V} {k : K} {v : V}
    (h : d.get? k = none) : (d.insert k v).entries.length = d.entries.length + 1 := by
  have hkeys := congrArg List.length (Dict.keys_assocSet d.entries k v)
  rw [if_neg, List.length_append, List.length_map, List.length_map] at hkeys
  · exact hkeys
  · intro hmem
    obtain ⟨w, hw⟩ := Dict.mem_keys.mp hmem
    rw [h] at hw
    cases hw

variable {rt : Runtime} {s : LedgerState}

/-- A BUY fill costs at most what it takes from the reservation, and one millionth. -/
theorem cost_le_of_buyFill {fill : FillReceived} {o o' : OrderAggregate} {p' : Position}
    {cash reservedCash : Money} (hs : s.Invariants)
    (h : BuyFill rt s fill o o' p' cash reservedCash) :
    roundedProduct fill.price fill.quantity + fill.fee.amount.val + o'.reservedCash.amount.val ≤
      o.reservedCash.amount.val + 1 := by
  have ho := hs.order h.get
  have hlive := not_isTerminal_of_mem_allowedTransitions h.filled.allowed
  have hreserved := ho.buy_live h.side hlive
  have hgross0 := roundedProduct_nonneg fill.price_range.1.le fill.quantity_pos.le
  have hfees := (ho.buy h.side).2
  have hfee0 := fill.fee_nonneg
  have hquantity := fill.quantity_pos
  have hgross : Fits (roundedProduct fill.price fill.quantity) := by
    have hsum := h.filled.grossValue
    have h0 := ho.grossValue.2
    exact LedgerState.fits_of_le (a := o'.grossValue.amount) hgross0 (by omega)
  have hfilled := h.filled.filled
  have hle := h.filled.filled_le
  have hwhole0 : 0 ≤ roundedProduct o.intent.limitPrice (o.intent.quantity - o.filledQuantity) :=
    roundedProduct_nonneg o.intent.limitPrice_range.1.le (by omega)
  have hwhole : Fits (roundedProduct o.intent.limitPrice (o.intent.quantity - o.filledQuantity)) :=
    LedgerState.fits_of_le (a := o.reservedCash.amount) hwhole0 (by omega)
  have hkept := h.kept
  rw [keptReservation] at hkept
  have hfee := h.fee_le
  by_cases hstate : o'.state = .filled
  · -- the whole remaining quantity, at a price that is no higher
    rw [if_pos hstate] at hkept
    have hall : o'.filledQuantity = o.intent.quantity := by
      have hstate' := h.filled.state
      rw [hstate] at hstate'
      by_contra hne
      rw [if_neg hne] at hstate'
      cases hstate'
    have hrest : (o.intent.quantity - o.filledQuantity : ℤ) = fill.quantity := by
      rw [hall] at hfilled
      omega
    rw [hrest] at hreserved
    have hmono : roundedProduct fill.price fill.quantity ≤
        roundedProduct o.intent.limitPrice fill.quantity :=
      roundedProduct_mono fill.price_range.1.le hquantity.le h.price_le le_rfl
    omega
  · rw [if_neg hstate] at hkept
    have hleft : (o.intent.quantity - o'.filledQuantity : ℤ) =
        o.intent.quantity - o.filledQuantity - fill.quantity := by omega
    have hfees' := h.filled.fees
    rw [hleft] at hkept
    have hleft0 : 0 ≤ roundedProduct o.intent.limitPrice
        (o.intent.quantity - o.filledQuantity - fill.quantity) :=
      roundedProduct_nonneg o.intent.limitPrice_range.1.le (by omega)
    have hrest : Fits (roundedProduct o.intent.limitPrice
        (o.intent.quantity - o.filledQuantity - fill.quantity)) :=
      LedgerState.fits_of_le (a := o'.reservedCash.amount) hleft0 (by omega)
    have hsplit := roundedProduct_split (r := o.intent.quantity - o.filledQuantity)
      fill.price_range.1.le h.price_le hquantity.le (by omega) hgross hrest hwhole
    omega

/-- The position that a BUY fill adds to cost what it is counted for. -/
theorem exposureAt_positionOrEmpty (hflat : FlatCost s) (hs : s.Invariants) (o : OrderAggregate)
    (hopen : (positionOrEmpty s o).status = .open) :
    exposureAt P s o.key = if P o.key then (positionOrEmpty s o).costBasis.amount.val else 0 := by
  rw [exposureAt, positionOrEmpty]
  rw [positionOrEmpty] at hopen
  cases hp : s.positions.get? o.key with
  | none => split_ifs <;> rfl
  | some p =>
    rw [hp] at hopen
    have hquantity := (hs.position hp).quantity
    have hcost : p.quantity.val = 0 → p.costBasis.amount.val = 0 :=
      hflat _ (Dict.get?_eq_some.mp hp)
    show positionExposure P o.key p = if P o.key then p.costBasis.amount.val else 0
    rw [positionExposure]
    by_cases hP : P o.key
    · rw [if_pos hP]
      by_cases hpos : 0 < p.quantity.val
      · rw [if_pos ⟨hP, hopen, hpos⟩]
      · rw [if_neg (fun h => hpos h.2.2), hcost (by omega)]
    · rw [if_neg hP, if_neg (fun h => hP h.1)]

theorem netExposure_buyFill {fill : FillReceived} {o o' : OrderAggregate} {p' : Position}
    {cash reservedCash : Money} (hs : s.Invariants) (hflat : FlatCost s)
    (h : BuyFill rt s fill o o' p' cash reservedCash) :
    netExposure P (afterBuyFill s o' p' cash reservedCash) ≤ netExposure P s := by
  have hlive := not_isTerminal_of_mem_allowedTransitions h.filled.allowed
  have hkey : p'.key = o.key := h.key_eq hs.wellKeyed
  have hintent := h.filled.intent
  have hkey' : o'.key = o.key := by rw [OrderAggregate.key, hintent]; rfl
  have hid : o'.intent.intentId = fill.intentId := by
    rw [hintent]
    exact hs.wellKeyed.order h.get
  have hget : (replacePosition { s with cash, reservedCash } p').orders.get? o'.intent.intentId =
      some o := by
    rw [hid]
    exact h.get
  have hbase : netExposure P { s with cash, reservedCash } = netExposure P s := netExposure_congr rfl rfl
  have hat : exposureAt P { s with cash, reservedCash } p'.key = exposureAt P s o.key := by
    rw [hkey]
    rfl
  rw [afterBuyFill, netExposure_replaceOrder hget, netExposure_replacePosition, hbase, hat,
    exposureAt_positionOrEmpty hflat hs o h.position_open, hkey]
  -- the position is open and holds what was filled
  have hopen : OpenPosition p' := by
    refine ⟨?_, ?_⟩
    · rw [h.position]
      exact h.position_open
    · have hquantity := h.quantity
      have hpos := fill.quantity_pos
      have hold : 0 ≤ (positionOrEmpty s o).quantity.val := by
        rw [positionOrEmpty]
        cases hp : s.positions.get? o.key with
        | none => exact le_rfl
        | some p => exact (hs.position hp).quantity
      omega
  have hcost := h.costBasis
  have hbound := cost_le_of_buyFill hs h
  have hkept0 : 0 ≤ roundedProduct fill.price fill.quantity + fill.fee.amount.val :=
    add_nonneg (roundedProduct_nonneg fill.price_range.1.le fill.quantity_pos.le) fill.fee_nonneg
  have hfills : (o'.fillFingerprints.entries.length : ℤ) = o.fillFingerprints.entries.length + 1 := by
    rw [h.filled.fillFingerprints, length_entries_insert h.new]
    push_cast
    rfl
  rw [positionExposure]
  by_cases hP : P o.key
  · have hside' : o'.intent.side = .buy := by
      rw [hintent]
      exact h.side
    have hreserved : 0 ≤ o'.reservedCash.amount.val := by
      rw [h.kept, keptReservation]
      split_ifs
      · exact le_rfl
      · have hfilled := h.filled.filled_le
        have hfee := h.fee_le
        have hfees := h.filled.fees
        refine add_nonneg (roundedProduct_nonneg o.intent.limitPrice_range.1.le ?_) ?_ <;> omega
    rw [orderNet_buy hP h.side, orderNet_buy (hkey'.symm ▸ hP) hside', if_pos hP, if_pos ⟨hP, hopen⟩,
      if_pos (show o.Live from hlive)]
    split_ifs <;> omega
  · rw [orderNet_of_not hP, orderNet_of_not (hkey'.symm ▸ hP), if_neg hP, if_neg (fun hl => hP hl.1)]
    omega

theorem netExposure_sellFill {fill : FillReceived} {o o' : OrderAggregate} {p p' : Position}
    {cash net allocated : Money} (hs : s.Invariants)
    (h : SellFill rt s fill o o' p p' cash net allocated) :
    netExposure P (replaceOrder (afterSale s p' cash) o') ≤ netExposure P s := by
  have hkey : p'.key = o.key := h.key_eq hs.wellKeyed
  have hid : o'.intent.intentId = fill.intentId := by
    rw [h.filled.intent]
    exact hs.wellKeyed.order h.get
  have hget : (afterSale s p' cash).orders.get? o'.intent.intentId = some o := by
    rw [hid]
    exact h.get
  have hside' : o'.intent.side = .sell := by
    rw [h.filled.intent]
    exact h.side
  have hbase : netExposure P { s with cash } = netExposure P s := netExposure_congr rfl rfl
  have hat : exposureAt P { s with cash } p'.key = positionExposure P o.key p := by
    rw [hkey]
    exact exposureAt_eq h.position
  rw [netExposure_replaceOrder hget, orderNet_sell h.side, orderNet_sell hside', afterSale,
    netExposure_replacePosition, hbase, hat, hkey]
  -- the allocated cost is not negative
  have hp := hs.position h.position
  obtain ⟨m, hm, -, hm0, -⟩ := allocatedCost_spec hp.costBasis fill.quantity_pos h.enough
  have hallocated : 0 ≤ allocated.amount.val := by
    cases h.allocated_eq.symm.trans hm
    exact hm0
  have hopen : OpenPosition p := ⟨h.position_open, fill.quantity_pos.trans_le h.enough⟩
  have hcost := h.costBasis
  have hcost0 := hp.costBasis
  rw [positionExposure, positionExposure]
  by_cases hP : P o.key
  · rw [if_pos ⟨hP, hopen⟩]
    split_ifs <;> omega
  · rw [if_neg (fun hl => hP hl.1), if_neg (fun hl => hP hl.1)]
    omega

/-! ## One event -/

/-- The event creates a BUY order. -/
def IsBuyIntent : LedgerEvent → Prop
  | .orderIntentCreated e => e.intent.side = .buy
  | _ => False

/-- An order is replaced by one that counts for no more. -/
theorem netExposure_replaceOrder_le {intentId : String} {o o' : OrderAggregate} (hs : s.Invariants)
    (hget : s.orders.get? intentId = some o) (hintent : o'.intent = o.intent)
    (hnet : orderNet P intentId o' ≤ orderNet P intentId o) :
    netExposure P (replaceOrder s o') ≤ netExposure P s := by
  have hid : o'.intent.intentId = intentId := by
    rw [hintent]
    exact hs.wellKeyed.order hget
  rw [netExposure_replaceOrder (hid.symm ▸ hget), hid]
  omega

/-- **What a step adds to the exposure, its BUY fill counts**, unless it creates a BUY order. -/
theorem netExposure_step {next : LedgerState} {event : LedgerEvent} (hs : s.Invariants)
    (hflat : FlatCost s) (hstep : Step rt s event next) (hevent : ¬ IsBuyIntent event) :
    netExposure P next ≤ netExposure P s := by
  cases hstep with
  | unchanged => exact le_rfl
  | opened e => exact (netExposure_congr rfl rfl).le
  | buyIntent e order reservedCash hnew hside => exact absurd hside hevent
  | sellIntent e order p reservedQuantity hnew hside hcurrency horder hposition =>
    obtain ⟨hintent, -⟩ := OrderAggregate.new_eq_ok horder
    have hget : (replacePosition s { p with reservedQuantity }).orders.get? order.intent.intentId =
        none := by
      rw [hintent]
      exact hnew
    have hsell : order.intent.side = .sell := by
      rw [hintent]
      exact hside
    rw [netExposure_newOrder hget, orderNet_sell hsell,
      netExposure_reservedQuantity hs.wellKeyed hposition]
    omega
  | moved event intentId order target backendOrderId unknownReason hget htarget hallowed =>
    have hlive' : target.isTerminal = false := by rcases htarget with rfl | rfl | rfl <;> rfl
    have hnet : orderNet P intentId { order with state := target, backendOrderId, unknownReason } =
        orderNet P intentId order :=
      orderNet_moved rfl (not_isTerminal_of_mem_allowedTransitions hallowed) hlive' rfl rfl
    exact netExposure_replaceOrder_le hs hget rfl hnet.le
  | closedBuy event intentId order target reason reservedCash hget hside htarget hallowed =>
    have hbase : netExposure P { s with reservedCash } = netExposure P s := netExposure_congr rfl rfl
    have hclosed : target.isTerminal = true := by rcases htarget with rfl | rfl <;> rfl
    have hid : order.intent.intentId = intentId := hs.wellKeyed.order hget
    rw [netExposure_replaceOrder (o := order) (hid.symm ▸ hget), hbase]
    have hnet : orderNet P order.intent.intentId { order with
        reservedCash := Money.zero s.currency
        state := target
        terminalReason := some reason
        unknownReason := none } ≤ orderNet P order.intent.intentId order :=
      orderNet_closed rfl hclosed (hs.order hget).reservedCash.2 rfl
    dsimp only at hnet ⊢
    omega
  | closedSell event intentId order target reason p reservedQuantity hget hside htarget hallowed
      hposition =>
    have hid : order.intent.intentId = intentId := hs.wellKeyed.order hget
    rw [netExposure_replaceOrder (o := order) (hid.symm ▸ hget), orderNet_sell hside,
      netExposure_reservedQuantity hs.wellKeyed hposition, orderNet_sell]
    · omega
    · exact hside
  | buyFill fill order order' p' cash reservedCash h => exact netExposure_buyFill hs hflat h
  | sellFill fill order order' p p' cash net allocated h => exact netExposure_sellFill hs h
  | recorded => exact (netExposure_congr rfl rfl).le
  | settled e p p' cash net h =>
    have hkey : p'.key = (e.marketId, e.outcomeId) := h.key_eq hs.wellKeyed
    have hbase : netExposure P { s with cash } = netExposure P s := netExposure_congr rfl rfl
    have hat : exposureAt P { s with cash } p'.key =
        positionExposure P (e.marketId, e.outcomeId) p := by
      rw [hkey]
      exact exposureAt_eq h.position
    have hclosed : ¬ OpenPosition p' := fun ho => by
      rw [OpenPosition, h.position'] at ho
      cases ho.1
    have hcost := (hs.position h.position).costBasis
    have hzero : positionExposure P p'.key p' = 0 := if_neg fun ho => hclosed ho.2
    rw [afterSale, netExposure_replacePosition, hbase, hat, hzero, positionExposure]
    split_ifs <;> omega

end

/-! ## Exposed keys -/

/-- No key is exposed that was not, and no live BUY order is new. -/
structure Narrows (s next : LedgerState) : Prop where
  orders : ∀ intentId o', next.orders.get? intentId = some o' → LiveBuy o' →
    ∃ o, s.orders.get? intentId = some o ∧ LiveBuy o ∧ o.key = o'.key
  positions : ∀ key p', next.positions.get? key = some p' → OpenPosition p' → key ∈ exposedKeys s

theorem Narrows.refl (s : LedgerState) : Narrows s s where
  orders := fun _ o ho hlive => ⟨o, ho, hlive, rfl⟩
  positions := fun _ p hp hopen => mem_exposedKeys.mpr (.inl ⟨p, hp, hopen⟩)

theorem Narrows.congr {s t next next' : LedgerState} (h : Narrows s next)
    (horders : next'.orders = next.orders) (hpositions : next'.positions = next.positions)
    (horders' : t.orders = s.orders) (hpositions' : t.positions = s.positions) : Narrows t next' where
  orders := by
    rw [horders, horders']
    exact h.orders
  positions := by
    rw [hpositions]
    intro key p hp hopen
    have hkey := h.positions key p hp hopen
    rw [mem_exposedKeys] at hkey ⊢
    rwa [horders', hpositions']

theorem Narrows.exposedKeys_subset {s next : LedgerState} (h : Narrows s next) :
    exposedKeys next ⊆ exposedKeys s := by
  intro key hkey
  obtain ⟨p', hp', hopen⟩ | ⟨intentId, o', ho', hlive, rfl⟩ := mem_exposedKeys.mp hkey
  · exact h.positions key p' hp' hopen
  · obtain ⟨o, ho, hlive', hkey'⟩ := h.orders intentId o' ho' hlive
    exact mem_exposedKeys.mpr (.inr ⟨intentId, o, ho, hlive', hkey'⟩)

/-- One order is replaced by one that is no live BUY, or one for the same key. -/
theorem Narrows.replaceOrder {s next : LedgerState} {o' : OrderAggregate} (h : Narrows s next)
    (horder : LiveBuy o' → ∃ o, s.orders.get? o'.intent.intentId = some o ∧ LiveBuy o ∧ o.key = o'.key) :
    Narrows s (replaceOrder next o') where
  orders := by
    intro intentId o'' ho'' hlive
    rw [Domain.replaceOrder, Dict.get?_insert] at ho''
    split_ifs at ho'' with heq
    · cases ho''
      rw [← heq]
      exact horder hlive
    · exact h.orders intentId o'' ho'' hlive
  positions := h.positions

/-- One position is replaced by one whose key was exposed if it is open. -/
theorem Narrows.replacePosition {s next : LedgerState} {p' : Position} (h : Narrows s next)
    (hposition : OpenPosition p' → p'.key ∈ exposedKeys s) : Narrows s (replacePosition next p') where
  orders := h.orders
  positions := by
    intro key p'' hp'' hopen
    rw [Domain.replacePosition, Dict.get?_insert] at hp''
    split_ifs at hp'' with heq
    · cases hp''
      rw [← heq]
      exact hposition hopen
    · exact h.positions key p'' hp'' hopen

variable {rt : Runtime} {s : LedgerState}

/-- **A step exposes no key and makes no BUY order live**, unless it creates one. -/
theorem narrows_of_step {next : LedgerState} {event : LedgerEvent} (hs : s.Invariants)
    (hstep : Step rt s event next) (hevent : ¬ IsBuyIntent event) : Narrows s next := by
  have hexposed : ∀ {key p}, s.positions.get? key = some p → OpenPosition p → key ∈ exposedKeys s :=
    fun hp hopen => mem_exposedKeys.mpr (.inl ⟨_, hp, hopen⟩)
  have hsell : ∀ {o : OrderAggregate}, o.intent.side = .sell → ¬ LiveBuy o := fun hside hlive => by
    rw [LiveBuy, hside] at hlive
    cases hlive.1
  cases hstep with
  | unchanged => exact .refl s
  | opened e => exact (Narrows.refl s).congr rfl rfl rfl rfl
  | buyIntent e order reservedCash hnew hside => exact absurd hside hevent
  | sellIntent e order p reservedQuantity hnew hside hcurrency horder hposition =>
    obtain ⟨hintent, -⟩ := OrderAggregate.new_eq_ok horder
    have hkey : p.key = e.intent.key := hs.wellKeyed.position hposition
    refine ((Narrows.refl s).replacePosition fun hopen => ?_).replaceOrder fun hlive => ?_
    · show p.key ∈ _
      rw [hkey]
      exact hexposed hposition hopen
    · rw [← hintent] at hside
      exact absurd hlive (hsell hside)
  | moved event intentId order target backendOrderId unknownReason hget htarget hallowed =>
    have hid : order.intent.intentId = intentId := hs.wellKeyed.order hget
    refine (Narrows.refl s).replaceOrder fun hlive => ⟨order, hid.symm ▸ hget, ⟨hlive.1, ?_⟩, rfl⟩
    exact not_isTerminal_of_mem_allowedTransitions hallowed
  | closedBuy event intentId order target reason reservedCash hget hside htarget hallowed =>
    have hbase : Narrows s { s with reservedCash } := (Narrows.refl s).congr rfl rfl rfl rfl
    have hclosed : target.isTerminal = true := by rcases htarget with rfl | rfl <;> rfl
    refine hbase.replaceOrder fun hlive => ?_
    cases hclosed.symm.trans hlive.2
  | closedSell event intentId order target reason p reservedQuantity hget hside htarget hallowed
      hposition =>
    have hkey : p.key = order.key := hs.wellKeyed.position hposition
    refine ((Narrows.refl s).replacePosition fun hopen => ?_).replaceOrder fun hlive => ?_
    · show p.key ∈ _
      rw [hkey]
      exact hexposed hposition hopen
    · exact absurd hlive (hsell hside)
  | buyFill fill order order' p' cash reservedCash h =>
    have hlive := not_isTerminal_of_mem_allowedTransitions h.filled.allowed
    have hid : order'.intent.intentId = fill.intentId := by
      rw [h.filled.intent]
      exact hs.wellKeyed.order h.get
    have hkey' : order'.key = order.key := by rw [OrderAggregate.key, h.filled.intent]; rfl
    have hbase : Narrows s { s with cash, reservedCash } := (Narrows.refl s).congr rfl rfl rfl rfl
    refine (hbase.replacePosition fun hopen => ?_).replaceOrder fun hlive' => ?_
    · rw [h.key_eq hs.wellKeyed]
      exact mem_exposedKeys.mpr (.inr ⟨_, order, h.get, ⟨h.side, hlive⟩, rfl⟩)
    · exact ⟨order, hid.symm ▸ h.get, ⟨h.side, hlive⟩, hkey'.symm⟩
  | sellFill fill order order' p p' cash net allocated h =>
    have hbase : Narrows s { s with cash } := (Narrows.refl s).congr rfl rfl rfl rfl
    refine (hbase.replacePosition fun hopen => ?_).replaceOrder fun hlive => ?_
    · rw [h.key_eq hs.wellKeyed]
      exact hexposed h.position ⟨h.position_open, fill.quantity_pos.trans_le h.enough⟩
    · have hside : order'.intent.side = .sell := by
        rw [h.filled.intent]
        exact h.side
      exact absurd hlive (hsell hside)
  | recorded => exact (Narrows.refl s).congr rfl rfl rfl rfl
  | settled e p p' cash net h =>
    have hbase : Narrows s { s with cash } := (Narrows.refl s).congr rfl rfl rfl rfl
    refine hbase.replacePosition fun hopen => ?_
    rw [OpenPosition, h.position'] at hopen
    cases hopen.1

end WeatherBot.Risk
