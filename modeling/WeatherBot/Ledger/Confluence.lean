import WeatherBot.Ledger.Run

/-!
# BUY fills in any order

A `View` of a ledger keeps what BUY fills change as numbers and functions, so that
the order of insertion into a dictionary is forgotten. On views a fill is a total
operation, `View.fill`, and fills commute: the new reservation of an order depends
on its totals only.

* `View.fill_comm`: two fills commute.
* `view_of_fill`: an accepted fill does on the view what `View.fill` does.
* `buyFills_confluent`: **two accepted orders of delivery lead to equal states.**
-/

namespace WeatherBot.Ledger

open WeatherBot.Common
open WeatherBot.Domain

variable {rt : Runtime}

/-! ## Views -/

/-- An order: what fills change, and a frame that they leave alone. -/
@[ext] structure OrderView where
  frame : OrderAggregate
  state : OrderState
  filled : ℤ
  gross : ℤ
  fees : ℤ
  reserved : ℤ
  reservedCurrency : String
  unknownReason : Option String
  fills : String → Option String

/-- A position: its size and its cost, and a frame. -/
@[ext] structure PositionView where
  frame : Position
  quantity : ℤ
  cost : ℤ

/-- A ledger: its amounts, its dictionaries as functions, and a frame. -/
@[ext] structure View where
  frame : LedgerState
  cash : ℤ
  reservedCash : ℤ
  orders : String → Option OrderView
  positions : String × String → Option PositionView
  events : String → Option String

/-- The view of an order. -/
def OrderView.of (o : OrderAggregate) : OrderView where
  frame := { o with
    state := .created
    filledQuantity := Micros.zero
    grossValue := Money.zero o.grossValue.currency
    fees := Money.zero o.fees.currency
    reservedCash := Money.zero ""
    unknownReason := none
    fillFingerprints := Dict.empty }
  state := o.state
  filled := o.filledQuantity
  gross := o.grossValue.amount
  fees := o.fees.amount
  reserved := o.reservedCash.amount
  reservedCurrency := o.reservedCash.currency
  unknownReason := o.unknownReason
  fills := o.fillFingerprints.get?

/-- The view of a position. -/
def PositionView.of (p : Position) : PositionView where
  frame := { p with quantity := Micros.zero, costBasis := Money.zero p.costBasis.currency }
  quantity := p.quantity
  cost := p.costBasis.amount

/-- The view of a ledger. -/
def View.of (s : LedgerState) : View where
  frame := { s with
    cash := Money.zero s.cash.currency
    reservedCash := Money.zero s.reservedCash.currency
    orders := Dict.empty
    positions := Dict.empty
    eventFingerprints := Dict.empty }
  cash := s.cash.amount
  reservedCash := s.reservedCash.amount
  orders intentId := (s.orders.get? intentId).map OrderView.of
  positions k := (s.positions.get? k).map PositionView.of
  events := s.eventFingerprints.get?

/-! ## A fill on views -/

/-- What an order reserves when `filled` of it is filled and `fees` are charged. -/
def reservation (i : OrderIntent) (filled fees : ℤ) : ℤ :=
  if filled = i.quantity then 0
  else roundedProduct i.limitPrice (i.quantity - filled) + (i.feeReserve.amount - fees)

/-- An order after a fill. -/
def OrderView.fill (rt : Runtime) (currency : String) (o : OrderView) (f : FillReceived) :
    OrderView where
  frame := o.frame
  state := if o.filled + f.quantity = o.frame.intent.quantity then .filled else .partiallyFilled
  filled := o.filled + f.quantity
  gross := o.gross + roundedProduct f.price f.quantity
  fees := o.fees + f.fee.amount
  reserved := reservation o.frame.intent (o.filled + f.quantity) (o.fees + f.fee.amount)
  reservedCurrency := currency
  unknownReason := none
  fills := Function.update o.fills f.fillId (some (f.deliveryFingerprint rt))

/-- An order after a delivery, which may be a repeated one. -/
def OrderView.deliver (rt : Runtime) (currency : String) (o : OrderView) (f : FillReceived) :
    OrderView :=
  if o.fills f.fillId = none then o.fill rt currency f else o

/-- What a fill costs. -/
def debit (f : FillReceived) : ℤ := roundedProduct f.price f.quantity + f.fee.amount

/-- What a delivery costs. -/
def OrderView.paid (o : OrderView) (f : FillReceived) : ℤ :=
  if o.fills f.fillId = none then debit f else 0

/-- The position of an order, or an empty one. -/
def PositionView.orEmpty (currency : String) (i : OrderIntent) (p : Option PositionView) :
    PositionView :=
  p.getD (.of (Position.empty i.marketId i.outcomeId currency))

/-- A position after a fill of an order. -/
def PositionView.buy (currency : String) (o : OrderView) (f : FillReceived)
    (p : Option PositionView) : PositionView where
  frame := (orEmpty currency o.frame.intent p).frame
  quantity := (orEmpty currency o.frame.intent p).quantity + f.quantity
  cost := (orEmpty currency o.frame.intent p).cost + debit f

/-- Replace the value of a function at one point. -/
def modify {K V : Type} [DecidableEq K] (k : K) (g : Option V → V) (f : K → Option V) :
    K → Option V :=
  Function.update f k (some (g (f k)))

/-- The positions after a delivery. -/
def OrderView.place (currency : String) (o : OrderView) (f : FillReceived)
    (positions : String × String → Option PositionView) : String × String → Option PositionView :=
  if o.fills f.fillId = none then modify o.frame.key (PositionView.buy currency o f) positions
  else positions

/-- A ledger after the delivery of a fill with a new event identifier. -/
def View.fill (rt : Runtime) (v : View) (f : FillReceived) : View :=
  match v.orders f.intentId with
  | none => v
  | some o =>
    let o' := o.deliver rt v.frame.currency f
    { v with
      cash := v.cash - o.paid f
      reservedCash := v.reservedCash - o.reserved + o'.reserved
      orders := Function.update v.orders f.intentId (some o')
      positions := o.place v.frame.currency f v.positions
      events := Function.update v.events f.eventId
        (some (fingerprint rt (LedgerEvent.fillReceived f).canonical)) }

/-! ## Fills commute -/

section Commute

variable {K V : Type} [DecidableEq K]

theorem modify_comm {k k' : K} {g g' : Option V → V} (f : K → Option V)
    (h : k = k' → ∀ p, g' (some (g p)) = g (some (g' p))) :
    modify k' g' (modify k g f) = modify k g (modify k' g' f) := by
  unfold modify
  by_cases hk : k = k'
  · subst hk
    simp [h rfl]
  · have hk' : k' ≠ k := fun e => hk e.symm
    simp only [Function.update_of_ne hk, Function.update_of_ne hk']
    rw [Function.update_comm hk]

end Commute

/-- Deliveries with the same identifier carry the same data. -/
def Consistent (rt : Runtime) (a b : FillReceived) : Prop :=
  a.intentId = b.intentId → a.fillId = b.fillId →
    a.quantity = b.quantity ∧ a.price = b.price ∧ a.fee = b.fee ∧
      a.deliveryFingerprint rt = b.deliveryFingerprint rt

theorem Consistent.debit_eq {a b : FillReceived} (h : Consistent rt a b)
    (hid : a.intentId = b.intentId) (hfill : a.fillId = b.fillId) : debit a = debit b := by
  obtain ⟨hq, hp, hf, -⟩ := h hid hfill
  rw [debit, debit, hq, hp, hf]

section Orders

variable {currency : String} {o : OrderView} {a b : FillReceived}

theorem OrderView.deliver_of_new (h : o.fills a.fillId = none) :
    o.deliver rt currency a = o.fill rt currency a :=
  if_pos h

theorem OrderView.deliver_of_known (h : o.fills a.fillId ≠ none) : o.deliver rt currency a = o :=
  if_neg h

@[simp] theorem OrderView.deliver_frame : (o.deliver rt currency a).frame = o.frame := by
  by_cases h : o.fills a.fillId = none
  · rw [OrderView.deliver_of_new h]
    rfl
  · rw [OrderView.deliver_of_known h]

/-- What is recorded of another fill does not change. -/
theorem OrderView.deliver_fills (rt : Runtime) (currency : String) (o : OrderView)
    {a b : FillReceived} (hfill : a.fillId ≠ b.fillId) :
    (o.deliver rt currency a).fills b.fillId = o.fills b.fillId := by
  by_cases h : o.fills a.fillId = none
  · rw [OrderView.deliver_of_new h]
    exact Function.update_of_ne (Ne.symm hfill) _ _
  · rw [OrderView.deliver_of_known h]

/-- After a delivery the fill is known. -/
theorem OrderView.deliver_known (hfill : a.fillId = b.fillId) :
    (o.deliver rt currency a).fills b.fillId ≠ none := by
  rw [← hfill]
  by_cases h : o.fills a.fillId = none
  · rw [OrderView.deliver_of_new h]
    simp [OrderView.fill]
  · rw [OrderView.deliver_of_known h]
    exact h

theorem OrderView.fill_comm (h : a.fillId ≠ b.fillId) :
    (o.fill rt currency a).fill rt currency b = (o.fill rt currency b).fill rt currency a := by
  unfold OrderView.fill
  rw [Function.update_comm h]
  simp only [add_right_comm]

theorem OrderView.deliver_comm (currency : String) (o : OrderView) (hid : a.intentId = b.intentId) (h : Consistent rt a b) :
    (o.deliver rt currency a).deliver rt currency b =
      (o.deliver rt currency b).deliver rt currency a := by
  by_cases hfill : a.fillId = b.fillId
  · -- the second delivery is a repetition of the first
    obtain ⟨hq, hp, hf, hfp⟩ := h hid hfill
    rw [OrderView.deliver_of_known (OrderView.deliver_known hfill),
      OrderView.deliver_of_known (OrderView.deliver_known hfill.symm)]
    unfold OrderView.deliver OrderView.fill
    rw [hfill, hq, hp, hf, hfp]
  · have hb := OrderView.deliver_fills rt currency o hfill
    have ha := OrderView.deliver_fills rt currency o (Ne.symm hfill)
    by_cases hna : o.fills a.fillId = none
    · rw [OrderView.deliver_of_new hna] at hb ⊢
      rw [OrderView.deliver_of_new (ha.trans hna)]
      by_cases hnb : o.fills b.fillId = none
      · rw [OrderView.deliver_of_new hnb, OrderView.deliver_of_new (hb.trans hnb),
          OrderView.fill_comm hfill]
      · rw [OrderView.deliver_of_known hnb, OrderView.deliver_of_known (hb ▸ hnb)]
    · have hna' : (o.deliver rt currency b).fills a.fillId ≠ none := ha ▸ hna
      rw [OrderView.deliver_of_known hna, OrderView.deliver_of_known hna']

/-- What is paid for two deliveries to one order. -/
theorem OrderView.paid_comm (currency : String) (o : OrderView) (hid : a.intentId = b.intentId) (h : Consistent rt a b) :
    o.paid a + (o.deliver rt currency a).paid b = o.paid b + (o.deliver rt currency b).paid a := by
  unfold OrderView.paid
  by_cases hfill : a.fillId = b.fillId
  · rw [if_neg (OrderView.deliver_known hfill), if_neg (OrderView.deliver_known hfill.symm), hfill,
      h.debit_eq hid hfill]
  · rw [OrderView.deliver_fills rt currency o hfill,
      OrderView.deliver_fills rt currency o (Ne.symm hfill)]
    ring

theorem PositionView.buy_comm {o o' : OrderView} (hkey : o.frame.key = o'.frame.key)
    (p : Option PositionView) :
    PositionView.buy currency o' b (some (PositionView.buy currency o a p)) =
      PositionView.buy currency o a (some (PositionView.buy currency o' b p)) := by
  have hm : o.frame.intent.marketId = o'.frame.intent.marketId := congrArg Prod.fst hkey
  have ho : o.frame.intent.outcomeId = o'.frame.intent.outcomeId := congrArg Prod.snd hkey
  unfold PositionView.buy PositionView.orEmpty
  rw [hm, ho]
  simp only [Option.getD_some]
  ext1
  · rfl
  · exact add_right_comm ..
  · exact add_right_comm ..

/-- Buying only looks at the frame of the order. -/
theorem PositionView.buy_deliver :
    PositionView.buy currency (o.deliver rt currency a) b = PositionView.buy currency o b := by
  unfold PositionView.buy
  rw [OrderView.deliver_frame]

theorem OrderView.place_comm (hid : a.intentId = b.intentId) (h : Consistent rt a b)
    (positions : String × String → Option PositionView) :
    (o.deliver rt currency a).place currency b (o.place currency a positions) =
      (o.deliver rt currency b).place currency a (o.place currency b positions) := by
  unfold OrderView.place
  by_cases hfill : a.fillId = b.fillId
  · obtain ⟨hq, -⟩ := h hid hfill
    have hbuy : PositionView.buy currency o a = PositionView.buy currency o b := by
      unfold PositionView.buy
      rw [hq, h.debit_eq hid hfill]
    rw [if_neg (OrderView.deliver_known hfill), if_neg (OrderView.deliver_known hfill.symm), hfill,
      hbuy]
  · rw [OrderView.deliver_fills rt currency o hfill,
      OrderView.deliver_fills rt currency o (Ne.symm hfill), OrderView.deliver_frame,
      OrderView.deliver_frame,
      PositionView.buy_deliver, PositionView.buy_deliver]
    split_ifs
    · exact modify_comm _ fun _ => PositionView.buy_comm rfl
    all_goals rfl

end Orders

theorem View.fill_of_none {v : View} {f : FillReceived} (h : v.orders f.intentId = none) :
    v.fill rt f = v := by
  rw [View.fill, h]

theorem View.fill_orders_of_ne {v : View} {f : FillReceived} {intentId : String}
    (h : f.intentId ≠ intentId) : (v.fill rt f).orders intentId = v.orders intentId := by
  unfold View.fill
  cases v.orders f.intentId with
  | none => rfl
  | some o => exact Function.update_of_ne (Ne.symm h) _ _

/-- **Two fills commute.** -/
theorem View.fill_comm (v : View) {a b : FillReceived} (hevent : a.eventId ≠ b.eventId)
    (h : Consistent rt a b) : (v.fill rt a).fill rt b = (v.fill rt b).fill rt a := by
  by_cases hid : a.intentId = b.intentId
  · cases ho : v.orders a.intentId with
    | none =>
      have ho' : v.orders b.intentId = none := hid ▸ ho
      rw [View.fill_of_none ho, View.fill_of_none ho', View.fill_of_none ho]
    | some o =>
      have ho' : v.orders b.intentId = some o := hid ▸ ho
      have hpaid := OrderView.paid_comm v.frame.currency o hid h
      have hdeliver := OrderView.deliver_comm v.frame.currency o hid h
      simp only [View.fill, ho', hid, Function.update_self, Function.update_idem]
      ext1
      · rfl
      · show v.cash - o.paid a - _ = v.cash - o.paid b - _
        linarith
      · show v.reservedCash - o.reserved + _ - _ + _ = v.reservedCash - o.reserved + _ - _ + _
        rw [hdeliver]
        ring
      · show Function.update _ _ _ = Function.update _ _ _
        rw [hdeliver]
      · exact OrderView.place_comm hid h v.positions
      · exact Function.update_comm hevent _ _ _
  · have hid' : b.intentId ≠ a.intentId := fun e => hid e.symm
    have hb : (v.fill rt a).orders b.intentId = v.orders b.intentId := View.fill_orders_of_ne hid
    have ha : (v.fill rt b).orders a.intentId = v.orders a.intentId := View.fill_orders_of_ne hid'
    cases hoa : v.orders a.intentId with
    | none => rw [View.fill_of_none hoa, View.fill_of_none (ha.trans hoa)]
    | some o =>
      cases hob : v.orders b.intentId with
      | none => rw [View.fill_of_none hob, View.fill_of_none (hb.trans hob)]
      | some o' =>
        simp only [View.fill, hoa, hob, Function.update_of_ne hid, Function.update_of_ne hid']
        ext1
        · rfl
        · show v.cash - o.paid a - o'.paid b = v.cash - o'.paid b - o.paid a
          ring
        · show v.reservedCash - o.reserved + _ - o'.reserved + _ =
            v.reservedCash - o'.reserved + _ - o.reserved + _
          ring
        · exact Function.update_comm hid _ _ _
        · show o'.place _ b (o.place _ a v.positions) = o.place _ a (o'.place _ b v.positions)
          unfold OrderView.place
          split_ifs
          · exact modify_comm _ fun hkey => PositionView.buy_comm hkey
          all_goals rfl
        · exact Function.update_comm hevent _ _ _

/-! ## Accepted fills -/

/-- A fill that led to a well-keyed ledger came from one. -/
theorem wellKeyed_of_buyFill {s : LedgerState} {f : FillReceived} {o o' : OrderAggregate}
    {p' : Position} {cash reservedCash : Money} (h : BuyFill rt s f o o' p' cash reservedCash)
    (hnext : (afterBuyFill s o' p' cash reservedCash).WellKeyed) : s.WellKeyed := by
  have hintent := h.filled.intent
  -- the filled order was under its own identifier, or it still stands beside the new one
  have hid : o.intent.intentId = f.intentId := by
    by_contra hne
    apply hne
    refine hnext.order ?_
    show (s.orders.insert o'.intent.intentId o').get? f.intentId = some o
    rw [hintent, Dict.get?_insert_of_ne _ _ hne]
    exact h.get
  constructor
  · intro intentId o₁ hget
    by_cases hk : o'.intent.intentId = intentId
    · rw [← hk, hintent, hid, h.get] at hget
      cases hget
      rw [← hk, hintent]
    · refine hnext.order ?_
      show (s.orders.insert o'.intent.intentId o').get? intentId = some o₁
      rw [Dict.get?_insert_of_ne _ _ hk]
      exact hget
  · intro k p hget
    by_cases hk : p'.key = k
    · have hkey : p'.key = (positionOrEmpty s o).key := by rw [h.position]; rfl
      by_cases ho : k = o.key
      · rw [← hk, hkey, positionOrEmpty, ← ho, hget]
        rfl
      · -- the order's own position would still stand under a wrong key
        cases hp : s.positions.get? o.key with
        | none =>
          rw [positionOrEmpty, hp] at hkey
          exact absurd (hk.symm.trans hkey) ho
        | some q =>
          rw [positionOrEmpty, hp] at hkey
          have hq : q.key = o.key := by
            refine hnext.position ?_
            show (s.positions.insert p'.key p').get? o.key = some q
            rw [Dict.get?_insert_of_ne _ _ (fun e => ho (hk.symm.trans e))]
            exact hp
          exact absurd (hk.symm.trans (hkey.trans hq)) ho
    · refine hnext.position ?_
      show (s.positions.insert p'.key p').get? k = some p
      rw [Dict.get?_insert_of_ne _ _ hk]
      exact hget

/-- An insertion is an update of the lookup. -/
theorem get?_insert_eq_update {K V : Type} [DecidableEq K] (d : Dict K V) (k : K) (v : V) :
    (d.insert k v).get? = Function.update d.get? k (some v) := by
  funext k'
  rw [Dict.get?_insert, Function.update_apply]
  by_cases hk : k = k'
  · rw [if_pos hk, if_pos hk.symm]
  · rw [if_neg hk, if_neg (Ne.symm hk)]

theorem map_get?_insert {K V W : Type} [DecidableEq K] (g : V → W) (d : Dict K V) (k : K) (v : V) :
    (fun k' => ((d.insert k v).get? k').map g) =
      Function.update (fun k' => (d.get? k').map g) k (some (g v)) := by
  rw [get?_insert_eq_update]
  exact Function.comp_update (Option.map g) d.get? k (some v)

theorem orderView_of_buyFill {s : LedgerState} {f : FillReceived} {o o' : OrderAggregate}
    {p' : Position} {cash reservedCash : Money} (h : BuyFill rt s f o o' p' cash reservedCash) :
    OrderView.of o' = (OrderView.of o).fill rt s.currency f := by
  have hstate := h.filled.state
  have hkept := h.kept
  have hfilled := h.filled.filled
  have hfees := h.filled.fees
  have hquantity : (o'.filledQuantity = o.intent.quantity) ↔
      o.filledQuantity.val + f.quantity.val = o.intent.quantity.val := by
    rw [← hfilled, Micros.ext_iff]
  have hfull : o'.state = .filled ↔
      o.filledQuantity.val + f.quantity.val = o.intent.quantity.val := by
    rw [← hquantity, hstate]
    split_ifs with hall <;> simp [hall]
  ext1
  · have h1 := h.filled.intent
    have h2 := h.filled.grossValue_currency
    have h3 := h.filled.fees_currency
    have h4 := h.filled.backendOrderId
    have h5 := h.filled.terminalReason
    have h6 := h.reservedQuantity
    simp only [OrderView.of, OrderView.fill, h1, h2, h3, h4, h5, h6]
  · show o'.state = if _ then _ else _
    rw [hstate]
    simp only [hquantity]
    rfl
  · exact hfilled
  · exact h.filled.grossValue
  · exact hfees
  · show o'.reservedCash.amount.val = reservation o.intent _ _
    rw [hkept, keptReservation, reservation]
    simp only [hfull]
    rw [hfilled, hfees]
    rfl
  · exact h.kept_currency
  · exact h.filled.unknownReason
  · show o'.fillFingerprints.get? = _
    rw [h.filled.fillFingerprints, get?_insert_eq_update]
    rfl

/-- **An accepted BUY fill does on the view what `View.fill` does.** -/
theorem view_of_buyFill {s : LedgerState} {f : FillReceived} {o o' : OrderAggregate}
    {p' : Position} {cash reservedCash : Money} (hs : s.WellKeyed)
    (h : BuyFill rt s f o o' p' cash reservedCash) :
    View.of (recordEvent (afterBuyFill s o' p' cash reservedCash) f.eventId
      (fingerprint rt (LedgerEvent.fillReceived f).canonical)) = (View.of s).fill rt f := by
  have hget : (View.of s).orders f.intentId = some (OrderView.of o) := by
    show (s.orders.get? f.intentId).map OrderView.of = _
    rw [h.get]
    rfl
  have hnew : (OrderView.of o).fills f.fillId = none := h.new
  have hid : o'.intent.intentId = f.intentId := by rw [h.filled.intent, hs.order h.get]
  have ho' := orderView_of_buyFill h
  have hdeliver : (OrderView.of o).deliver rt (View.of s).frame.currency f = OrderView.of o' := by
    rw [OrderView.deliver_of_new hnew, ho']
    rfl
  rw [View.fill, hget]
  dsimp only
  rw [hdeliver]
  ext1
  · show { afterBuyFill s o' p' cash reservedCash with
      cash := Money.zero cash.currency
      reservedCash := Money.zero reservedCash.currency
      orders := Dict.empty
      positions := Dict.empty
      eventFingerprints := Dict.empty } = _
    rw [h.cash_currency, h.reservedCash_currency]
    rfl
  · show cash.amount.val = s.cash.amount.val - OrderView.paid _ _
    rw [OrderView.paid, if_pos hnew, h.cash_eq, debit]
  · exact h.reservedCash_eq
  · show (fun id => ((s.orders.insert o'.intent.intentId o').get? id).map OrderView.of) = _
    rw [map_get?_insert, hid]
    rfl
  · show (fun k => ((s.positions.insert p'.key p').get? k).map PositionView.of) = _
    have hkey : p'.key = (OrderView.of o).frame.key := (h.key_eq hs).trans rfl
    rw [map_get?_insert, OrderView.place, if_pos hnew, modify, hkey]
    -- the position bought into, or an empty one
    have hold : PositionView.orEmpty s.currency o.intent
        ((s.positions.get? o.key).map PositionView.of) = PositionView.of (positionOrEmpty s o) := by
      unfold positionOrEmpty
      cases s.positions.get? o.key <;> rfl
    have hp' : PositionView.of p' = PositionView.buy s.currency (OrderView.of o) f
        ((s.positions.get? o.key).map PositionView.of) := by
      have hframe : (PositionView.of p').frame = (PositionView.of (positionOrEmpty s o)).frame := by
        have hcur := h.costBasis_currency
        have hposition := h.position
        simp only [PositionView.of, hcur]
        rw [hposition]
      ext1
      · show _ = (PositionView.orEmpty s.currency o.intent _).frame
        rw [hold, hframe]
      · show _ = (PositionView.orEmpty s.currency o.intent _).quantity + _
        rw [hold]
        exact h.quantity
      · show _ = (PositionView.orEmpty s.currency o.intent _).cost + _
        rw [hold]
        exact h.costBasis
    rw [hp']
    rfl
  · exact get?_insert_eq_update s.eventFingerprints f.eventId _

/-! ## Lists of fills -/

/-- The order of a fill is a BUY order of the ledger. -/
def ForBuyOrder (s : LedgerState) (f : FillReceived) : Prop :=
  ∃ o, s.orders.get? f.intentId = some o ∧ o.intent.side = .buy

/-- The order of a fill has recorded it. -/
def Recorded (rt : Runtime) (v : View) (f : FillReceived) : Prop :=
  ∃ o, v.orders f.intentId = some o ∧ o.fills f.fillId = some (f.deliveryFingerprint rt)

/-- An accepted new event for a BUY order is a fill on the view, and records it. -/
theorem view_of_applyEvent {s s' : LedgerState} {f : FillReceived} (hbuy : ForBuyOrder s f)
    (hnew : s.eventFingerprints.get? f.eventId = none)
    (h : applyEvent rt s (.fillReceived f) = .ok s') :
    View.of s' = (View.of s).fill rt f ∧ Recorded rt (View.of s') f ∧
      (∀ g, ForBuyOrder s g → ForBuyOrder s' g) ∧
      ∀ eventId, eventId ≠ f.eventId →
        s'.eventFingerprints.get? eventId = s.eventFingerprints.get? eventId := by
  obtain ⟨o, hget, hside⟩ := hbuy
  rcases applyEvent_eq_ok.mp h with ⟨hdup, -⟩ | ⟨-, next, hnext, rfl, hinv⟩
  · exact absurd (hnew.symm.trans hdup) (by simp)
  have hnext : applyFill rt s f = .ok next := hnext
  rw [applyFill, orderOf_eq_ok.mpr hget, ok_bind] at hnext
  have hview : (View.of s).orders f.intentId = some (OrderView.of o) := by
    show (s.orders.get? f.intentId).map OrderView.of = _
    rw [hget]
    rfl
  cases hfp : o.fillFingerprints.get? f.fillId with
  | some existing =>
    -- a repeated delivery of a recorded fill
    simp only [hfp] at hnext
    split_ifs at hnext with hsame
    cases hnext
    have hknown : (OrderView.of o).fills f.fillId = some (f.deliveryFingerprint rt) := by
      rw [← hsame]
      exact hfp
    have hne : (OrderView.of o).fills f.fillId ≠ none := by rw [hknown]; exact Option.some_ne_none _
    refine ⟨?_, ⟨OrderView.of o, hview, hknown⟩, fun g hg => hg, fun eventId he =>
      Dict.get?_insert_of_ne _ _ he.symm⟩
    rw [View.fill, hview]
    dsimp only
    rw [OrderView.deliver_of_known hne]
    ext1
    · rfl
    · show s.cash.amount.val = s.cash.amount.val - OrderView.paid _ _
      rw [OrderView.paid, if_neg hne, sub_zero]
    · show s.reservedCash.amount.val = s.reservedCash.amount.val - _ + _
      ring
    · show (View.of s).orders = Function.update (View.of s).orders _ _
      rw [← hview, Function.update_eq_self]
    · show (View.of s).positions = OrderView.place _ _ _ _
      rw [OrderView.place, if_neg hne]
    · exact get?_insert_eq_update s.eventFingerprints f.eventId _
  | none =>
    simp only [hfp] at hnext
    obtain ⟨o', p', cash, reservedCash, hfill, rfl⟩ := step_of_buyFill hget hfp hside hnext
    have hs := wellKeyed_of_buyFill hfill (invariants_recordEvent.mp hinv).wellKeyed
    have hid : o'.intent.intentId = f.intentId := by rw [hfill.filled.intent, hs.order hget]
    refine ⟨view_of_buyFill hs hfill, ⟨OrderView.of o', ?_, ?_⟩, ?_, fun eventId he =>
      Dict.get?_insert_of_ne _ _ he.symm⟩
    · show ((s.orders.insert o'.intent.intentId o').get? f.intentId).map OrderView.of = _
      rw [hid, Dict.get?_insert_self]
      rfl
    · show o'.fillFingerprints.get? f.fillId = _
      rw [hfill.filled.fillFingerprints, Dict.get?_insert_self]
    · rintro g ⟨o₁, hg, hgside⟩
      by_cases hk : f.intentId = g.intentId
      · refine ⟨o', ?_, by rw [hfill.filled.intent]; exact hside⟩
        show (s.orders.insert o'.intent.intentId o').get? g.intentId = _
        rw [hid, hk, Dict.get?_insert_self]
      · refine ⟨o₁, ?_, hgside⟩
        show (s.orders.insert o'.intent.intentId o').get? g.intentId = _
        rw [hid, Dict.get?_insert_of_ne _ _ hk]
        exact hg

/-- A recorded fill stays recorded. -/
theorem Recorded.fill {v : View} {f g : FillReceived} (h : Recorded rt v f) :
    Recorded rt (v.fill rt g) f := by
  obtain ⟨o, ho, hf⟩ := h
  by_cases hid : g.intentId = f.intentId
  · refine ⟨o.deliver rt v.frame.currency g, ?_, ?_⟩
    · rw [← hid] at ho ⊢
      rw [View.fill, ho]
      exact Function.update_self _ _ _
    · by_cases hfill : g.fillId = f.fillId
      · rw [OrderView.deliver_of_known, hf]
        rw [hfill, hf]
        exact Option.some_ne_none _
      · rw [OrderView.deliver_fills _ _ _ hfill, hf]
  · exact ⟨o, (View.fill_orders_of_ne hid).trans ho, hf⟩

theorem Recorded.foldl {v : View} {f : FillReceived} (h : Recorded rt v f) (fills : List FillReceived) :
    Recorded rt (fills.foldl (View.fill rt) v) f := by
  induction fills generalizing v with
  | nil => exact h
  | cons g fills ih => exact ih h.fill

/-- **An accepted list of fills does on the view what the new ones among them do.** -/
theorem view_of_fills {isNew : FillReceived → Bool} {fills : List FillReceived} :
    ∀ {s u : LedgerState}, (fills.map fun f => f.eventId).Nodup → (∀ f ∈ fills, ForBuyOrder s f) →
      (∀ f ∈ fills, isNew f = true ↔ s.eventFingerprints.get? f.eventId = none) →
      applyEvents rt s (fills.map .fillReceived) = .ok u →
      View.of u = (fills.filter isNew).foldl (View.fill rt) (View.of s) ∧
        ∀ f ∈ fills.filter isNew, Recorded rt (View.of u) f := by
  induction fills with
  | nil =>
    intro s u _ _ _ h
    cases h
    exact ⟨rfl, fun f hf => absurd hf List.not_mem_nil⟩
  | cons f fills ih =>
    intro s u hnodup hbuy hnew h
    rw [List.map_cons, List.nodup_cons] at hnodup
    rw [List.forall_mem_cons] at hbuy hnew
    obtain ⟨t, ht, hrest⟩ := foldlM_cons_eq_ok.mp h
    by_cases hf : isNew f = true
    · obtain ⟨hview, hrec, hkeep, hevents⟩ := view_of_applyEvent hbuy.1 (hnew.1.mp hf) ht
      have hne : ∀ g ∈ fills, g.eventId ≠ f.eventId := by
        intro g hg he
        exact hnodup.1 (he ▸ List.mem_map_of_mem (f := fun f : FillReceived => f.eventId) hg)
      obtain ⟨hfold, hall⟩ := ih hnodup.2 (fun g hg => hkeep g (hbuy.2 g hg))
        (fun g hg => by rw [hevents _ (hne g hg)]; exact hnew.2 g hg) hrest
      rw [List.filter_cons_of_pos hf, List.foldl_cons, ← hview]
      refine ⟨hfold, List.forall_mem_cons.mpr ⟨?_, hall⟩⟩
      rw [hfold]
      exact hrec.foldl _
    · -- an event that was seen before
      have hts : t = s := by
        rcases applyEvent_eq_ok.mp ht with ⟨-, rfl⟩ | ⟨hfresh, -⟩
        · rfl
        · exact absurd (hnew.1.mpr hfresh) hf
      subst hts
      rw [List.filter_cons_of_neg hf]
      exact ih hnodup.2 hbuy.2 hnew.2 hrest

/-! ## Equal states -/

/-- Equal orders; their dictionaries agree on every lookup. -/
structure SameOrder (a b : OrderAggregate) : Prop where
  intent : a.intent = b.intent
  state : a.state = b.state
  filledQuantity : a.filledQuantity = b.filledQuantity
  grossValue : a.grossValue = b.grossValue
  fees : a.fees = b.fees
  reservedCash : a.reservedCash = b.reservedCash
  reservedQuantity : a.reservedQuantity = b.reservedQuantity
  backendOrderId : a.backendOrderId = b.backendOrderId
  terminalReason : a.terminalReason = b.terminalReason
  unknownReason : a.unknownReason = b.unknownReason
  fillFingerprints : ∀ fillId, a.fillFingerprints.get? fillId = b.fillFingerprints.get? fillId

/-- Equal ledgers; their dictionaries agree on every lookup. -/
structure SameState (s t : LedgerState) : Prop where
  currency : s.currency = t.currency
  opened : s.opened = t.opened
  cash : s.cash = t.cash
  reservedCash : s.reservedCash = t.reservedCash
  orders : ∀ intentId, Option.Rel SameOrder (s.orders.get? intentId) (t.orders.get? intentId)
  positions : ∀ k, s.positions.get? k = t.positions.get? k
  resolutions : s.resolutions = t.resolutions
  resolutionEvidence : s.resolutionEvidence = t.resolutionEvidence
  weatherObservations : s.weatherObservations = t.weatherObservations
  eventFingerprints : ∀ eventId, s.eventFingerprints.get? eventId = t.eventFingerprints.get? eventId

theorem sameOrder_of_view {a b : OrderAggregate} (h : OrderView.of a = OrderView.of b) :
    SameOrder a b where
  intent := congrArg (fun v => v.frame.intent) h
  state := congrArg OrderView.state h
  filledQuantity := Micros.ext (congrArg OrderView.filled h)
  grossValue := Money.ext_val (congrArg OrderView.gross h)
    (congrArg (fun v => v.frame.grossValue.currency) h)
  fees := Money.ext_val (congrArg OrderView.fees h) (congrArg (fun v => v.frame.fees.currency) h)
  reservedCash := Money.ext_val (congrArg OrderView.reserved h)
    (congrArg OrderView.reservedCurrency h)
  reservedQuantity := congrArg (fun v => v.frame.reservedQuantity) h
  backendOrderId := congrArg (fun v => v.frame.backendOrderId) h
  terminalReason := congrArg (fun v => v.frame.terminalReason) h
  unknownReason := congrArg OrderView.unknownReason h
  fillFingerprints := congrFun (congrArg OrderView.fills h)

theorem positionView_inj {a b : Position} (h : PositionView.of a = PositionView.of b) : a = b := by
  have hframe := congrArg PositionView.frame h
  have hq : a.quantity = b.quantity := Micros.ext (congrArg PositionView.quantity h)
  have hc : a.costBasis = b.costBasis := Money.ext_val (congrArg PositionView.cost h)
    (congrArg (fun v => v.frame.costBasis.currency) h)
  cases a
  cases b
  simp only [PositionView.of, Position.mk.injEq, true_and] at hframe hq hc ⊢
  exact ⟨hframe.1, hframe.2.1, hq, hframe.2.2.1, hc, hframe.2.2.2.2⟩

/-- Ledgers with one view are equal. -/
theorem sameState_of_view {s t : LedgerState} (h : View.of s = View.of t) : SameState s t where
  currency := congrArg (fun v => v.frame.currency) h
  opened := congrArg (fun v => v.frame.opened) h
  cash := Money.ext_val (congrArg View.cash h) (congrArg (fun v => v.frame.cash.currency) h)
  reservedCash := Money.ext_val (congrArg View.reservedCash h)
    (congrArg (fun v => v.frame.reservedCash.currency) h)
  orders intentId := by
    have hmap : (s.orders.get? intentId).map OrderView.of = (t.orders.get? intentId).map OrderView.of :=
      congrFun (congrArg View.orders h) intentId
    cases hs : s.orders.get? intentId with
    | none =>
      cases ht : t.orders.get? intentId with
      | none => exact .none
      | some o => rw [hs, ht] at hmap; cases hmap
    | some o =>
      cases ht : t.orders.get? intentId with
      | none => rw [hs, ht] at hmap; cases hmap
      | some o' =>
        rw [hs, ht] at hmap
        exact .some (sameOrder_of_view (Option.some.inj hmap))
  positions k := by
    have hmap : (s.positions.get? k).map PositionView.of = (t.positions.get? k).map PositionView.of :=
      congrFun (congrArg View.positions h) k
    exact Option.map_injective (fun _ _ => positionView_inj) hmap
  resolutions := congrArg (fun v => v.frame.resolutions) h
  resolutionEvidence := congrArg (fun v => v.frame.resolutionEvidence) h
  weatherObservations := congrArg (fun v => v.frame.weatherObservations) h
  eventFingerprints := congrFun (congrArg View.events h)

/-! ## Confluence -/

/-- **Confluence of BUY fills.** Two orders of delivery of the same fills that are both accepted
lead to equal states, when no two of the fills collide under the content hash. -/
theorem buyFills_confluent (rt : Runtime) (s : LedgerState) (fills fills' : List FillReceived)
    (hperm : fills.Perm fills') (hnodup : (fills.map fun f => f.eventId).Nodup)
    (hbuy : ∀ f ∈ fills, ∃ o, s.orders.get? f.intentId = some o ∧ o.intent.side = .buy)
    (hhash : ∀ a ∈ fills, ∀ b ∈ fills, a.deliveryFingerprint rt = b.deliveryFingerprint rt →
      a.deliveryContent = b.deliveryContent)
    (u u' : LedgerState) (h : applyEvents rt s (fills.map .fillReceived) = .ok u)
    (h' : applyEvents rt s (fills'.map .fillReceived) = .ok u') : SameState u u' := by
  set isNew : FillReceived → Bool := fun f => (s.eventFingerprints.get? f.eventId).isNone with hisNew
  have hnew : ∀ l : List FillReceived, ∀ f ∈ l,
      isNew f = true ↔ s.eventFingerprints.get? f.eventId = none :=
    fun _ f _ => Option.isNone_iff_eq_none
  obtain ⟨hview, hrec⟩ := view_of_fills hnodup hbuy (hnew fills) h
  obtain ⟨hview', -⟩ := view_of_fills ((hperm.map _).nodup_iff.mp hnodup)
    (fun f hf => hbuy f (hperm.mem_iff.mpr hf)) (hnew fills') h'
  apply sameState_of_view
  rw [hview, hview']
  refine (hperm.filter isNew).foldl_eq' ?_ _
  intro a ha b hb v
  have hamem := (List.mem_filter.mp ha).1
  have hbmem := (List.mem_filter.mp hb).1
  by_cases hevent : a.eventId = b.eventId
  · rw [List.inj_on_of_nodup_map hnodup hamem hbmem hevent]
  · refine View.fill_comm v hevent ?_
    -- both are recorded in the end, so equal identifiers have equal hashes
    intro hid hfill
    obtain ⟨o, ho, hfa⟩ := hrec a ha
    obtain ⟨o', ho', hfb⟩ := hrec b hb
    rw [hid, ho'] at ho
    cases ho
    rw [hfill, hfb] at hfa
    have hfp := (Option.some.inj hfa).symm
    obtain ⟨hq, hp, hf⟩ := FillReceived.eq_of_deliveryContent (hhash a hamem b hbmem hfp)
    exact ⟨hq, hp, hf, hfp⟩

namespace Sample

/-- The state after the order is submitted. -/
def submittedState : LedgerState := okOr (replay .utc submittedOrder "USD") (.fresh "USD")

/-- The state after the fills in a given order. -/
def filledState (fills : List FillReceived) : LedgerState :=
  okOr (applyEvents .utc submittedState (fills.map .fillReceived)) (.fresh "USD")

end Sample

theorem buyFills_confluent_twoFills :
    SameState (Sample.filledState [Sample.firstFill, Sample.secondFill])
      (Sample.filledState [Sample.secondFill, Sample.firstFill]) := by
  refine buyFills_confluent .utc Sample.submittedState [Sample.firstFill, Sample.secondFill]
    [Sample.secondFill, Sample.firstFill] (List.Perm.swap _ _ _) (by decide) ?_ ?_ _ _
    (eq_ok_okOr (by decide) _) (eq_ok_okOr (by decide) _)
  · have hbuy : ∃ o, Sample.submittedState.orders.get? "buy" = some o ∧ o.intent.side = .buy :=
      ⟨(Sample.submittedState.orders.get? "buy").get (by decide), (Option.some_get _).symm,
        by decide⟩
    intro f hf
    rcases List.mem_pair.mp hf with rfl | rfl
    · exact hbuy
    · exact hbuy
  · intro a ha b hb h
    have hne : Sample.firstFill.deliveryFingerprint .utc ≠
        Sample.secondFill.deliveryFingerprint .utc := by decide +kernel
    rcases List.mem_pair.mp ha with rfl | rfl <;> rcases List.mem_pair.mp hb with rfl | rfl
    · rfl
    · exact absurd h hne
    · exact absurd h.symm hne
    · rfl

end WeatherBot.Ledger
