import WeatherBot.Common.FirstBy
import WeatherBot.Ledger.Lifecycle
import WeatherBot.Ledger.Redelivery

/-!
# Fill accounting

Orders and positions are sums over the fills of the run. A repeated event, and a
repeated fill identifier of one order, count once.

* `acceptedFills`: the fills of one order in a list of events.
* `FillHistory`: what a run says of its orders; kept by every event.
* `Holdings`: an open position is the sum over the orders on it; kept by every
  `Step`.
* `count_acceptedFills`: every delivered fill is counted once.
* `fill_accounting`: **the sums, for every run**.
-/

namespace WeatherBot.Ledger

open WeatherBot.Common
open WeatherBot.Domain

variable {rt : Runtime}

/-! ## The fills of a run -/

/-- The fill of one order that an event reports. -/
def fillOf (intentId : String) : LedgerEvent → Option FillReceived
  | .fillReceived fill => if fill.intentId = intentId then some fill else none
  | _ => none

/-- The fills of one order, every event and every fill identifier at its first occurrence. -/
def acceptedFills (events : List LedgerEvent) (intentId : String) : List FillReceived :=
  firstBy FillReceived.fillId ((firstBy LedgerEvent.eventId events).filterMap (fillOf intentId))

/-- No fill is counted twice. -/
theorem acceptedFills_nodup (events : List LedgerEvent) (intentId : String) :
    ((acceptedFills events intentId).map FillReceived.fillId).Nodup :=
  map_firstBy_nodup _ _

theorem acceptedFills_of_repeated {events : List LedgerEvent} {event : LedgerEvent}
    (h : event.eventId ∈ events.map LedgerEvent.eventId) (intentId : String) :
    acceptedFills (events ++ [event]) intentId = acceptedFills events intentId := by
  rw [acceptedFills, firstBy_append_singleton, if_pos h, acceptedFills]

theorem acceptedFills_of_new {events : List LedgerEvent} {event : LedgerEvent}
    (h : event.eventId ∉ events.map LedgerEvent.eventId) (intentId : String) :
    acceptedFills (events ++ [event]) intentId =
      match fillOf intentId event with
      | none => acceptedFills events intentId
      | some fill => addFirst FillReceived.fillId (acceptedFills events intentId) fill := by
  rw [acceptedFills, firstBy_append_singleton, if_neg h, List.filterMap_append, firstBy_append,
    acceptedFills]
  cases hfill : fillOf intentId event with
  | none => simp [hfill]
  | some fill => simp [hfill]

/-! ## One order -/

/-- An order that is the sum of its fills. -/
structure Books (fills : List FillReceived) (o : OrderAggregate) : Prop where
  filledQuantity : o.filledQuantity.val = (fills.map fun f => f.quantity.val).sum
  grossValue : o.grossValue.amount.val = (fills.map fun f => roundedProduct f.price f.quantity).sum
  fees : o.fees.amount.val = (fills.map fun f => f.fee.amount.val).sum
  fillIds : o.fillFingerprints.keys = fills.map FillReceived.fillId

/-- What is the same in two orders with the same fills. -/
structure SameFills (o o' : OrderAggregate) : Prop where
  filledQuantity : o'.filledQuantity = o.filledQuantity
  grossValue : o'.grossValue = o.grossValue
  fees : o'.fees = o.fees
  fillFingerprints : o'.fillFingerprints = o.fillFingerprints

theorem Books.of_sameFills {fills : List FillReceived} {o o' : OrderAggregate} (h : Books fills o)
    (hsame : SameFills o o') : Books fills o' where
  filledQuantity := by rw [hsame.filledQuantity, h.filledQuantity]
  grossValue := by rw [hsame.grossValue, h.grossValue]
  fees := by rw [hsame.fees, h.fees]
  fillIds := by rw [hsame.fillFingerprints, h.fillIds]

theorem Books.of_unfilled {o : OrderAggregate} (h : Unfilled o) : Books [] o where
  filledQuantity := h.filledQuantity
  grossValue := h.grossValue
  fees := h.fees
  fillIds := by rw [Dict.keys, h.fillFingerprints]; rfl

/-- A recorded fill identifier is that of a fill. -/
theorem Books.mem_fillIds {fills : List FillReceived} {o : OrderAggregate} (h : Books fills o)
    (fillId : String) :
    fillId ∈ fills.map FillReceived.fillId ↔ o.fillFingerprints.get? fillId ≠ none := by
  rw [← h.fillIds, Dict.keys, Ne, Dict.get?, Dict.assocGet_eq_none, not_not]

/-- **A fill adds itself to its order.** -/
theorem Books.filled {fills : List FillReceived} {o o' : OrderAggregate} {fill : FillReceived}
    (h : Books fills o) (hnew : o.fillFingerprints.get? fill.fillId = none)
    (hfilled : OrderFilled rt fill o o') :
    Books (addFirst FillReceived.fillId fills fill) o' := by
  have hmem : fill.fillId ∉ fills.map FillReceived.fillId := by
    rw [h.mem_fillIds, not_not]
    exact hnew
  rw [addFirst, if_neg hmem]
  constructor
  · rw [hfilled.filled, h.filledQuantity, List.map_append, List.sum_append]
    simp
  · rw [hfilled.grossValue, h.grossValue, List.map_append, List.sum_append]
    simp
  · rw [hfilled.fees, h.fees, List.map_append, List.sum_append]
    simp
  · have hkeys := Dict.keys_assocSet o.fillFingerprints.entries fill.fillId
      (fill.deliveryFingerprint rt)
    rw [if_neg (by rw [← Dict.assocGet_eq_none]; exact hnew)] at hkeys
    rw [hfilled.fillFingerprints, List.map_append, List.map_singleton, ← h.fillIds]
    exact hkeys

/-! ## The orders of a run -/

/-- Events other than fills leave the fills of an order alone; a new order has none. -/
theorem sameFills_of_step {s next : LedgerState} {event : LedgerEvent} (hs : s.WellKeyed)
    (h : Step rt s event next) (hevent : ∀ fill, event ≠ .fillReceived fill) {intentId : String}
    {o' : OrderAggregate} (hget : next.orders.get? intentId = some o') :
    (∃ o, s.orders.get? intentId = some o ∧ SameFills o o') ∨
      (s.orders.get? intentId = none ∧ Unfilled o') := by
  have hcreated : ∀ {i : OrderIntent} {order : OrderAggregate},
      s.orders.get? i.intentId = none → OrderAggregate.new i = .ok order →
      (s.orders.insert order.intent.intentId order).get? intentId = some o' →
      (∃ o, s.orders.get? intentId = some o ∧ SameFills o o') ∨
        (s.orders.get? intentId = none ∧ Unfilled o') := by
    intro i order hnone horder hget
    rw [(OrderAggregate.new_eq_ok horder).1, Dict.get?_insert] at hget
    split_ifs at hget with hk
    · cases hget
      exact .inr ⟨hk ▸ hnone, unfilled_of_new horder⟩
    · exact .inl ⟨o', hget, rfl, rfl, rfl, rfl⟩
  have hchanged : ∀ {id : String} {o o₁ : OrderAggregate}, s.orders.get? id = some o →
      (s.orders.insert o₁.intent.intentId o₁).get? intentId = some o' →
      o₁.intent = o.intent → SameFills o o₁ →
      (∃ o, s.orders.get? intentId = some o ∧ SameFills o o') ∨
        (s.orders.get? intentId = none ∧ Unfilled o') := by
    intro id o o₁ hold hget hintent hsame
    rcases get?_replaceOrder hold (hs.order hold) hintent hget with h | ⟨h, rfl⟩
    · exact .inl ⟨o', h, rfl, rfl, rfl, rfl⟩
    · exact .inl ⟨o, h, hsame⟩
  cases h with
  | unchanged => exact .inl ⟨o', hget, rfl, rfl, rfl, rfl⟩
  | opened => exact .inl ⟨o', hget, rfl, rfl, rfl, rfl⟩
  | recorded => exact .inl ⟨o', hget, rfl, rfl, rfl, rfl⟩
  | settled => exact .inl ⟨o', hget, rfl, rfl, rfl, rfl⟩
  | buyIntent e order reserved hnew _ _ horder => exact hcreated hnew horder hget
  | sellIntent e order p reserved hnew _ _ horder => exact hcreated hnew horder hget
  | moved _ id o _ _ _ hold => exact hchanged hold hget rfl ⟨rfl, rfl, rfl, rfl⟩
  | closedBuy _ id o _ _ _ hold => exact hchanged hold hget rfl ⟨rfl, rfl, rfl, rfl⟩
  | closedSell _ id o _ _ _ _ hold => exact hchanged hold hget rfl ⟨rfl, rfl, rfl, rfl⟩
  | buyFill fill => exact absurd rfl (hevent fill)
  | sellFill fill => exact absurd rfl (hevent fill)

/-- A fill that is accepted is recorded already, or it fills its order. -/
theorem applyFill_eq_ok {s next : LedgerState} {fill : FillReceived} (hs : s.WellKeyed)
    (h : applyFill rt s fill = .ok next) :
    ∃ o, s.orders.get? fill.intentId = some o ∧
      ((o.fillFingerprints.get? fill.fillId ≠ none ∧ next = s) ∨
        ∃ o', o.fillFingerprints.get? fill.fillId = none ∧ OrderFilled rt fill o o' ∧
          next.orders = s.orders.insert fill.intentId o') := by
  obtain ⟨o, hget, h⟩ := bind_eq_ok.mp h
  have hget := orderOf_eq_ok.mp hget
  refine ⟨o, hget, ?_⟩
  -- the filled order keeps its place
  have hid : ∀ {o'}, OrderFilled rt fill o o' → o'.intent.intentId = fill.intentId := by
    intro o' hfilled
    rw [hfilled.intent, hs.order hget]
  cases hfp : o.fillFingerprints.get? fill.fillId with
  | some existing =>
    simp only [hfp] at h
    split_ifs at h
    cases h
    exact .inl ⟨Option.some_ne_none _, rfl⟩
  | none =>
    simp only [hfp] at h
    cases hside : o.intent.side with
    | buy =>
      obtain ⟨o', p', cash, reservedCash, hfill, rfl⟩ := step_of_buyFill hget hfp hside h
      refine .inr ⟨o', rfl, hfill.filled, ?_⟩
      rw [← hid hfill.filled]
      rfl
    | sell =>
      obtain ⟨o', p, p', cash, net, allocated, hfill, rfl⟩ := step_of_sellFill hs hget hfp hside h
      refine .inr ⟨o', rfl, hfill.filled, ?_⟩
      rw [← hid hfill.filled]
      rfl

/-- What a run says of its orders. -/
structure FillHistory (events : List LedgerEvent) (s : LedgerState) : Prop where
  recorded : ∀ eventId, s.eventFingerprints.get? eventId = none ↔
    eventId ∉ events.map LedgerEvent.eventId
  order : ∀ intentId o, s.orders.get? intentId = some o → Books (acceptedFills events intentId) o
  absent : ∀ intentId, s.orders.get? intentId = none → acceptedFills events intentId = []

theorem fillHistory_fresh (currency : String) : FillHistory [] (.fresh currency) where
  recorded _ := ⟨fun _ => List.not_mem_nil, fun _ => rfl⟩
  order _ _ h := by cases h
  absent _ _ := rfl

/-- The orders after a fill. -/
theorem fillHistory_orders_of_fill {events : List LedgerEvent} {s next : LedgerState}
    {fill : FillReceived} (hkeyed : s.WellKeyed) (h : FillHistory events s)
    (hnew : (LedgerEvent.fillReceived fill).eventId ∉ events.map LedgerEvent.eventId)
    (hnext : applyFill rt s fill = .ok next) (intentId : String) :
    (∀ o, next.orders.get? intentId = some o →
        Books (acceptedFills (events ++ [.fillReceived fill]) intentId) o) ∧
      (next.orders.get? intentId = none →
        acceptedFills (events ++ [.fillReceived fill]) intentId = []) := by
  rw [acceptedFills_of_new hnew]
  obtain ⟨o, hget, ho⟩ := applyFill_eq_ok hkeyed hnext
  by_cases hid : fill.intentId = intentId
  · subst hid
    simp only [fillOf, if_true]
    have hbooks := h.order _ _ hget
    rcases ho with ⟨hrecorded, rfl⟩ | ⟨o', hfp, hfilled, horders⟩
    · -- the identifier is recorded, so that the fill is not counted again
      rw [addFirst, if_pos ((hbooks.mem_fillIds _).mpr hrecorded)]
      exact ⟨h.order _, h.absent _⟩
    · rw [horders, Dict.get?_insert_self]
      refine ⟨?_, fun hnone => by cases hnone⟩
      intro o₁ ho₁
      cases ho₁
      exact hbooks.filled hfp hfilled
  · simp only [fillOf, if_neg hid]
    have hsame : next.orders.get? intentId = s.orders.get? intentId := by
      rcases ho with ⟨-, rfl⟩ | ⟨o', -, -, horders⟩
      · rfl
      · rw [horders, Dict.get?_insert_of_ne _ _ hid]
    rw [hsame]
    exact ⟨h.order _, h.absent _⟩

/-- The orders after another event. -/
theorem fillHistory_orders_of_step {events : List LedgerEvent} {s next : LedgerState}
    {event : LedgerEvent} (hs : s.Invariants) (h : FillHistory events s)
    (hnew : event.eventId ∉ events.map LedgerEvent.eventId)
    (hevent : ∀ fill, event ≠ .fillReceived fill) (hnext : Step rt s event next)
    (intentId : String) :
    (∀ o, next.orders.get? intentId = some o →
        Books (acceptedFills (events ++ [event]) intentId) o) ∧
      (next.orders.get? intentId = none →
        acceptedFills (events ++ [event]) intentId = []) := by
  have hnone : fillOf intentId event = none := by
    cases event with
    | fillReceived fill => exact absurd rfl (hevent fill)
    | _ => rfl
  rw [acceptedFills_of_new hnew, hnone]
  dsimp only
  constructor
  · intro o' hget
    rcases sameFills_of_step hs.wellKeyed hnext hevent hget with ⟨o, hold, hsame⟩ | ⟨hold, hunfilled⟩
    · exact (h.order _ _ hold).of_sameFills hsame
    · rw [h.absent _ hold]
      exact .of_unfilled hunfilled
  · intro hgone
    refine h.absent _ ?_
    -- no step removes an order
    cases hold : s.orders.get? intentId with
    | none => rfl
    | some o =>
      obtain ⟨o', hget, -⟩ := (keepsBooks_of_step hs hnext).order intentId o hold
      rw [hgone] at hget
      cases hget

/-- **Every event keeps the fill history.** -/
theorem FillHistory.applyEvent {events : List LedgerEvent} {s s' : LedgerState}
    {event : LedgerEvent} (hs : s.Invariants) (h : FillHistory events s)
    (happly : Domain.applyEvent rt s event = .ok s') : FillHistory (events ++ [event]) s' := by
  rcases applyEvent_eq_ok.mp happly with ⟨hfp, rfl⟩ | ⟨hfp, next, hreduce, rfl, -⟩
  · -- a repeated event
    have hmem : event.eventId ∈ events.map LedgerEvent.eventId := by
      by_contra hmem
      rw [(h.recorded _).mpr hmem] at hfp
      cases hfp
    refine ⟨fun eventId => ?_, ?_, ?_⟩
    · rw [h.recorded, List.map_append, List.map_singleton, List.mem_append, List.mem_singleton,
        not_or]
      exact ⟨fun hid => ⟨hid, fun heq => hid (heq ▸ hmem)⟩, And.left⟩
    · intro intentId
      rw [acceptedFills_of_repeated hmem]
      exact h.order intentId
    · intro intentId
      rw [acceptedFills_of_repeated hmem]
      exact h.absent intentId
  · have hnew := (h.recorded _).mp hfp
    have hstep := step_of_reduce hs.wellKeyed hreduce
    have horders : ∀ intentId, (∀ o, next.orders.get? intentId = some o →
        Books (acceptedFills (events ++ [event]) intentId) o) ∧
        (next.orders.get? intentId = none →
          acceptedFills (events ++ [event]) intentId = []) := by
      intro intentId
      by_cases hfill : ∃ fill, event = .fillReceived fill
      · obtain ⟨fill, rfl⟩ := hfill
        exact fillHistory_orders_of_fill hs.wellKeyed h hnew hreduce intentId
      · exact fillHistory_orders_of_step hs h hnew (fun fill heq => hfill ⟨fill, heq⟩) hstep intentId
    refine ⟨fun eventId => ?_, fun intentId => (horders intentId).1,
      fun intentId => (horders intentId).2⟩
    rw [recordEvent, (keepsBooks_of_step hs hstep).events, Dict.get?_insert, List.map_append,
      List.map_singleton, List.mem_append, List.mem_singleton, not_or]
    split_ifs with hid
    · simp [hid]
    · rw [h.recorded]
      exact ⟨fun hmem => ⟨hmem, fun heq => hid heq.symm⟩, And.left⟩

theorem fillHistory_of_replay {events : List LedgerEvent} {currency : String} {s : LedgerState}
    (h : replay rt events currency = .ok s) : FillHistory events s := by
  refine (replay_induction (P := fun events s => s.Invariants ∧ FillHistory events s) ?_ ?_ h).2
  · intro s h
    obtain ⟨-, h⟩ := replay_eq_ok.mp h
    cases h
    exact ⟨invariants_fresh _, fillHistory_fresh _⟩
  · intro pre event s s' _ hevent ih
    exact ⟨applyEvent_invariants ih.1 hevent, ih.2.applyEvent ih.1 hevent⟩

/-! ## Positions -/

/-- The quantity that an order has added to one position. -/
def netFilled (k : String × String) (o : OrderAggregate) : ℤ :=
  if o.key = k then
    match o.intent.side with
    | .buy => o.filledQuantity
    | .sell => -o.filledQuantity
  else 0

/-- The quantity of one position that a SELL order reserves. -/
def sellHeld (k : String × String) (o : OrderAggregate) : ℤ :=
  if o.key = k ∧ o.intent.side = .sell then o.reservedQuantity else 0

/-- A sum over the orders of a ledger. -/
def orderSum (f : OrderAggregate → ℤ) (s : LedgerState) : ℤ := Dict.sumBy (fun _ o => f o) s.orders

/-- The quantity held at a key; zero without a position. -/
def quantityAt (s : LedgerState) (k : String × String) : ℤ :=
  ((s.positions.get? k).map fun p => p.quantity.val).getD 0

/-- The reserved quantity at a key; zero without a position. -/
def reservedAt (s : LedgerState) (k : String × String) : ℤ :=
  ((s.positions.get? k).map fun p => p.reservedQuantity.val).getD 0

/-- No position at a key, or an open one. -/
def OpenAt (s : LedgerState) (k : String × String) : Prop :=
  ∀ p, s.positions.get? k = some p → p.status = .open

/-- A position is the sum over the orders on it. -/
structure Holdings (s : LedgerState) (k : String × String) : Prop where
  quantity : quantityAt s k = orderSum (netFilled k) s
  reserved : reservedAt s k = orderSum (sellHeld k) s

/-- What a step does to the sums over the orders and to the positions. -/
structure Balanced (s next : LedgerState) (k : String × String) : Prop where
  openAt : OpenAt next k → OpenAt s k
  quantity : OpenAt next k →
    quantityAt next k - quantityAt s k = orderSum (netFilled k) next - orderSum (netFilled k) s
  reserved : OpenAt next k →
    reservedAt next k - reservedAt s k = orderSum (sellHeld k) next - orderSum (sellHeld k) s

theorem Balanced.holdings {s next : LedgerState} {k : String × String} (h : Balanced s next k)
    (hopen : OpenAt next k) (hs : Holdings s k) : Holdings next k := by
  have hquantity := h.quantity hopen
  have hreserved := h.reserved hopen
  rw [hs.quantity] at hquantity
  rw [hs.reserved] at hreserved
  constructor <;> omega

/-- The sum after an order is replaced by one with its intent. -/
theorem orderSum_replaceOrder (f : OrderAggregate → ℤ) {s t : LedgerState} {o o' : OrderAggregate}
    {intentId : String} (hs : s.WellKeyed) (hget : s.orders.get? intentId = some o)
    (ht : t.orders = s.orders) (hintent : o'.intent = o.intent) :
    orderSum f (replaceOrder t o') - orderSum f s = f o' - f o := by
  have horders : (replaceOrder t o').orders = s.orders.insert intentId o' := by
    rw [replaceOrder, ht, hintent, hs.order hget]
  rw [orderSum, orderSum, horders, Dict.sumBy_insert_of_some _ hget]
  ring

/-- The sum after an order is created. -/
theorem orderSum_create (f : OrderAggregate → ℤ) {s next : LedgerState} {o : OrderAggregate}
    (hnew : s.orders.get? o.intent.intentId = none)
    (horders : next.orders = s.orders.insert o.intent.intentId o) :
    orderSum f next - orderSum f s = f o := by
  rw [orderSum, orderSum, horders, Dict.sumBy_insert_of_none _ hnew]
  ring

theorem quantityAt_insert {s next : LedgerState} {p : Position}
    (h : next.positions = s.positions.insert p.key p) (k : String × String) :
    quantityAt next k = if p.key = k then p.quantity.val else quantityAt s k := by
  rw [quantityAt, h, Dict.get?_insert]
  split_ifs <;> rfl

theorem reservedAt_insert {s next : LedgerState} {p : Position}
    (h : next.positions = s.positions.insert p.key p) (k : String × String) :
    reservedAt next k = if p.key = k then p.reservedQuantity.val else reservedAt s k := by
  rw [reservedAt, h, Dict.get?_insert]
  split_ifs <;> rfl

/-- A position replaced by one of its status. -/
theorem openAt_of_insert {s next : LedgerState} {p : Position}
    (h : next.positions = s.positions.insert p.key p)
    (hstatus : ∀ q, s.positions.get? p.key = some q → q.status = p.status) {k : String × String}
    (hopen : OpenAt next k) : OpenAt s k := by
  intro q hq
  by_cases hk : p.key = k
  · subst hk
    rw [hstatus q hq]
    exact hopen p (by rw [h, Dict.get?_insert_self])
  · exact hopen q (by rw [h, Dict.get?_insert_of_ne _ _ hk, hq])

/-- A fill that may create its position. -/
theorem quantityAt_positionOrEmpty (s : LedgerState) (o : OrderAggregate) :
    quantityAt s o.key = (positionOrEmpty s o).quantity.val ∧
      reservedAt s o.key = (positionOrEmpty s o).reservedQuantity.val := by
  rw [quantityAt, reservedAt, positionOrEmpty]
  cases s.positions.get? o.key with
  | none => exact ⟨rfl, rfl⟩
  | some p => exact ⟨rfl, rfl⟩

/-- A step that leaves the positions alone. -/
theorem balanced_of_orders {s next : LedgerState} {k : String × String}
    (hpositions : next.positions = s.positions)
    (hnet : orderSum (netFilled k) next - orderSum (netFilled k) s = 0)
    (hheld : orderSum (sellHeld k) next - orderSum (sellHeld k) s = 0) : Balanced s next k where
  openAt hopen p hp := hopen p (hpositions ▸ hp)
  quantity _ := by rw [hnet, quantityAt, hpositions, quantityAt, sub_self]
  reserved _ := by rw [hheld, reservedAt, hpositions, reservedAt, sub_self]

/-- A step that replaces one position by one of its status. -/
theorem balanced_of_position {s next : LedgerState} {k : String × String} {p : Position}
    (hpositions : next.positions = s.positions.insert p.key p)
    (hstatus : ∀ q, s.positions.get? p.key = some q → q.status = p.status)
    (hnet : orderSum (netFilled k) next - orderSum (netFilled k) s =
      if p.key = k then p.quantity.val - quantityAt s p.key else 0)
    (hheld : orderSum (sellHeld k) next - orderSum (sellHeld k) s =
      if p.key = k then p.reservedQuantity.val - reservedAt s p.key else 0) :
    Balanced s next k where
  openAt := openAt_of_insert hpositions hstatus
  quantity _ := by
    rw [hnet, quantityAt_insert hpositions]
    split_ifs with hk
    · rw [hk]
    · exact sub_self _
  reserved _ := by
    rw [hheld, reservedAt_insert hpositions]
    split_ifs with hk
    · rw [hk]
    · exact sub_self _

/-- The same for a position that is known. -/
theorem balanced_of_replaced {s next : LedgerState} {k : String × String} {p : Position}
    (p' : Position) (hpositions : next.positions = s.positions.insert p'.key p')
    (hget : s.positions.get? p'.key = some p) (hstatus : p'.status = p.status)
    (hnet : orderSum (netFilled k) next - orderSum (netFilled k) s =
      if p'.key = k then p'.quantity.val - p.quantity.val else 0)
    (hheld : orderSum (sellHeld k) next - orderSum (sellHeld k) s =
      if p'.key = k then p'.reservedQuantity.val - p.reservedQuantity.val else 0) :
    Balanced s next k := by
  refine balanced_of_position hpositions ?_ ?_ ?_
  · intro q hq
    rw [hget] at hq
    cases hq
    exact hstatus.symm
  · rw [hnet, quantityAt, hget]
    rfl
  · rw [hheld, reservedAt, hget]
    rfl

theorem netFilled_buy {k : String × String} {o : OrderAggregate} (h : o.intent.side = .buy) :
    netFilled k o = if o.key = k then o.filledQuantity.val else 0 := by
  rw [netFilled, h]

theorem netFilled_sell {k : String × String} {o : OrderAggregate} (h : o.intent.side = .sell) :
    netFilled k o = if o.key = k then -o.filledQuantity.val else 0 := by
  rw [netFilled, h]

theorem sellHeld_buy {k : String × String} {o : OrderAggregate} (h : o.intent.side = .buy) :
    sellHeld k o = 0 := by
  rw [sellHeld, if_neg]
  rintro ⟨-, hsell⟩
  rw [h] at hsell
  cases hsell

theorem sellHeld_sell {k : String × String} {o : OrderAggregate} (h : o.intent.side = .sell) :
    sellHeld k o = if o.key = k then o.reservedQuantity.val else 0 := by
  rw [sellHeld]
  simp only [h, and_true]

/-- **A step keeps positions and orders in balance.** -/
theorem balanced_of_step {s next : LedgerState} {event : LedgerEvent} (hs : s.Invariants)
    (h : Step rt s event next) (k : String × String) : Balanced s next k := by
  have hkeyed := hs.wellKeyed
  cases h with
  | unchanged => exact balanced_of_orders rfl (sub_self _) (sub_self _)
  | opened => exact balanced_of_orders rfl (sub_self _) (sub_self _)
  | recorded => exact balanced_of_orders rfl (sub_self _) (sub_self _)
  | buyIntent e order reserved hnew hside _ horder =>
    obtain ⟨hintent, -, hfilled, -⟩ := OrderAggregate.new_eq_ok horder
    rw [← hintent] at hnew hside
    refine balanced_of_orders rfl ?_ ?_
    · rw [orderSum_create _ hnew rfl, netFilled_buy hside, hfilled]
      simp
    · rw [orderSum_create _ hnew rfl, sellHeld_buy hside]
  | sellIntent e order p reserved hnew hside _ horder hposition hopen havailable hreserved =>
    obtain ⟨hintent, -, hfilled, -, -, -, -, hheld⟩ := OrderAggregate.new_eq_ok horder
    have hkey : order.key = p.key := by
      rw [hkeyed.position hposition, OrderAggregate.key, hintent]
    have hposition : s.positions.get? p.key = some p := hkeyed.position hposition ▸ hposition
    rw [if_pos hside] at hheld
    rw [← hintent] at hnew hside
    refine balanced_of_replaced { p with reservedQuantity := reserved } rfl hposition rfl ?_ ?_
    · rw [orderSum_create _ hnew rfl, netFilled_sell hside, hfilled]
      simp
    · rw [orderSum_create _ hnew rfl, sellHeld_sell hside, hheld, hkey]
      show _ = if p.key = k then reserved.val - p.reservedQuantity.val else 0
      rw [hreserved, add_sub_cancel_left]
  | moved event id o target _ _ hget =>
    refine balanced_of_orders rfl ?_ ?_
    · rw [orderSum_replaceOrder _ hkeyed hget, sub_eq_zero] <;> rfl
    · rw [orderSum_replaceOrder _ hkeyed hget, sub_eq_zero] <;> rfl
  | closedBuy event id o target reason reserved hget hside =>
    refine balanced_of_orders rfl ?_ ?_
    · rw [orderSum_replaceOrder _ hkeyed hget, sub_eq_zero] <;> rfl
    · rw [orderSum_replaceOrder _ hkeyed hget, sub_eq_zero] <;> rfl
  | closedSell event id o target reason p reserved hget hside htarget hallowed hposition hreserved =>
    have hkey : o.key = p.key := (hkeyed.position hposition).symm
    rw [hkey] at hposition
    refine balanced_of_replaced { p with reservedQuantity := reserved } rfl hposition rfl ?_ ?_
    · rw [orderSum_replaceOrder _ hkeyed hget]
      · show netFilled k o - netFilled k o = if p.key = k then p.quantity.val - p.quantity.val else 0
        simp
      all_goals rfl
    · rw [orderSum_replaceOrder _ hkeyed hget, sellHeld_sell hside, sellHeld]
      · show (if o.key = k ∧ o.intent.side = .sell then 0 else 0) -
            (if o.key = k then o.reservedQuantity.val else 0) =
          if p.key = k then reserved.val - p.reservedQuantity.val else 0
        rw [hreserved, ite_self, hkey]
        split_ifs <;> omega
      all_goals rfl
  | buyFill fill o o' p' cash reservedCash h =>
    have hkey := h.key_eq hkeyed
    have hside : o'.intent.side = .buy := by rw [h.filled.intent, h.side]
    have hkey' : o'.key = o.key := by rw [OrderAggregate.key, h.filled.intent, OrderAggregate.key]
    have hsum : ∀ f, orderSum f (afterBuyFill s o' p' cash reservedCash) - orderSum f s =
        f o' - f o :=
      fun f => orderSum_replaceOrder f hkeyed h.get rfl h.filled.intent
    have hstatus : p'.status = .open := by rw [h.position]; exact h.position_open
    refine balanced_of_position (p := p') rfl ?_ ?_ ?_
    · intro q hq
      have hopen := h.position_open
      rw [positionOrEmpty, ← hkey, hq] at hopen
      rw [hstatus]
      exact hopen
    · rw [hsum, netFilled_buy hside,
        netFilled_buy h.side, hkey', h.filled.filled, hkey, (quantityAt_positionOrEmpty s o).1,
        h.quantity]
      split_ifs <;> omega
    · have hreserved : p'.reservedQuantity = (positionOrEmpty s o).reservedQuantity := by
        rw [h.position]
      rw [hsum, sellHeld_buy hside,
        sellHeld_buy h.side, hkey, (quantityAt_positionOrEmpty s o).2, hreserved]
      simp
  | sellFill fill o o' p p' cash net allocated h =>
    have hkey := h.key_eq hkeyed
    have hside : o'.intent.side = .sell := by rw [h.filled.intent, h.side]
    have hkey' : o'.key = o.key := by rw [OrderAggregate.key, h.filled.intent, OrderAggregate.key]
    have hsum : ∀ f, orderSum f (replaceOrder (afterSale s p' cash) o') - orderSum f s =
        f o' - f o :=
      fun f => orderSum_replaceOrder f hkeyed h.get rfl h.filled.intent
    have hposition := h.position
    rw [← hkey] at hposition
    refine balanced_of_replaced p' rfl hposition (by rw [h.position']) ?_ ?_
    · rw [hsum, netFilled_sell hside,
        netFilled_sell h.side, hkey', h.filled.filled, h.quantity, hkey]
      split_ifs <;> omega
    · rw [hsum, sellHeld_sell hside,
        sellHeld_sell h.side, hkey', h.reserved, hkey]
      split_ifs <;> omega
  | settled e p p' cash net h =>
    have hpositions : (afterSale s p' cash).positions = s.positions.insert p'.key p' := rfl
    have hclosed : p'.status = .settled := by rw [h.position']
    -- the key of the settlement is not open afterwards
    have hne : OpenAt (afterSale s p' cash) k → p'.key ≠ k := by
      rintro hopen rfl
      rw [hopen p' (by rw [hpositions, Dict.get?_insert_self])] at hclosed
      cases hclosed
    constructor
    · intro hopen q hq
      exact hopen q (by rw [hpositions, Dict.get?_insert_of_ne _ _ (hne hopen), hq])
    · intro hopen
      rw [quantityAt_insert hpositions, if_neg (hne hopen), sub_self]
      exact (sub_self _).symm
    · intro hopen
      rw [reservedAt_insert hpositions, if_neg (hne hopen), sub_self]
      exact (sub_self _).symm

theorem holdings_of_reachable {s : LedgerState} (h : Reachable rt s) (k : String × String)
    (hopen : OpenAt s k) : Holdings s k := by
  refine Reachable.preserves (P := fun s => ∀ k, OpenAt s k → Holdings s k) ?_ ?_ ?_ h k hopen
  · exact fun currency k _ => ⟨rfl, rfl⟩
  · intro s eventId eventFp hs k hopen
    exact ⟨(hs k hopen).quantity, (hs k hopen).reserved⟩
  · intro s event next hs _ hheld hstep k hopen
    have hbalanced := balanced_of_step hs hstep k
    exact hbalanced.holdings hopen (hheld k (hbalanced.openAt hopen))

/-! ## The accounting -/

/-- The quantity of a list of fills. -/
def totalQuantity (fills : List FillReceived) : ℤ := (fills.map fun f => f.quantity.val).sum

/-- The fills of one side on one position, over all orders on it. -/
def filledOn (events : List LedgerEvent) (s : LedgerState) (side : Side) (k : String × String) : ℤ :=
  Dict.sumBy
    (fun intentId o =>
      if o.intent.side = side ∧ o.key = k then totalQuantity (acceptedFills events intentId) else 0)
    s.orders

/-- What is left to fill of the live SELL orders on one position. -/
def liveSellRemaining (s : LedgerState) (k : String × String) : ℤ :=
  Dict.sumBy
    (fun _ o =>
      if o.intent.side = .sell ∧ o.key = k ∧ o.Live then o.intent.quantity - o.filledQuantity else 0)
    s.orders

/-- The orders' quantities are those of their fills. -/
theorem orderSum_netFilled {events : List LedgerEvent} {s : LedgerState} (h : FillHistory events s)
    (k : String × String) :
    orderSum (netFilled k) s = filledOn events s .buy k - filledOn events s .sell k := by
  rw [filledOn, filledOn, ← Dict.sumBy_sub, orderSum]
  refine Dict.sumBy_congr ?_
  intro entry hentry
  have hfilled : entry.2.filledQuantity.val = totalQuantity (acceptedFills events entry.1) :=
    (h.order _ _ (Dict.get?_eq_some.mpr hentry)).filledQuantity
  cases hside : entry.2.intent.side with
  | buy =>
    rw [netFilled_buy hside, hfilled]
    simp
  | sell =>
    rw [netFilled_sell hside, hfilled]
    by_cases hk : entry.2.key = k <;> simp [hk]

/-- A SELL order reserves what is left of it while it is live. -/
theorem orderSum_sellHeld {s : LedgerState} (hs : s.Invariants) (k : String × String) :
    orderSum (sellHeld k) s = liveSellRemaining s k := by
  refine Dict.sumBy_congr ?_
  intro entry hentry
  have ho := hs.orders entry hentry
  cases hside : entry.2.intent.side with
  | buy =>
    rw [sellHeld_buy hside]
    simp
  | sell =>
    rw [sellHeld_sell hside]
    simp only [true_and]
    cases hterminal : entry.2.state.isTerminal with
    | true =>
      rw [(ho.terminal hterminal).2]
      simp [OrderAggregate.Live, hterminal]
    | false =>
      rw [ho.sell_live hside hterminal]
      simp [OrderAggregate.Live, hterminal]

/-- No delivered fill is lost, and none is counted twice. -/
theorem count_acceptedFills (hrt : rt.CollisionFree) {events : List LedgerEvent}
    {currency : String} {s : LedgerState} (h : replay rt events currency = .ok s)
    {fill : FillReceived} (hmem : .fillReceived fill ∈ events) :
    ((acceptedFills events fill.intentId).map FillReceived.fillId).count fill.fillId = 1 := by
  obtain ⟨o, hget, hfp⟩ := delivered_of_mem hrt h hmem
  refine List.count_eq_one_of_mem (acceptedFills_nodup _ _) ?_
  rw [((fillHistory_of_replay h).order _ _ hget).mem_fillIds, hfp]
  exact Option.some_ne_none _

/-- **Fill accounting loses and duplicates nothing.** -/
theorem fill_accounting (rt : Runtime) (events : List LedgerEvent) (currency : String)
    (s : LedgerState) (h : replay rt events currency = .ok s) :
    (∀ intentId o, s.orders.get? intentId = some o → Books (acceptedFills events intentId) o) ∧
    ∀ k p, s.positions.get? k = some p → p.status = .open →
      p.quantity.val = filledOn events s .buy k - filledOn events s .sell k ∧
      p.reservedQuantity.val = liveSellRemaining s k := by
  have hhistory := fillHistory_of_replay h
  have hreachable : Reachable rt s := ⟨events, currency, h⟩
  refine ⟨hhistory.order, ?_⟩
  intro k p hp hopen
  have hopenAt : OpenAt s k := by
    intro q hq
    rw [hp] at hq
    cases hq
    exact hopen
  have hholdings := holdings_of_reachable hreachable k hopenAt
  have hquantity := hholdings.quantity
  have hreserved := hholdings.reserved
  rw [quantityAt, hp] at hquantity
  rw [reservedAt, hp] at hreserved
  rw [← orderSum_netFilled hhistory, ← orderSum_sellHeld hreachable.invariants]
  exact ⟨hquantity, hreserved⟩

/-- Before the settlement of the sample run one share is left of two fills and a sale. -/
theorem fill_accounting_roundTrip : ∃ s p,
    replay .utc (Sample.roundTrip.take 9) "USD" = .ok s ∧
    s.positions.get? ("market", "yes") = some p ∧ p.quantity.val = 2000000 ∧
    p.quantity.val = filledOn (Sample.roundTrip.take 9) s .buy ("market", "yes") -
      filledOn (Sample.roundTrip.take 9) s .sell ("market", "yes") := by
  have hs := eq_ok_okOr (x := replay .utc (Sample.roundTrip.take 9) "USD") (by decide +kernel)
    (.fresh "USD")
  have hp := (Option.some_get (x := (okOr (replay .utc (Sample.roundTrip.take 9) "USD")
    (.fresh "USD")).positions.get? ("market", "yes")) (by decide +kernel)).symm
  exact ⟨_, _, hs, hp, by decide,
    ((fill_accounting .utc _ "USD" _ hs).2 _ _ hp (by decide +kernel)).1⟩

end WeatherBot.Ledger
