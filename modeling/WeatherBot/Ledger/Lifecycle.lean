import WeatherBot.Ledger.Run

/-!
# The life of an order

Seen alone, an order starts with `OrderAggregate.new` and goes by `OrderStep`.
What holds along its life is proved by the four cases of `OrderStep`.

* `order_of_step`: what a ledger step does to one order.
* `OrderLifecycle`: how the state of an order agrees with its fills.
* `lifecycle_agrees`: **in every run the states agree with the fills**, except
  that an order which was unknown after a fill may be acknowledged or rejected.
-/

namespace WeatherBot.Ledger

open WeatherBot.Common
open WeatherBot.Domain

variable {rt : Runtime}

/-! ## Runs with their history -/

/-- Induction over a run, with the events before each step at hand. -/
theorem replay_induction {currency : String} {P : List LedgerEvent → LedgerState → Prop}
    (hnil : ∀ s, replay rt [] currency = .ok s → P [] s)
    (hstep : ∀ pre event s s', replay rt pre currency = .ok s → applyEvent rt s event = .ok s' →
      P pre s → P (pre ++ [event]) s') :
    ∀ {events s}, replay rt events currency = .ok s → P events s := by
  intro events
  induction events using List.reverseRecOn with
  | nil => exact fun h => hnil _ h
  | append_singleton pre event ih =>
    intro s' h
    obtain ⟨hcurrency, h⟩ := replay_eq_ok.mp h
    obtain ⟨s, hpre, h⟩ := foldlM_append_eq_ok.mp h
    obtain ⟨t, hevent, h⟩ := foldlM_cons_eq_ok.mp h
    cases h
    have hpre : replay rt pre currency = .ok s := replay_eq_ok.mpr ⟨hcurrency, hpre⟩
    exact hstep pre event s _ hpre hevent (ih hpre)

/-! ## One order -/

/-- What a step of the ledger does to one order. -/
inductive OrderStep (rt : Runtime) (o : OrderAggregate) : OrderAggregate → Prop
  | moved (target : OrderState) (backendOrderId unknownReason : Option String)
      (htarget : target = .submitted ∨ target = .acknowledged ∨ target = .unknown)
      (hallowed : target ∈ allowedTransitions o.state) :
      OrderStep rt o { o with state := target, backendOrderId, unknownReason }
  | closed (target : OrderState) (reason : String) (reservedCash : Money)
      (reservedQuantity : Micros)
      (htarget : target = .rejected ∨ target = .cancelled)
      (hallowed : target ∈ allowedTransitions o.state) :
      OrderStep rt o { o with
        reservedCash
        reservedQuantity
        state := target
        terminalReason := some reason
        unknownReason := none }
  | filled (fill : FillReceived) (o' : OrderAggregate)
      (hnew : o.fillFingerprints.get? fill.fillId = none) (h : OrderFilled rt fill o o') :
      OrderStep rt o o'

theorem OrderStep.intent {o o' : OrderAggregate} (h : OrderStep rt o o') : o'.intent = o.intent := by
  cases h with
  | moved => rfl
  | closed => rfl
  | filled _ _ _ h => exact h.intent

/-- No step changes a terminal order. -/
theorem OrderStep.live {o o' : OrderAggregate} (h : OrderStep rt o o') : o.Live := by
  cases h with
  | moved _ _ _ _ hallowed => exact not_isTerminal_of_mem_allowedTransitions hallowed
  | closed _ _ _ _ _ hallowed => exact not_isTerminal_of_mem_allowedTransitions hallowed
  | filled _ _ _ h => exact not_isTerminal_of_mem_allowedTransitions h.allowed

/-- A lookup after an order is replaced. -/
theorem get?_replaceOrder {orders : Dict String OrderAggregate} {o o' o₁ : OrderAggregate}
    {id intentId : String} (hget : orders.get? id = some o) (hid : o.intent.intentId = id)
    (hintent : o'.intent = o.intent)
    (h : (orders.insert o'.intent.intentId o').get? intentId = some o₁) :
    orders.get? intentId = some o₁ ∨ (orders.get? intentId = some o ∧ o₁ = o') := by
  rw [hintent, hid, Dict.get?_insert] at h
  split_ifs at h with hk
  · cases h
    subst hk
    exact .inr ⟨hget, rfl⟩
  · exact .inl h

/-- **An order after a step is an old one, a new one, or an old one that made a step.** -/
theorem order_of_step {s next : LedgerState} {event : LedgerEvent} (hs : s.WellKeyed)
    (h : Step rt s event next) {intentId : String} {o' : OrderAggregate}
    (hget : next.orders.get? intentId = some o') :
    s.orders.get? intentId = some o' ∨
      (s.orders.get? intentId = none ∧ ∃ e, event = .orderIntentCreated e ∧
        e.intent.intentId = intentId ∧ OrderAggregate.new e.intent = .ok o') ∨
      ∃ o, s.orders.get? intentId = some o ∧ OrderStep rt o o' := by
  -- a new order has an identifier that no order had
  have hcreated : ∀ {i : OrderIntent} {order : OrderAggregate}, OrderAggregate.new i = .ok order →
      (s.orders.insert order.intent.intentId order).get? intentId = some o' →
      s.orders.get? intentId = some o' ∨ (i.intentId = intentId ∧ order = o') := by
    intro i order horder hget
    rw [(OrderAggregate.new_eq_ok horder).1, Dict.get?_insert] at hget
    split_ifs at hget with hk
    · exact .inr ⟨hk, Option.some.inj hget⟩
    · exact .inl hget
  have hchanged : ∀ {id : String} {o o₁ : OrderAggregate}, s.orders.get? id = some o →
      OrderStep rt o o₁ → (s.orders.insert o₁.intent.intentId o₁).get? intentId = some o' →
      s.orders.get? intentId = some o' ∨ ∃ o, s.orders.get? intentId = some o ∧ OrderStep rt o o' := by
    intro id o o₁ hold hstep hget
    rcases get?_replaceOrder hold (hs.order hold) hstep.intent hget with h | ⟨h, rfl⟩
    · exact .inl h
    · exact .inr ⟨o, h, hstep⟩
  cases h with
  | unchanged => exact .inl hget
  | opened => exact .inl hget
  | recorded => exact .inl hget
  | settled => exact .inl hget
  | buyIntent e order reserved hnew _ _ horder =>
    rcases hcreated horder hget with h | ⟨hid, rfl⟩
    · exact .inl h
    · exact .inr (.inl ⟨hid ▸ hnew, e, rfl, hid, horder⟩)
  | sellIntent e order p reserved hnew _ _ horder =>
    rcases hcreated horder hget with h | ⟨hid, rfl⟩
    · exact .inl h
    · exact .inr (.inl ⟨hid ▸ hnew, e, rfl, hid, horder⟩)
  | moved _ id o target backendOrderId unknownReason hold htarget hallowed =>
    rcases hchanged hold (.moved target backendOrderId unknownReason htarget hallowed) hget with h | h
    · exact .inl h
    · exact .inr (.inr h)
  | closedBuy _ id o target reason reserved hold _ htarget hallowed =>
    rcases hchanged hold (.closed target reason (Money.zero s.currency) o.reservedQuantity htarget
      hallowed) hget with h | h
    · exact .inl h
    · exact .inr (.inr h)
  | closedSell _ id o target reason p reserved hold _ htarget hallowed =>
    rcases hchanged hold (.closed target reason o.reservedCash Micros.zero htarget hallowed) hget
      with h | h
    · exact .inl h
    · exact .inr (.inr h)
  | buyFill fill o o₁ _ _ _ hfill =>
    rcases hchanged hfill.get (.filled fill o₁ hfill.new hfill.filled) hget with h | h
    · exact .inl h
    · exact .inr (.inr h)
  | sellFill fill o o₁ _ _ _ _ _ hfill =>
    rcases hchanged hfill.get (.filled fill o₁ hfill.new hfill.filled) hget with h | h
    · exact .inl h
    · exact .inr (.inr h)

/-! ## States and fills -/

/-- An order without a trace of a fill. -/
structure Unfilled (o : OrderAggregate) : Prop where
  filledQuantity : o.filledQuantity.val = 0
  grossValue : o.grossValue.amount.val = 0
  fees : o.fees.amount.val = 0
  fillFingerprints : o.fillFingerprints.entries = []

/-- How the state of an order agrees with its fills. `wasUnknown` says that the order was unknown
after a fill at an earlier time. -/
structure OrderLifecycle (wasUnknown : Prop) (o : OrderAggregate) : Prop where
  filled : o.state = .filled ↔ o.filledQuantity.val = o.intent.quantity.val
  partiallyFilled : o.state = .partiallyFilled →
    0 < o.filledQuantity.val ∧ o.filledQuantity.val < o.intent.quantity.val
  untouched : o.state = .created ∨ o.state = .submitted → Unfilled o
  answered : o.state = .acknowledged ∨ o.state = .rejected →
    o.filledQuantity.val < o.intent.quantity.val ∧ (Unfilled o ∨ wasUnknown)

/-- What is kept of every order besides `OrderLifecycle`. -/
structure OrderFills (o : OrderAggregate) : Prop where
  unfilled_or : Unfilled o ∨ 0 < o.filledQuantity.val
  filled_le : 0 ≤ o.filledQuantity.val ∧ o.filledQuantity.val ≤ o.intent.quantity.val

theorem unfilled_of_new {i : OrderIntent} {o : OrderAggregate} (h : OrderAggregate.new i = .ok o) :
    Unfilled o := by
  obtain ⟨-, -, hfilled, hgross, hfees, hfps, -⟩ := OrderAggregate.new_eq_ok h
  exact ⟨by rw [hfilled]; rfl, by rw [hgross]; rfl, by rw [hfees]; rfl, by rw [hfps]; rfl⟩

theorem orderFills_of_new {i : OrderIntent} {o : OrderAggregate} (h : OrderAggregate.new i = .ok o) :
    OrderFills o := by
  have hzero := (unfilled_of_new h).filledQuantity
  have hpos := o.intent.quantity_pos
  exact ⟨.inl (unfilled_of_new h), by omega, by omega⟩

/-- A fill adds to the filled quantity; nothing else touches it. -/
theorem OrderFills.step {o o' : OrderAggregate} (h : OrderFills o) (hstep : OrderStep rt o o') :
    OrderFills o' := by
  cases hstep with
  | moved =>
    refine ⟨?_, h.filled_le⟩
    rcases h.unfilled_or with ⟨h1, h2, h3, h4⟩ | h
    · exact .inl ⟨h1, h2, h3, h4⟩
    · exact .inr h
  | closed =>
    refine ⟨?_, h.filled_le⟩
    rcases h.unfilled_or with ⟨h1, h2, h3, h4⟩ | h
    · exact .inl ⟨h1, h2, h3, h4⟩
    · exact .inr h
  | filled fill _ _ hf =>
    have hq := fill.quantity_pos
    have h0 := h.filled_le.1
    have h1 := hf.filled
    have h2 := hf.filled_le
    rw [← hf.intent] at h2
    exact ⟨.inr (by omega), by omega, h2⟩

/-- An order that is not filled has something left to fill. -/
theorem OrderLifecycle.lt_of_live {wasUnknown : Prop} {o : OrderAggregate}
    (h : OrderLifecycle wasUnknown o) (hfills : OrderFills o) (hlive : o.Live) :
    o.filledQuantity.val < o.intent.quantity.val := by
  refine lt_of_le_of_ne hfills.filled_le.2 ?_
  intro heq
  rw [OrderAggregate.Live, h.filled.mpr heq] at hlive
  cases hlive

theorem orderLifecycle_of_new {wasUnknown : Prop} {i : OrderIntent} {o : OrderAggregate}
    (h : OrderAggregate.new i = .ok o) : OrderLifecycle wasUnknown o := by
  have hstate := (OrderAggregate.new_eq_ok h).2.1
  have hzero := (unfilled_of_new h).filledQuantity
  have hpos := o.intent.quantity_pos
  constructor
  · rw [hstate, hzero]
    exact ⟨fun h => absurd h (by decide), fun h => by omega⟩
  · rw [hstate]
    exact fun h => absurd h (by decide)
  · exact fun _ => unfilled_of_new h
  · rw [hstate]
    rintro (h | h) <;> cases h

theorem OrderLifecycle.mono {p q : Prop} (hpq : p → q) {o : OrderAggregate} (h : OrderLifecycle p o) :
    OrderLifecycle q o := by
  refine ⟨h.filled, h.partiallyFilled, h.untouched, ?_⟩
  intro hstate
  obtain ⟨hlt, h⟩ := h.answered hstate
  rcases h with h | h
  · exact ⟨hlt, .inl h⟩
  · exact ⟨hlt, .inr (hpq h)⟩

/-- **A step of an order keeps the agreement.** An order that is unknown before the step and has
been filled counts as unknown after a fill. -/
theorem OrderLifecycle.step {p q : Prop} {o o' : OrderAggregate}
    (h : OrderLifecycle p o) (hfills : OrderFills o)
    (hunknown : o.state = .unknown → 0 < o.filledQuantity.val → q) (hstep : OrderStep rt o o') :
    OrderLifecycle q o' := by
  have hlt := h.lt_of_live hfills hstep.live
  -- what the fills of an order say when it is answered
  have hanswered : ∀ target, target = .acknowledged ∨ target = .rejected →
      target ∈ allowedTransitions o.state → Unfilled o ∨ q := by
    intro target htarget hallowed
    cases hstate : o.state with
    | created => exact .inl (h.untouched (.inl hstate))
    | submitted => exact .inl (h.untouched (.inr hstate))
    | unknown =>
      rcases hfills.unfilled_or with hu | hpos
      · exact .inl hu
      · exact .inr (hunknown hstate hpos)
    | acknowledged =>
      rw [hstate] at hallowed
      rcases htarget with rfl | rfl <;> exact absurd hallowed (by decide)
    | partiallyFilled =>
      rw [hstate] at hallowed
      rcases htarget with rfl | rfl <;> exact absurd hallowed (by decide)
    | filled => rw [hstate] at hallowed; exact absurd hallowed List.not_mem_nil
    | rejected => rw [hstate] at hallowed; exact absurd hallowed List.not_mem_nil
    | cancelled => rw [hstate] at hallowed; exact absurd hallowed List.not_mem_nil
  have hkeep : Unfilled o → ∀ o₁ : OrderAggregate, o₁.filledQuantity = o.filledQuantity →
      o₁.grossValue = o.grossValue → o₁.fees = o.fees →
      o₁.fillFingerprints = o.fillFingerprints → Unfilled o₁ := by
    rintro ⟨h1, h2, h3, h4⟩ o₁ e1 e2 e3 e4
    exact ⟨by rw [e1, h1], by rw [e2, h2], by rw [e3, h3], by rw [e4, h4]⟩
  cases hstep with
  | moved target backendOrderId unknownReason htarget hallowed =>
    constructor
    · constructor
      · rintro rfl
        rcases htarget with h | h | h <;> cases h
      · exact fun heq => absurd heq hlt.ne
    · rintro rfl
      rcases htarget with h | h | h <;> cases h
    · rintro (rfl | rfl)
      · rcases htarget with h | h | h <;> cases h
      · -- only a created order is submitted
        have hcreated : o.state = .created := by
          cases hstate : o.state <;> rw [hstate] at hallowed <;>
            first | rfl | exact absurd hallowed (by decide)
        exact hkeep (h.untouched (.inl hcreated)) _ rfl rfl rfl rfl
    · intro hstate
      refine ⟨hlt, ?_⟩
      rcases hanswered target hstate hallowed with hu | hq
      · exact .inl (hkeep hu _ rfl rfl rfl rfl)
      · exact .inr hq
  | closed target reason reservedCash reservedQuantity htarget hallowed =>
    constructor
    · constructor
      · rintro rfl
        rcases htarget with h | h <;> cases h
      · exact fun heq => absurd heq hlt.ne
    · rintro rfl
      rcases htarget with h | h <;> cases h
    · rintro (rfl | rfl) <;> rcases htarget with h | h <;> cases h
    · intro hstate
      refine ⟨hlt, ?_⟩
      rcases hanswered target hstate hallowed with hu | hq
      · exact .inl (hkeep hu _ rfl rfl rfl rfl)
      · exact .inr hq
  | filled fill _ _ hf =>
    have hpos := fill.quantity_pos
    have h0 := hfills.filled_le.1
    have h1 := hf.filled
    have h2 := hf.filled_le
    have hstate := hf.state
    rw [← hf.intent] at h2 hstate
    by_cases hall : o'.filledQuantity = o'.intent.quantity
    · rw [if_pos hall] at hstate
      constructor
      · exact ⟨fun _ => by rw [hall], fun _ => hstate⟩
      all_goals rw [hstate]
      · exact fun h => absurd h (by decide)
      · rintro (h | h) <;> cases h
      · rintro (h | h) <;> cases h
    · rw [if_neg hall] at hstate
      have hne : o'.filledQuantity.val ≠ o'.intent.quantity.val := fun h => hall (Micros.ext h)
      constructor
      · rw [hstate]
        exact ⟨fun h => absurd h (by decide), fun h => absurd h hne⟩
      all_goals rw [hstate]
      · exact fun _ => ⟨by omega, lt_of_le_of_ne h2 hne⟩
      · rintro (h | h) <;> cases h
      · rintro (h | h) <;> cases h

/-! ## Runs -/

/-- At some point of the run the order was unknown and had been filled. -/
def WasUnknown (rt : Runtime) (currency : String) (events : List LedgerEvent) (intentId : String) :
    Prop :=
  ∃ pre t o, pre <+: events ∧ replay rt pre currency = .ok t ∧ t.orders.get? intentId = some o ∧
    o.state = .unknown ∧ 0 < o.filledQuantity.val

theorem WasUnknown.mono {currency : String} {events events' : List LedgerEvent} {intentId : String}
    (hpre : events <+: events') (h : WasUnknown rt currency events intentId) :
    WasUnknown rt currency events' intentId := by
  obtain ⟨pre, t, o, hp, h⟩ := h
  exact ⟨pre, t, o, hp.trans hpre, h⟩

theorem lifecycle_of_run {currency : String} {events : List LedgerEvent} {s : LedgerState}
    (h : replay rt events currency = .ok s) : ∀ intentId o, s.orders.get? intentId = some o →
      OrderFills o ∧ OrderLifecycle (WasUnknown rt currency events intentId) o := by
  refine replay_induction (P := fun events s => ∀ intentId o, s.orders.get? intentId = some o →
    OrderFills o ∧ OrderLifecycle (WasUnknown rt currency events intentId) o) ?_ ?_ h
  · intro s h intentId o hget
    obtain ⟨-, h⟩ := replay_eq_ok.mp h
    cases h
    cases hget
  · intro pre event s s' hpre hevent ih intentId o' hget
    have hstart : pre <+: pre ++ [event] := List.prefix_append _ _
    have hs : s.Invariants := Reachable.invariants ⟨pre, currency, hpre⟩
    have hmono : ∀ {o}, OrderLifecycle (WasUnknown rt currency pre intentId) o →
        OrderLifecycle (WasUnknown rt currency (pre ++ [event]) intentId) o :=
      fun h => h.mono (WasUnknown.mono hstart)
    rcases applyEvent_step hs hevent with rfl | ⟨next, hnext, -, rfl⟩
    · obtain ⟨hfills, hlife⟩ := ih intentId o' hget
      exact ⟨hfills, hmono hlife⟩
    rcases order_of_step hs.wellKeyed hnext hget with hold | ⟨-, e, -, -, hnew⟩ | ⟨o, hold, hstep⟩
    · obtain ⟨hfills, hlife⟩ := ih intentId o' hold
      exact ⟨hfills, hmono hlife⟩
    · exact ⟨orderFills_of_new hnew, orderLifecycle_of_new hnew⟩
    · obtain ⟨hfills, hlife⟩ := ih intentId o hold
      refine ⟨hfills.step hstep, hlife.step hfills ?_ hstep⟩
      -- the state before this event is the earlier time
      intro hstate hpos
      exact ⟨pre, s, o, hstart, hpre, hold, hstate, hpos⟩

/-- **In every run the state of an order agrees with its fills.** FILLED is exactly filled;
PARTIALLY_FILLED is strictly in between; CREATED and SUBMITTED orders have no fills; and
ACKNOWLEDGED and REJECTED orders are not filled, and have no fills unless they were UNKNOWN after
one. -/
theorem lifecycle_agrees (rt : Runtime) (events : List LedgerEvent) (currency : String)
    (s : LedgerState) (h : replay rt events currency = .ok s) (intentId : String)
    (o : OrderAggregate) (hget : s.orders.get? intentId = some o) :
    OrderLifecycle (WasUnknown rt currency events intentId) o :=
  (lifecycle_of_run h intentId o hget).2

namespace Sample

/-- An order that is partly filled, unknown, and then acknowledged. -/
def answeredLate : List LedgerEvent :=
  [accountOpened (event "1" (.refl false)) (usd 1000000 fits_million) (by decide),
    intentCreated (event "2" (.refl false))
      (intent "buy" .buy ⟨1000000, fits_million⟩ ⟨500000, fits_half⟩ (by decide)),
    submitted (event "3" (.refl false)) "buy",
    .fillReceived (Sample.fill (event "4" (.refl false)) "buy" ⟨400000, fits_fourTenths⟩
      ⟨500000, fits_half⟩ (by decide)),
    unknown (event "5" (.refl false)) "buy",
    acknowledged (event "6" (.refl false)) "buy"]

/-- The state after these events. -/
def answeredState : LedgerState := okOr (replay .utc answeredLate "USD") (.fresh "USD")

theorem replay_answeredLate : replay .utc answeredLate "USD" = .ok answeredState :=
  eq_ok_okOr (by decide) _

/-- The order that was answered late. -/
def answeredOrder : OrderAggregate := (answeredState.orders.get? "buy").get (by decide)

theorem get?_answeredOrder : answeredState.orders.get? "buy" = some answeredOrder :=
  (Option.some_get _).symm

end Sample

theorem lifecycle_agrees_answeredLate :
    OrderLifecycle (WasUnknown .utc "USD" Sample.answeredLate "buy") Sample.answeredOrder :=
  lifecycle_agrees .utc Sample.answeredLate "USD" Sample.answeredState Sample.replay_answeredLate
    "buy" Sample.answeredOrder Sample.get?_answeredOrder

/-- An acknowledged order with a fill. -/
theorem acknowledged_with_fill : replay .utc Sample.answeredLate "USD" = .ok Sample.answeredState ∧
    Sample.answeredState.orders.get? "buy" = some Sample.answeredOrder ∧
    Sample.answeredOrder.state = .acknowledged ∧
    Sample.answeredOrder.filledQuantity.val = 400000 :=
  ⟨Sample.replay_answeredLate, Sample.get?_answeredOrder, by decide, by decide⟩

end WeatherBot.Ledger
