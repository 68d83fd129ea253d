import WeatherBot.Domain.Reducers

/-!
# What the checks of a state say

`LedgerState.Invariants` states the checks of `assert_invariants` as one
structure.

* `assertInvariants_eq_ok`: the checks pass iff the structure holds.
* `OrderInvariant`: what they say of one order. The reservation of a live BUY
  order is computed from its remaining quantity.
* `Invariants.sell_reserved_eq_zero`: no SELL order reserves a position that has
  nothing reserved.
-/

namespace WeatherBot.Domain

open WeatherBot.Common

/-! ## One order -/

/-- Money in the ledger's currency, not negative. -/
def Amount (currency : String) (m : Money) : Prop := m.currency = currency ∧ 0 ≤ m.amount.val

/-- The checks of one order. -/
structure OrderInvariant (currency intentId : String) (o : OrderAggregate) : Prop where
  key : intentId = o.intent.intentId
  filled_nonneg : 0 ≤ o.filledQuantity.val
  filled_le : o.filledQuantity.val ≤ o.intent.quantity.val
  grossValue : Amount currency o.grossValue
  fees : Amount currency o.fees
  reservedCash : Amount currency o.reservedCash
  feeReserve : Amount currency o.intent.feeReserve
  reservedQuantity : 0 ≤ o.reservedQuantity.val
  terminal : o.state.isTerminal = true → o.reservedCash.amount.val = 0 ∧ o.reservedQuantity.val = 0
  buy : o.intent.side = .buy →
    o.reservedQuantity.val = 0 ∧ o.fees.amount.val ≤ o.intent.feeReserve.amount.val
  buy_live : o.intent.side = .buy → o.Live →
    o.reservedCash.amount.val =
      roundedProduct o.intent.limitPrice (o.intent.quantity - o.filledQuantity) +
        (o.intent.feeReserve.amount - o.fees.amount)
  sell : o.intent.side = .sell → o.reservedCash.amount.val = 0
  sell_live : o.intent.side = .sell → o.Live →
    o.reservedQuantity.val = o.intent.quantity - o.filledQuantity

namespace LedgerState

theorem checkAmount_eq_ok {s : LedgerState} {label : String} {m : Money} {u : Unit} :
    checkAmount s label m = .ok u ↔ Amount s.currency m := by
  rw [checkAmount, raiseIf_bind_eq_ok, requireNonnegative_eq_ok, not_not, Amount]

/-- The difference of two amounts with the smaller one subtracted. -/
theorem fits_sub {a b : Micros} (hb : 0 ≤ b.val) (hab : b.val ≤ a.val) : Fits (a.val - b.val) := by
  have := a.fits
  unfold Fits at *
  omega

/-- A nonnegative number that is at most a representable one is representable. -/
theorem fits_of_le {n : ℤ} {a : Micros} (hn : 0 ≤ n) (hna : n ≤ a.val) : Fits n := by
  have := a.fits
  unfold Fits at *
  omega

theorem checkBuyOrder_eq_ok {s : LedgerState} {o : OrderAggregate} (hfees : Amount s.currency o.fees)
    (hreserve : Amount s.currency o.intent.feeReserve) (hcash : Amount s.currency o.reservedCash)
    (hfilled : 0 ≤ o.filledQuantity.val) (hle : o.filledQuantity.val ≤ o.intent.quantity.val) :
    checkBuyOrder s o = .ok () ↔
      (o.reservedQuantity.val = 0 ∧ o.fees.amount.val ≤ o.intent.feeReserve.amount.val) ∧
      (o.Live → o.reservedCash.amount.val =
        roundedProduct o.intent.limitPrice (o.intent.quantity - o.filledQuantity) +
          (o.intent.feeReserve.amount - o.fees.amount)) := by
  unfold checkBuyOrder
  rw [raiseIf_bind_eq_ok, not_not, bind_eq_ok]
  constructor
  · rintro ⟨hq, rest, hrest, h⟩
    obtain ⟨-, hrest, -⟩ := Money.sub_eq_ok.mp hrest
    obtain ⟨u, hnonneg, h⟩ := bind_eq_ok.mp h
    rw [requireNonnegative_eq_ok, hrest] at hnonneg
    refine ⟨⟨hq, by omega⟩, ?_⟩
    intro hlive
    unfold OrderAggregate.Live at hlive
    rw [hlive, if_neg Bool.false_ne_true] at h
    obtain ⟨remaining, hrem, h⟩ := bind_eq_ok.mp h
    obtain ⟨notional, hnot, h⟩ := bind_eq_ok.mp h
    obtain ⟨expected, hexp, h⟩ := bind_eq_ok.mp h
    rw [raiseIf_eq_ok, not_not] at h
    rw [OrderAggregate.remainingQuantity, quantize_eq_ok] at hrem
    rw [moneyFromUnitPrice_eq_ok, hrem] at hnot
    obtain ⟨-, hexp, -⟩ := Money.add_eq_ok.mp hexp
    rw [h, hexp, hnot.1, hrest]
  · rintro ⟨⟨hq, hle'⟩, hlive⟩
    refine ⟨hq, ⟨⟨_, fits_sub hfees.2 hle'⟩, s.currency⟩, ?_, ?_⟩
    · exact Money.sub_eq_ok.mpr ⟨hfees.1.trans hreserve.1.symm, rfl, hreserve.1.symm⟩
    rw [bind_eq_ok]
    refine ⟨(), requireNonnegative_eq_ok.mpr (sub_nonneg.mpr hle'), ?_⟩
    cases hterm : o.state.isTerminal with
    | true => rfl
    | false =>
      have hres := hlive hterm
      have hprod : 0 ≤ roundedProduct o.intent.limitPrice (o.intent.quantity - o.filledQuantity) :=
        roundedProduct_nonneg o.intent.limitPrice_range.1.le (by omega)
      have hfits := fits_of_le hprod (a := o.reservedCash.amount) (by omega)
      have hqfits := fits_sub (a := o.intent.quantity) hfilled hle
      rw [if_neg Bool.false_ne_true, OrderAggregate.remainingQuantity, quantize_of_fits hqfits,
        ok_bind, bind_eq_ok]
      refine ⟨⟨⟨_, hfits⟩, s.currency⟩, moneyFromUnitPrice_eq_ok.mpr ⟨rfl, rfl⟩, ?_⟩
      rw [bind_eq_ok]
      refine ⟨o.reservedCash, Money.add_eq_ok.mpr ⟨rfl, hres, hcash.1⟩, ?_⟩
      exact raiseIf_of_not _ (not_not.mpr rfl)

theorem checkSellOrder_eq_ok {o : OrderAggregate} (hfilled : 0 ≤ o.filledQuantity.val)
    (hle : o.filledQuantity.val ≤ o.intent.quantity.val) :
    checkSellOrder o = .ok () ↔
      o.reservedCash.amount.val = 0 ∧
      (o.Live → o.reservedQuantity.val = o.intent.quantity - o.filledQuantity) := by
  unfold checkSellOrder OrderAggregate.Live
  rw [raiseIf_bind_eq_ok, not_not]
  refine and_congr_right fun _ => ?_
  cases o.state.isTerminal with
  | true => simp
  | false =>
    rw [if_neg Bool.false_ne_true, OrderAggregate.remainingQuantity,
      quantize_of_fits (fits_sub hfilled hle), ok_bind, raiseIf_eq_ok, not_not, Micros.ext_iff]
    simp

theorem checkOrder_eq_ok {s : LedgerState} {intentId : String} {o : OrderAggregate} :
    checkOrder s intentId o = .ok () ↔ OrderInvariant s.currency intentId o := by
  unfold checkOrder
  simp only [check_bind_eq_ok, raiseIf_eq_ok, checkAmount_eq_ok, not_not, not_or, not_lt, not_and]
  constructor
  · rintro ⟨hkey, ⟨hf0, hfq⟩, hgross, hfees, hcash, hreserve, hrq, hterm, h⟩
    have hterm' : o.state.isTerminal = true →
        o.reservedCash.amount.val = 0 ∧ o.reservedQuantity.val = 0 := by
      intro ht
      have := hterm ht
      omega
    cases hside : o.intent.side with
    | buy =>
      rw [hside] at h
      obtain ⟨hbuy, hlive⟩ := (checkBuyOrder_eq_ok hfees hreserve hcash hf0 hfq).mp h
      exact ⟨hkey, hf0, hfq, hgross, hfees, hcash, hreserve, hrq, hterm', fun _ => hbuy,
        fun _ => hlive, by simp [hside], by simp [hside]⟩
    | sell =>
      rw [hside] at h
      obtain ⟨hsell, hlive⟩ := (checkSellOrder_eq_ok hf0 hfq).mp h
      exact ⟨hkey, hf0, hfq, hgross, hfees, hcash, hreserve, hrq, hterm', by simp [hside],
        by simp [hside], fun _ => hsell, fun _ => hlive⟩
  · intro h
    refine ⟨h.key, ⟨h.filled_nonneg, h.filled_le⟩, h.grossValue, h.fees, h.reservedCash,
      h.feeReserve, h.reservedQuantity, ?_, ?_⟩
    · intro ht
      have := h.terminal ht
      omega
    · cases hside : o.intent.side with
      | buy =>
        exact (checkBuyOrder_eq_ok h.fees h.feeReserve h.reservedCash h.filled_nonneg h.filled_le).mpr
          ⟨h.buy hside, h.buy_live hside⟩
      | sell =>
        exact (checkSellOrder_eq_ok h.filled_nonneg h.filled_le).mpr ⟨h.sell hside, h.sell_live hside⟩

end LedgerState

/-! ## Reservations of all orders -/

/-- The cash an order counts in `reserved_cash`. -/
def OrderAggregate.buyReserved (o : OrderAggregate) : ℤ :=
  if o.intent.side = .buy then o.reservedCash.amount else 0

/-- Add an order's quantity to what SELL orders reserve of one position. -/
def addSellReserved (key : String × String) (total : ℤ) (o : OrderAggregate) : ℤ :=
  if o.intent.side = .sell ∧ o.key = key then ctxRound (total + o.reservedQuantity) else total

/-- What the SELL orders reserve of one position. -/
def LedgerState.sellReserved (s : LedgerState) (key : String × String) : ℤ :=
  (s.orders.entries.map Prod.snd).foldl (addSellReserved key) 0

namespace LedgerState

theorem addOrder_eq_ok {e e' : Expected} {o : OrderAggregate} (h : e.addOrder o = .ok e') :
    e'.reservedCash.amount.val = e.reservedCash.amount + o.buyReserved ∧
      e'.reservedCash.currency = e.reservedCash.currency ∧
      ∀ key, e'.sell key = addSellReserved key (e.sell key) o := by
  unfold Expected.addOrder at h
  unfold OrderAggregate.buyReserved addSellReserved
  cases hside : o.intent.side with
  | buy =>
    rw [hside] at h
    obtain ⟨cash, hcash, h⟩ := bind_eq_ok.mp h
    obtain ⟨-, hcash, hcur⟩ := Money.add_eq_ok.mp hcash
    cases h
    exact ⟨by simpa using hcash, hcur, fun key => by simp [Expected.sell]⟩
  | sell =>
    rw [hside] at h
    cases h
    refine ⟨by simp, rfl, ?_⟩
    intro key
    simp only [Expected.sell, Dict.get?_insert, true_and]
    by_cases hk : o.key = key
    · subst hk; simp
    · simp [hk]

/-- The loop over a list of orders: every order passes, and the sums are as computed. -/
theorem checkOrders_loop {s : LedgerState} {l : List (String × OrderAggregate)} {e e' : Expected}
    (h : l.foldlM (fun expected (entry : String × OrderAggregate) => do
      checkOrder s entry.1 entry.2
      expected.addOrder entry.2) e = .ok e') :
    (∀ p ∈ l, OrderInvariant s.currency p.1 p.2) ∧
      e'.reservedCash.amount.val =
        e.reservedCash.amount + (l.map fun p => p.2.buyReserved).sum ∧
      e'.reservedCash.currency = e.reservedCash.currency ∧
      ∀ key, e'.sell key = (l.map Prod.snd).foldl (addSellReserved key) (e.sell key) := by
  induction l generalizing e with
  | nil =>
    cases h
    simp
  | cons p l ih =>
    obtain ⟨t, ht, h⟩ := foldlM_cons_eq_ok.mp h
    obtain ⟨u, hcheck, hadd⟩ := bind_eq_ok.mp ht
    obtain ⟨hcash, hcur, hsell⟩ := addOrder_eq_ok hadd
    obtain ⟨hall, hcash', hcur', hsell'⟩ := ih h
    refine ⟨List.forall_mem_cons.mpr ⟨checkOrder_eq_ok.mp hcheck, hall⟩, ?_, hcur'.trans hcur, ?_⟩
    · rw [hcash', hcash, List.map_cons, List.sum_cons, add_assoc]
    · intro key
      rw [hsell', hsell, List.map_cons, List.foldl_cons]

/-- The loop returns when every order passes and the cash it adds up is representable. -/
theorem checkOrders_loop_ok (s : LedgerState) (total : Micros) {l : List (String × OrderAggregate)}
    {e : Expected} (hall : ∀ p ∈ l, OrderInvariant s.currency p.1 p.2)
    (hcur : e.reservedCash.currency = s.currency) (hnonneg : 0 ≤ e.reservedCash.amount.val)
    (htotal : e.reservedCash.amount + (l.map fun p => p.2.buyReserved).sum = total.val) :
    ∃ e', l.foldlM (fun expected (entry : String × OrderAggregate) => do
      checkOrder s entry.1 entry.2
      expected.addOrder entry.2) e = .ok e' := by
  induction l generalizing e with
  | nil => exact ⟨e, rfl⟩
  | cons p l ih =>
    rw [List.forall_mem_cons] at hall
    rw [List.map_cons, List.sum_cons] at htotal
    have hp := hall.1
    have hrest : 0 ≤ (l.map fun p => p.2.buyReserved).sum := by
      apply List.sum_nonneg
      intro x hx
      obtain ⟨q, hq, rfl⟩ := List.mem_map.mp hx
      unfold OrderAggregate.buyReserved
      split_ifs
      · exact (hall.2 q hq).reservedCash.2
      · exact le_rfl
    have hadd : ∃ t, e.addOrder p.2 = .ok t := by
      unfold Expected.addOrder
      cases hside : p.2.intent.side with
      | sell => exact ⟨_, rfl⟩
      | buy =>
        have hval : p.2.buyReserved = p.2.reservedCash.amount := by
          rw [OrderAggregate.buyReserved, if_pos hside]
        rw [hval] at htotal
        have hfits : Fits (e.reservedCash.amount.val + p.2.reservedCash.amount.val) :=
          fits_of_le (a := total) (add_nonneg hnonneg hp.reservedCash.2) (by omega)
        refine ⟨_, bind_eq_ok.mpr ⟨⟨⟨_, hfits⟩, s.currency⟩, ?_, rfl⟩⟩
        exact Money.add_eq_ok.mpr ⟨hp.reservedCash.1.trans hcur.symm, rfl, hcur.symm⟩
    obtain ⟨t, ht⟩ := hadd
    obtain ⟨hcash, hcur', -⟩ := addOrder_eq_ok ht
    have hb : 0 ≤ p.2.buyReserved := by
      unfold OrderAggregate.buyReserved
      split_ifs
      · exact hp.reservedCash.2
      · exact le_rfl
    obtain ⟨e', he'⟩ := ih hall.2 (hcur'.trans hcur) (by omega) (by omega)
    refine ⟨e', foldlM_cons_eq_ok.mpr ⟨t, ?_, he'⟩⟩
    rw [checkOrder_eq_ok.mpr hp, ok_bind, ht]

end LedgerState

theorem addSellReserved_nonneg {key : String × String} {total : ℤ} {o : OrderAggregate}
    (htotal : 0 ≤ total) (ho : 0 ≤ o.reservedQuantity.val) : 0 ≤ addSellReserved key total o := by
  unfold addSellReserved
  split_ifs
  · exact ctxRound_nonneg (add_nonneg htotal ho)
  · exact htotal

/-- Rounding to the context precision does not make a positive number zero. -/
theorem ctxRound_pos {n : ℤ} (h : 0 < n) : 0 < ctxRound n := by
  have hone : ctxRound 1 = 1 := by decide
  have := ctxRound_mono (n := 1) (by norm_num) h
  omega

theorem addSellReserved_pos {key : String × String} {total : ℤ} {o : OrderAggregate}
    (htotal : 0 < total) (ho : 0 ≤ o.reservedQuantity.val) : 0 < addSellReserved key total o := by
  unfold addSellReserved
  split_ifs
  · exact ctxRound_pos (by omega)
  · exact htotal

/-- One order that reserves makes the sum positive. -/
theorem foldl_addSellReserved_pos {key : String × String} {l : List OrderAggregate}
    (hl : ∀ o ∈ l, 0 ≤ o.reservedQuantity.val) {total : ℤ} (htotal : 0 ≤ total)
    (h : 0 < total ∨ ∃ o ∈ l, o.intent.side = .sell ∧ o.key = key ∧ 0 < o.reservedQuantity.val) :
    0 < l.foldl (addSellReserved key) total := by
  induction l generalizing total with
  | nil =>
    rcases h with h | ⟨o, ho, -⟩
    · exact h
    · cases ho
  | cons o l ih =>
    rw [List.forall_mem_cons] at hl
    rw [List.foldl_cons]
    refine ih hl.2 (addSellReserved_nonneg htotal hl.1) ?_
    rcases h with h | ⟨o', ho', hside, hkey, hpos⟩
    · exact .inl (addSellReserved_pos h hl.1)
    · rcases List.mem_cons.mp ho' with rfl | ho'
      · left
        rw [addSellReserved, if_pos ⟨hside, hkey⟩]
        exact ctxRound_pos (by omega)
      · exact .inr ⟨o', ho', hside, hkey, hpos⟩

/-! ## The whole state -/

/-- The checks of one position. -/
structure PositionInvariant (s : LedgerState) (k : String × String) (p : Position) : Prop where
  key : k = p.key
  quantity : 0 ≤ p.quantity.val
  reserved : 0 ≤ p.reservedQuantity.val ∧ p.reservedQuantity.val ≤ p.quantity.val
  costBasis : 0 ≤ p.costBasis.amount.val
  reserved_eq : p.reservedQuantity.val = s.sellReserved k
  settled : p.status = .settled →
    p.quantity.val = 0 ∧ p.reservedQuantity.val = 0 ∧ p.costBasis.amount.val = 0

/-- The checks of `assert_invariants`. -/
structure LedgerState.Invariants (s : LedgerState) : Prop where
  cash_currency : s.cash.currency = s.currency
  reservedCash_currency : s.reservedCash.currency = s.currency
  reservedCash_nonneg : 0 ≤ s.reservedCash.amount.val
  available_nonneg : s.reservedCash.amount.val ≤ s.cash.amount.val
  orders : ∀ p ∈ s.orders.entries, OrderInvariant s.currency p.1 p.2
  reservedCash_eq : s.reservedCash.amount.val = Dict.sumBy (fun _ o => o.buyReserved) s.orders
  positions : ∀ p ∈ s.positions.entries, PositionInvariant s p.1 p.2
  sell_position : ∀ key, s.sellReserved key ≠ 0 → s.positions.get? key ≠ none
  evidence : ∀ p ∈ s.resolutionEvidence.entries, s.checkEvidence p.1 p.2 = .ok ()
  observations : ∀ p ∈ s.weatherObservations.entries,
    LedgerState.checkObservations p.1 p.2 = .ok ()
  opened : s.opened = false → ¬ s.HasFinancialState

theorem LedgerState.Invariants.order {s : LedgerState} (h : s.Invariants) {intentId : String}
    {o : OrderAggregate} (hget : s.orders.get? intentId = some o) :
    OrderInvariant s.currency intentId o :=
  h.orders _ (Dict.get?_eq_some.mp hget)

theorem LedgerState.Invariants.position {s : LedgerState} (h : s.Invariants) {k : String × String}
    {p : Position} (hget : s.positions.get? k = some p) : PositionInvariant s k p :=
  h.positions _ (Dict.get?_eq_some.mp hget)

/-- No SELL order reserves a position that has nothing reserved. -/
theorem LedgerState.Invariants.sell_reserved_eq_zero {s : LedgerState} (h : s.Invariants)
    {intentId : String} {o : OrderAggregate} (hget : s.orders.get? intentId = some o)
    (hside : o.intent.side = .sell) (hzero : s.sellReserved o.key = 0) :
    o.reservedQuantity.val = 0 := by
  have hmem := Dict.get?_eq_some.mp hget
  have hnonneg : ∀ o' ∈ s.orders.entries.map Prod.snd, 0 ≤ o'.reservedQuantity.val := by
    intro o' ho'
    obtain ⟨q, hq, rfl⟩ := List.mem_map.mp ho'
    exact (h.orders q hq).reservedQuantity
  by_contra hne
  have hpos : 0 < o.reservedQuantity.val :=
    lt_of_le_of_ne (h.orders _ hmem).reservedQuantity (Ne.symm hne)
  have := foldl_addSellReserved_pos hnonneg le_rfl
    (.inr ⟨o, List.mem_map_of_mem (f := Prod.snd) hmem, hside, rfl, hpos⟩)
  exact this.ne' hzero

namespace LedgerState

theorem checkPosition_eq_ok {s : LedgerState} {expected : Expected} {key : String × String}
    {p : Position} (hsell : expected.sell key = s.sellReserved key) :
    checkPosition expected key p = .ok () ↔ PositionInvariant s key p := by
  unfold checkPosition
  simp only [check_bind_eq_ok, requireNonnegative_eq_ok, raiseIf_eq_ok, not_not, not_or, not_lt,
    not_and, hsell]
  constructor
  · rintro ⟨hkey, ⟨hq, hr⟩, hrq, hcost, heq, hsettled⟩
    refine ⟨hkey, hq, ⟨hr, hrq⟩, hcost, heq, ?_⟩
    intro hs
    obtain ⟨h1, h2, h3⟩ := hsettled hs
    exact ⟨h1, h2, h3⟩
  · rintro ⟨hkey, hq, ⟨hr, hrq⟩, hcost, heq, hsettled⟩
    refine ⟨hkey, ⟨hq, hr⟩, hrq, hcost, heq, ?_⟩
    intro hs
    obtain ⟨h1, h2, h3⟩ := hsettled hs
    exact ⟨h1, h2, h3⟩

/-- The check of reservations without a position, for each key. -/
theorem checkSellPositions_eq_ok {s : LedgerState} {expected : Expected} :
    (expected.sellReservations.entries.forM fun entry =>
      raiseIf (entry.2 ≠ 0 ∧ s.positions.get? entry.1 = none)
        (Error.invariantViolation "sell order reserves a missing position")) = .ok () ↔
      ∀ key, expected.sell key ≠ 0 → s.positions.get? key ≠ none := by
  rw [List.forM_eq_forM, forM_eq_ok]
  simp only [raiseIf_eq_ok, not_and]
  constructor
  · intro h key hne
    unfold Expected.sell at hne
    cases hget : expected.sellReservations.get? key with
    | none => rw [hget] at hne; exact absurd rfl hne
    | some v =>
      rw [hget] at hne
      exact h (key, v) (Dict.get?_eq_some.mp hget) hne
  · rintro h ⟨key, v⟩ hmem hne
    apply h key
    rw [Expected.sell, Dict.get?_eq_some.mpr hmem]
    exact hne

/-- **The checks of a state pass iff its invariants hold.** -/
theorem assertInvariants_eq_ok {s : LedgerState} : s.assertInvariants = .ok () ↔ s.Invariants := by
  unfold assertInvariants
  simp only [check_bind_eq_ok, requireNonnegative_eq_ok, raiseIf_eq_ok, not_or, not_not]
  constructor
  · rintro ⟨⟨hcc, hrc⟩, hcash, hres, h⟩
    obtain ⟨avail, havail, h⟩ := bind_eq_ok.mp h
    obtain ⟨havail0, h⟩ := check_bind_eq_ok.mp h
    obtain ⟨expected, hexp, h⟩ := bind_eq_ok.mp h
    simp only [check_bind_eq_ok, raiseIf_eq_ok, not_not, not_and] at h
    obtain ⟨hresEq, hpos, hsell, hev, hobs, hopen⟩ := h
    rw [requireNonnegative_eq_ok] at havail0
    obtain ⟨-, havail, -⟩ := Money.sub_eq_ok.mp havail
    obtain ⟨hall, hsum, -, hsells⟩ := checkOrders_loop hexp
    have hsells : ∀ key, expected.sell key = s.sellReserved key := hsells
    refine ⟨hcc, hrc, hres, by omega, hall, ?_, ?_, ?_, forM_eq_ok.mp hev, forM_eq_ok.mp hobs, hopen⟩
    · rw [← hresEq, hsum]
      simp [Dict.sumBy]
    · intro p hp
      exact (checkPosition_eq_ok (hsells p.1)).mp (forM_eq_ok.mp hpos p hp)
    · intro key hne
      exact checkSellPositions_eq_ok.mp hsell key (by rwa [hsells])
  · intro h
    have hcash : 0 ≤ s.cash.amount.val := h.reservedCash_nonneg.trans h.available_nonneg
    have havail := fits_sub h.reservedCash_nonneg h.available_nonneg
    obtain ⟨expected, hexp⟩ := checkOrders_loop_ok s s.reservedCash.amount
      (l := s.orders.entries) (e := ⟨Money.zero s.currency, Dict.empty⟩) h.orders rfl le_rfl
      (by rw [h.reservedCash_eq]; simp [Dict.sumBy])
    obtain ⟨-, hsum, hcur, hsells⟩ := checkOrders_loop hexp
    have hsells : ∀ key, expected.sell key = s.sellReserved key := hsells
    have hsub : s.availableCash = .ok ⟨⟨_, havail⟩, s.currency⟩ := Money.sub_eq_ok.mpr
      ⟨h.reservedCash_currency.trans h.cash_currency.symm, rfl, h.cash_currency.symm⟩
    have hexp' : s.checkOrders = .ok expected := hexp
    refine ⟨⟨h.cash_currency, h.reservedCash_currency⟩, hcash, h.reservedCash_nonneg, ?_⟩
    rw [hsub, ok_bind, check_bind_eq_ok, requireNonnegative_eq_ok, hexp', ok_bind]
    simp only [check_bind_eq_ok, raiseIf_eq_ok, not_not, not_and]
    refine ⟨sub_nonneg.mpr h.available_nonneg, ?_, ?_, ?_, forM_eq_ok.mpr h.evidence,
      forM_eq_ok.mpr h.observations, h.opened⟩
    · apply Money.ext_val
      · rw [hsum, h.reservedCash_eq]; simp [Dict.sumBy]
      · exact hcur.trans h.reservedCash_currency.symm
    · exact forM_eq_ok.mpr fun p hp => (checkPosition_eq_ok (hsells p.1)).mpr (h.positions p hp)
    · exact checkSellPositions_eq_ok.mpr fun key hne => h.sell_position key (by rwa [← hsells])

end LedgerState

end WeatherBot.Domain
