import WeatherBot.Ledger.Run

/-!
# The cost of a position

* `allocatedCost_spec`: a sale is allocated a part of the cost, the whole cost if
  it sells the whole quantity.
* `Reachable.flatCost`: a position without quantity costs nothing.
* `Reachable.pnlCurrency`: profits are in the ledger's currency.
-/

namespace WeatherBot.Ledger

open WeatherBot.Common
open WeatherBot.Domain

variable {rt : Runtime}

/-! ## Allocation -/

/-- A quotient of a part and its whole is at most one. -/
theorem divRound_le {a b : ℤ} (hb : 0 < b) (hab : a ≤ b) : divRound a b ≤ 10 ^ divShift a b := by
  have hmul : a * 10 ^ divShift a b ≤ 10 ^ divShift a b * b := by
    rw [mul_comm]
    exact mul_le_mul_of_nonneg_left hab (by positivity)
  have := roundDiv_mono hb hmul
  rwa [roundDiv_mul_self _ hb] at this

/-- A coefficient of 28 digits keeps its digits when zeros are written behind them. -/
theorem ctxRound_mul_pow {n : ℤ} (hn : Fits n) (k : ℕ) : ctxRound (n * 10 ^ k) = n * 10 ^ k := by
  apply ctxRound_of_dvd
  refine Dvd.dvd.mul_left (pow_dvd_pow 10 ?_) n
  rcases eq_or_ne n 0 with rfl | h0
  · simp [excessDigits, precision]
  have hlt : (n * 10 ^ k).natAbs < 10 ^ (precision + k) := by
    rw [Int.natAbs_mul, Int.natAbs_pow, pow_add]
    exact Nat.mul_lt_mul_of_pos_right hn (by positivity)
  have hne : (n * 10 ^ k).natAbs ≠ 0 := Int.natAbs_ne_zero.mpr (mul_ne_zero h0 (by positivity))
  have hlog := Nat.log_lt_of_lt_pow hne hlt
  unfold excessDigits
  omega

/-- Scaling by a factor between zero and one. -/
theorem scale_le {m : Money} {f : ℤ} {k : ℕ} (hm : 0 ≤ m.amount.val) (hf : 0 ≤ f)
    (hle : f ≤ 10 ^ k) :
    ∃ r, m.scale (.ofScaled f k) = .ok r ∧ r.currency = m.currency ∧
      0 ≤ r.amount.val ∧ r.amount.val ≤ m.amount.val := by
  have hprod : 0 ≤ m.amount.val * f := mul_nonneg hm hf
  have hctx : ctxRound (m.amount.val * f) ≤ m.amount.val * 10 ^ k := by
    have := ctxRound_mono hprod (mul_le_mul_of_nonneg_left hle hm)
    rwa [ctxRound_mul_pow m.amount.fits] at this
  have hctx0 := ctxRound_nonneg hprod
  set c := ctxRound (m.amount.val * f) with hc
  have hrescale : (Decimal.ofScaled c (quantumPlaces + k)).rescale quantumPlaces =
      roundDiv c (10 ^ k) := by
    rw [Decimal.rescale, Decimal.signed_ofScaled]
    show (if quantumPlaces + k ≤ quantumPlaces then c * 10 ^ (quantumPlaces - (quantumPlaces + k))
      else roundDiv c (10 ^ (quantumPlaces + k - quantumPlaces))) = _
    rw [Nat.add_sub_cancel_left]
    split_ifs with hk
    · have hk : k = 0 := by omega
      subst hk
      have := roundDiv_mul_self c (d := 10 ^ 0) (by norm_num)
      rw [pow_zero, mul_one] at this
      rw [pow_zero, this, add_zero, Nat.sub_self, pow_zero, mul_one]
    · rfl
  have hpos : (0 : ℤ) < 10 ^ k := by positivity
  have h0 : 0 ≤ roundDiv c (10 ^ k) := roundDiv_nonneg hpos hctx0
  have hupper : roundDiv c (10 ^ k) ≤ m.amount.val := by
    have := roundDiv_mono hpos hctx
    rwa [roundDiv_mul_self _ hpos] at this
  refine ⟨⟨⟨_, LedgerState.fits_of_le h0 hupper⟩, m.currency⟩, ?_, rfl, h0, hupper⟩
  rw [Money.scale, Decimal.signed_ofScaled, ← hc]
  refine bind_eq_ok.mpr ⟨_, ?_, rfl⟩
  show quantize ((Decimal.ofScaled c (quantumPlaces + k)).rescale quantumPlaces) = _
  rw [hrescale]
  exact quantize_of_fits _

/-- **A sale is allocated a part of the cost**, and the whole cost when it sells everything. -/
theorem allocatedCost_spec {p : Position} {q : Micros} (hcost : 0 ≤ p.costBasis.amount.val)
    (hq : 0 < q.val) (hle : q.val ≤ p.quantity.val) :
    ∃ m, allocatedCost p q = .ok m ∧ m.currency = p.costBasis.currency ∧ 0 ≤ m.amount.val ∧
      m.amount.val ≤ p.costBasis.amount.val ∧ (q = p.quantity → m = p.costBasis) := by
  by_cases hall : q = p.quantity
  · exact ⟨p.costBasis, by rw [allocatedCost, if_pos hall]; rfl, rfl, hcost, le_rfl, fun _ => rfl⟩
  · have hpos : 0 < p.quantity.val := hq.trans_le hle
    obtain ⟨m, hm, hcur, h0, hupper⟩ := scale_le (k := divShift q p.quantity) hcost
      (divRound_nonneg hq.le hpos) (divRound_le hpos hle)
    refine ⟨m, ?_, hcur, h0, hupper, fun h => absurd h hall⟩
    rw [allocatedCost, if_neg hall]
    exact hm

/-! ## Flat positions -/

/-- A position without quantity costs nothing. -/
def FlatCost (s : LedgerState) : Prop :=
  ∀ p ∈ s.positions.entries, p.2.quantity.val = 0 → p.2.costBasis.amount.val = 0

theorem flatCost_of_step {s next : LedgerState} {event : LedgerEvent} (hs : s.Invariants)
    (h : FlatCost s) (hstep : Step rt s event next) : FlatCost next := by
  have hget : ∀ {k p}, s.positions.get? k = some p → p.quantity.val = 0 →
      p.costBasis.amount.val = 0 :=
    fun hp => h _ (Dict.get?_eq_some.mp hp)
  have hinsert : ∀ p : Position, (p.quantity.val = 0 → p.costBasis.amount.val = 0) →
      ∀ q ∈ (s.positions.insert p.key p).entries, q.2.quantity.val = 0 →
        q.2.costBasis.amount.val = 0 :=
    fun p hp => Dict.forall_mem_insert hp fun q hq _ => h q hq
  cases hstep with
  | unchanged => exact h
  | opened => exact h
  | buyIntent => exact h
  | sellIntent _ _ p r _ _ _ _ hp =>
    have hp := hget hp
    exact hinsert { p with reservedQuantity := r } hp
  | moved => exact h
  | closedBuy => exact h
  | closedSell _ _ _ _ _ p r _ _ _ _ hp =>
    have hp := hget hp
    exact hinsert { p with reservedQuantity := r } hp
  | buyFill fill o _ p' _ _ hf =>
    refine hinsert p' ?_
    intro hzero
    -- a fill adds to a quantity that is not negative
    have hfill := fill.quantity_pos
    have hquantity := hf.quantity
    have hold : 0 ≤ (positionOrEmpty s o).quantity.val := by
      unfold positionOrEmpty
      cases hp : s.positions.get? o.key with
      | none => exact le_rfl
      | some p => exact (hs.position hp).quantity
    omega
  | sellFill fill _ _ p p' _ _ allocated hf =>
    refine hinsert p' ?_
    intro hzero
    have hquantity := hf.quantity
    have hall : fill.quantity = p.quantity := Micros.ext (by omega)
    have halloc := hf.allocated_eq
    rw [allocatedCost, if_pos hall] at halloc
    cases halloc
    rw [hf.costBasis, sub_self]
  | recorded => exact h
  | settled _ _ p' _ _ hf =>
    refine hinsert p' ?_
    rw [hf.position']
    exact fun _ => rfl

theorem Reachable.flatCost {s : LedgerState} (h : Reachable rt s) : FlatCost s :=
  h.preserves (fun _ => by simp [FlatCost, LedgerState.fresh]) (fun _ _ _ h => h)
    fun _ _ _ hs _ h hstep => flatCost_of_step hs h hstep

/-! ## The currency of profits -/

/-- Every position's profit is in the ledger's currency. -/
def PnlCurrency (s : LedgerState) : Prop :=
  ∀ p ∈ s.positions.entries, p.2.realizedPnl.currency = s.currency

theorem PnlCurrency.get {s : LedgerState} (h : PnlCurrency s) {k : String × String} {p : Position}
    (hget : s.positions.get? k = some p) : p.realizedPnl.currency = s.currency :=
  h _ (Dict.get?_eq_some.mp hget)

theorem PnlCurrency.replacePosition {s t : LedgerState} (h : PnlCurrency s) {p : Position}
    (hp : p.realizedPnl.currency = s.currency)
    (hpositions : t.positions = s.positions.insert p.key p) (hcurrency : t.currency = s.currency) :
    PnlCurrency t := by
  rw [PnlCurrency, hpositions, hcurrency]
  exact Dict.forall_mem_insert hp fun q hq _ => h q hq

theorem pnlCurrency_of_buyFill {s s' : LedgerState} {o o' : OrderAggregate} {fill : FillReceived}
    {gross : Money} (hs : PnlCurrency s) (h : applyBuyFill s o fill gross = .ok (s', o')) :
    PnlCurrency s' := by
  obtain ⟨cash, reservedCash, reservation, costBasis, quantity, -, -, -, -, -, -, -, -, -, -, -, -,
    rfl, rfl⟩ := applyBuyFill_eq_ok h
  have hp : (positionOrEmpty s o).realizedPnl.currency = s.currency := by
    unfold positionOrEmpty
    cases hget : s.positions.get? o.key with
    | none => rfl
    | some p => exact hs.get hget
  exact hs.replacePosition (p := { positionOrEmpty s o with quantity, costBasis }) hp rfl rfl

theorem pnlCurrency_of_sellFill {s s' : LedgerState} {o o' : OrderAggregate} {fill : FillReceived}
    {gross : Money} (hs : PnlCurrency s) (h : applySellFill s o fill gross = .ok (s', o')) :
    PnlCurrency s' := by
  obtain ⟨-, h⟩ := raiseIf_bind_eq_ok.mp h
  obtain ⟨p, hp, h⟩ := bind_eq_ok.mp h
  obtain ⟨-, h⟩ := raiseIf_bind_eq_ok.mp h
  obtain ⟨-, h⟩ := raiseIf_bind_eq_ok.mp h
  obtain ⟨-, h⟩ := raiseIf_bind_eq_ok.mp h
  obtain ⟨-, h⟩ := raiseIf_bind_eq_ok.mp h
  obtain ⟨-, h⟩ := raiseIf_bind_eq_ok.mp h
  obtain ⟨net, -, h⟩ := bind_eq_ok.mp h
  obtain ⟨allocated, -, h⟩ := bind_eq_ok.mp h
  obtain ⟨quantity, -, h⟩ := bind_eq_ok.mp h
  obtain ⟨reservedQuantity, -, h⟩ := bind_eq_ok.mp h
  obtain ⟨costBasis, -, h⟩ := bind_eq_ok.mp h
  obtain ⟨proceeds, hproceeds, h⟩ := bind_eq_ok.mp h
  obtain ⟨realizedPnl, hpnl, h⟩ := bind_eq_ok.mp h
  obtain ⟨orderReserved, -, h⟩ := bind_eq_ok.mp h
  obtain ⟨cash, -, h⟩ := bind_eq_ok.mp h
  cases h
  obtain ⟨-, -, hproceeds⟩ := Money.add_eq_ok.mp hproceeds
  obtain ⟨-, -, hpnl⟩ := Money.sub_eq_ok.mp hpnl
  have hcur := hpnl.trans (hproceeds.trans (hs.get (positionOf_eq_ok.mp hp)))
  exact hs.replacePosition (p := { p with quantity, reservedQuantity, costBasis, realizedPnl })
    hcur rfl rfl

theorem pnlCurrency_of_recordFill {s next : LedgerState} {o : OrderAggregate} {fill : FillReceived}
    {target : OrderState} {filledQuantity : Micros} {gross : Money} (hs : PnlCurrency s)
    (h : recordFill rt s o fill target filledQuantity gross = .ok next) : PnlCurrency next := by
  obtain ⟨grossValue, fees, -, -, -, -, h⟩ := recordFill_eq_ok h
  split_ifs at h
  · obtain ⟨s₁, o₁, hrelease, rfl⟩ := h
    obtain ⟨-, r, -, -, rfl, rfl⟩ | ⟨-, p, r, hp, -, rfl, rfl⟩ := releaseReservations_eq_ok hrelease
    · exact hs
    · have hcur := hs.get hp
      exact hs.replacePosition (p := { p with reservedQuantity := r }) hcur rfl rfl
  · subst h
    exact hs

theorem pnlCurrency_of_fill {s next : LedgerState} {fill : FillReceived} (hs : PnlCurrency s)
    (h : applyFill rt s fill = .ok next) : PnlCurrency next := by
  obtain ⟨o, -, h⟩ := bind_eq_ok.mp h
  split at h
  · split_ifs at h
    cases h
    exact hs
  · obtain ⟨filled, -, h⟩ := bind_eq_ok.mp h
    obtain ⟨-, h⟩ := raiseIf_bind_eq_ok.mp h
    obtain ⟨-, h⟩ := check_bind_eq_ok.mp h
    obtain ⟨-, h⟩ := raiseIf_bind_eq_ok.mp h
    obtain ⟨gross, -, h⟩ := bind_eq_ok.mp h
    obtain ⟨⟨s₁, o₁⟩, hside, h⟩ := bind_eq_ok.mp h
    refine pnlCurrency_of_recordFill ?_ h
    cases horder : o.intent.side with
    | buy =>
      rw [applySideFill, horder] at hside
      exact pnlCurrency_of_buyFill hs hside
    | sell =>
      rw [applySideFill, horder] at hside
      exact pnlCurrency_of_sellFill hs hside

theorem pnlCurrency_of_settlement {s next : LedgerState} {e : PositionSettled} (hs : PnlCurrency s)
    (h : applySettlement s e = .ok next) : PnlCurrency next := by
  obtain ⟨p, hp, h⟩ := bind_eq_ok.mp h
  obtain ⟨-, h⟩ := raiseIf_bind_eq_ok.mp h
  obtain ⟨-, h⟩ := raiseIf_bind_eq_ok.mp h
  obtain ⟨resolution, -, h⟩ := bind_eq_ok.mp h
  obtain ⟨-, h⟩ := raiseIf_bind_eq_ok.mp h
  obtain ⟨payout, -, h⟩ := bind_eq_ok.mp h
  obtain ⟨gross, -, h⟩ := bind_eq_ok.mp h
  obtain ⟨-, h⟩ := raiseIf_bind_eq_ok.mp h
  obtain ⟨net, -, h⟩ := bind_eq_ok.mp h
  obtain ⟨proceeds, hproceeds, h⟩ := bind_eq_ok.mp h
  obtain ⟨realizedPnl, hpnl, h⟩ := bind_eq_ok.mp h
  obtain ⟨cash, -, h⟩ := bind_eq_ok.mp h
  cases h
  obtain ⟨-, -, hproceeds⟩ := Money.add_eq_ok.mp hproceeds
  obtain ⟨-, -, hpnl⟩ := Money.sub_eq_ok.mp hpnl
  have hcur := hpnl.trans (hproceeds.trans (hs.get (positionOf_eq_ok.mp hp)))
  refine hs.replacePosition (p := { p with
    quantity := Micros.zero
    reservedQuantity := Micros.zero
    costBasis := Money.zero s.currency
    realizedPnl
    status := .settled
    settlementPayout := some payout }) hcur rfl rfl

theorem pnlCurrency_of_reduce {s next : LedgerState} {event : LedgerEvent} (hs : s.Invariants)
    (h : PnlCurrency s) (hreduce : reduce rt s event = .ok next) : PnlCurrency next := by
  have hstep := step_of_reduce hs.wellKeyed hreduce
  have hmoved : ∀ {k : String × String} {p : Position} {r : Micros}, s.positions.get? k = some p →
      ∀ t : LedgerState, t.positions = s.positions.insert p.key { p with reservedQuantity := r } →
        t.currency = s.currency → PnlCurrency t := by
    intro k p r hp t hpositions hcurrency
    have hcur := h.get hp
    exact h.replacePosition (p := { p with reservedQuantity := r }) hcur hpositions hcurrency
  cases hstep with
  | unchanged => exact h
  | opened => exact h
  | buyIntent => exact h
  | sellIntent _ _ _ _ _ _ _ _ hp => exact hmoved hp _ rfl rfl
  | moved => exact h
  | closedBuy => exact h
  | closedSell _ _ _ _ _ _ _ _ _ _ _ hp => exact hmoved hp _ rfl rfl
  | buyFill => exact pnlCurrency_of_fill h hreduce
  | sellFill => exact pnlCurrency_of_fill h hreduce
  | recorded => exact h
  | settled => exact pnlCurrency_of_settlement h hreduce

theorem Reachable.pnlCurrency {s : LedgerState} (h : Reachable rt s) : PnlCurrency s := by
  obtain ⟨events, currency, h⟩ := h
  refine (foldlM_invariant (fun t => t.Invariants ∧ PnlCurrency t) ?_ events _ s
    ⟨invariants_fresh _, by simp [PnlCurrency, LedgerState.fresh]⟩ (replay_eq_ok.mp h).2).2
  intro t event t' ht hevent
  refine ⟨applyEvent_invariants ht.1 hevent, ?_⟩
  rcases applyEvent_eq_ok.mp hevent with ⟨-, rfl⟩ | ⟨-, next, hreduce, rfl, -⟩
  · exact ht.2
  · have hnext : PnlCurrency next := pnlCurrency_of_reduce ht.1 ht.2 hreduce
    exact hnext

end WeatherBot.Ledger
