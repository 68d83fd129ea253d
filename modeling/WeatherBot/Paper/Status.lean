import WeatherBot.Ledger.Conservation
import WeatherBot.Ledger.CostBasis
import WeatherBot.Ledger.Fees
import WeatherBot.Ledger.Reservation
import WeatherBot.Paper.Valuation

/-!
# The status report reconciles

The report sums up positions, orders, marks and events one by one. On the final
state of a run, with a valuation that the reducer accepts there, the sums agree.

* `total_marks`: the marks of an accepted valuation add up to its equity less cash.
* `Reconciles`: the identities of the report.
* `paperStatus_reconciles`: **every report reconciles**, and there is one if its
  sums have at most 28 digits.
-/

namespace WeatherBot.Paper

open WeatherBot.Common
open WeatherBot.Domain
open WeatherBot.Ledger

/-! ## Sums of money -/

section Sums

variable {α : Type} {f : α → Money}

/-- The number of millionths that a list adds up to. -/
def total (f : α → Money) (l : List α) : ℤ := (l.map fun x => (f x).amount.val).sum

@[simp] theorem total_nil (f : α → Money) : total f [] = 0 := rfl

@[simp] theorem total_cons (f : α → Money) (x : α) (l : List α) :
    total f (x :: l) = (f x).amount.val + total f l := by
  rw [total, List.map_cons, List.sum_cons, total]

theorem sum_eq_ok {l : List α} {m t : Money}
    (h : l.foldlM (fun sum x => sum.add (f x)) m = .ok t) :
    t.amount.val = m.amount.val + total f l ∧ t.currency = m.currency := by
  induction l generalizing m with
  | nil =>
    cases h
    exact ⟨(add_zero _).symm, rfl⟩
  | cons x l ih =>
    obtain ⟨u, hu, h⟩ := foldlM_cons_eq_ok.mp h
    obtain ⟨-, hval, hcur⟩ := Money.add_eq_ok.mp hu
    obtain ⟨ht, htcur⟩ := ih h
    exact ⟨by rw [ht, hval, total_cons, add_assoc], htcur.trans hcur⟩

/-- The sum of the absolute amounts. -/
def gross (f : α → Money) (l : List α) : ℤ := (l.map fun x => |(f x).amount.val|).sum

theorem gross_nonneg (f : α → Money) (l : List α) : 0 ≤ gross f l := by
  apply List.sum_nonneg
  intro x hx
  obtain ⟨y, -, rfl⟩ := List.mem_map.mp hx
  exact abs_nonneg _

theorem gross_cons (f : α → Money) (x : α) (l : List α) :
    gross f (x :: l) = |(f x).amount.val| + gross f l := by
  rw [gross, List.map_cons, List.sum_cons, gross]

/-- Amounts that are not negative are their own absolute amounts. -/
theorem gross_eq_total {l : List α} (h : ∀ x ∈ l, 0 ≤ (f x).amount.val) : gross f l = total f l := by
  rw [gross, total]
  congr 1
  exact List.map_congr_left fun x hx => abs_of_nonneg (h x hx)

theorem fits_of_abs_le {n m : ℤ} (h : |n| ≤ m) (hm : Fits m) : Fits n := by
  rw [Int.abs_eq_natAbs] at h
  unfold Fits at *
  omega

/-- A sum is computed when the absolute amounts have at most 28 digits together. -/
theorem sum_ok {l : List α} {m : Money} (hcur : ∀ x ∈ l, (f x).currency = m.currency)
    (hfits : Fits (|m.amount.val| + gross f l)) :
    ∃ t, l.foldlM (fun sum x => sum.add (f x)) m = .ok t := by
  induction l generalizing m with
  | nil => exact ⟨m, rfl⟩
  | cons x l ih =>
    rw [List.forall_mem_cons] at hcur
    rw [gross_cons, ← add_assoc] at hfits
    have hrest := gross_nonneg f l
    have habs := abs_add_le m.amount.val (f x).amount.val
    have hsum : Fits (m.amount.val + (f x).amount.val) :=
      fits_of_abs_le (habs.trans (le_add_of_nonneg_right hrest)) hfits
    have hadd := Money.add_of_fits hcur.1 hsum
    obtain ⟨t, ht⟩ := ih (m := ⟨⟨_, hsum⟩, m.currency⟩) hcur.2
      (fits_of_abs_le (by
        rw [abs_of_nonneg (add_nonneg (abs_nonneg _) hrest)]
        exact add_le_add_left habs _) hfits)
    exact ⟨t, foldlM_cons_eq_ok.mpr ⟨_, hadd, ht⟩⟩

end Sums

/-! ## The marks of an accepted valuation -/

/-- The marked value of a position key. -/
def markValue (v : PortfolioValuation) (key : String × String) : ℤ :=
  (v.mark? key).elim 0 fun mark => mark.liquidationValue.amount.val

theorem mark?_of_mem {v : PortfolioValuation} {mark : PositionValuation}
    (h : mark ∈ v.positions) : v.mark? mark.positionKey = some mark := by
  unfold PortfolioValuation.mark?
  cases hfind : v.positions.find? fun m => m.positionKey = mark.positionKey with
  | none =>
    rw [List.find?_eq_none] at hfind
    exact absurd (decide_eq_true rfl) (hfind mark h)
  | some m =>
    have hkey : m.positionKey = mark.positionKey := by simpa using List.find?_some hfind
    rw [List.inj_on_of_nodup_map v.keys_nodup (List.mem_of_find?_eq_some hfind) h hkey]

theorem addMarks_eq_ok {s : LedgerState} {v : PortfolioValuation}
    {l : List ((String × String) × Position)} {m t : Money}
    (h : l.foldlM (addMark s v) m = .ok t) :
    t.amount.val = m.amount.val + (l.map fun entry => markValue v entry.1).sum := by
  induction l generalizing m with
  | nil =>
    cases h
    simp
  | cons entry l ih =>
    obtain ⟨u, hu, h⟩ := foldlM_cons_eq_ok.mp h
    obtain ⟨mark, hmark, hu⟩ := bind_eq_ok.mp hu
    obtain ⟨-, hu⟩ := raiseIf_bind_eq_ok.mp hu
    obtain ⟨-, hu⟩ := raiseIf_bind_eq_ok.mp hu
    obtain ⟨-, hval, -⟩ := Money.add_eq_ok.mp hu
    have hvalue : markValue v entry.1 = mark.liquidationValue.amount.val := by
      unfold PortfolioValuation.markOf at hmark
      unfold markValue
      cases hget : v.mark? entry.1 with
      | none =>
        rw [hget] at hmark
        cases hmark
      | some m' =>
        rw [hget] at hmark
        cases hmark
        rfl
    rw [ih h, hval, List.map_cons, List.sum_cons, hvalue, add_assoc]

/-- The marks of exactly the open positions add up to the marked values of their keys. -/
theorem sum_markValue {s : LedgerState} {v : PortfolioValuation} (h : v.Covers s.openPositions) :
    (s.openPositions.map fun entry => markValue v entry.1).sum =
      total PositionValuation.liquidationValue v.positions := by
  have hkeys : (s.openPositions.map Prod.fst).Nodup :=
    s.positions.nodup.sublist (List.filter_sublist.map Prod.fst)
  have hperm : (s.openPositions.map Prod.fst).Perm (v.positions.map PositionValuation.positionKey) := by
    rw [List.perm_ext_iff_of_nodup hkeys v.keys_nodup]
    intro key
    constructor
    · exact h.2 key
    · intro hkey
      obtain ⟨mark, hmark, rfl⟩ := List.mem_map.mp hkey
      exact h.1 mark hmark
  have hsum := (hperm.map (markValue v)).sum_eq
  rw [List.map_map, List.map_map] at hsum
  rw [total]
  refine Eq.trans hsum ?_
  congr 1
  refine List.map_congr_left ?_
  intro mark hmark
  rw [Function.comp_apply, markValue, mark?_of_mem hmark]
  rfl

/-- What the reducer accepts as a valuation. -/
structure Accepted (s : LedgerState) (v : PortfolioValuation) : Prop where
  opened : s.opened = true
  currency : v.equity.currency = s.currency
  equity : v.equity.amount.val =
    s.cash.amount.val + total PositionValuation.liquidationValue v.positions

theorem accepted_of_apply {s s' : LedgerState} {e : PortfolioValuationRecorded}
    (h : applyPortfolioValuation s e = .ok s') : Accepted s e.valuation := by
  obtain ⟨hopened, h⟩ := check_bind_eq_ok.mp h
  obtain ⟨hcur, h⟩ := raiseIf_bind_eq_ok.mp h
  obtain ⟨hcovers, h⟩ := raiseIf_bind_eq_ok.mp h
  obtain ⟨t, ht, h⟩ := bind_eq_ok.mp h
  obtain ⟨equity, hequity, h⟩ := bind_eq_ok.mp h
  obtain ⟨heq, -⟩ := raiseIf_bind_eq_ok.mp h
  obtain ⟨-, hval, -⟩ := Money.add_eq_ok.mp hequity
  have hsum := addMarks_eq_ok ht
  rw [sum_markValue (not_not.mp hcovers)] at hsum
  refine ⟨requireOpened_eq_ok.mp hopened, not_not.mp hcur, ?_⟩
  rw [not_not.mp heq, hval, hsum]
  simp

/-! ## The history of the account -/

/-- The history starts with the initial cash, and its high-water mark is at least that. -/
structure StartsAt (cash : Money) (h : AccountHistory) : Prop where
  initialCash : h.initialCash = some cash
  highWater : ∃ m, h.highWaterAmount = some m ∧ cash.amount.val ≤ m.val

theorem le_maxMicros (a b : Micros) : a.val ≤ (maxMicros a b).val ∧ b.val ≤ (maxMicros a b).val := by
  unfold maxMicros
  split_ifs <;> constructor <;> omega

theorem StartsAt.add {s : LedgerState} {cash : Money} {h h' : AccountHistory} {event : LedgerEvent}
    (hstart : StartsAt cash h) (hadd : h.add s event = .ok h') : StartsAt cash h' := by
  cases event with
  | accountOpened e =>
    rw [AccountHistory.add, hstart.initialCash] at hadd
    cases hadd
    exact hstart
  | portfolioValuationRecorded e =>
    obtain ⟨-, hadd⟩ := raiseIf_bind_eq_ok.mp hadd
    cases hadd
    obtain ⟨m, hm, hle⟩ := hstart.highWater
    refine ⟨hstart.initialCash, maxMicros m e.valuation.equity.amount, ?_, ?_⟩
    · rw [hm]
      rfl
    · exact hle.trans (le_maxMicros _ _).1
  | _ =>
    cases hadd
    exact hstart

/-- The first event of a run opens the account. -/
theorem exists_accountOpened {rt : Runtime} {events : List LedgerEvent} {currency : String}
    {s : LedgerState} (h : replay rt events currency = .ok s) (hopened : s.opened = true) :
    ∃ e rest, events = .accountOpened e :: rest := by
  obtain ⟨-, h⟩ := replay_eq_ok.mp h
  cases events with
  | nil =>
    cases h
    cases hopened
  | cons event rest =>
    obtain ⟨t, ht, -⟩ := foldlM_cons_eq_ok.mp h
    obtain ⟨e, rfl, -⟩ := accountOpened_of_fresh ht
    exact ⟨e, rest, rfl⟩

/-- The history of an opened account. -/
theorem startsAt_of_history {s : LedgerState} {e : AccountOpened} {rest : List LedgerEvent}
    {h : AccountHistory}
    (hfold : (LedgerEvent.accountOpened e :: rest).foldlM (AccountHistory.add s) ⟨none, none⟩ = .ok h) :
    StartsAt e.initialCash h := by
  obtain ⟨h₁, hfirst, hrest⟩ := foldlM_cons_eq_ok.mp hfold
  cases hfirst
  exact foldlM_invariant (StartsAt e.initialCash) (fun _ _ _ hs hadd => hs.add hadd) rest _ h
    ⟨rfl, e.initialCash.amount, rfl, le_rfl⟩ hrest

/-! ## Positions and orders -/

/-- What a position that counts as open costs. -/
def openCost (p : Position) : ℤ :=
  if p.status = .open ∧ 0 < p.quantity.val then p.costBasis.amount.val else 0

/-- The cost of the open positions. -/
def openCostBasis (s : LedgerState) : ℤ := Dict.sumBy (fun _ p => openCost p) s.positions

/-- Only open positions cost anything. -/
theorem openCostBasis_eq {s : LedgerState} (hs : s.Invariants) (hflat : FlatCost s) :
    openCostBasis s = totalCostBasis s := by
  refine Dict.sumBy_congr ?_
  intro entry hentry
  have hp := hs.positions _ hentry
  rw [openCost]
  split_ifs with hopen
  · rfl
  · cases hstatus : entry.2.status with
    | settled => exact (hp.settled hstatus).2.2.symm
    | «open» =>
      -- an open position that is not counted has no quantity
      have hquantity := hp.quantity
      have hnone : ¬ 0 < entry.2.quantity.val := fun hpos => hopen ⟨hstatus, hpos⟩
      exact (hflat _ hentry (by omega)).symm

theorem totals_eq_ok {l : List Position} {t t' : PositionTotals}
    (h : l.foldlM PositionTotals.add t = .ok t') :
    (t'.realized.amount.val = t.realized.amount.val + total Position.realizedPnl l ∧
      t'.openCostBasis.amount.val = t.openCostBasis.amount.val + (l.map openCost).sum) ∧
    t'.realized.currency = t.realized.currency ∧
      t'.openCostBasis.currency = t.openCostBasis.currency ∧ t.openPositions ≤ t'.openPositions := by
  induction l generalizing t with
  | nil =>
    cases h
    simp
  | cons p l ih =>
    obtain ⟨u, hu, h⟩ := foldlM_cons_eq_ok.mp h
    obtain ⟨realized, hrealized, hu⟩ := bind_eq_ok.mp hu
    obtain ⟨-, hrealized, hrcur⟩ := Money.add_eq_ok.mp hrealized
    obtain ⟨⟨hr, hc⟩, hrcur', hccur', hcount⟩ := ih h
    rw [total_cons, List.map_cons, List.sum_cons, hr, hc, ← add_assoc, ← add_assoc]
    split_ifs at hu with hopen
    · obtain ⟨cost, hcost, hu⟩ := bind_eq_ok.mp hu
      obtain ⟨-, hcost, hccur⟩ := Money.add_eq_ok.mp hcost
      cases hu
      exact ⟨⟨by rw [hrealized], by rw [hcost, openCost, if_pos hopen]⟩, hrcur'.trans hrcur,
        hccur'.trans hccur, (le_add_of_nonneg_right zero_le_one).trans hcount⟩
    · cases hu
      exact ⟨⟨by rw [hrealized], by rw [openCost, if_neg hopen, add_zero]⟩, hrcur'.trans hrcur,
        hccur', hcount⟩

/-- The reservations of the active BUY orders are the reserved cash. -/
theorem total_activeBuy {s : LedgerState} (hs : s.Invariants) :
    total OrderAggregate.reservedCash (s.orders.values.filter activeBuy) =
      s.reservedCash.amount.val := by
  have hsum : ∀ l : List (String × OrderAggregate),
      (∀ entry ∈ l, OrderInvariant s.currency entry.1 entry.2) →
      total OrderAggregate.reservedCash ((l.map Prod.snd).filter activeBuy) =
        (l.map fun entry => entry.2.buyReserved).sum := by
    intro l hl
    induction l with
    | nil => rfl
    | cons entry l ih =>
      rw [List.forall_mem_cons] at hl
      rw [List.map_cons, List.map_cons, List.sum_cons, ← ih hl.2, List.filter_cons]
      by_cases hactive : activeBuy entry.2
      · rw [if_pos (decide_eq_true hactive), total_cons, OrderAggregate.buyReserved,
          if_pos hactive.1]
      · rw [if_neg (by simpa using hactive), OrderAggregate.buyReserved]
        -- an order that is not active reserves no cash
        split_ifs with hside
        · have hterminal : entry.2.state.isTerminal = true := by
            by_contra hlive
            exact hactive ⟨hside, Eq.mp (Bool.not_eq_true _) hlive⟩
          rw [(hl.1.terminal hterminal).1, zero_add]
        · rw [zero_add]
  rw [hs.reservedCash_eq]
  exact hsum _ hs.orders

/-! ## The report -/

/-- The identities of a status report. -/
structure Reconciles (events : List LedgerEvent) (s : LedgerState) (v : PortfolioValuation)
    (p : PaperStatus) : Prop where
  state : p.cash = s.cash ∧ p.reservedCash = s.reservedCash ∧ p.equity = v.equity
  startingCash : p.startingCash.amount.val = openingCash events
  marketValue : p.marketValue.amount.val = total PositionValuation.liquidationValue v.positions
  profit : p.equity.amount.val - p.startingCash.amount.val =
    p.realizedPnl.amount.val + p.unrealizedPnl.amount.val
  equity : p.equity.amount.val = p.cash.amount.val + p.marketValue.amount.val
  exposure : p.exposure.amount.val = openCostBasis s + p.reservedCash.amount.val
  available : p.cash.amount.val = p.availableCash.amount.val + p.reservedCash.amount.val
  fees : p.fees.amount.val = acceptedFees events
  highWater : max p.startingCash.amount.val p.equity.amount.val ≤ p.highWaterMark.amount.val
  drawdown : p.drawdown.amount.val = p.highWaterMark.amount.val - p.equity.amount.val
  drawdown_nonneg : 0 ≤ p.drawdown.amount.val
  currency : ∀ m ∈ p.amounts, m.currency = p.startingCash.currency

theorem new_eq_ok {p p' : PaperStatus} (h : PaperStatus.new p = .ok p') :
    p' = p ∧ ∀ m ∈ p.amounts, m.currency = p.startingCash.currency := by
  obtain ⟨hcur, h⟩ := check_bind_eq_ok.mp h
  obtain ⟨-, h⟩ := raiseIf_bind_eq_ok.mp h
  cases h
  refine ⟨rfl, ?_⟩
  intro m hm
  have := forM_eq_ok.mp hcur m hm
  rwa [raiseIf_eq_ok, not_not] at this

/-- **A report that is returned reconciles.** -/
theorem reconciles_of_paperStatus {rt : Runtime} {events : List LedgerEvent} {currency : String}
    {s : LedgerState} (hreplay : replay rt events currency = .ok s) {v : PortfolioValuation}
    (hv : Accepted s v) {p : PaperStatus} (h : paperStatus s events v = .ok p) :
    Reconciles events s v p := by
  have hreachable : Reachable rt s := ⟨events, currency, hreplay⟩
  have hs := hreachable.invariants
  obtain ⟨e, rest, rfl⟩ := exists_accountOpened hreplay hv.opened
  have hopening : openingCash (.accountOpened e :: rest) = e.initialCash.amount.val := rfl
  obtain ⟨-, h⟩ := check_bind_eq_ok.mp h
  obtain ⟨history, hhistory, h⟩ := bind_eq_ok.mp h
  have hstart := startsAt_of_history hhistory
  obtain ⟨m, hm, hhigh⟩ := hstart.highWater
  simp only [hstart.initialCash, hm] at h
  obtain ⟨-, h⟩ := raiseIf_bind_eq_ok.mp h
  obtain ⟨value, hvalue, h⟩ := bind_eq_ok.mp h
  obtain ⟨totals, htotals, h⟩ := bind_eq_ok.mp h
  obtain ⟨fees, hfees, h⟩ := bind_eq_ok.mp h
  obtain ⟨active, hactive, h⟩ := bind_eq_ok.mp h
  obtain ⟨exposure, hexposure, h⟩ := bind_eq_ok.mp h
  obtain ⟨unrealized, hunrealized, h⟩ := bind_eq_ok.mp h
  obtain ⟨drawdown, hdrawdown, h⟩ := bind_eq_ok.mp h
  obtain ⟨available, havailable, h⟩ := bind_eq_ok.mp h
  obtain ⟨rfl, hcurrency⟩ := new_eq_ok h
  -- what each sum is
  have hvalue := (sum_eq_ok hvalue).1
  obtain ⟨⟨hrealized, hcost⟩, -⟩ := totals_eq_ok htotals
  have hfees := (sum_eq_ok hfees).1
  have hactive := (sum_eq_ok hactive).1
  obtain ⟨-, hexposure, -⟩ := Money.add_eq_ok.mp hexposure
  obtain ⟨-, hunrealized, -⟩ := Money.sub_eq_ok.mp hunrealized
  obtain ⟨-, havailable, -⟩ := Money.sub_eq_ok.mp havailable
  rw [quantize_eq_ok] at hdrawdown
  simp only [Money.zero_amount, Micros.zero_val, zero_add] at hvalue hrealized hcost hfees hactive
  rw [total_activeBuy hs] at hactive
  have hcost' : (s.positions.values.map openCost).sum = openCostBasis s := by
    rw [openCostBasis, Dict.sumBy, Dict.values, List.map_map]
    rfl
  have hrealized' : total Position.realizedPnl s.positions.values = totalRealizedPnl s := by
    rw [total, Dict.values, List.map_map, totalRealizedPnl, Dict.sumBy]
    rfl
  have hfees' : total OrderAggregate.fees s.orders.values = acceptedFees (.accountOpened e :: rest) := by
    rw [← sum_fees_of_replay hreplay, total, Dict.values, List.map_map, Dict.sumBy]
    rfl
  have hopen := openCostBasis_eq hs hreachable.flatCost
  have hconserved := cash_conservation rt _ currency s hreplay
  have hmax := le_maxMicros m v.equity.amount
  have hequity := hv.equity
  rw [hcost'] at hcost
  rw [hrealized'] at hrealized
  rw [hfees'] at hfees
  rw [hopening] at hconserved
  rw [max_eq_right (sub_nonneg.mpr hmax.2)] at hdrawdown
  exact {
    state := ⟨rfl, rfl, rfl⟩
    startingCash := hopening.symm
    marketValue := hvalue
    profit := by
      show v.equity.amount.val - e.initialCash.amount.val =
        totals.realized.amount.val + unrealized.amount.val
      omega
    equity := by
      show v.equity.amount.val = s.cash.amount.val + value.amount.val
      omega
    exposure := by
      show exposure.amount.val = openCostBasis s + s.reservedCash.amount.val
      omega
    available := by
      show s.cash.amount.val = available.amount.val + s.reservedCash.amount.val
      omega
    fees := hfees
    highWater := max_le (hhigh.trans hmax.1) hmax.2
    drawdown := hdrawdown
    drawdown_nonneg := by
      show 0 ≤ drawdown.val
      rw [hdrawdown]
      exact sub_nonneg.mpr hmax.2
    currency := hcurrency }

/-! ## When there is a report -/

/-- The amounts that an event brings are in a currency. -/
def MoneyIn (currency : String) : LedgerEvent → Prop
  | .accountOpened e => e.initialCash.currency = currency
  | .portfolioValuationRecorded e => e.valuation.equity.currency = currency
  | _ => True

theorem moneyIn_of_reduce {rt : Runtime} {s next : LedgerState} {event : LedgerEvent}
    (h : reduce rt s event = .ok next) : MoneyIn s.currency event := by
  cases event with
  | accountOpened e =>
    obtain ⟨-, h⟩ := raiseIf_bind_eq_ok.mp h
    obtain ⟨hcur, -⟩ := raiseIf_bind_eq_ok.mp h
    exact not_not.mp hcur
  | portfolioValuationRecorded e =>
    obtain ⟨-, h⟩ := check_bind_eq_ok.mp h
    obtain ⟨hcur, -⟩ := raiseIf_bind_eq_ok.mp h
    exact not_not.mp hcur
  | _ => trivial

/-- The events of a run that its state remembers, and the currency of their amounts. -/
structure RunMoney (rt : Runtime) (events : List LedgerEvent) (s : LedgerState) : Prop where
  invariants : s.Invariants
  recorded : ∀ eventId fp, s.eventFingerprints.get? eventId = some fp →
    ∃ e ∈ events, fp = fingerprint rt e.canonical
  money : ∀ e ∈ events, MoneyIn s.currency e

/-- A run's amounts are in the ledger's currency. -/
theorem runMoney_of_replay {rt : Runtime} (hrt : rt.CollisionFree) {events : List LedgerEvent}
    {currency : String} {s : LedgerState} (h : replay rt events currency = .ok s) :
    RunMoney rt events s := by
  refine replay_induction (P := RunMoney rt) ?_ ?_ h
  · intro s h
    obtain ⟨-, h⟩ := replay_eq_ok.mp h
    cases h
    exact ⟨invariants_fresh _, (fun _ _ hfp => nomatch hfp), fun _ he => absurd he List.not_mem_nil⟩
  · intro pre event s s' _ hevent ih
    have hs' := applyEvent_invariants ih.invariants hevent
    rcases applyEvent_eq_ok.mp hevent with ⟨hfp, rfl⟩ | ⟨-, next, hreduce, rfl, -⟩
    · -- a repeated event is one of the earlier ones
      obtain ⟨e, he, hsame⟩ := ih.recorded _ _ hfp
      have heq := fingerprint_inj hrt hsame
      subst heq
      refine ⟨hs', fun eventId fp hfp' => ?_, fun e' he' => ?_⟩
      · obtain ⟨e', he', hsame'⟩ := ih.recorded eventId fp hfp'
        exact ⟨e', List.mem_append_left _ he', hsame'⟩
      · rcases List.mem_append.mp he' with he' | he'
        · exact ih.money e' he'
        · rw [List.mem_singleton.mp he']
          exact ih.money _ he
    · have hstep := step_of_reduce ih.invariants.wellKeyed hreduce
      have hcur : next.currency = s.currency := currency_of_step hstep
      refine ⟨hs', fun eventId fp hfp' => ?_, fun e' he' => ?_⟩
      · rw [recordEvent, (keepsBooks_of_step ih.invariants hstep).events, Dict.get?_insert] at hfp'
        split_ifs at hfp' with hid
        · cases hfp'
          exact ⟨event, List.mem_append_right _ (List.mem_singleton_self _), rfl⟩
        · obtain ⟨e', he', hsame'⟩ := ih.recorded eventId fp hfp'
          exact ⟨e', List.mem_append_left _ he', hsame'⟩
      · show MoneyIn next.currency e'
        rw [hcur]
        rcases List.mem_append.mp he' with he' | he'
        · exact ih.money e' he'
        · rw [List.mem_singleton.mp he']
          exact moneyIn_of_reduce hreduce

theorem history_ok {s : LedgerState} {events : List LedgerEvent}
    (hmoney : ∀ e ∈ events, MoneyIn s.currency e) (h : AccountHistory) :
    ∃ h', events.foldlM (AccountHistory.add s) h = .ok h' := by
  induction events generalizing h with
  | nil => exact ⟨h, rfl⟩
  | cons event events ih =>
    rw [List.forall_mem_cons] at hmoney
    have hadd : ∃ h₁, h.add s event = .ok h₁ := by
      cases event with
      | accountOpened e =>
        unfold AccountHistory.add
        cases h.initialCash with
        | none => exact ⟨_, rfl⟩
        | some cash => exact ⟨_, rfl⟩
      | portfolioValuationRecorded e =>
        have hcur : e.valuation.equity.currency = s.currency := hmoney.1
        rw [AccountHistory.add, raiseIf_of_not _ (not_not.mpr hcur)]
        exact ⟨_, rfl⟩
      | _ => exact ⟨_, rfl⟩
    obtain ⟨h₁, hadd⟩ := hadd
    obtain ⟨h', hrest⟩ := ih hmoney.2 h₁
    exact ⟨h', foldlM_cons_eq_ok.mpr ⟨h₁, hadd, hrest⟩⟩

theorem totals_ok {currency : String} {l : List Position}
    (hl : ∀ p ∈ l, p.realizedPnl.currency = currency ∧ p.costBasis.currency = currency ∧
      0 ≤ p.costBasis.amount.val) {t : PositionTotals} (hrcur : t.realized.currency = currency)
    (hccur : t.openCostBasis.currency = currency) (hcost : 0 ≤ t.openCostBasis.amount.val)
    (hrealized : Fits (|t.realized.amount.val| + gross Position.realizedPnl l))
    (hsum : Fits (t.openCostBasis.amount.val + (l.map openCost).sum)) :
    ∃ t', l.foldlM PositionTotals.add t = .ok t' := by
  induction l generalizing t with
  | nil => exact ⟨t, rfl⟩
  | cons p l ih =>
    rw [List.forall_mem_cons] at hl
    obtain ⟨⟨hpr, hpc, hp0⟩, hrest⟩ := hl
    rw [gross_cons, ← add_assoc] at hrealized
    rw [List.map_cons, List.sum_cons, ← add_assoc] at hsum
    have hgross := gross_nonneg Position.realizedPnl l
    have habs := abs_add_le t.realized.amount.val p.realizedPnl.amount.val
    have hopenCost : ∀ q : Position, 0 ≤ q.costBasis.amount.val → 0 ≤ openCost q := by
      intro q hq
      unfold openCost
      split_ifs
      · exact hq
      · exact le_rfl
    have hcosts : 0 ≤ (l.map openCost).sum := by
      apply List.sum_nonneg
      intro x hx
      obtain ⟨q, hq, rfl⟩ := List.mem_map.mp hx
      exact hopenCost q (hrest q hq).2.2
    have hcost' := hopenCost p hp0
    have hrfits : Fits (t.realized.amount.val + p.realizedPnl.amount.val) :=
      fits_of_abs_le (habs.trans (le_add_of_nonneg_right hgross)) hrealized
    have hrnext : Fits (|t.realized.amount.val + p.realizedPnl.amount.val| +
        gross Position.realizedPnl l) :=
      fits_of_abs_le (by
        rw [abs_of_nonneg (add_nonneg (abs_nonneg _) hgross)]
        exact add_le_add_left habs _) hrealized
    have hcfits : Fits (t.openCostBasis.amount.val + openCost p) :=
      LedgerState.fits_of_le (a := ⟨_, hsum⟩) (add_nonneg hcost hcost')
        (le_add_of_nonneg_right hcosts)
    have hradd := Money.add_of_fits (hpr.trans hrcur.symm) hrfits
    rw [List.foldlM_cons]
    by_cases hopen : p.status = .open ∧ 0 < p.quantity.val
    · rw [openCost, if_pos hopen] at hcfits hsum hcost'
      have hcadd := Money.add_of_fits (hpc.trans hccur.symm) hcfits
      rw [PositionTotals.add, hradd, ok_bind, if_pos hopen, hcadd]
      exact ih hrest hrcur hccur (add_nonneg hcost hcost') hrnext hsum
    · rw [openCost, if_neg hopen, add_zero] at hsum
      rw [PositionTotals.add, hradd, ok_bind, if_neg hopen]
      exact ih hrest hrcur hccur hcost hrnext hsum

/-- The sums of a report have at most 28 digits, the profits without their signs. -/
structure StatusFits (s : LedgerState) : Prop where
  realized : Fits (gross Position.realizedPnl s.positions.values)
  fees : Fits (total OrderAggregate.fees s.orders.values)
  exposure : Fits (openCostBasis s + s.reservedCash.amount.val)

section Report

variable {rt : Runtime} {s : LedgerState} {v : PortfolioValuation}

/-- The marks are in the ledger's currency. -/
theorem Accepted.mark (hv : Accepted s v) : ∀ mark ∈ v.positions,
    mark.liquidationValue.currency = s.currency ∧ 0 ≤ mark.liquidationValue.amount.val := by
  intro mark hmark
  have hcheck := forM_eq_ok.mp v.marks_checked mark hmark
  rw [checkMark, raiseIf_bind_eq_ok, not_not] at hcheck
  exact ⟨hcheck.1.trans hv.currency, mark.liquidationValue_nonneg⟩

theorem Accepted.marketValue_ok (hs : s.Invariants) (hv : Accepted s v) :
    ∃ value, marketValue s.currency v.positions = .ok value ∧ value.currency = s.currency ∧
      0 ≤ value.amount.val := by
  have hgross := gross_eq_total fun mark hmark => (hv.mark mark hmark).2
  have h0 : 0 ≤ total PositionValuation.liquidationValue v.positions := by
    rw [← hgross]
    exact gross_nonneg _ _
  have hcash : 0 ≤ s.cash.amount.val := hs.reservedCash_nonneg.trans hs.available_nonneg
  have hequity := hv.equity
  have hfits : Fits (total PositionValuation.liquidationValue v.positions) :=
    LedgerState.fits_of_le (a := v.equity.amount) h0 (by omega)
  obtain ⟨value, hvalue⟩ := sum_ok (f := PositionValuation.liquidationValue) (l := v.positions)
    (m := Money.zero s.currency) (fun mark hmark => (hv.mark mark hmark).1)
    (by rw [hgross]; simpa using hfits)
  obtain ⟨hval, hcur⟩ := sum_eq_ok hvalue
  simp only [Money.zero_amount, Micros.zero_val, zero_add] at hval
  exact ⟨value, hvalue, hcur, by omega⟩

theorem StatusFits.totals_ok (hreachable : Reachable rt s) (hfits : StatusFits s) :
    ∃ totals, s.positions.values.foldlM PositionTotals.add
        ⟨Money.zero s.currency, Money.zero s.currency, 0⟩ = .ok totals ∧
      totals.realized.currency = s.currency ∧ totals.openCostBasis.currency = s.currency ∧
      totals.openCostBasis.amount.val = openCostBasis s ∧ 0 ≤ openCostBasis s ∧
      0 ≤ totals.openPositions := by
  have hs := hreachable.invariants
  have hpositions : ∀ p ∈ s.positions.values, p.realizedPnl.currency = s.currency ∧
      p.costBasis.currency = s.currency ∧ 0 ≤ p.costBasis.amount.val := by
    intro p hp
    obtain ⟨entry, hentry, rfl⟩ := List.mem_map.mp hp
    exact ⟨hreachable.pnlCurrency _ hentry, hreachable.costCurrency _ hentry,
      (hs.positions _ hentry).costBasis⟩
  have hsum : (s.positions.values.map openCost).sum = openCostBasis s := by
    rw [openCostBasis, Dict.sumBy, Dict.values, List.map_map]
    rfl
  have h0 : 0 ≤ openCostBasis s := by
    rw [openCostBasis_eq hs hreachable.flatCost]
    exact Dict.sumBy_nonneg fun entry hentry => (hs.positions _ hentry).costBasis
  have hcost : Fits (openCostBasis s) :=
    LedgerState.fits_of_le (a := ⟨_, hfits.exposure⟩) h0
      (le_add_of_nonneg_right hs.reservedCash_nonneg)
  obtain ⟨totals, htotals⟩ := Paper.totals_ok hpositions
    (t := ⟨Money.zero s.currency, Money.zero s.currency, 0⟩) rfl rfl le_rfl
    (by simpa using hfits.realized) (by simpa [hsum] using hcost)
  obtain ⟨⟨-, hval⟩, hrealized, hcostCur, hcount⟩ := totals_eq_ok htotals
  simp only [Money.zero_amount, Micros.zero_val, zero_add, hsum] at hval
  exact ⟨totals, htotals, hrealized, hcostCur, hval, h0, hcount⟩

theorem StatusFits.fees_ok (hs : s.Invariants) (hfits : StatusFits s) :
    ∃ fees, s.orders.values.foldlM (fun sum o => sum.add (OrderAggregate.fees o))
      (Money.zero s.currency) = .ok fees ∧ fees.currency = s.currency := by
  have horders : ∀ o ∈ s.orders.values, Amount s.currency o.fees := by
    intro o ho
    obtain ⟨entry, hentry, rfl⟩ := List.mem_map.mp ho
    exact (hs.orders _ hentry).fees
  obtain ⟨fees, hfees⟩ := sum_ok (f := OrderAggregate.fees) (l := s.orders.values)
    (m := Money.zero s.currency) (fun o ho => (horders o ho).1)
    (by rw [gross_eq_total fun o ho => (horders o ho).2]; simpa using hfits.fees)
  exact ⟨fees, hfees, (sum_eq_ok hfees).2⟩

theorem activeBuyReservations_ok (hs : s.Invariants) :
    ∃ active, (s.orders.values.filter activeBuy).foldlM
        (fun sum o => sum.add (OrderAggregate.reservedCash o)) (Money.zero s.currency) = .ok active ∧
      active.currency = s.currency ∧ active.amount.val = s.reservedCash.amount.val := by
  have horders : ∀ o ∈ s.orders.values.filter activeBuy, Amount s.currency o.reservedCash := by
    intro o ho
    obtain ⟨entry, hentry, rfl⟩ := List.mem_map.mp (List.mem_of_mem_filter ho)
    exact (hs.orders _ hentry).reservedCash
  obtain ⟨active, hactive⟩ := sum_ok (f := OrderAggregate.reservedCash)
    (l := s.orders.values.filter activeBuy) (m := Money.zero s.currency)
    (fun o ho => (horders o ho).1)
    (by rw [gross_eq_total fun o ho => (horders o ho).2, total_activeBuy hs]
        simpa using s.reservedCash.amount.fits)
  obtain ⟨hval, hcur⟩ := sum_eq_ok hactive
  rw [total_activeBuy hs] at hval
  simp only [Money.zero_amount, Micros.zero_val, zero_add] at hval
  exact ⟨active, hactive, hcur, hval⟩

theorem new_ok {p : PaperStatus} (hp : ∀ a ∈ p.amounts, a.currency = p.startingCash.currency)
    (hcount : 0 ≤ p.openPositions) : PaperStatus.new p = .ok p := by
  unfold PaperStatus.new
  rw [check_bind_eq_ok, forM_eq_ok]
  refine ⟨fun a ha => raiseIf_of_not _ (not_not.mpr (hp a ha)), ?_⟩
  rw [raiseIf_of_not _ (not_lt.mpr hcount), ok_bind]
  rfl

/-- **There is a report** when its sums have at most 28 digits. -/
theorem paperStatus_ok (hrt : rt.CollisionFree) {events : List LedgerEvent} {currency : String}
    (hreplay : replay rt events currency = .ok s) (hfits : StatusFits s) (hv : Accepted s v) :
    ∃ p, paperStatus s events v = .ok p := by
  have hreachable : Reachable rt s := ⟨events, currency, hreplay⟩
  have hs := hreachable.invariants
  have hmoney := (runMoney_of_replay hrt hreplay).money
  obtain ⟨history, hhistory⟩ := history_ok hmoney ⟨none, none⟩
  obtain ⟨e, rest, rfl⟩ := exists_accountOpened hreplay hv.opened
  have hstart := startsAt_of_history hhistory
  obtain ⟨m, hm, -⟩ := hstart.highWater
  have hcash : s.currency = e.initialCash.currency := (hmoney _ List.mem_cons_self).symm
  obtain ⟨value, hvalue, hvalueCur, hvalue0⟩ := hv.marketValue_ok hs
  obtain ⟨totals, htotals, hrealizedCur, hcostCur, hcost, hcost0, hcount⟩ :=
    hfits.totals_ok hreachable
  obtain ⟨fees, hfees, hfeesCur⟩ := hfits.fees_ok hs
  obtain ⟨active, hactive, hactiveCur, hactiveVal⟩ := activeBuyReservations_ok hs
  -- exposure, profit and drawdown
  have hexposure := Money.add_of_fits (a := totals.openCostBasis) (b := active)
    (hactiveCur.trans hcostCur.symm) (by rw [hcost, hactiveVal]; exact hfits.exposure)
  have hunrealizedFits : Fits (value.amount.val - totals.openCostBasis.amount.val) := by
    have hvalueFits := value.amount.fits
    have hcostFits := totals.openCostBasis.amount.fits
    unfold Fits at *
    omega
  have hunrealized := Money.sub_of_fits (a := value) (b := totals.openCostBasis)
    (hcostCur.trans hvalueCur.symm) hunrealizedFits
  have hmax := le_maxMicros m v.equity.amount
  have hdrawdownFits : Fits (max 0 ((maxMicros m v.equity.amount).val - v.equity.amount.val)) := by
    rw [max_eq_right (sub_nonneg.mpr hmax.2)]
    exact LedgerState.fits_sub v.equity_nonneg hmax.2
  have hdrawdown := quantize_of_fits hdrawdownFits
  have havailable : s.availableCash = _ := Money.sub_of_fits
    (hs.reservedCash_currency.trans hs.cash_currency.symm)
    (LedgerState.fits_sub hs.reservedCash_nonneg hs.available_nonneg)
  unfold paperStatus
  rw [LedgerState.assertInvariants_eq_ok.mpr hs, ok_bind, hhistory, ok_bind]
  simp only [hstart.initialCash, hm]
  rw [raiseIf_of_not _ (not_not.mpr hv.currency), ok_bind, hvalue, ok_bind, htotals, ok_bind, hfees,
    ok_bind, hactive, ok_bind, hexposure, ok_bind, hunrealized, ok_bind, hdrawdown, ok_bind,
    havailable, ok_bind]
  refine ⟨_, new_ok ?_ hcount⟩
  intro a ha
  simp only [PaperStatus.amounts, List.mem_cons, List.not_mem_nil, or_false] at ha
  rw [← hcash]
  rcases ha with rfl | rfl | rfl | rfl | rfl | rfl | rfl | rfl | rfl | rfl | rfl
  · exact hs.cash_currency
  · exact hs.reservedCash_currency
  · exact hs.cash_currency
  · exact hvalueCur
  · exact hrealizedCur
  · exact hvalueCur
  · exact hfeesCur
  · exact hcostCur
  · exact hv.currency
  · rfl
  · rfl

end Report

/-- **The status report reconciles.** On the final state of a run, with a valuation that the reducer
accepts there: every report that is returned satisfies all identities, and one is returned when its
sums have at most 28 digits. -/
theorem paperStatus_reconciles (rt : Runtime) (events : List LedgerEvent) (currency : String)
    (s s' : LedgerState) (hreplay : replay rt events currency = .ok s)
    (e : PortfolioValuationRecorded) (haccepted : applyPortfolioValuation s e = .ok s') :
    (∀ p, paperStatus s events e.valuation = .ok p → Reconciles events s e.valuation p) ∧
    (rt.CollisionFree → StatusFits s → ∃ p, paperStatus s events e.valuation = .ok p) :=
  ⟨fun _ h => reconciles_of_paperStatus hreplay (accepted_of_apply haccepted) h,
    fun hrt hfits => paperStatus_ok hrt hreplay hfits (accepted_of_apply haccepted)⟩

/-! ## A sample report -/

namespace Sample

open Ledger.Sample

/-- The mark of the two shares that the sample run leaves after its sale. -/
def mark : PositionValuation where
  marketId := "market"
  outcomeId := "yes"
  quantity := ⟨2000000, fits_twoMillion⟩
  liquidationValue := usd 900000 (by decide)
  observedAt := noon
  marketId_text := .refl false
  outcomeId_text := .refl false
  quantity_pos := by decide
  liquidationValue_nonneg := by decide

def valuationRecorded : PortfolioValuationRecorded :=
  { event "12" (.refl false) with
    valuation := {
      positions := [mark]
      equity := usd 10566665 (by decide)
      assembledAt := noon
      source := "paper"
      equity_nonneg := by decide
      source_text := by decide
      keys_nodup := by decide
      marks_checked := by decide }
    occurredAt_eq := by decide }

end Sample

/-- The profit of the sample run before its settlement, in part realized. -/
theorem paperStatus_reconciles_roundTrip : ∃ s p,
    replay .utc (Ledger.Sample.roundTrip.take 9) "USD" = .ok s ∧
    paperStatus s (Ledger.Sample.roundTrip.take 9) Sample.valuationRecorded.valuation = .ok p ∧
    p.equity.amount.val - p.startingCash.amount.val = 566665 ∧
    p.equity.amount.val - p.startingCash.amount.val =
      p.realizedPnl.amount.val + p.unrealizedPnl.amount.val := by
  have hs := eq_ok_okOr (x := replay .utc (Ledger.Sample.roundTrip.take 9) "USD")
    (by decide) (.fresh "USD")
  have haccepted := eq_ok_okOr
    (x := applyPortfolioValuation (okOr (replay .utc (Ledger.Sample.roundTrip.take 9) "USD")
      (.fresh "USD")) Sample.valuationRecorded) (by decide) (.fresh "USD")
  have hp := eq_ok_okOr
    (x := paperStatus (okOr (replay .utc (Ledger.Sample.roundTrip.take 9) "USD") (.fresh "USD"))
      (Ledger.Sample.roundTrip.take 9) Sample.valuationRecorded.valuation) (by decide)
    ⟨Money.zero "", Money.zero "", Money.zero "", Money.zero "", Money.zero "", Money.zero "",
      Money.zero "", Money.zero "", Money.zero "", Money.zero "", Money.zero "", Money.zero "", 0⟩
  exact ⟨_, _, hs, hp, by decide,
    ((paperStatus_reconciles .utc _ "USD" _ _ hs _ haccepted).1 _ hp).profit⟩

end WeatherBot.Paper
