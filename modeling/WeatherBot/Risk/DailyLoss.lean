import WeatherBot.Common.Instants
import WeatherBot.Ledger.Conservation
import WeatherBot.Ledger.CostBasis
import WeatherBot.Markets.OrderBook

/-!
# The realized profit of a day

`_realized_pnl_today` (`risk/portfolio.py`) turns the local day of an evaluation
into two instants, those of its first and its last wall-clock microsecond, and
adds up what the events between them changed.

* `Zone`: the transitions of a time zone. A wall clock's offset is the one that
  `zoneinfo` gives for `fold=0`.
* `realizedPnlToday_eq_ok`: when there is a result, and what it adds up.
* `countsOwnDay_iff`: **the day's events are the ones that count iff** the two
  instants have between them, of all instants up to the evaluation, those of its
  local date and no others.
* `LocalDay.Steady.agrees`: they do on a day without a transition near it, and
  `countsOwnDay_iff_saoPaulo`: not where an hour is repeated at midnight.
-/

namespace WeatherBot.Risk

open WeatherBot.Common
open WeatherBot.Domain
open WeatherBot.Ledger
open WeatherBot.Markets (astimezoneUtc astimezoneUtc_eq_ok plus)

/-! ## Time zones -/

/-- What `zoneinfo` knows of a time zone: the offset before the first transition, and every
transition's instant with the offset that begins there; all in microseconds. -/
structure Zone where
  initial : ℤ
  transitions : List (ℤ × ℤ)
  increasing : (transitions.map Prod.fst).Pairwise (· < ·)
  offset_lt : ∀ offset ∈ initial :: transitions.map Prod.snd, offset.natAbs < dayMicros

/-- `bisect.bisect_right`: the loop, with what may still be between `lo` and `hi`. -/
def bisectLoop (xs : List ℤ) (x : ℤ) : ℕ → ℕ → ℕ → ℕ
  | 0, lo, _ => lo
  | fuel + 1, lo, hi =>
    if lo < hi then
      let mid := (lo + hi) / 2
      if x < xs.getD mid 0 then bisectLoop xs x fuel lo mid
      else bisectLoop xs x fuel (mid + 1) hi
    else lo

def bisectRight (xs : List ℤ) (x : ℤ) : ℕ := bisectLoop xs x xs.length 0 xs.length

namespace Zone

variable (z : Zone)

/-- The offsets in their order. -/
def offsets : List ℤ := z.initial :: z.transitions.map Prod.snd

/-- The offset at an instant. -/
def offsetAt (t : ℤ) : ℤ := z.offsets.getD (bisectRight (z.transitions.map Prod.fst) t) 0

/-- The wall-clock times from which a time with `fold=0` has the offset after each transition:
the end of a gap, and the end of a repeated hour. -/
def wallStarts : List ℤ :=
  (z.transitions.zip z.offsets).map fun p => p.1.1 + max p.2 p.1.2

/-- The offset of a wall-clock time with `fold=0`. -/
def wallOffset (wall : ℤ) : ℤ := z.offsets.getD (bisectRight z.wallStarts wall) 0

/-- `value.astimezone(zone).date()`. -/
def localDate (value : DateTime) : Except Error Date := do
  let utc ← astimezoneUtc value
  let wall ← plus utc (z.offsetAt utc.instant)
  return wall.date

/-- `datetime.combine(date, time, zone).astimezone(UTC)`, for a time of day in microseconds. -/
def combine (date : Date) (time : ℕ) : Except Error DateTime :=
  let wall : ℤ := (date.toordinal - 1) * dayMicros + time
  match DateTime.ofInstant (wall - z.wallOffset wall) with
  | some t => return t
  | none => throw ⟨.overflowError, "date value out of range"⟩

end Zone

/-! ## The loop -/

/-- `_sum_money` (`portfolio.py`, 84-88). -/
def sumMoney (values : List Money) (currency : String) : Except Error Money :=
  values.foldlM Money.add (Money.zero currency)

/-- `_realized_total` (`portfolio.py`, 91-95). -/
def realizedTotal (s : LedgerState) : Except Error Money :=
  sumMoney (s.positions.values.map Position.realizedPnl) s.currency

/-- One event of the loop (`portfolio.py`, 115-121): the state after it, and the sum. -/
def countEvent (rt : Runtime) (evaluatedAt start last : DateTime) (acc : LedgerState × Money)
    (event : LedgerEvent) : Except Error (LedgerState × Money) := do
  let before ← realizedTotal acc.1
  let state ← applyEvent rt acc.1 event
  let after ← realizedTotal state
  let eventUtc ← astimezoneUtc event.occurredAt
  if event.occurredAt.instant ≤ evaluatedAt.instant ∧
      start.instant ≤ eventUtc.instant ∧ eventUtc.instant ≤ last.instant then do
    let change ← after.sub before
    let realized ← acc.2.add change
    return (state, realized)
  else return (state, acc.2)

/-- `_realized_pnl_today` (`portfolio.py`, 98-122); `zoneInfo` is `ZoneInfo`. -/
def realizedPnlToday (rt : Runtime) (zoneInfo : String → Option Zone) (events : List LedgerEvent)
    (currency : String) (evaluatedAt : DateTime) (timezoneName : String) : Except Error Money :=
  match zoneInfo timezoneName with
  | none => throw (.valueError ("unknown loss timezone " ++ rt.repr timezoneName))
  | some zone => do
    let localDate ← zone.localDate evaluatedAt
    let start ← zone.combine localDate 0
    let last ← zone.combine localDate (dayMicros - 1)
    let state ← LedgerState.empty rt currency
    let realized ← Money.new rt .zero currency
    let (_, realized) ← events.foldlM (countEvent rt evaluatedAt start last) (state, realized)
    return realized

/-! ## Sums that are representable -/

/-- Every partial sum of the amounts, added to the first number, has at most 28 digits. -/
def SumsFit : ℤ → List ℤ → Prop
  | acc, [] => Fits acc
  | acc, x :: l => Fits acc ∧ SumsFit (acc + x) l

instance : (acc : ℤ) → (l : List ℤ) → Decidable (SumsFit acc l)
  | acc, [] => inferInstanceAs (Decidable (Fits acc))
  | acc, x :: l =>
    have := instDecidableSumsFit (acc + x) l
    inferInstanceAs (Decidable (Fits acc ∧ SumsFit (acc + x) l))

theorem SumsFit.head {acc : ℤ} {l : List ℤ} (h : SumsFit acc l) : Fits acc := by
  cases l with
  | nil => exact h
  | cons x l => exact h.1

theorem sum_eq_ok {values : List Money} {acc m : Money}
    (hcur : ∀ v ∈ values, v.currency = acc.currency) :
    values.foldlM Money.add acc = .ok m ↔
      SumsFit acc.amount.val (values.map fun v => v.amount.val) ∧
        m.amount.val = acc.amount.val + (values.map fun v => v.amount.val).sum ∧
        m.currency = acc.currency := by
  induction values generalizing acc with
  | nil =>
    rw [List.map_nil, List.sum_nil, add_zero]
    constructor
    · intro h
      cases h
      exact ⟨m.amount.fits, rfl, rfl⟩
    · rintro ⟨-, hval, hmcur⟩
      rw [Money.ext_val hval hmcur]
      rfl
  | cons v values ih =>
    rw [List.forall_mem_cons] at hcur
    rw [foldlM_cons_eq_ok, List.map_cons, List.sum_cons]
    constructor
    · rintro ⟨t, ht, h⟩
      obtain ⟨-, htval, htcur⟩ := Money.add_eq_ok.mp ht
      obtain ⟨hfit, hval, hmcur⟩ := (ih fun w hw => (hcur.2 w hw).trans htcur.symm).mp h
      rw [htval] at hfit hval
      exact ⟨⟨acc.amount.fits, hfit⟩, by rw [hval, add_assoc], hmcur.trans htcur⟩
    · rintro ⟨⟨-, hfit⟩, hval, hmcur⟩
      have ih := @ih ⟨⟨_, hfit.head⟩, acc.currency⟩ hcur.2
      exact ⟨_, Money.add_of_fits hcur.1 hfit.head,
        ih.mpr ⟨hfit, by rw [hval, add_assoc], hmcur⟩⟩

theorem SumsFit.total {acc : ℤ} {l : List ℤ} (h : SumsFit acc l) : Fits (acc + l.sum) := by
  induction l generalizing acc with
  | nil =>
    rw [List.sum_nil, add_zero]
    exact h
  | cons x l ih =>
    rw [List.sum_cons, ← add_assoc]
    exact ih h.2

/-- The partial sums of the realized profits of the positions are representable. -/
def TotalFits (s : LedgerState) : Prop :=
  SumsFit 0 (s.positions.values.map fun p => p.realizedPnl.amount.val)

instance (s : LedgerState) : Decidable (TotalFits s) := inferInstanceAs (Decidable (SumsFit _ _))

theorem sum_realizedPnl (s : LedgerState) :
    (s.positions.values.map fun p => p.realizedPnl.amount.val).sum = totalRealizedPnl s := by
  rw [Dict.values, List.map_map]
  rfl

theorem realizedTotal_eq_ok {s : LedgerState} {m : Money} (hs : PnlCurrency s) :
    realizedTotal s = .ok m ↔
      TotalFits s ∧ m.amount.val = totalRealizedPnl s ∧ m.currency = s.currency := by
  have hcur : ∀ v ∈ s.positions.values.map Position.realizedPnl,
      v.currency = (Money.zero s.currency).currency := by
    intro v hv
    obtain ⟨p, hp, rfl⟩ := List.mem_map.mp hv
    obtain ⟨entry, hentry, rfl⟩ := List.mem_map.mp hp
    exact hs entry hentry
  rw [realizedTotal, sumMoney, sum_eq_ok hcur, List.map_map, Money.zero_amount, Micros.zero_val,
    zero_add, ← sum_realizedPnl]
  rfl

theorem realizedTotal_ok {s : LedgerState} (hs : PnlCurrency s) (hfit : TotalFits s) :
    ∃ m, realizedTotal s = .ok m ∧ m.amount.val = totalRealizedPnl s ∧ m.currency = s.currency := by
  have hsum := hfit.total
  rw [sum_realizedPnl, zero_add] at hsum
  exact ⟨⟨⟨_, hsum⟩, s.currency⟩, (realizedTotal_eq_ok hs).mpr ⟨hfit, rfl, rfl⟩, rfl, rfl⟩

/-! ## What a run changes -/

section Changes

variable (rt : Runtime)

/-- The states before, between and after the events. -/
def states : LedgerState → List LedgerEvent → List LedgerState
  | s, [] => [s]
  | s, event :: events => s :: match applyEvent rt s event with
    | .ok next => states next events
    | .error _ => []

/-- The events with what each changes the realized profit by. -/
def changes : LedgerState → List LedgerEvent → List (LedgerEvent × ℤ)
  | _, [] => []
  | s, event :: events => match applyEvent rt s event with
    | .ok next => (event, totalRealizedPnl next - totalRealizedPnl s) :: changes next events
    | .error _ => []

variable {rt}

theorem states_cons {s next : LedgerState} {event : LedgerEvent} {events : List LedgerEvent}
    (h : applyEvent rt s event = .ok next) :
    states rt s (event :: events) = s :: states rt next events := by
  rw [states, h]

theorem changes_cons {s next : LedgerState} {event : LedgerEvent} {events : List LedgerEvent}
    (h : applyEvent rt s event = .ok next) :
    changes rt s (event :: events) =
      (event, totalRealizedPnl next - totalRealizedPnl s) :: changes rt next events := by
  rw [changes, h]

theorem head_mem_states (s : LedgerState) (events : List LedgerEvent) : s ∈ states rt s events := by
  cases events with
  | nil => exact List.mem_singleton_self s
  | cons event events => exact List.mem_cons_self ..

/-- An accepted run has a change for every event. -/
theorem map_fst_changes {s t : LedgerState} {events : List LedgerEvent}
    (h : applyEvents rt s events = .ok t) : (changes rt s events).map Prod.fst = events := by
  induction events generalizing s with
  | nil => rfl
  | cons event events ih =>
    obtain ⟨next, hnext, h⟩ := foldlM_cons_eq_ok.mp h
    rw [changes_cons hnext, List.map_cons, ih h]

end Changes

/-! ## What the loop adds up -/

/-- The times of the events that the loop takes in. -/
def Counted (evaluatedAt start last t : DateTime) : Prop :=
  t.instant ≤ evaluatedAt.instant ∧
    ∃ utc ∈ t.astimezoneUtc, start.instant ≤ utc.instant ∧ utc.instant ≤ last.instant

instance (evaluatedAt start last : DateTime) : DecidablePred (Counted evaluatedAt start last) :=
  fun _ => inferInstanceAs (Decidable (_ ∧ _))

/-- The changes of the events at the times with a property. -/
def changesOf (p : DateTime → Prop) [DecidablePred p] (l : List (LedgerEvent × ℤ)) : List ℤ :=
  (l.filter fun c => p c.1.occurredAt).map Prod.snd

theorem changesOf_cons_of_pos {p : DateTime → Prop} [DecidablePred p] {c : LedgerEvent × ℤ}
    (h : p c.1.occurredAt) (l : List (LedgerEvent × ℤ)) : changesOf p (c :: l) = c.2 :: changesOf p l := by
  simp [changesOf, h]

theorem changesOf_cons_of_neg {p : DateTime → Prop} [DecidablePred p] {c : LedgerEvent × ℤ}
    (h : ¬ p c.1.occurredAt) (l : List (LedgerEvent × ℤ)) : changesOf p (c :: l) = changesOf p l := by
  simp [changesOf, h]

theorem changesOf_congr {p q : DateTime → Prop} [DecidablePred p] [DecidablePred q]
    {l : List (LedgerEvent × ℤ)} (h : ∀ c ∈ l, (p c.1.occurredAt ↔ q c.1.occurredAt)) :
    changesOf p l = changesOf q l := by
  rw [changesOf, changesOf, List.filter_congr fun c hc => decide_eq_decide.mpr (h c hc)]

theorem changesOf_of_forall {p : DateTime → Prop} [DecidablePred p] {l : List (LedgerEvent × ℤ)}
    (h : ∀ c ∈ l, p c.1.occurredAt) : changesOf p l = l.map Prod.snd := by
  rw [changesOf, List.filter_eq_self.mpr fun c hc => decide_eq_true (h c hc)]

theorem changesOf_of_forall_not {p : DateTime → Prop} [DecidablePred p]
    {l : List (LedgerEvent × ℤ)} (h : ∀ c ∈ l, ¬ p c.1.occurredAt) : changesOf p l = [] := by
  rw [changesOf, List.filter_eq_nil_iff.mpr fun c hc => by simpa using h c hc, List.map_nil]

/-- What the loop needs in order to return: times that UTC can write, and sums of at most 28
digits. -/
structure InRange (rt : Runtime) (s : LedgerState) (events : List LedgerEvent)
    (evaluatedAt start last : DateTime) (acc : ℤ) : Prop where
  times : ∀ event ∈ events, event.occurredAt.astimezoneUtc ≠ none
  totals : ∀ t ∈ states rt s events, TotalFits t
  changes : ∀ x ∈ changesOf (Counted evaluatedAt start last) (Risk.changes rt s events), Fits x
  sums : SumsFit acc (changesOf (Counted evaluatedAt start last) (Risk.changes rt s events))

section Loop

variable {rt : Runtime} {evaluatedAt start last : DateTime} {s next : LedgerState}
  {event : LedgerEvent} {events : List LedgerEvent}

theorem inRange_cons (h : applyEvent rt s event = .ok next) {acc : ℤ} :
    InRange rt s (event :: events) evaluatedAt start last acc ↔
      TotalFits s ∧ event.occurredAt.astimezoneUtc ≠ none ∧
        if Counted evaluatedAt start last event.occurredAt then
          Fits acc ∧ Fits (totalRealizedPnl next - totalRealizedPnl s) ∧
            InRange rt next events evaluatedAt start last
              (acc + (totalRealizedPnl next - totalRealizedPnl s))
        else InRange rt next events evaluatedAt start last acc := by
  split_ifs with hcounted
  · constructor
    · rintro ⟨htimes, htotals, hchanges, hsums⟩
      rw [states_cons h, List.forall_mem_cons] at htotals
      rw [changes_cons h, changesOf_cons_of_pos hcounted] at hchanges hsums
      rw [List.forall_mem_cons] at htimes hchanges
      exact ⟨htotals.1, htimes.1, hsums.1, hchanges.1, htimes.2, htotals.2, hchanges.2, hsums.2⟩
    · rintro ⟨htotal, htime, hacc, hchange, htimes, htotals, hchanges, hsums⟩
      refine ⟨List.forall_mem_cons.mpr ⟨htime, htimes⟩, ?_, ?_, ?_⟩
      · rw [states_cons h]
        exact List.forall_mem_cons.mpr ⟨htotal, htotals⟩
      · rw [changes_cons h, changesOf_cons_of_pos hcounted]
        exact List.forall_mem_cons.mpr ⟨hchange, hchanges⟩
      · rw [changes_cons h, changesOf_cons_of_pos hcounted]
        exact ⟨hacc, hsums⟩
  · constructor
    · rintro ⟨htimes, htotals, hchanges, hsums⟩
      rw [states_cons h, List.forall_mem_cons] at htotals
      rw [changes_cons h, changesOf_cons_of_neg hcounted] at hchanges hsums
      rw [List.forall_mem_cons] at htimes
      exact ⟨htotals.1, htimes.1, htimes.2, htotals.2, hchanges, hsums⟩
    · rintro ⟨htotal, htime, htimes, htotals, hchanges, hsums⟩
      refine ⟨List.forall_mem_cons.mpr ⟨htime, htimes⟩, ?_, ?_, ?_⟩
      · rw [states_cons h]
        exact List.forall_mem_cons.mpr ⟨htotal, htotals⟩
      · rwa [changes_cons h, changesOf_cons_of_neg hcounted]
      · rwa [changes_cons h, changesOf_cons_of_neg hcounted]

theorem counted_iff {t utc : DateTime} (h : t.astimezoneUtc = some utc) :
    Counted evaluatedAt start last t ↔ t.instant ≤ evaluatedAt.instant ∧
      start.instant ≤ utc.instant ∧ utc.instant ≤ last.instant := by
  simp [Counted, h]

/-- One event: the totals before and after it are representable, its time too, and its change is
added if it counts. -/
theorem countEvent_eq_ok (hs : PnlCurrency s) (hnext : PnlCurrency next)
    (hcur : next.currency = s.currency) (h : applyEvent rt s event = .ok next) {acc : Money}
    (hacc : acc.currency = s.currency) {r : LedgerState × Money} :
    countEvent rt evaluatedAt start last (s, acc) event = .ok r ↔
      TotalFits s ∧ TotalFits next ∧ event.occurredAt.astimezoneUtc ≠ none ∧ r.1 = next ∧
        r.2.currency = s.currency ∧
        if Counted evaluatedAt start last event.occurredAt then
          Fits (totalRealizedPnl next - totalRealizedPnl s) ∧
            r.2.amount.val = acc.amount + (totalRealizedPnl next - totalRealizedPnl s)
        else r.2.amount.val = acc.amount := by
  have hcounted : ∀ utc, event.occurredAt.astimezoneUtc = some utc →
      (Counted evaluatedAt start last event.occurredAt ↔ event.occurredAt.instant ≤ evaluatedAt.instant ∧
        start.instant ≤ utc.instant ∧ utc.instant ≤ last.instant) := fun _ hutc => counted_iff hutc
  rw [countEvent, bind_eq_ok]
  constructor
  · rintro ⟨before, hbefore, hr⟩
    rw [h, ok_bind, bind_eq_ok] at hr
    obtain ⟨after, hafter, hr⟩ := hr
    obtain ⟨utc, hutc, hr⟩ := bind_eq_ok.mp hr
    have hutc := astimezoneUtc_eq_ok.mp hutc
    obtain ⟨hfit, hbval, hbcur⟩ := (realizedTotal_eq_ok hs).mp hbefore
    obtain ⟨hfit', haval, hacur⟩ := (realizedTotal_eq_ok hnext).mp hafter
    have htime : event.occurredAt.astimezoneUtc ≠ none := by
      rw [hutc]
      exact Option.some_ne_none utc
    rw [if_congr (hcounted utc hutc).symm rfl rfl] at hr
    split_ifs at hr ⊢ with hc
    · obtain ⟨change, hchange, hr⟩ := bind_eq_ok.mp hr
      obtain ⟨realized, hrealized, hr⟩ := bind_eq_ok.mp hr
      obtain ⟨-, hval, -⟩ := Money.sub_eq_ok.mp hchange
      obtain ⟨-, hrval, hrcur⟩ := Money.add_eq_ok.mp hrealized
      cases hr
      rw [haval, hbval] at hval
      rw [hval] at hrval
      exact ⟨hfit, hfit', htime, rfl, hrcur.trans hacc, hval ▸ change.amount.fits, hrval⟩
    · cases hr
      exact ⟨hfit, hfit', htime, rfl, hacc, rfl⟩
  · rintro ⟨hfit, hfit', htime, hr, hrcur, hval⟩
    obtain ⟨utc, hutc⟩ := Option.ne_none_iff_exists'.mp htime
    obtain ⟨before, hbefore, hbval, hbcur⟩ := realizedTotal_ok hs hfit
    obtain ⟨after, hafter, haval, hacur⟩ := realizedTotal_ok hnext hfit'
    refine ⟨before, hbefore, ?_⟩
    rw [h, ok_bind, hafter, ok_bind, astimezoneUtc_eq_ok.mpr hutc, ok_bind,
      if_congr (hcounted utc hutc).symm rfl rfl]
    split_ifs at hval ⊢ with hc
    · rw [← haval, ← hbval] at hval
      have hchange := Money.sub_of_fits (hbcur.trans (hcur.symm.trans hacur.symm)) hval.1
      have hsum : Fits (acc.amount + (after.amount - before.amount)) := hval.2 ▸ r.2.amount.fits
      have hadd := Money.add_of_fits (b := ⟨⟨_, hval.1⟩, after.currency⟩)
        (hacur.trans (hcur.trans hacc.symm)) hsum
      have hr2 : (⟨⟨_, hsum⟩, acc.currency⟩ : Money) = r.2 :=
        Money.ext_val hval.2.symm (hacc.trans hrcur.symm)
      rw [hchange, ok_bind, hadd, ok_bind, pure_eq_ok, hr2, ← hr]
    · rw [pure_eq_ok, ← hr, Money.ext_val hval.symm (hacc.trans hrcur.symm)]

/-- The loop adds up the changes of the events that count, if everything is in range. -/
theorem countEvents_eq_ok (hs : Reachable rt s) {t : LedgerState}
    (h : applyEvents rt s events = .ok t) (hfit : TotalFits s) {acc : Money}
    (hacc : acc.currency = s.currency) {r : LedgerState × Money} :
    events.foldlM (countEvent rt evaluatedAt start last) (s, acc) = .ok r ↔
      InRange rt s events evaluatedAt start last acc.amount ∧ r.1 = t ∧ r.2.currency = s.currency ∧
        r.2.amount.val = acc.amount +
          (changesOf (Counted evaluatedAt start last) (changes rt s events)).sum := by
  induction events generalizing s acc with
  | nil =>
    cases h
    constructor
    · intro hr
      cases hr
      refine ⟨⟨?_, ?_, ?_, acc.amount.fits⟩, rfl, hacc, (add_zero _).symm⟩
      · exact fun event hevent => absurd hevent List.not_mem_nil
      · intro u hu
        rwa [List.mem_singleton.mp hu]
      · exact fun x hx => absurd hx List.not_mem_nil
    · rintro ⟨-, hr, hrcur, hval⟩
      have hr2 : acc = r.2 :=
        Money.ext_val (hval.trans (add_zero _)).symm (hacc.trans hrcur.symm)
      rw [hr2, ← hr]
      rfl
  | cons event events ih =>
    obtain ⟨next, hnext, h⟩ := foldlM_cons_eq_ok.mp h
    have hreach : Reachable rt next := hs.next hnext
    have hcur : next.currency = s.currency := currency_of_applyEvent hs.invariants hnext
    rw [foldlM_cons_eq_ok, inRange_cons hnext]
    constructor
    · rintro ⟨⟨u, m⟩, hu, hr⟩
      obtain ⟨-, hfit', htime, hunext, hmcur, hval⟩ :=
        (countEvent_eq_ok hs.pnlCurrency hreach.pnlCurrency hcur hnext hacc).mp hu
      subst hunext
      obtain ⟨hrange, hrt, hrcur, hrval⟩ := (ih hreach h hfit' (hmcur.trans hcur.symm)).mp hr
      split_ifs at hval ⊢ with hc
      · rw [changes_cons hnext, changesOf_cons_of_pos hc, List.sum_cons, ← add_assoc, ← hval.2]
        exact ⟨⟨hfit, htime, acc.amount.fits, hval.1, hrange⟩, hrt, hrcur.trans hcur, hrval⟩
      · rw [changes_cons hnext, changesOf_cons_of_neg hc, ← hval]
        exact ⟨⟨hfit, htime, hrange⟩, hrt, hrcur.trans hcur, hrval⟩
    · rintro ⟨⟨-, htime, hrange⟩, hrt, hrcur, hrval⟩
      split_ifs at hrange with hc
      · obtain ⟨-, hchange, hrange⟩ := hrange
        have hfit' := hrange.totals next (head_mem_states next events)
        rw [changes_cons hnext, changesOf_cons_of_pos hc, List.sum_cons, ← add_assoc] at hrval
        refine ⟨(next, ⟨⟨_, hrange.sums.head⟩, acc.currency⟩), ?_, ?_⟩
        · refine (countEvent_eq_ok hs.pnlCurrency hreach.pnlCurrency hcur hnext hacc).mpr
            ⟨hfit, hfit', htime, rfl, hacc, ?_⟩
          rw [if_pos hc]
          exact ⟨hchange, rfl⟩
        · have hacc' : (⟨⟨_, hrange.sums.head⟩, acc.currency⟩ : Money).currency = next.currency :=
            hacc.trans hcur.symm
          exact (ih hreach h hfit' hacc').mpr ⟨hrange, hrt, hrcur.trans hcur.symm, hrval⟩
      · have hfit' := hrange.totals next (head_mem_states next events)
        rw [changes_cons hnext, changesOf_cons_of_neg hc] at hrval
        refine ⟨(next, acc), ?_, ?_⟩
        · refine (countEvent_eq_ok hs.pnlCurrency hreach.pnlCurrency hcur hnext hacc).mpr
            ⟨hfit, hfit', htime, rfl, hacc, ?_⟩
          rw [if_neg hc]
        · exact (ih hreach h hfit' (hacc.trans hcur.symm)).mpr
            ⟨hrange, hrt, hrcur.trans hcur.symm, hrval⟩

end Loop

/-! ## The day of an evaluation -/

/-- The local date of an evaluation, with the instants of its first and last microsecond. -/
structure LocalDay (z : Zone) (evaluatedAt : DateTime) where
  date : Date
  start : DateTime
  last : DateTime
  date_eq : z.localDate evaluatedAt = .ok date
  start_eq : z.combine date 0 = .ok start
  last_eq : z.combine date (dayMicros - 1) = .ok last

section Day

variable {z : Zone} {evaluatedAt : DateTime}

theorem LocalDay.unique (day day' : LocalDay z evaluatedAt) : day = day' := by
  obtain ⟨date, start, last, hdate, hstart, hlast⟩ := day
  obtain ⟨date', start', last', hdate', hstart', hlast'⟩ := day'
  obtain rfl := Except.ok.inj (hdate.symm.trans hdate')
  obtain rfl := Except.ok.inj (hstart.symm.trans hstart')
  obtain rfl := Except.ok.inj (hlast.symm.trans hlast')
  rfl

/-- The times up to the evaluation whose local date is the day's. -/
def OnDay (day : LocalDay z evaluatedAt) (t : DateTime) : Prop :=
  t.instant ≤ evaluatedAt.instant ∧ (z.localDate t).toOption = some day.date

instance (day : LocalDay z evaluatedAt) : DecidablePred (OnDay day) :=
  fun _ => inferInstanceAs (Decidable (_ ∧ _))

/-- The times of the events that the loop takes in for the day. -/
abbrev LocalDay.Counted (day : LocalDay z evaluatedAt) : DateTime → Prop :=
  Risk.Counted evaluatedAt day.start day.last

/-- The instants of the day's ends have between them, of all instants up to the evaluation, those
of the day and no others. -/
def LocalDay.Agrees (day : LocalDay z evaluatedAt) : Prop :=
  ∀ t utc, t.astimezoneUtc = some utc → t.instant ≤ evaluatedAt.instant →
    (day.start.instant ≤ utc.instant ∧ utc.instant ≤ day.last.instant ↔
      (z.localDate t).toOption = some day.date)

end Day

/-- The call returns what the events of the evaluation's local day changed. -/
def CountsOwnDay (rt : Runtime) (zoneInfo : String → Option Zone) (z : Zone)
    (events : List LedgerEvent) (currency : String) (evaluatedAt : DateTime)
    (timezoneName : String) : Prop :=
  ∃ (day : LocalDay z evaluatedAt) (m : Money),
    realizedPnlToday rt zoneInfo events currency evaluatedAt timezoneName = .ok m ∧
      m.amount.val =
        (changesOf (OnDay day) (changes rt (.fresh (rt.upper.normalize currency)) events)).sum

section Result

variable {rt : Runtime} {zoneInfo : String → Option Zone} {z : Zone} {events : List LedgerEvent}
  {currency timezoneName : String} {evaluatedAt : DateTime} {s : LedgerState}

theorem totalFits_fresh (currency : String) : TotalFits (.fresh currency) := by
  show SumsFit 0 []
  decide

theorem money_zero_eq_ok (hne : rt.upper.normalize currency ≠ "") :
    Money.new rt .zero currency = .ok (Money.zero (rt.upper.normalize currency)) := by
  rw [Money.new, raiseIf_of_not _ hne]
  rfl

/-- The call returns iff the day's ends exist and everything is in range, and then it returns what
the events between the ends changed. -/
theorem realizedPnlToday_eq_ok (hz : zoneInfo timezoneName = some z)
    (h : replay rt events currency = .ok s) {m : Money} :
    realizedPnlToday rt zoneInfo events currency evaluatedAt timezoneName = .ok m ↔
      ∃ day : LocalDay z evaluatedAt,
        InRange rt (.fresh (rt.upper.normalize currency)) events evaluatedAt day.start day.last 0 ∧
          m.currency = rt.upper.normalize currency ∧
          m.amount.val =
            (changesOf day.Counted (changes rt (.fresh (rt.upper.normalize currency)) events)).sum := by
  obtain ⟨hne, h⟩ := replay_eq_ok.mp h
  have hreach : Reachable rt (.fresh (rt.upper.normalize currency)) :=
    ⟨[], currency, replay_eq_ok.mpr ⟨hne, rfl⟩⟩
  have hempty : LedgerState.empty rt currency = .ok (.fresh (rt.upper.normalize currency)) := by
    rw [LedgerState.empty, raiseIf_of_not _ hne]
    rfl
  have hloop : ∀ (start last : DateTime) (r : LedgerState × Money),
      events.foldlM (countEvent rt evaluatedAt start last)
          (.fresh (rt.upper.normalize currency), Money.zero (rt.upper.normalize currency)) = .ok r ↔
        InRange rt (.fresh (rt.upper.normalize currency)) events evaluatedAt start last 0 ∧ r.1 = s ∧
          r.2.currency = rt.upper.normalize currency ∧
          r.2.amount.val = 0 + (changesOf (Counted evaluatedAt start last)
            (changes rt (.fresh (rt.upper.normalize currency)) events)).sum :=
    fun _ _ _ => countEvents_eq_ok hreach h (totalFits_fresh _) rfl
  rw [realizedPnlToday, hz]
  constructor
  · intro hm
    obtain ⟨date, hdate, hm⟩ := bind_eq_ok.mp hm
    obtain ⟨start, hstart, hm⟩ := bind_eq_ok.mp hm
    obtain ⟨last, hlast, hm⟩ := bind_eq_ok.mp hm
    rw [hempty, ok_bind, money_zero_eq_ok hne, ok_bind] at hm
    obtain ⟨r, hr, hm⟩ := bind_eq_ok.mp hm
    cases hm
    obtain ⟨hrange, -, hcur, hval⟩ := (hloop start last r).mp hr
    rw [zero_add] at hval
    exact ⟨⟨date, start, last, hdate, hstart, hlast⟩, hrange, hcur, hval⟩
  · rintro ⟨day, hrange, hcur, hval⟩
    have hr := (hloop day.start day.last (s, m)).mpr
      ⟨hrange, rfl, hcur, by rw [zero_add]; exact hval⟩
    show (z.localDate evaluatedAt >>= _) = _
    rw [day.date_eq, ok_bind, day.start_eq, ok_bind, day.last_eq, ok_bind, hempty, ok_bind,
      money_zero_eq_ok hne, ok_bind, hr]
    rfl

end Result

/-! ## A loss at a given time -/

namespace Sample

open WeatherBot.Ledger.Sample

theorem usd_million_nonneg : 0 ≤ (usd 1000000 fits_million).amount.val := by decide

theorem buy_million : isBlank "buy" = false ∧ 0 < (⟨1000000, fits_million⟩ : Micros).val ∧
    0 < (⟨500000, fits_half⟩ : Micros).val ∧ (⟨500000, fits_half⟩ : Micros).val ≤ one := by decide

theorem worthless_range : 0 ≤ Micros.zero.val ∧ Micros.zero.val ≤ one := by decide

def dated (t : DateTime) (base : DomainEvent) : DomainEvent := { base with occurredAt := t }

/-- The outcome pays nothing. -/
def worthless (base : DomainEvent) : LedgerEvent :=
  .marketResolved { base with resolution := {
    marketId := "market"
    payouts := [⟨"yes", Micros.zero, worthless_range⟩]
    resolvedAt := noon
    marketId_text := .refl false
    payouts_ne := List.cons_ne_nil _ _
    payouts_nodup := List.nodup_singleton _ } }

/-- A share is bought and pays nothing, all at one time. -/
def lossAt (t : DateTime) : List LedgerEvent :=
  [accountOpened (dated t (event "1" (.refl false))) (usd 1000000 fits_million) usd_million_nonneg,
    intentCreated (dated t (event "2" (.refl false)))
      (intent "buy" .buy ⟨1000000, fits_million⟩ ⟨500000, fits_half⟩ buy_million),
    submitted (dated t (event "3" (.refl false))) "buy",
    .fillReceived (fill (dated t (event "4" (.refl false))) "buy" ⟨1000000, fits_million⟩
      ⟨500000, fits_half⟩ million_at_half),
    worthless (dated t (event "5" (.refl false))),
    settled (dated t (event "6" (.refl false)))]

end Sample

section Loss

variable (rt : Runtime) (t : DateTime)

theorem applyEvents_lossAt : (applyEvents rt (.fresh "USD") (Sample.lossAt t)).isOk = true := by
  rfl

theorem changes_lossAt :
    (changes rt (.fresh "USD") (Sample.lossAt t)).map Prod.snd = [0, 0, 0, 0, 0, -500000] := by
  rfl

theorem states_lossAt :
    ((states rt (.fresh "USD") (Sample.lossAt t)).all fun u => decide (TotalFits u)) = true := by
  rfl

theorem occurredAt_lossAt : (Sample.lossAt t).map LedgerEvent.occurredAt = List.replicate 6 t := by
  rfl

theorem occurredAt_of_mem_lossAt {event : LedgerEvent} (h : event ∈ Sample.lossAt t) :
    event.occurredAt = t := by
  have hmem := List.mem_map_of_mem (f := LedgerEvent.occurredAt) h
  rw [occurredAt_lossAt] at hmem
  exact List.eq_of_mem_replicate hmem

theorem occurredAt_of_mem_changes {c : LedgerEvent × ℤ}
    (h : c ∈ changes rt (.fresh "USD") (Sample.lossAt t)) : c.1.occurredAt = t := by
  obtain ⟨s, hs⟩ := exists_of_isOk (applyEvents_lossAt rt t)
  have hmem := List.mem_map_of_mem (f := Prod.fst) h
  rw [map_fst_changes hs] at hmem
  exact occurredAt_of_mem_lossAt t hmem

end Loss

/-! ## When the day's events are the ones that count -/

section Agreement

variable {rt : Runtime} {zoneInfo : String → Option Zone} {z : Zone} {timezoneName : String}
  {evaluatedAt : DateTime}

/-- For a day that agrees, the loop takes in the events of the day. -/
theorem LocalDay.Agrees.counted_iff {day : LocalDay z evaluatedAt} (h : day.Agrees) {t : DateTime}
    (ht : t.astimezoneUtc ≠ none) : day.Counted t ↔ OnDay day t := by
  obtain ⟨utc, hutc⟩ := Option.ne_none_iff_exists'.mp ht
  rw [LocalDay.Counted, Risk.counted_iff hutc]
  exact and_congr_right (h t utc hutc)

/-- The changes of the sample at the times with a property: all of them or none. -/
theorem changesOf_lossAt (p : DateTime → Prop) [DecidablePred p] (t : DateTime) :
    changesOf p (changes rt (.fresh "USD") (Sample.lossAt t)) =
      if p t then [0, 0, 0, 0, 0, -500000] else [] := by
  split_ifs with hp
  · rw [changesOf_of_forall, changes_lossAt]
    intro c hc
    rwa [occurredAt_of_mem_changes rt t hc]
  · apply changesOf_of_forall_not
    intro c hc
    rwa [occurredAt_of_mem_changes rt t hc]

theorem inRange_lossAt (start last : DateTime) {t : DateTime} (ht : t.astimezoneUtc ≠ none) :
    InRange rt (.fresh "USD") (Sample.lossAt t) evaluatedAt start last 0 where
  times event hevent := by rwa [occurredAt_of_mem_lossAt t hevent]
  totals u hu := of_decide_eq_true (List.all_eq_true.mp (states_lossAt rt t) u hu)
  changes x hx := by
    rw [changesOf_lossAt] at hx
    split_ifs at hx
    · revert x
      decide
    · exact absurd hx List.not_mem_nil
  sums := by
    rw [changesOf_lossAt]
    split_ifs
    · decide
    · decide

/-- **The events of the local day are the ones that count, in every ledger, iff the instants of the
day's ends agree with the local date** at every instant up to the evaluation. -/
theorem countsOwnDay_iff (husd : rt.upper.normalize "USD" = "USD")
    (hz : zoneInfo timezoneName = some z) (day : LocalDay z evaluatedAt) :
    (∀ events currency s, replay rt events currency = .ok s →
      InRange rt (.fresh (rt.upper.normalize currency)) events evaluatedAt day.start day.last 0 →
      CountsOwnDay rt zoneInfo z events currency evaluatedAt timezoneName) ↔ day.Agrees := by
  constructor
  · intro h t utc hutc ht
    have htime : t.astimezoneUtc ≠ none := by
      rw [hutc]
      exact Option.some_ne_none utc
    obtain ⟨s, hs⟩ := exists_of_isOk (applyEvents_lossAt rt t)
    have hreplay : replay rt (Sample.lossAt t) "USD" = .ok s := by
      refine replay_eq_ok.mpr ⟨?_, ?_⟩
      · rw [husd]
        decide
      · rwa [husd]
    have hcount := h (Sample.lossAt t) "USD" s hreplay (by
      rw [husd]
      exact inRange_lossAt day.start day.last htime)
    obtain ⟨day₁, m, hm, hown⟩ := hcount
    obtain ⟨day₂, -, -, hval⟩ := (realizedPnlToday_eq_ok hz hreplay).mp hm
    obtain rfl := LocalDay.unique day day₁
    obtain rfl := LocalDay.unique day day₂
    rw [hown, husd, changesOf_lossAt, changesOf_lossAt] at hval
    -- the loss counts for both or for neither, as it is not zero
    have hsame : OnDay day t ↔ day.Counted t := by
      split_ifs at hval with h1 h2 h2
      · exact iff_of_true h1 h2
      · exact absurd hval (by decide)
      · exact absurd hval (by decide)
      · exact iff_of_false h1 h2
    rw [LocalDay.Counted, Risk.counted_iff hutc, OnDay, and_iff_right ht, and_iff_right ht] at hsame
    exact hsame.symm
  · intro h events currency s hs hrange
    obtain ⟨-, happly⟩ := replay_eq_ok.mp hs
    have hfits := hrange.sums.total
    rw [zero_add] at hfits
    refine ⟨day, ⟨⟨_, hfits⟩, rt.upper.normalize currency⟩, ?_, ?_⟩
    · exact (realizedPnlToday_eq_ok hz hs).mpr ⟨day, hrange, rfl, rfl⟩
    · refine congrArg List.sum (changesOf_congr fun c hc => ?_)
      have hmem := List.mem_map_of_mem (f := Prod.fst) hc
      rw [map_fst_changes happly] at hmem
      exact h.counted_iff (hrange.times c.1 hmem)

end Agreement

/-! ## Days without a transition -/

section Steady

variable {z : Zone} {evaluatedAt : DateTime}

theorem Zone.natAbs_offset_lt (z : Zone) (i : ℕ) : (z.offsets.getD i 0).natAbs < dayMicros := by
  rw [List.getD_eq_getElem?_getD]
  cases h : z.offsets[i]? with
  | none => decide
  | some offset => exact z.offset_lt offset (List.mem_of_getElem? h)

theorem Zone.localDate_eq_ok {t utc : DateTime} {d : Date} (h : t.astimezoneUtc = some utc) :
    z.localDate t = .ok d ↔ 0 ≤ utc.instant + z.offsetAt utc.instant ∧
      Date.fromordinal ((utc.instant + z.offsetAt utc.instant).toNat / dayMicros + 1) = some d := by
  rw [Zone.localDate, astimezoneUtc_eq_ok.mpr h, ok_bind]
  unfold plus
  constructor
  · intro hd
    cases hwall : DateTime.ofInstant (utc.instant + z.offsetAt utc.instant) with
    | none =>
      rw [hwall] at hd
      cases hd
    | some wall =>
      rw [hwall] at hd
      cases hd
      obtain ⟨h0, hdate, -⟩ := DateTime.ofInstant_eq_some.mp hwall
      exact ⟨h0, hdate⟩
  · rintro ⟨h0, hdate⟩
    obtain ⟨wall, hwall, rfl⟩ := DateTime.ofInstant_of_fromordinal h0 hdate
    rw [hwall]
    rfl

theorem Zone.combine_eq_ok {d : Date} {time : ℕ} {t : DateTime} (h : z.combine d time = .ok t) :
    t.instant = (d.toordinal - 1) * dayMicros + time -
      z.wallOffset ((d.toordinal - 1) * dayMicros + time) := by
  unfold Zone.combine at h
  dsimp only at h
  split at h
  · next hinstant =>
    cases h
    exact (DateTime.ofInstant_eq_some.mp hinstant).2.2.2
  · cases h

/-- One offset is in force at the ends of the day and within a day of them. -/
structure LocalDay.Steady (day : LocalDay z evaluatedAt) (offset : ℤ) : Prop where
  start : z.wallOffset ((day.date.toordinal - 1) * dayMicros + (0 : ℕ)) = offset
  last : z.wallOffset ((day.date.toordinal - 1) * dayMicros + (dayMicros - 1 : ℕ)) = offset
  near : ∀ t, day.start.instant - 2 * dayMicros < t → t < day.last.instant + 2 * dayMicros →
    z.offsetAt t = offset

/-- **A day without a transition near it counts its own events.** -/
theorem LocalDay.Steady.agrees {day : LocalDay z evaluatedAt} {offset : ℤ} (h : day.Steady offset) :
    day.Agrees := by
  obtain ⟨evaluatedUtc, hevaluated, -⟩ := bind_eq_ok.mp day.date_eq
  obtain ⟨-, hday⟩ := (Zone.localDate_eq_ok (astimezoneUtc_eq_ok.mp hevaluated)).mp day.date_eq
  have hord := Date.toordinal_fromordinal (Nat.le_add_left 1 _) hday
  rw [← hord] at hday
  have hstart := Zone.combine_eq_ok day.start_eq
  have hlast := Zone.combine_eq_ok day.last_eq
  rw [h.start] at hstart
  rw [h.last] at hlast
  intro t utc hutc _
  have hbound : (z.offsetAt utc.instant).natAbs < dayMicros := z.natAbs_offset_lt _
  have hoffset : offset.natAbs < dayMicros := h.start ▸ z.natAbs_offset_lt _
  have hdate : (z.localDate t).toOption = some day.date ↔ z.localDate t = .ok day.date := by
    cases z.localDate t <;> simp [Except.toOption]
  rw [hdate, Zone.localDate_eq_ok hutc]
  have hnear := h.near utc.instant
  have hpos : 1 ≤ day.date.toordinal := hord ▸ Nat.le_add_left 1 _
  unfold dayMicros hourMicros minuteMicros secondMicros at *
  push_cast at hstart hlast hnear
  constructor
  · rintro ⟨h1, h2⟩
    rw [hnear (by omega) (by omega)]
    refine ⟨by omega, ?_⟩
    rw [← hday]
    congr 1
    omega
  · rintro ⟨h0, hd⟩
    have hord' := Date.toordinal_fromordinal (Nat.le_add_left 1 _) hd
    rw [hnear (by omega) (by omega)] at h0 hord'
    omega

end Steady

/-! ## A repeated hour at midnight -/

namespace Sample

/-- Midnight of 18 February 2018 in São Paulo, when the clock goes back to 23:00. -/
def turn : DateTime := ⟨⟨2018, 2, 18, by decide⟩, 2, 0, 0, 0, 0, by decide⟩

def saoPaulo : Zone where
  initial := -2 * hourMicros
  transitions := [(turn.instant, -3 * hourMicros)]
  increasing := List.pairwise_singleton _ _
  offset_lt := by decide

def zoneInfo (name : String) : Option Zone :=
  if name = "America/Sao_Paulo" then some saoPaulo else none

/-- 23:45 in the second of the two hours. -/
def secondHour : DateTime := { turn with minute := 45, valid := by decide }

def lastDay : LocalDay saoPaulo secondHour where
  date := ⟨2018, 2, 17, by decide⟩
  start := { turn with date := ⟨2018, 2, 17, by decide⟩, hour := 2, valid := by decide }
  last := { turn with
    hour := 1
    minute := 59
    second := 59
    microsecond := 999999
    valid := by decide }
  date_eq := by decide
  start_eq := by decide
  last_eq := by decide

/-- The second hour lies behind the day's last microsecond. -/
theorem not_agrees_lastDay : ¬ lastDay.Agrees := by
  intro h
  have hsame := h secondHour secondHour rfl le_rfl
  revert hsame
  decide

end Sample

/-- A loss in the second of the two hours does not count for the day that it happens on. -/
theorem countsOwnDay_iff_saoPaulo :
    ¬ ∀ events currency s, replay .utc events currency = .ok s →
      InRange .utc (.fresh (Runtime.utc.upper.normalize currency)) events Sample.secondHour
        Sample.lastDay.start Sample.lastDay.last 0 →
      CountsOwnDay .utc Sample.zoneInfo Sample.saoPaulo events currency Sample.secondHour
        "America/Sao_Paulo" :=
  fun h => Sample.not_agrees_lastDay
    ((countsOwnDay_iff (by decide) rfl Sample.lastDay).mp h)

end WeatherBot.Risk
