import WeatherBot.Ledger.Identifiers
import WeatherBot.Paper.Status

/-!
# Valuations that can be recorded

`build_paper_valuation` marks every open position at a fresh book, and the ledger
records the result. A book may be fresh while it is ahead of the observation time;
its mark is then refused.

* `liquidationValue_eq_ok`: the value of an exit, and when it is computed.
* `buildPaperValuation_eq_ok`: when there is a valuation, and what it is.
* `yieldsSnapshot_iff`: **there is a valuation that the ledger records iff no book
  is ahead of the observation time**, the account is open and no amount has more
  than 28 digits.
-/

namespace WeatherBot.Paper

open WeatherBot.Common
open WeatherBot.Domain
open WeatherBot.Ledger
open WeatherBot.Markets
open WeatherBot.Quoting

/-- A loop returns the results of its steps. -/
theorem mapM_eq_ok_iff {ε α β : Type} {f : α → Except ε β} {xs : List α} {ys : List β} :
    xs.mapM f = .ok ys ↔ List.Forall₂ (fun x y => f x = .ok y) xs ys := by
  induction xs generalizing ys with
  | nil =>
    rw [List.forall₂_nil_left_iff]
    exact ⟨fun h => (Except.ok.inj h).symm, fun h => h ▸ rfl⟩
  | cons x xs ih =>
    rw [List.mapM_cons, bind_eq_ok, List.forall₂_cons_left_iff]
    constructor
    · rintro ⟨y, hy, h⟩
      obtain ⟨zs, hzs, h⟩ := bind_eq_ok.mp h
      cases h
      exact ⟨y, zs, hy, ih.mp hzs, rfl⟩
    · rintro ⟨y, zs, hy, hzs, rfl⟩
      exact ⟨y, hy, bind_eq_ok.mpr ⟨zs, ih.mpr hzs, rfl⟩⟩

/-! ## Exits -/

section Exit

variable (quantity : Micros) (book : OrderBookSnapshot Decimal) (policy : CostPolicy Decimal)

/-- What the bids pay for the position. -/
def exitGross : Decimal := (Liquidation.run ⟨quantity.toDecimal, 0⟩ book.allBids).gross

/-- The payment in millionths, and the fees on it. -/
def exitProceeds : ℤ := (exitGross quantity book).rescale quantumPlaces

def variableExitFee : ℤ :=
  (Decimal.ofScaled (ctxRound (exitProceeds quantity book * policy.platformFeeRate.signed))
    (quantumPlaces + policy.platformFeeRate.scale)).rescale quantumPlaces

def fixedExitFee : ℤ := policy.transactionCost.rescale quantumPlaces

def exitFee : ℤ := variableExitFee quantity book policy + fixedExitFee policy

/-- What is left of the payment, in millionths. -/
def exitValue : ℤ :=
  if exitGross quantity book ≤ 0 ∨ exitProceeds quantity book ≤ exitFee quantity book policy then 0
  else exitProceeds quantity book - exitFee quantity book policy

/-- The payment and its fees have at most 28 digits. -/
structure ExitFits : Prop where
  proceeds : Fits (exitProceeds quantity book)
  variableFee : Fits (variableExitFee quantity book policy)
  fixedFee : Fits (fixedExitFee policy)
  fee : Fits (exitFee quantity book policy)
  value : Fits (exitValue quantity book policy)

theorem exitValue_nonneg : 0 ≤ exitValue quantity book policy := by
  unfold exitValue
  split_ifs with h
  · exact le_rfl
  · exact sub_nonneg.mpr (not_le.mp (not_or.mp h).2).le

variable {quantity book policy}

theorem moneyOf_eq_ok {d : Decimal} {c : String} {m : Money} :
    moneyOf d c = .ok m ↔ m.amount.val = d.rescale quantumPlaces ∧ m.currency = c := by
  rw [moneyOf, asDecimal]
  exact Money.quantize_bind_eq_ok

theorem scale_eq_ok {a m : Money} {d : Decimal} :
    a.scale d = .ok m ↔
      m.amount.val = (Decimal.ofScaled (ctxRound (a.amount * d.signed))
        (quantumPlaces + d.scale)).rescale quantumPlaces ∧ m.currency = a.currency :=
  Money.quantize_bind_eq_ok

/-- **The value of an exit**: nothing where the bids pay nothing, and else what the fees leave. -/
theorem liquidationValue_eq_ok {currency : String} {m : Money} :
    liquidationValue quantity book policy currency = .ok m ↔
      (exitGross quantity book ≤ 0 ∨ ExitFits quantity book policy) ∧
        m.amount.val = exitValue quantity book policy ∧ m.currency = currency := by
  unfold liquidationValue
  dsimp only
  by_cases hgross : exitGross quantity book ≤ 0
  · have hvalue : exitValue quantity book policy = 0 := if_pos (.inl hgross)
    rw [exitGross] at hgross
    rw [if_pos hgross, hvalue, and_iff_right (.inl hgross)]
    constructor
    · rintro h
      cases h
      exact ⟨rfl, rfl⟩
    · rintro ⟨hval, hcur⟩
      exact congrArg Except.ok (Money.ext_val hval hcur).symm
  · have hpay : exitGross quantity book = (Liquidation.run ⟨quantity.toDecimal, 0⟩ book.allBids).gross := rfl
    rw [← hpay, if_neg hgross, or_iff_right hgross]
    constructor
    · intro h
      obtain ⟨grossMoney, hgrossMoney, h⟩ := bind_eq_ok.mp h
      obtain ⟨variableFee, hvariable, h⟩ := bind_eq_ok.mp h
      obtain ⟨fixedFee, hfixed, h⟩ := bind_eq_ok.mp h
      obtain ⟨fee, hfee, h⟩ := bind_eq_ok.mp h
      obtain ⟨hgrossVal, hgrossCur⟩ := moneyOf_eq_ok.mp hgrossMoney
      obtain ⟨hvariableVal, -⟩ := scale_eq_ok.mp hvariable
      obtain ⟨hfixedVal, -⟩ := moneyOf_eq_ok.mp hfixed
      obtain ⟨-, hfeeVal, hfeeCur⟩ := Money.add_eq_ok.mp hfee
      have hproceeds : grossMoney.amount.val = exitProceeds quantity book := hgrossVal
      rw [hproceeds] at hvariableVal
      have hvariableFee : variableFee.amount.val = variableExitFee quantity book policy := hvariableVal
      have hfixedFee : fixedFee.amount.val = fixedExitFee policy := hfixedVal
      have hfeeTotal : fee.amount.val = exitFee quantity book policy := by
        rw [hfeeVal, hvariableFee, hfixedFee, exitFee]
      have hvalue : m.amount.val = exitValue quantity book policy ∧ m.currency = currency := by
        unfold exitValue
        split_ifs at h with hle
        · cases h
          rw [hproceeds, hfeeTotal] at hle
          rw [if_pos (.inr hle)]
          exact ⟨rfl, rfl⟩
        · obtain ⟨-, hval, hcur⟩ := Money.sub_eq_ok.mp h
          rw [hproceeds, hfeeTotal] at hle hval
          rw [if_neg (not_or.mpr ⟨hgross, hle⟩)]
          exact ⟨hval, hcur.trans hgrossCur⟩
      exact ⟨⟨hproceeds ▸ grossMoney.amount.fits, hvariableFee ▸ variableFee.amount.fits,
        hfixedFee ▸ fixedFee.amount.fits, hfeeTotal ▸ fee.amount.fits, hvalue.1 ▸ m.amount.fits⟩, hvalue⟩
    · rintro ⟨hfits, hvalue⟩
      have hgrossMoney := (moneyOf_eq_ok (d := exitGross quantity book) (c := currency)
        (m := ⟨⟨_, hfits.proceeds⟩, currency⟩)).mpr ⟨rfl, rfl⟩
      have hvariable := (scale_eq_ok (a := ⟨⟨_, hfits.proceeds⟩, currency⟩)
        (d := policy.platformFeeRate)
        (m := ⟨⟨_, hfits.variableFee⟩, currency⟩)).mpr ⟨rfl, rfl⟩
      have hfixed := (moneyOf_eq_ok (d := policy.transactionCost) (c := currency)
        (m := ⟨⟨_, hfits.fixedFee⟩, currency⟩)).mpr ⟨rfl, rfl⟩
      have hfee := Money.add_of_fits (a := ⟨⟨_, hfits.variableFee⟩, currency⟩)
        (b := ⟨⟨_, hfits.fixedFee⟩, currency⟩) rfl hfits.fee
      rw [hgrossMoney, ok_bind, hvariable, ok_bind, hfixed, ok_bind, hfee, ok_bind]
      dsimp only
      unfold exitValue at hvalue
      by_cases hle : exitProceeds quantity book ≤ exitFee quantity book policy
      · rw [if_pos (.inr hle)] at hvalue
        refine (if_pos hle).trans ?_
        exact congrArg Except.ok (Money.ext_val hvalue.1 hvalue.2).symm
      · rw [if_neg (not_or.mpr ⟨hgross, hle⟩)] at hvalue
        refine (if_neg hle).trans (Money.sub_eq_ok.mpr ⟨rfl, hvalue.1, hvalue.2⟩)

end Exit

/-! ## Marks -/

theorem positionValuation_new_eq_ok {marketId outcomeId : String} {quantity : Micros} {value : Money}
    {observedAt : DateTime} {v : PositionValuation} :
    PositionValuation.new marketId outcomeId quantity.toDecimal value observedAt = .ok v ↔
      v.marketId = marketId ∧ v.outcomeId = outcomeId ∧ v.quantity = quantity ∧
        v.liquidationValue = value ∧ v.observedAt = observedAt := by
  constructor
  · intro h
    simp only [PositionValuation.new, ensureText, asDecimal_toDecimal, ok_bind,
      ensure_bind_eq_ok] at h
    obtain ⟨_, _, _, _, h⟩ := h
    cases h
    exact ⟨rfl, rfl, rfl, rfl, rfl⟩
  · rintro ⟨rfl, rfl, rfl, rfl, rfl⟩
    exact PositionValuation.new_self v

section Build

variable {s : LedgerState} {books : Dict (String × String) (OrderBookSnapshot Decimal)}
  {policy : CostPolicy Decimal} {observedAt : DateTime} {maximumBookAge : ℤ}

/-- Every open position has a book that is fresh at the observation time. -/
def Provided (s : LedgerState) (books : Dict (String × String) (OrderBookSnapshot Decimal))
    (observedAt : DateTime) (maximumBookAge : ℤ) : Prop :=
  ∀ entry ∈ s.openPositions, ∃ book, books.get? entry.1 = some book ∧
    requireFresh book observedAt maximumBookAge = .ok ()

/-- What the exit from a position is worth at its book. -/
def entryValue (books : Dict (String × String) (OrderBookSnapshot Decimal)) (policy : CostPolicy Decimal)
    (entry : (String × String) × Position) : ℤ :=
  (books.get? entry.1).elim 0 fun book => exitValue entry.2.quantity book policy

/-- A mark is the exit from its position at the position's book. -/
structure Marks (s : LedgerState) (books : Dict (String × String) (OrderBookSnapshot Decimal))
    (policy : CostPolicy Decimal) (entry : (String × String) × Position) (mark : PositionValuation) :
    Prop where
  key : mark.positionKey = entry.1
  quantity : mark.quantity = entry.2.quantity
  value : mark.liquidationValue.amount.val = entryValue books policy entry
  currency : mark.liquidationValue.currency = s.currency
  book : ∃ book, books.get? entry.1 = some book ∧ mark.observedAt = book.observedAt ∧
    (exitGross entry.2.quantity book ≤ 0 ∨ ExitFits entry.2.quantity book policy)

/-- A time and the same one in UTC are as fresh. -/
theorem requireFresh_utc {book : OrderBookSnapshot Decimal} {t : DateTime}
    (ht : observedAt.astimezoneUtc = some t) :
    requireFresh book t maximumBookAge = requireFresh book observedAt maximumBookAge := by
  have hutc : t.astimezoneUtc = some t := DateTime.astimezoneUtc_of_utc (DateTime.utcoffset_astimezoneUtc ht)
  unfold requireFresh
  rw [astimezoneUtc_eq_ok.mpr hutc, astimezoneUtc_eq_ok.mpr ht]

theorem markPosition_eq_ok (h : Provided s books observedAt maximumBookAge) {t : DateTime}
    (ht : observedAt.astimezoneUtc = some t) {entry : (String × String) × Position}
    (hentry : entry ∈ s.openPositions) (hkey : entry.1 = entry.2.key) {mark : PositionValuation} :
    markPosition s books policy t maximumBookAge entry = .ok mark ↔ Marks s books policy entry mark := by
  obtain ⟨book, hbook, hfresh⟩ := h entry hentry
  have hvalue : entryValue books policy entry = exitValue entry.2.quantity book policy := by
    rw [entryValue, hbook]
    rfl
  have hfresh' : (requireFresh book t maximumBookAge).mapError PaperError.ofMarket = .ok () :=
    mapError_eq_ok.mpr ((requireFresh_utc ht).trans hfresh)
  rw [markPosition, hbook]
  dsimp only
  rw [hfresh', ok_bind, bind_eq_ok]
  constructor
  · rintro ⟨m, hm, h⟩
    obtain ⟨hfits, hval, hcur⟩ := liquidationValue_eq_ok.mp (mapError_eq_ok.mp hm)
    obtain ⟨hmarket, houtcome, hquantity, hvalueEq, hobserved⟩ :=
      positionValuation_new_eq_ok.mp (mapError_eq_ok.mp h)
    refine ⟨?_, hquantity, ?_, ?_, book, hbook, hobserved, hfits⟩
    · rw [PositionValuation.positionKey, hmarket, houtcome, hkey]
      rfl
    · rw [hvalueEq, hval, hvalue]
    · rw [hvalueEq, hcur]
  · rintro ⟨hkey', hquantity, hval, hcur, book', hbook', hobserved, hfits⟩
    cases hbook.symm.trans hbook'
    refine ⟨mark.liquidationValue, mapError_eq_ok.mpr (liquidationValue_eq_ok.mpr
      ⟨hfits, hval.trans hvalue, hcur⟩), mapError_eq_ok.mpr (positionValuation_new_eq_ok.mpr ?_)⟩
    rw [hkey] at hkey'
    exact ⟨congrArg Prod.fst hkey', congrArg Prod.snd hkey', hquantity, rfl, hobserved⟩

/-- The open positions in the order of their keys. -/
abbrev sortedPositions (s : LedgerState) : List ((String × String) × Position) :=
  s.openPositions.insertionSort keyLe

/-- The marks of a loop over the positions. -/
theorem marks_eq_ok (h : Provided s books observedAt maximumBookAge) (hs : s.Invariants) {t : DateTime}
    (ht : observedAt.astimezoneUtc = some t) {marks : List PositionValuation} :
    (sortedPositions s).mapM (markPosition s books policy t maximumBookAge) = .ok marks ↔
      List.Forall₂ (Marks s books policy) (sortedPositions s) marks := by
  rw [mapM_eq_ok_iff]
  have hmem : ∀ entry ∈ sortedPositions s, entry ∈ s.openPositions ∧ entry.1 = entry.2.key := by
    intro entry hentry
    rw [List.mem_insertionSort] at hentry
    exact ⟨hentry, (hs.positions _ (List.mem_of_mem_filter hentry)).key⟩
  generalize sortedPositions s = l at hmem
  induction l generalizing marks with
  | nil => rw [List.forall₂_nil_left_iff, List.forall₂_nil_left_iff]
  | cons entry l ih =>
    rw [List.forall_mem_cons] at hmem
    rw [List.forall₂_cons_left_iff, List.forall₂_cons_left_iff]
    exact exists_congr fun mark => exists_congr fun rest =>
      and_congr (markPosition_eq_ok h ht hmem.1.1 hmem.1.2) (and_congr_left fun _ => ih hmem.2)

theorem keys_of_marks {l : List ((String × String) × Position)} {marks : List PositionValuation}
    (h : List.Forall₂ (Marks s books policy) l marks) :
    marks.map PositionValuation.positionKey = l.map Prod.fst := by
  induction h with
  | nil => rfl
  | cons hmark _ ih => rw [List.map_cons, List.map_cons, hmark.key, ih]

theorem total_of_marks {l : List ((String × String) × Position)} {marks : List PositionValuation}
    (h : List.Forall₂ (Marks s books policy) l marks) :
    total PositionValuation.liquidationValue marks = (l.map (entryValue books policy)).sum := by
  induction h with
  | nil => rfl
  | cons hmark _ ih => rw [total_cons, List.map_cons, List.sum_cons, hmark.value, ih]

/-- What the open positions are worth together. -/
def exitTotal (s : LedgerState) (books : Dict (String × String) (OrderBookSnapshot Decimal))
    (policy : CostPolicy Decimal) : ℤ :=
  (s.openPositions.map (entryValue books policy)).sum

theorem exitTotal_eq : ((sortedPositions s).map (entryValue books policy)).sum = exitTotal s books policy :=
  ((List.perm_insertionSort keyLe s.openPositions).map _).sum_eq

theorem exitTotal_nonneg : 0 ≤ exitTotal s books policy := by
  apply List.sum_nonneg
  intro n hn
  obtain ⟨entry, -, rfl⟩ := List.mem_map.mp hn
  unfold entryValue
  cases books.get? entry.1 with
  | none => exact le_rfl
  | some book => exact exitValue_nonneg _ _ _

/-! ## The valuation -/

theorem portfolioValuation_new_eq_ok {positions : List PositionValuation} {equity : Money} {t : DateTime}
    {source : String} (hsource : strip source = source) {v : PortfolioValuation} :
    PortfolioValuation.new positions equity t source = .ok v ↔
      v.positions = positions ∧ v.equity = equity ∧ v.assembledAt = t ∧ v.source = source := by
  constructor
  · intro h
    simp only [PortfolioValuation.new, ensure_bind_eq_ok, keepOk_bind_eq_ok] at h
    obtain ⟨_, _, _, _, h⟩ := h
    cases h
    exact ⟨rfl, rfl, rfl, hsource⟩
  · rintro ⟨rfl, rfl, rfl, rfl⟩
    exact PortfolioValuation.new_self v

/-- The source of a paper valuation. -/
def paperSource : String := "paper:bid-side-size-aware-net-exit-fees"

theorem strip_paperSource : strip paperSource = paperSource := by decide

/-- A valuation marks the open positions, and its equity is the cash and the marks. -/
structure Values (s : LedgerState) (books : Dict (String × String) (OrderBookSnapshot Decimal))
    (policy : CostPolicy Decimal) (observedAt : DateTime) (v : PortfolioValuation) : Prop where
  marks : List.Forall₂ (Marks s books policy) (sortedPositions s) v.positions
  equity : v.equity.amount.val = s.cash.amount.val + exitTotal s books policy
  currency : v.equity.currency = s.currency
  assembledAt : observedAt.astimezoneUtc = some v.assembledAt
  source : v.source = paperSource

theorem marketValue_eq_ok (hs : s.Invariants) {marks : List PositionValuation}
    (hmarks : List.Forall₂ (Marks s books policy) (sortedPositions s) marks) {equity : Money} :
    (∃ value, marketValue s.currency marks = .ok value ∧ s.cash.add value = .ok equity) ↔
      equity.amount.val = s.cash.amount.val + exitTotal s books policy ∧ equity.currency = s.currency := by
  have htotal : total PositionValuation.liquidationValue marks = exitTotal s books policy := by
    rw [total_of_marks hmarks, exitTotal_eq]
  have hcur : ∀ mark ∈ marks, mark.liquidationValue.currency = s.currency := by
    intro mark hmark
    obtain ⟨i, hi⟩ := List.mem_iff_get.mp hmark
    have := (List.forall₂_iff_get.mp hmarks).2 i (by rw [(List.forall₂_iff_get.mp hmarks).1]; exact i.2) i.2
    rw [← hi]
    exact this.currency
  constructor
  · rintro ⟨value, hvalue, hadd⟩
    obtain ⟨hval, -⟩ := sum_eq_ok hvalue
    obtain ⟨-, hequity, hequityCur⟩ := Money.add_eq_ok.mp hadd
    simp only [Money.zero_amount, Micros.zero_val, zero_add, htotal] at hval
    exact ⟨by rw [hequity, hval], hequityCur.trans hs.cash_currency⟩
  · rintro ⟨hequity, hequityCur⟩
    have hcash : 0 ≤ s.cash.amount.val := hs.reservedCash_nonneg.trans hs.available_nonneg
    have h0 : 0 ≤ exitTotal s books policy := exitTotal_nonneg
    have hfits : Fits (exitTotal s books policy) :=
      LedgerState.fits_of_le (a := equity.amount) h0 (by omega)
    have hgross : gross PositionValuation.liquidationValue marks = exitTotal s books policy := by
      rw [gross_eq_total fun mark _ => mark.liquidationValue_nonneg, htotal]
    obtain ⟨value, hvalue⟩ := sum_ok (f := PositionValuation.liquidationValue) (l := marks)
      (m := Money.zero s.currency) hcur (by rw [hgross]; simpa using hfits)
    obtain ⟨hval, hvalueCur⟩ := sum_eq_ok hvalue
    simp only [Money.zero_amount, Micros.zero_val, zero_add, htotal] at hval
    refine ⟨value, hvalue, Money.add_eq_ok.mpr ⟨hvalueCur.trans hs.cash_currency.symm, ?_,
      hequityCur.trans hs.cash_currency.symm⟩⟩
    rw [hequity, hval]

/-- **When there is a valuation, and what it is.** -/
theorem buildPaperValuation_eq_ok (hs : s.Invariants)
    (h : Provided s books observedAt maximumBookAge) {v : PortfolioValuation} :
    buildPaperValuation s books policy observedAt maximumBookAge = .ok v ↔
      Values s books policy observedAt v := by
  constructor
  · intro hbuild
    obtain ⟨t, ht, hbuild⟩ := bind_eq_ok.mp hbuild
    obtain ⟨-, hbuild⟩ := check_bind_eq_ok.mp hbuild
    obtain ⟨marks, hmarks, hbuild⟩ := bind_eq_ok.mp hbuild
    obtain ⟨value, hvalue, hbuild⟩ := bind_eq_ok.mp hbuild
    obtain ⟨equity, hequity, hbuild⟩ := bind_eq_ok.mp hbuild
    have ht := astimezoneUtc_eq_ok.mp (mapError_eq_ok.mp ht)
    have hall := (marks_eq_ok h hs ht).mp hmarks
    obtain ⟨hval, hcur⟩ := (marketValue_eq_ok hs hall).mp
      ⟨value, mapError_eq_ok.mp hvalue, mapError_eq_ok.mp hequity⟩
    obtain ⟨rfl, rfl, rfl, hsource⟩ := (portfolioValuation_new_eq_ok strip_paperSource).mp
      (mapError_eq_ok.mp hbuild)
    exact ⟨hall, hval, hcur, ht, hsource⟩
  · intro hv
    obtain ⟨value, hvalue, hequity⟩ := (marketValue_eq_ok hs hv.marks).mpr ⟨hv.equity, hv.currency⟩
    have hnew := (portfolioValuation_new_eq_ok strip_paperSource).mpr ⟨rfl, rfl, rfl, hv.source⟩
    rw [buildPaperValuation, mapError_eq_ok.mpr (astimezoneUtc_eq_ok.mpr hv.assembledAt), ok_bind,
      mapError_eq_ok.mpr (LedgerState.assertInvariants_eq_ok.mpr hs), ok_bind,
      (marks_eq_ok h hs hv.assembledAt).mpr hv.marks, ok_bind, mapError_eq_ok.mpr hvalue, ok_bind,
      mapError_eq_ok.mpr hequity, ok_bind]
    exact mapError_eq_ok.mpr hnew

/-! ## Recording -/

theorem exists_forall₂ {α β : Type} {R : α → β → Prop} {l : List α} (h : ∀ x ∈ l, ∃ y, R x y) :
    ∃ ys, List.Forall₂ R l ys := by
  induction l with
  | nil => exact ⟨[], .nil⟩
  | cons x l ih =>
    rw [List.forall_mem_cons] at h
    obtain ⟨y, hy⟩ := h.1
    obtain ⟨ys, hys⟩ := ih h.2
    exact ⟨y :: ys, .cons hy hys⟩

theorem exists_of_mem_forall₂ {α β : Type} {R : α → β → Prop} {l : List α} {ys : List β}
    (h : List.Forall₂ R l ys) {x : α} (hx : x ∈ l) : ∃ y ∈ ys, R x y := by
  induction h with
  | nil => exact absurd hx List.not_mem_nil
  | cons hxy _ ih =>
    rcases List.mem_cons.mp hx with rfl | hx
    · exact ⟨_, List.mem_cons_self, hxy⟩
    · obtain ⟨y, hy, hR⟩ := ih hx
      exact ⟨y, List.mem_cons_of_mem _ hy, hR⟩

/-- The mark of every open position. -/
theorem Values.mark? {v : PortfolioValuation} (hv : Values s books policy observedAt v)
    {entry : (String × String) × Position} (hentry : entry ∈ s.openPositions) :
    ∃ mark ∈ v.positions, v.mark? entry.1 = some mark ∧ Marks s books policy entry mark := by
  obtain ⟨mark, hmark, hmarks⟩ := exists_of_mem_forall₂ hv.marks
    ((List.mem_insertionSort keyLe).mpr hentry)
  exact ⟨mark, hmark, hmarks.key ▸ mark?_of_mem hmark, hmarks⟩

theorem Values.covers {v : PortfolioValuation} (hv : Values s books policy observedAt v) :
    v.Covers s.openPositions := by
  have hkeys := keys_of_marks hv.marks
  have hperm := (List.perm_insertionSort keyLe s.openPositions).map Prod.fst
  constructor
  · intro mark hmark
    rw [← hperm.mem_iff, ← hkeys]
    exact List.mem_map_of_mem hmark
  · intro key hkey
    rw [hkeys, hperm.mem_iff]
    exact hkey

/-- The reducer adds up the marks. -/
theorem Values.addMarks_ok {v : PortfolioValuation} (hv : Values s books policy observedAt v)
    {l : List ((String × String) × Position)} (hl : ∀ entry ∈ l, entry ∈ s.openPositions) {m : Money}
    (hcur : m.currency = s.currency) (h0 : 0 ≤ m.amount.val)
    (hfits : Fits (m.amount.val + (l.map (entryValue books policy)).sum)) :
    ∃ t, l.foldlM (addMark s v) m = .ok t ∧
      t.amount.val = m.amount.val + (l.map (entryValue books policy)).sum ∧ t.currency = s.currency := by
  induction l generalizing m with
  | nil => exact ⟨m, rfl, by simp, hcur⟩
  | cons entry l ih =>
    rw [List.forall_mem_cons] at hl
    rw [List.map_cons, List.sum_cons, ← add_assoc] at hfits ⊢
    obtain ⟨mark, -, hmark, hmarks⟩ := hv.mark? hl.1
    have hvalue : 0 ≤ entryValue books policy entry := by
      rw [← hmarks.value]
      exact mark.liquidationValue_nonneg
    have hrest : 0 ≤ (l.map (entryValue books policy)).sum := by
      apply List.sum_nonneg
      intro n hn
      obtain ⟨e, he, rfl⟩ := List.mem_map.mp hn
      obtain ⟨mark', -, -, hmarks'⟩ := hv.mark? (hl.2 e he)
      rw [← hmarks'.value]
      exact mark'.liquidationValue_nonneg
    have hsum : Fits (m.amount.val + mark.liquidationValue.amount.val) := by
      rw [hmarks.value]
      exact LedgerState.fits_of_le (a := ⟨_, hfits⟩) (add_nonneg h0 hvalue)
        (le_add_of_nonneg_right hrest)
    have hadd := Money.add_of_fits (a := m) (b := mark.liquidationValue)
      (hmarks.currency.trans hcur.symm) hsum
    have hstep : addMark s v m entry = .ok ⟨⟨_, hsum⟩, m.currency⟩ := by
      rw [addMark, PortfolioValuation.markOf, hmark]
      dsimp only
      rw [pure_eq_ok, ok_bind, raiseIf_of_not _ (not_not.mpr hmarks.quantity), ok_bind,
        raiseIf_of_not _ (not_not.mpr hmarks.currency), ok_bind, hadd]
    obtain ⟨t, ht, htval, htcur⟩ := ih hl.2 (m := ⟨⟨_, hsum⟩, m.currency⟩) hcur
      (by dsimp only; rw [hmarks.value]; exact add_nonneg h0 hvalue)
      (by dsimp only; rwa [hmarks.value])
    refine ⟨t, foldlM_cons_eq_ok.mpr ⟨_, hstep, ht⟩, ?_, htcur⟩
    rw [htval]
    dsimp only
    rw [hmarks.value]

/-- **The reducer accepts a valuation** of an open account. -/
theorem Values.applyPortfolioValuation_ok (hs : s.Invariants) {e : PortfolioValuationRecorded}
    (hv : Values s books policy observedAt e.valuation) (hopened : s.opened = true) :
    applyPortfolioValuation s e = .ok s := by
  have h0 : 0 ≤ exitTotal s books policy := exitTotal_nonneg
  have hcash : 0 ≤ s.cash.amount.val := hs.reservedCash_nonneg.trans hs.available_nonneg
  have hequity := hv.equity
  have hfits : Fits (exitTotal s books policy) :=
    LedgerState.fits_of_le (a := e.valuation.equity.amount) h0 (by omega)
  obtain ⟨t, ht, htval, htcur⟩ := hv.addMarks_ok (l := s.openPositions) (fun _ h => h)
    (m := Money.zero s.currency) rfl le_rfl (by simpa [exitTotal] using hfits)
  have htotal : t.amount.val = exitTotal s books policy := by simpa [exitTotal] using htval
  have hadd : s.cash.add t = .ok e.valuation.equity := Money.add_eq_ok.mpr
    ⟨htcur.trans hs.cash_currency.symm, by rw [hequity, htotal], hv.currency.trans hs.cash_currency.symm⟩
  unfold applyPortfolioValuation
  rw [requireOpened_eq_ok (u := ()).mpr hopened, ok_bind]
  dsimp only
  rw [raiseIf_of_not _ (not_not.mpr hv.currency), ok_bind, raiseIf_of_not _ (not_not.mpr hv.covers),
    ok_bind, ht, ok_bind, hadd, ok_bind, raiseIf_of_not _ (not_not.mpr rfl), ok_bind, pure_eq_ok]

/-- A valuation of this state that its ledger records under an identifier. -/
def YieldsSnapshot (rt : Runtime) (s : LedgerState)
    (books : Dict (String × String) (OrderBookSnapshot Decimal)) (policy : CostPolicy Decimal)
    (observedAt : DateTime) (maximumBookAge : ℤ) (eventId : String) : Prop :=
  ∃ v, buildPaperValuation s books policy observedAt maximumBookAge = .ok v ∧
    v.Covers s.openPositions ∧
    (∀ entry ∈ s.openPositions, ∃ mark ∈ v.positions, mark.positionKey = entry.1 ∧
      mark.quantity = entry.2.quantity) ∧
    (∀ mark ∈ v.positions, 0 ≤ mark.liquidationValue.amount.val) ∧
    v.equity.amount.val = s.cash.amount.val + total PositionValuation.liquidationValue v.positions ∧
    ∃ e, PortfolioValuationRecorded.new eventId v.assembledAt v = .ok e ∧
      ∃ s', applyEvent rt s (.portfolioValuationRecorded e) = .ok s'

/-- The account is open, no book of an open position is ahead of the observation time, and the amounts
have at most 28 digits. -/
structure Recordable (s : LedgerState) (books : Dict (String × String) (OrderBookSnapshot Decimal))
    (policy : CostPolicy Decimal) (observedAt : DateTime) : Prop where
  opened : s.opened = true
  time : ∃ t, observedAt.astimezoneUtc = some t ∧ ∀ entry ∈ s.openPositions,
    ∀ book, books.get? entry.1 = some book → book.observedAt.instant ≤ t.instant
  exits : ∀ entry ∈ s.openPositions, ∀ book, books.get? entry.1 = some book →
    exitGross entry.2.quantity book ≤ 0 ∨ ExitFits entry.2.quantity book policy
  equity : Fits (s.cash.amount.val + exitTotal s books policy)

theorem Recordable.exists_values (hs : s.Invariants) (hnamed : NamedPositions s)
    (hprovided : Provided s books observedAt maximumBookAge) (h : Recordable s books policy observedAt) :
    ∃ v, Values s books policy observedAt v := by
  obtain ⟨t, ht, hahead⟩ := h.time
  have hcash : 0 ≤ s.cash.amount.val := hs.reservedCash_nonneg.trans hs.available_nonneg
  have hmem : ∀ entry ∈ sortedPositions s, entry ∈ s.openPositions := fun entry hentry =>
    (List.mem_insertionSort keyLe).mp hentry
  obtain ⟨marks, hmarks⟩ := exists_forall₂ (R := fun entry mark => Marks s books policy entry mark ∧
      mark.observedAt.instant ≤ t.instant) (l := sortedPositions s) (by
    intro entry hentry
    have hentry := hmem entry hentry
    obtain ⟨book, hbook, -⟩ := hprovided entry hentry
    have hfits := h.exits entry hentry book hbook
    have hvalue : entryValue books policy entry = exitValue entry.2.quantity book policy := by
      rw [entryValue, hbook]
      rfl
    have hvalueFits : Fits (entryValue books policy entry) := by
      rw [hvalue]
      rcases hfits with hgross | hfits
      · rw [exitValue, if_pos (.inl hgross)]
        exact fits_zero
      · exact hfits.value
    have hmemEntry := List.mem_of_mem_filter hentry
    have hname := hnamed entry.1 entry.2 (Dict.get?_eq_some.mpr hmemEntry)
    have hopen := List.mem_filter.mp hentry
    rw [decide_eq_true_eq] at hopen
    refine ⟨⟨entry.1.1, entry.1.2, entry.2.quantity, ⟨⟨_, hvalueFits⟩, s.currency⟩, book.observedAt,
      hname.1, hname.2, hopen.2.2, ?_⟩, ⟨rfl, rfl, rfl, rfl, book, hbook, rfl, hfits⟩,
      hahead entry hentry book hbook⟩
    dsimp only
    rw [hvalue]
    exact exitValue_nonneg _ _ _)
  have hall : List.Forall₂ (Marks s books policy) (sortedPositions s) marks :=
    hmarks.imp fun _ _ h => h.1
  have hkeys : (marks.map PositionValuation.positionKey).Nodup := by
    rw [keys_of_marks hall, ((List.perm_insertionSort keyLe s.openPositions).map Prod.fst).nodup_iff]
    exact s.positions.nodup.sublist (List.filter_sublist.map Prod.fst)
  have hchecked : marks.forM (checkMark ⟨⟨_, h.equity⟩, s.currency⟩ t) = .ok () := by
    rw [List.forM_eq_forM, forM_eq_ok]
    intro mark hmark
    obtain ⟨i, hi⟩ := List.mem_iff_get.mp hmark
    obtain ⟨hlen, hget⟩ := List.forall₂_iff_get.mp hmarks
    have hboth := hget i (by rw [hlen]; exact i.2) i.2
    rw [show marks.get ⟨i, i.2⟩ = mark from hi] at hboth
    rw [checkMark, raiseIf_of_not _ (not_not.mpr hboth.1.currency), ok_bind]
    exact raiseIf_of_not _ (not_lt.mpr hboth.2)
  exact ⟨⟨marks, ⟨⟨_, h.equity⟩, s.currency⟩, t, paperSource,
    add_nonneg hcash exitTotal_nonneg, by decide, hkeys, hchecked⟩, hall, rfl, rfl, ht, rfl⟩

theorem valuationRecorded_new_eq_ok {eventId : String} {t : DateTime} {v : PortfolioValuation}
    {e : PortfolioValuationRecorded} (h : PortfolioValuationRecorded.new eventId t v = .ok e) :
    e.eventId = eventId ∧ e.valuation = v := by
  obtain ⟨base, hbase, h⟩ := bind_eq_ok.mp h
  rw [DomainEvent.new, ensureText, ensure_bind_eq_ok] at hbase
  rw [ensure_bind_eq_ok] at h
  obtain ⟨_, hbase⟩ := hbase
  obtain ⟨_, h⟩ := h
  cases hbase
  cases h
  exact ⟨rfl, rfl⟩

/-- **There is a valuation that the ledger records iff the state is recordable**: for every reachable
state, every mapping with a fresh book for each open position, and every unused identifier. -/
theorem yieldsSnapshot_iff (rt : Runtime) (s : LedgerState) (hreachable : Reachable rt s)
    (books : Dict (String × String) (OrderBookSnapshot Decimal)) (policy : CostPolicy Decimal)
    (observedAt : DateTime) (maximumBookAge : ℤ) (hprovided : Provided s books observedAt maximumBookAge)
    (eventId : String) (hid : isBlank eventId = false) (hnew : s.eventFingerprints.get? eventId = none) :
    YieldsSnapshot rt s books policy observedAt maximumBookAge eventId ↔
      Recordable s books policy observedAt := by
  have hs := hreachable.invariants
  constructor
  · rintro ⟨v, hbuild, -, -, -, -, e, he, s', happly⟩
    have hv := (buildPaperValuation_eq_ok hs hprovided).mp hbuild
    obtain ⟨heid, -⟩ := valuationRecorded_new_eq_ok he
    have hopened : s.opened = true := by
      rcases applyEvent_eq_ok.mp happly with ⟨hfp, -⟩ | ⟨-, next, hreduce, -⟩
      · have hfp : s.eventFingerprints.get? e.eventId = some _ := hfp
        rw [heid, hnew] at hfp
        cases hfp
      · exact (accepted_of_apply hreduce).opened
    refine ⟨hopened, ⟨v.assembledAt, hv.assembledAt, fun entry hentry book hbook => ?_⟩,
      fun entry hentry book hbook => ?_, ?_⟩
    · obtain ⟨mark, hmark, -, hmarks⟩ := hv.mark? hentry
      obtain ⟨book', hbook', hobserved, -⟩ := hmarks.book
      cases hbook.symm.trans hbook'
      have hcheck := forM_eq_ok.mp v.marks_checked mark hmark
      rw [checkMark, raiseIf_bind_eq_ok, raiseIf_eq_ok, not_lt, hobserved] at hcheck
      exact hcheck.2
    · obtain ⟨mark, -, -, hmarks⟩ := hv.mark? hentry
      obtain ⟨book', hbook', -, hfits⟩ := hmarks.book
      cases hbook.symm.trans hbook'
      exact hfits
    · rw [← hv.equity]
      exact v.equity.amount.fits
  · intro h
    obtain ⟨events, currency, hreplay⟩ := hreachable
    obtain ⟨-, happlied⟩ := replay_eq_ok.mp hreplay
    obtain ⟨v, hv⟩ := h.exists_values hs (namedPositions_of_applyEvents happlied) hprovided
    let e : PortfolioValuationRecorded := ⟨⟨eventId, v.assembledAt, hid⟩, v, rfl⟩
    have happly : applyPortfolioValuation s e = .ok s := Values.applyPortfolioValuation_ok hs hv h.opened
    have htotal : total PositionValuation.liquidationValue v.positions = exitTotal s books policy := by
      rw [total_of_marks hv.marks, exitTotal_eq]
    refine ⟨v, (buildPaperValuation_eq_ok hs hprovided).mpr hv, hv.covers, fun entry hentry => ?_,
      fun mark _ => mark.liquidationValue_nonneg, by rw [hv.equity, htotal], e,
      PortfolioValuationRecorded.new_self e, _, applyEvent_eq_ok.mpr (.inr ⟨hnew, s, happly, rfl,
        invariants_recordEvent.mpr hs⟩)⟩
    obtain ⟨mark, hmark, -, hmarks⟩ := hv.mark? hentry
    exact ⟨mark, hmark, hmarks.key, hmarks.quantity⟩

end Build

/-! ## A sample valuation -/

namespace Sample

open Ledger.Sample

/-- The state of the sample run with two shares left. -/
def openState : LedgerState := okOr (replay .utc (roundTrip.take 9) "USD") (.fresh "USD")

theorem replay_openState : replay .utc (roundTrip.take 9) "USD" = .ok openState :=
  eq_ok_okOr (by decide) _

/-- One second after noon. -/
def afterNoon : DateTime := ⟨Sample.newYear, 12, 0, 1, 0, 0, by decide⟩

def bookAt (observedAt : DateTime) : OrderBookSnapshot Decimal where
  conditionId := "market"
  tokenId := "yes"
  observedAt
  bid := ⟨⟨false, 45, 2⟩, ⟨false, 100, 0⟩⟩
  bids := []
  ask := ⟨⟨false, 55, 2⟩, ⟨false, 100, 0⟩⟩
  asks := []
  minimumOrderSize := ⟨false, 1, 0⟩
  tickSize := ⟨false, 1, 2⟩
  negRisk := false
  bookHash := "h"

def booksAt (observedAt : DateTime) : Dict (String × String) (OrderBookSnapshot Decimal) :=
  Dict.empty.insert ("market", "yes") (bookAt observedAt)

def freePolicy : CostPolicy Decimal where
  platformFeeRate := 0
  transactionCost := 0
  safetyMarginRate := 0
  maximumAverageSlippage := 0
  maximumWorstSlippage := 0
  maximumAllInPrice := ⟨false, 9, 1⟩
  minimumExpectedReturn := 0
  depthPolicy := .reject

theorem booksAt_get? (observedAt : DateTime) :
    ∀ entry ∈ openState.openPositions, (booksAt observedAt).get? entry.1 = some (bookAt observedAt) ∧
      entry.2.quantity.val = 2000000 := by
  have hkeys : ∀ entry ∈ openState.openPositions, entry.1 = ("market", "yes") ∧
      entry.2.quantity.val = 2000000 := by decide
  intro entry hentry
  rw [(hkeys entry hentry).1, booksAt, Dict.get?_insert, if_pos rfl]
  exact ⟨rfl, (hkeys entry hentry).2⟩

/-- A book of one second later is fresh at noon. -/
theorem provided_booksAt {observedAt : DateTime}
    (h : requireFresh (bookAt observedAt) noon (30 * secondMicros) = .ok ()) :
    Provided openState (booksAt observedAt) noon (30 * secondMicros) := fun entry hentry =>
  ⟨_, (booksAt_get? observedAt entry hentry).1, h⟩

end Sample

/-- A book that is fresh and one second ahead. -/
theorem not_yieldsSnapshot_afterNoon :
    Reachable .utc Sample.openState ∧
      Provided Sample.openState (Sample.booksAt Sample.afterNoon) Ledger.Sample.noon (30 * secondMicros) ∧
      Sample.openState.eventFingerprints.get? "12" = none ∧
      ¬ YieldsSnapshot .utc Sample.openState (Sample.booksAt Sample.afterNoon) Sample.freePolicy
        Ledger.Sample.noon (30 * secondMicros) "12" := by
  refine ⟨⟨_, _, Sample.replay_openState⟩, Sample.provided_booksAt (by decide),
    by decide, ?_⟩
  rintro ⟨v, hbuild, -⟩
  have herror : (buildPaperValuation Sample.openState (Sample.booksAt Sample.afterNoon) Sample.freePolicy
      Ledger.Sample.noon (30 * secondMicros)).isOk = false := by decide
  rw [hbuild] at herror
  cases herror

/-- A book of noon is recorded at noon. -/
theorem yieldsSnapshot_noon :
    YieldsSnapshot .utc Sample.openState (Sample.booksAt Ledger.Sample.noon) Sample.freePolicy
      Ledger.Sample.noon (30 * secondMicros) "12" := by
  refine (yieldsSnapshot_iff .utc Sample.openState ⟨_, _, Sample.replay_openState⟩ _ Sample.freePolicy
    Ledger.Sample.noon (30 * secondMicros) (Sample.provided_booksAt (by decide)) "12"
    (by decide) (by decide)).mpr ⟨by decide, ⟨Ledger.Sample.noon, rfl, ?_⟩, ?_,
      by decide⟩
  · intro entry hentry book hbook
    cases (Sample.booksAt_get? _ entry hentry).1.symm.trans hbook
    exact le_rfl
  · intro entry hentry book hbook
    obtain ⟨hget, hquantity⟩ := Sample.booksAt_get? Ledger.Sample.noon entry hentry
    cases hget.symm.trans hbook
    have hq : entry.2.quantity = ⟨2000000, by decide⟩ := Micros.ext hquantity
    rw [hq]
    exact .inr ⟨by decide, by decide, by decide, by decide,
      by decide⟩

end WeatherBot.Paper
