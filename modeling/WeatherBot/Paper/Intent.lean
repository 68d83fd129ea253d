import WeatherBot.Common.DecimalValue
import WeatherBot.Domain.Risk
import WeatherBot.Paper.Valuation
import WeatherBot.Risk.Approval

/-!
# Order intents from approved sizing

Model of `_intent_from_sizing` (`paper/service.py`) and of the checks of
`PaperEntryRequest`. The quantity and the limit price are rounded half-even to six
places, each for itself; the target was rounded down.

* `averagePrice_range`, `shares_pos`: what the evaluator guarantees of the quote.
* `roundedProduct_le_quantity`: the limit notional has no more digits than the quantity.
* `intentFromSizing_iff`: **an approved decision becomes an intent iff the rounded
  quote stays within the target**; the reservation is then exactly the target, and
  a rounded quote above the target raises.
-/

namespace WeatherBot.Paper

open WeatherBot.Common
open WeatherBot.Domain
open WeatherBot.Markets
open WeatherBot.Quoting
open WeatherBot.Risk

/-! ## The source -/

/-- `PaperEntryRequest` (`service.py`, 57-76). -/
structure PaperEntryRequest where
  strategyId : String
  decisionId : String
  modelVersion : String
  modelProbability : Decimal
  scope : RiskScope
  decisionOrderBook : OrderBookSnapshot Decimal
  executionOrderBook : OrderBookSnapshot Decimal
  evaluatedAt : DateTime
  auditMetadata : Dict String Json

/-- A value that is not a text, or a blank one. -/
def notText : Option Json → Bool
  | some (.str s) => isBlank s
  | _ => true

/-- A value that is supplied and is not a text, or a blank one. -/
def suppliedNotText : Option Json → Bool
  | none => false
  | some .null => false
  | some value => notText (some value)

/-- `PaperEntryRequest.__post_init__` (`service.py`, 78-109). -/
def PaperEntryRequest.new (r : PaperEntryRequest) : Except Error PaperEntryRequest := do
  forM [("strategy_id", r.strategyId), ("decision_id", r.decisionId),
    ("model_version", r.modelVersion)]
    fun entry => raiseIf (isBlank entry.2 = true) (.valueError (entry.1 ++ " must not be blank"))
  raiseIf (r.modelProbability ≤ 0 ∨ 1 ≤ r.modelProbability)
    (.valueError "paper model probability must be between zero and one")
  raiseIf (r.scope.outcomeId ≠ r.decisionOrderBook.tokenId)
    (.valueError "paper scope outcome_id must match the selected decision-book token")
  raiseIf (r.executionOrderBook.conditionId ≠ r.decisionOrderBook.conditionId)
    (.valueError "paper execution book must use the decision-book condition")
  raiseIf (r.executionOrderBook.tokenId ≠ r.decisionOrderBook.tokenId)
    (.valueError "paper execution book must use the decision-book token")
  raiseIf (notText (r.auditMetadata.get? "bucket_key") = true)
    (.valueError "paper entry requires a non-blank bucket_key for resolution")
  raiseIf (suppliedNotText (r.auditMetadata.get? "declared_resolution_source") = true)
    (.valueError "declared_resolution_source must be a non-blank string when supplied")
  return r

/-- `build_order_intent_id` (`model.py`, 132-153). -/
def buildOrderIntentId (rt : Runtime) (strategyId decisionId marketId outcomeId : String) (side : Side)
    (quantity limitPrice : Decimal) : Except Error String := do
  let decisionId ← requireText decisionId "decision_id"
  let limitPrice ← asDecimal limitPrice
  let marketId ← requireText marketId "market_id"
  let outcomeId ← requireText outcomeId "outcome_id"
  let quantity ← asDecimal quantity
  let strategyId ← requireText strategyId "strategy_id"
  return "intent_" ++ rt.sha256Json (.obj [("decision_id", .str decisionId),
    ("limit_price", .str limitPrice.text), ("market_id", .str marketId),
    ("outcome_id", .str outcomeId), ("quantity", .str quantity.text), ("side", .str side.value),
    ("strategy_id", .str strategyId)])

/-- `OrderIntent.create` (`model.py`, 231-264). -/
def createIntent (rt : Runtime) (strategyId decisionId marketId outcomeId : String) (side : Side)
    (quantity limitPrice : Decimal) (feeReserve : Money) (createdAt : DateTime) :
    Except Error OrderIntent := do
  let intentId ← buildOrderIntentId rt strategyId decisionId marketId outcomeId side quantity limitPrice
  OrderIntent.new intentId strategyId decisionId marketId outcomeId side quantity limitPrice feeReserve
    createdAt

/-- `_intent_from_sizing` (`service.py`, 237-261). The amount of the target has six places. -/
def intentFromSizing (rt : Runtime) (r : PaperEntryRequest) (sizing : SizingDecision Decimal) :
    Except Error OrderIntent :=
  match sizing.quote, sizing.status with
  | some quote, .approved => do
    let targetCash ← moneyOf sizing.targetCash.amount sizing.targetCash.currency
    let quantity ← asDecimal quote.quote.shares
    let limitPrice ← asDecimal quote.quote.averagePrice
    let limitNotional ← moneyFromUnitPrice limitPrice quantity targetCash.currency
    let feeReserve ← targetCash.sub limitNotional
    raiseIf (feeReserve.amount.val < 0)
      (.valueError "paper intent rounding would exceed the approved sizing cash")
    createIntent rt r.strategyId r.decisionId r.scope.marketId r.scope.outcomeId .buy
      quantity.toDecimal limitPrice.toDecimal feeReserve r.evaluatedAt
  | _, _ => throw (.valueError "paper intent requires approved sizing")

/-! ## Texts -/

/-- The fields of a request that an intent takes over. -/
structure PaperEntryRequest.Texts (r : PaperEntryRequest) : Prop where
  strategyId : isBlank r.strategyId = false
  decisionId : isBlank r.decisionId = false
  marketId : isBlank r.scope.marketId = false
  outcomeId : isBlank r.scope.outcomeId = false

theorem PaperEntryRequest.texts_of_new {rt : Runtime} {raw r : PaperEntryRequest} {scope : RiskScope}
    (h : new raw = .ok r) (hscope : RiskScope.new rt scope = .ok r.scope) : r.Texts := by
  rw [new, check_bind_eq_ok, forM_eq_ok] at h
  obtain ⟨htexts, h⟩ := h
  simp only [raiseIf_bind_eq_ok] at h
  obtain ⟨-, -, -, -, -, -, h⟩ := h
  cases h
  have htext : ∀ entry ∈ [("strategy_id", raw.strategyId), ("decision_id", raw.decisionId),
      ("model_version", raw.modelVersion)], isBlank entry.2 = false := by
    intro entry hentry
    have := htexts entry hentry
    rwa [raiseIf_eq_ok, Bool.not_eq_true] at this
  have hvalid := RiskScope.valid_of_new hscope
  exact ⟨htext ("strategy_id", raw.strategyId) (by simp),
    htext ("decision_id", raw.decisionId) (by simp), hvalid.marketId, hvalid.outcomeId⟩

theorem isBlank_intentId (s : String) : isBlank ("intent_" ++ s) = false := by
  refine isBlank_of_mem (c := 'i') ?_ (by decide)
  rw [String.toList_append]
  exact List.mem_append_left _ (by decide)

/-- The identifier of an intent is built from texts and six-decimal numbers. -/
theorem buildOrderIntentId_ok (rt : Runtime) {r : PaperEntryRequest} (hr : r.Texts) (side : Side)
    (quantity limitPrice : Micros) :
    ∃ id, buildOrderIntentId rt r.strategyId r.decisionId r.scope.marketId r.scope.outcomeId side
      quantity.toDecimal limitPrice.toDecimal = .ok id ∧ isBlank id = false := by
  have htext : ∀ s label, isBlank s = false → requireText s label = .ok (strip s) :=
    fun s label h => requireText_eq_ok.mpr ⟨h, rfl⟩
  simp only [buildOrderIntentId, htext _ _ hr.decisionId, htext _ _ hr.marketId,
    htext _ _ hr.outcomeId, htext _ _ hr.strategyId, asDecimal_toDecimal, ok_bind]
  exact ⟨_, rfl, isBlank_intentId _⟩

/-- When `OrderIntent.create` returns, for a buy. -/
theorem createIntent_eq_ok (rt : Runtime) {r : PaperEntryRequest} (hr : r.Texts)
    {quantity limitPrice : Micros} {feeReserve : Money} {t : DateTime} :
    (∃ i, createIntent rt r.strategyId r.decisionId r.scope.marketId r.scope.outcomeId .buy
      quantity.toDecimal limitPrice.toDecimal feeReserve t = .ok i) ↔
      0 < quantity.val ∧ (0 < limitPrice.val ∧ limitPrice.val ≤ one) ∧ 0 ≤ feeReserve.amount.val := by
  obtain ⟨id, hid, hblank⟩ := buildOrderIntentId_ok rt hr .buy quantity limitPrice
  simp only [createIntent, hid, ok_bind, OrderIntent.new, ensureText, asDecimal_toDecimal,
    ensure_bind_eq_ok]
  constructor
  · rintro ⟨i, -, -, -, -, -, hq, hl, hf, -, -⟩
    exact ⟨hq, hl, hf⟩
  · rintro ⟨hq, hl, hf⟩
    exact ⟨_, hblank, hr.strategyId, hr.decisionId, hr.marketId, hr.outcomeId, hq, hl, hf,
      fun hside => absurd hside (by decide), rfl⟩

/-- An intent takes over what it is created from. -/
theorem fields_of_createIntent {rt : Runtime} {r : PaperEntryRequest} {quantity limitPrice : Micros}
    {feeReserve : Money} {t : DateTime} {i : OrderIntent}
    (h : createIntent rt r.strategyId r.decisionId r.scope.marketId r.scope.outcomeId .buy
      quantity.toDecimal limitPrice.toDecimal feeReserve t = .ok i) :
    i.side = .buy ∧ i.quantity = quantity ∧ i.limitPrice = limitPrice ∧ i.feeReserve = feeReserve := by
  obtain ⟨id, -, h⟩ := bind_eq_ok.mp h
  simp only [OrderIntent.new, ensureText, asDecimal_toDecimal, ok_bind, ensure_bind_eq_ok] at h
  obtain ⟨_, _, _, _, _, _, _, _, _, h⟩ := h
  cases h
  exact ⟨rfl, rfl, rfl, rfl⟩

/-! ## Amounts -/

theorem value_toDecimal (m : Micros) : m.toDecimal.value = m.val / 10 ^ quantumPlaces := by
  have hscale : m.toDecimal.scale = quantumPlaces := rfl
  rw [Decimal.value, hscale, Micros.toDecimal, Decimal.signed_ofScaled]

/-- A number with at most six places is not changed. -/
theorem value_asDecimal {d : Decimal} {a : Micros} (hd : d.scale ≤ quantumPlaces)
    (h : asDecimal d = .ok a) : a.toDecimal.value = d.value := by
  have hval : a.val = d.signed * 10 ^ (quantumPlaces - d.scale) := by
    rw [asDecimal, quantize_eq_ok, Decimal.rescale, if_pos hd] at h
    exact h
  rw [value_toDecimal, Decimal.value, hval, div_eq_div_iff (by positivity) (by positivity)]
  push_cast
  rw [mul_assoc, ← pow_add, Nat.sub_add_cancel hd]

theorem atSix_eq_some {neg : Bool} {coeff : ℕ} {d : Decimal} (h : Decimal.atSix neg coeff = some d) :
    coeff < 10 ^ precision ∧ d = ⟨neg, coeff, quantumPlaces⟩ := by
  unfold Decimal.atSix at h
  split_ifs at h with hlt
  exact ⟨hlt, (Option.some.inj h).symm⟩

theorem asDecimal_six (neg : Bool) {coeff : ℕ} (h : coeff < 10 ^ precision) :
    ∃ a, asDecimal ⟨neg, coeff, quantumPlaces⟩ = .ok a := by
  have hfits : Fits ((⟨neg, coeff, quantumPlaces⟩ : Decimal).rescale quantumPlaces) := by
    rw [Decimal.rescale, if_pos (show (⟨neg, coeff, quantumPlaces⟩ : Decimal).scale ≤ quantumPlaces
      from le_rfl), Nat.sub_self, pow_zero, mul_one, Fits, Decimal.signed_natAbs]
    exact h
  exact ⟨_, quantize_of_fits hfits⟩

/-- Floored money is a number of millionths. -/
theorem moneyOf_floored {currency : String} {m : MoneyOf Decimal}
    (h : Floored Decimal.context currency m) :
    ∃ t, moneyOf m.amount m.currency = .ok t ∧ t.currency = m.currency ∧
      t.amount.toDecimal.value = m.amount.value := by
  have hsix : ∃ a, asDecimal m.amount = .ok a ∧ m.amount.scale ≤ quantumPlaces := by
    obtain ⟨x, h⟩ := h
    unfold floorMoney at h
    split_ifs at h
    · cases h
      have hzero : asDecimal 0 = .ok Micros.zero := by decide
      exact ⟨Micros.zero, hzero, Nat.zero_le _⟩
    split at h
    · rename_i floored hfloored
      unfold MoneyOf.of at h
      split at h
      · rename_i amount hamount
        cases h
        obtain ⟨hlt, rfl⟩ := atSix_eq_some hamount
        obtain ⟨a, ha⟩ := asDecimal_six _ hlt
        exact ⟨a, ha, le_rfl⟩
      · cases h
    · cases h
  obtain ⟨a, ha, hscale⟩ := hsix
  refine ⟨⟨a, m.currency⟩, ?_, rfl, value_asDecimal hscale ha⟩
  rw [moneyOf, ha]
  rfl

/-! ## The accepted quote -/

section Quote

variable {s : SizingRequest Decimal} {probability budget : Decimal} {t t' : DateTime}
  {q : ValidatedExecutableQuote Decimal}

/-- The best ask and the minimum order of a constructed book are positive. -/
theorem book_pos {raw b : OrderBookSnapshot Decimal} (h : OrderBookSnapshot.new raw = .ok b) :
    0 < b.bestAsk ∧ 0 < b.minimumOrderSize := by
  rw [OrderBookSnapshot.new, check_bind_eq_ok, forM_eq_ok] at h
  obtain ⟨hlevels, h⟩ := h
  obtain ⟨observedAt, -, h⟩ := bind_eq_ok.mp h
  simp only [raiseIf_bind_eq_ok] at h
  obtain ⟨hminimum, -, -, -, -, -, -, -, h⟩ := h
  rw [← Except.ok.inj h]
  have hask := hlevels raw.ask (List.mem_append_right _ (List.mem_cons_self ..))
  rw [OrderLevel.check, raiseIf_bind_eq_ok, not_not] at hask
  refine ⟨hask.1.1, ?_⟩
  rw [Decimal.lt_iff, ← not_le, ← Decimal.le_iff]
  exact hminimum

/-- An accepted quote is that of the book, and leaves a raw edge. -/
theorem quoted_of_accepted (h : evaluateExecutableBuy Decimal.context (s.quoteRequest probability budget) t =
    .ok (.accepted t' q)) :
    (∃ executable, s.orderBook.quoteBuyBudget Decimal.context executable = .ok q.quote) ∧
      ¬ probability - q.quote.averagePrice ≤ 0 := by
  obtain ⟨-, a, checks, hprice, rfl⟩ := evaluateExecutableBuy_eq_accepted h
  obtain ⟨limit, executable, quote, -, hquote, hassess⟩ := price_eq_ok hprice
  have hquoted := (assess_eq_ok hassess).quoted
  simp only [assess, rejectIf, raiseIf_bind_eq_ok] at hassess
  obtain ⟨-, -, -, -, hedge, -⟩ := hassess
  dsimp only
  rw [hquoted]
  exact ⟨⟨executable, hquote⟩, hedge⟩

/-- The average price of an accepted quote lies between zero and one. -/
theorem averagePrice_range {raw : OrderBookSnapshot Decimal}
    (hbook : OrderBookSnapshot.new raw = .ok s.orderBook) (hp : ¬ (probability ≤ 0 ∨ 1 ≤ probability))
    (h : evaluateExecutableBuy Decimal.context (s.quoteRequest probability budget) t =
      .ok (.accepted t' q)) :
    0 < q.quote.averagePrice.value ∧ q.quote.averagePrice.value < 1 := by
  obtain ⟨⟨executable, hquote⟩, hedge⟩ := quoted_of_accepted h
  have hzero : (0 : Decimal).value = 0 := by decide +kernel
  have hone : (1 : Decimal).value = 1 := by decide +kernel
  constructor
  · have hask := (book_pos hbook).1
    simp only [OrderBookSnapshot.quoteBuyBudget, raiseIf_bind_eq_ok] at hquote
    obtain ⟨-, -, -, -, hquote⟩ := hquote
    have haverage : q.quote.averagePrice = pyMax _ s.orderBook.bestAsk :=
      (congrArg ExecutableQuote.averagePrice (Except.ok.inj hquote)).symm
    rw [Decimal.lt_iff, hzero] at hask
    rw [haverage, pyMax]
    split_ifs with hlt
    · exact hask
    · rw [Decimal.lt_iff, not_lt] at hlt
      exact hask.trans_le hlt
  · have hp1 : probability.value < 1 := by
      rw [← hone, ← not_le, ← Decimal.le_iff]
      exact fun hle => hp (.inr hle)
    have hedge' : probability.value - q.quote.averagePrice.value > 0 := by
      rw [Decimal.le_iff, hzero, Decimal.value_sub] at hedge
      exact not_le.mp fun hle => hedge (round28_nonpos hle)
    linarith

/-- An accepted quote is for a positive number of shares. -/
theorem shares_pos {raw : OrderBookSnapshot Decimal}
    (hbook : OrderBookSnapshot.new raw = .ok s.orderBook)
    (h : evaluateExecutableBuy Decimal.context (s.quoteRequest probability budget) t =
      .ok (.accepted t' q)) : 0 < q.quote.shares.value := by
  obtain ⟨⟨executable, hquote⟩, -⟩ := quoted_of_accepted h
  have hzero : (0 : Decimal).value = 0 := by decide +kernel
  have hminimum := (book_pos hbook).2
  simp only [OrderBookSnapshot.quoteBuyBudget, raiseIf_bind_eq_ok] at hquote
  obtain ⟨-, -, hshares, -, hquote⟩ := hquote
  have hquoted : q.quote.shares = _ := (congrArg ExecutableQuote.shares (Except.ok.inj hquote)).symm
  rw [Decimal.lt_iff, hzero] at hminimum
  rw [Decimal.lt_iff, not_lt] at hshares
  rw [hquoted]
  exact hminimum.trans_le hshares

end Quote

/-! ## The limit notional -/

/-- A product with a price of at most one does not exceed the quantity. -/
theorem roundedProduct_le_quantity {p q : ℤ} (hp : 0 ≤ p) (hp1 : p ≤ one) (hq : 0 ≤ q) (hfits : Fits q) :
    roundedProduct p q ≤ q := by
  have hfull : ctxRound (one * q) = one * q := by
    refine ctxRound_of_dvd ((pow_dvd_pow 10 ?_).trans (Dvd.intro q rfl))
    by_contra hlt
    have hle := pow_le_of_excessDigits (mul_nonneg Domain.one_pos.le hq) (by omega : 0 < excessDigits (one * q))
    have hpow : (10 : ℤ) ^ (quantumPlaces + precision) ≤ 10 ^ (excessDigits (one * q) + (precision - 1)) :=
      pow_le_pow_right₀ (by norm_num) (by unfold precision; omega)
    have hq' : q < 10 ^ precision := by
      unfold Fits at hfits
      zify at hfits
      rwa [abs_of_nonneg hq] at hfits
    have hsplit : (10 : ℤ) ^ (quantumPlaces + precision) = one * 10 ^ precision := pow_add ..
    have := mul_lt_mul_of_pos_left hq' Domain.one_pos
    linarith
  calc roundedProduct p q ≤ roundedProduct one q := roundedProduct_mono hp hq hp1 le_rfl
    _ = q := by rw [roundedProduct, hfull, mul_comm, roundDiv_mul_self q Domain.one_pos]

/-- The quantity and the limit price of a quote, in millionths. -/
def quantityOf (q : ExecutableQuote Decimal) : ℤ := q.shares.rescale quantumPlaces

def limitPriceOf (q : ExecutableQuote Decimal) : ℤ := q.averagePrice.rescale quantumPlaces

/-- The limit notional of a quote, in millionths. -/
def limitNotionalOf (q : ExecutableQuote Decimal) : ℤ :=
  roundedProduct (limitPriceOf q) (quantityOf q)

/-- The quantity and the limit price do not round to zero, the quantity is representable, and their
product stays within the target. -/
def RoundsWithin (d : SizingDecision Decimal) : Prop :=
  ∃ q ∈ d.quote, (0 < quantityOf q.quote ∧ Fits (quantityOf q.quote)) ∧ 0 < limitPriceOf q.quote ∧
    limitNotionalOf q.quote ≤ d.targetCash.amount.rescale quantumPlaces

instance (d : SizingDecision Decimal) : Decidable (RoundsWithin d) :=
  inferInstanceAs (Decidable (∃ q ∈ d.quote, _))

/-- The product of the rounded numbers exceeds the target. -/
def RoundsUp (d : SizingDecision Decimal) : Prop :=
  ∃ q ∈ d.quote, Fits (quantityOf q.quote) ∧
    d.targetCash.amount.rescale quantumPlaces < limitNotionalOf q.quote

/-- The intent reserves the target. -/
structure Reserves (d : SizingDecision Decimal) (i : OrderIntent) : Prop where
  quantity : 0 < i.quantity.val
  limitPrice : 0 < i.limitPrice.val
  feeReserve : 0 ≤ i.feeReserve.amount.val
  cash : ∃ m, i.cashReservation = .ok m ∧ m.currency = d.targetCash.currency ∧
    m.amount.toDecimal.value = d.targetCash.amount.value

theorem quantityOf_nonneg {q : ExecutableQuote Decimal} (h : 0 < q.shares.value) : 0 ≤ quantityOf q := by
  have hmono := roundEven_mono (x := ((0 : ℤ) : ℚ)) (y := q.shares.value * 10 ^ quantumPlaces)
    (by rw [Int.cast_zero]; positivity)
  rwa [roundEven_intCast, ← Decimal.rescale_eq] at hmono

theorem limitPriceOf_range {q : ExecutableQuote Decimal}
    (h : 0 < q.averagePrice.value ∧ q.averagePrice.value < 1) :
    0 ≤ limitPriceOf q ∧ limitPriceOf q ≤ one := by
  have hpow : (0 : ℚ) < 10 ^ quantumPlaces := by positivity
  have hlow := roundEven_mono (x := ((0 : ℤ) : ℚ)) (y := q.averagePrice.value * 10 ^ quantumPlaces)
    (by rw [Int.cast_zero]; exact mul_nonneg h.1.le hpow.le)
  have hhigh := roundEven_mono (x := q.averagePrice.value * 10 ^ quantumPlaces) (y := (one : ℚ))
    (by rw [one, Int.cast_pow, Int.cast_ofNat]; exact mul_le_of_le_one_left hpow.le h.2.le)
  rw [roundEven_intCast, ← Decimal.rescale_eq] at hlow hhigh
  exact ⟨hlow, hhigh⟩

/-! ## The intent -/

section

variable {rt : Runtime} {r : PaperEntryRequest} {d : SizingDecision Decimal}
  {q : ValidatedExecutableQuote Decimal} {target : Money}

/-- A quantity with too many digits raises. -/
theorem intentFromSizing_of_not_fits (hd : d.status = .approved) (hq : d.quote = some q)
    (htarget : moneyOf d.targetCash.amount d.targetCash.currency = .ok target)
    (hfits : ¬ Fits (quantityOf q.quote)) : ∀ i, intentFromSizing rt r d ≠ .ok i := by
  intro i h
  simp only [intentFromSizing, hq, hd, htarget, ok_bind] at h
  obtain ⟨quantity, hquantity, -⟩ := bind_eq_ok.mp h
  have hval : quantity.val = quantityOf q.quote := quantize_eq_ok.mp hquantity
  exact hfits (hval ▸ quantity.fits)

/-- The steps behind the rounding. -/
theorem intentFromSizing_of_fits (hd : d.status = .approved) (hq : d.quote = some q)
    (htarget : moneyOf d.targetCash.amount d.targetCash.currency = .ok target)
    (htarget0 : 0 ≤ target.amount.val) (hshares : 0 < q.quote.shares.value)
    (haverage : 0 < q.quote.averagePrice.value ∧ q.quote.averagePrice.value < 1)
    (hfits : Fits (quantityOf q.quote)) :
    ∃ (quantity limitPrice : Micros) (feeReserve : Money), quantity.val = quantityOf q.quote ∧
      limitPrice.val = limitPriceOf q.quote ∧
      feeReserve.amount.val = target.amount.val - limitNotionalOf q.quote ∧
      feeReserve.currency = target.currency ∧ Fits (limitNotionalOf q.quote) ∧
      intentFromSizing rt r d = (do
        raiseIf (feeReserve.amount.val < 0)
          (.valueError "paper intent rounding would exceed the approved sizing cash")
        createIntent rt r.strategyId r.decisionId r.scope.marketId r.scope.outcomeId .buy
          quantity.toDecimal limitPrice.toDecimal feeReserve r.evaluatedAt) := by
  obtain ⟨hlimit0, hlimit1⟩ := limitPriceOf_range haverage
  have hquantity0 := quantityOf_nonneg hshares
  have hone : one = 1000000 := by decide
  have hlimit : Fits (limitPriceOf q.quote) := by
    unfold Fits precision
    omega
  have hnotional0 : 0 ≤ limitNotionalOf q.quote := roundedProduct_nonneg hlimit0 hquantity0
  have hle : limitNotionalOf q.quote ≤ quantityOf q.quote :=
    roundedProduct_le_quantity hlimit0 hlimit1 hquantity0 hfits
  have hnotional : Fits (limitNotionalOf q.quote) := by
    unfold Fits at hfits ⊢
    omega
  have hfee : Fits (target.amount.val - limitNotionalOf q.quote) := by
    have := target.amount.fits
    unfold Fits at this hnotional ⊢
    omega
  refine ⟨⟨_, hfits⟩, ⟨_, hlimit⟩, ⟨⟨_, hfee⟩, target.currency⟩, rfl, rfl, rfl, rfl, hnotional, ?_⟩
  have hshares' : asDecimal q.quote.shares = .ok ⟨quantityOf q.quote, hfits⟩ := quantize_of_fits hfits
  have haverage' : asDecimal q.quote.averagePrice = .ok ⟨limitPriceOf q.quote, hlimit⟩ :=
    quantize_of_fits hlimit
  have hproduct : moneyFromUnitPrice ⟨limitPriceOf q.quote, hlimit⟩ ⟨quantityOf q.quote, hfits⟩
      target.currency = .ok ⟨⟨_, hnotional⟩, target.currency⟩ :=
    moneyFromUnitPrice_eq_ok.mpr ⟨rfl, rfl⟩
  have hsub : target.sub ⟨⟨_, hnotional⟩, target.currency⟩ = .ok ⟨⟨_, hfee⟩, target.currency⟩ :=
    Money.sub_eq_ok.mpr ⟨rfl, rfl, rfl⟩
  simp only [intentFromSizing, hq, hd, htarget, hshares', haverage', hproduct, hsub, ok_bind]

/-- The reservation of an intent is its notional and its fee reserve. -/
theorem cashReservation_of_sub {i : OrderIntent} (hside : i.side = .buy)
    (hfits : Fits (roundedProduct i.limitPrice i.quantity))
    (hfee : i.feeReserve.amount.val = target.amount.val - roundedProduct i.limitPrice i.quantity)
    (hcurrency : i.feeReserve.currency = target.currency) : i.cashReservation = .ok target := by
  have hnotional : i.limitNotional = .ok ⟨⟨_, hfits⟩, i.feeReserve.currency⟩ :=
    moneyFromUnitPrice_eq_ok.mpr ⟨rfl, rfl⟩
  rw [OrderIntent.cashReservation, if_neg (by rw [hside]; exact nofun), hnotional, ok_bind,
    Money.add_eq_ok]
  refine ⟨rfl, ?_, hcurrency.symm⟩
  rw [hfee]
  exact (add_sub_cancel _ _).symm

end

/-- **An approved decision becomes an intent iff the rounded quote stays within the target**, and then
the intent reserves exactly the target. A rounded quote above the target raises. -/
theorem intentFromSizing_iff (rt : Runtime) {rawBook : OrderBookSnapshot Decimal}
    {s : SizingRequest Decimal} (hbook : OrderBookSnapshot.new rawBook = .ok s.orderBook)
    {raw r : PaperEntryRequest} (hr : PaperEntryRequest.new raw = .ok r) {scope : RiskScope}
    (hscope : RiskScope.new rt scope = .ok r.scope) {d : SizingDecision Decimal}
    (h : sizeExecutableBuy Decimal.context s = .ok d) (hd : d.status = .approved) :
    ((∃ i, intentFromSizing rt r d = .ok i) ↔ RoundsWithin d) ∧
    (∀ i, intentFromSizing rt r d = .ok i → Reserves d i) ∧
    (RoundsUp d → intentFromSizing rt r d =
      .error (.valueError "paper intent rounding would exceed the approved sizing cash")) := by
  have htexts := PaperEntryRequest.texts_of_new hr hscope
  obtain ⟨probability, q, hq, hp, ⟨hfloored, t, haccepted⟩, hnonneg⟩ :=
    approval_of_sizeExecutableBuy h hd
  obtain ⟨target, htarget, hcurrency, hvalue⟩ := moneyOf_floored hfloored
  have haverage := averagePrice_range hbook hp haccepted
  have hshares := shares_pos hbook haccepted
  have hlimit := limitPriceOf_range haverage
  have hamount : target.amount.val = d.targetCash.amount.rescale quantumPlaces :=
    (Money.quantize_bind_eq_ok.mp htarget).1
  have htarget0 : 0 ≤ target.amount.val := by
    have hzero : (0 : Decimal).value = 0 := by decide +kernel
    rw [Decimal.lt_iff, not_lt, hzero, ← hvalue, value_toDecimal] at hnonneg
    have hcast := mul_nonneg hnonneg (by positivity : (0 : ℚ) ≤ 10 ^ quantumPlaces)
    rw [div_mul_cancel₀ _ (by positivity)] at hcast
    exact_mod_cast hcast
  have hwithin : RoundsWithin d ↔ (0 < quantityOf q.quote ∧ Fits (quantityOf q.quote)) ∧
      0 < limitPriceOf q.quote ∧ limitNotionalOf q.quote ≤ target.amount.val := by
    rw [RoundsWithin, hq, hamount]
    simp
  have hup : RoundsUp d ↔ Fits (quantityOf q.quote) ∧ target.amount.val < limitNotionalOf q.quote := by
    rw [RoundsUp, hq, hamount]
    simp
  rw [hwithin, hup]
  by_cases hfits : Fits (quantityOf q.quote)
  · obtain ⟨quantity, limitPrice, feeReserve, hquantity, hprice, hfee, hfeeCurrency, hnotional, heq⟩ :=
      @intentFromSizing_of_fits rt r _ _ _ hd hq htarget htarget0 hshares haverage hfits
    rw [heq]
    refine ⟨?_, ?_, ?_⟩
    · simp only [raiseIf_bind_eq_ok, exists_and_left, createIntent_eq_ok rt htexts]
      rw [hquantity, hprice, hfee]
      constructor
      · rintro ⟨-, h1, ⟨h2, -⟩, h3⟩
        exact ⟨⟨h1, hfits⟩, h2, by omega⟩
      · rintro ⟨⟨h1, -⟩, h2, h3⟩
        exact ⟨by omega, h1, ⟨h2, hlimit.2⟩, by omega⟩
    · intro i hi
      rw [raiseIf_bind_eq_ok] at hi
      obtain ⟨hside, hiq, hil, hif⟩ := fields_of_createIntent hi.2
      have hproduct : roundedProduct i.limitPrice i.quantity = limitNotionalOf q.quote := by
        rw [hiq, hil, limitNotionalOf, hquantity, hprice]
      refine ⟨i.quantity_pos, i.limitPrice_range.1, i.feeReserve_nonneg, target, ?_, hcurrency, hvalue⟩
      refine cashReservation_of_sub hside (hproduct ▸ hnotional) ?_ ?_
      · rw [hif, hfee, hproduct]
      · rw [hif, hfeeCurrency]
    · rintro ⟨-, hlt⟩
      rw [raiseIf, if_pos (by omega)]
      rfl
  · have hnone := @intentFromSizing_of_not_fits rt r _ _ _ hd hq htarget hfits
    refine ⟨⟨?_, fun hw => absurd hw.1.2 hfits⟩, fun i hi => absurd hi (hnone i),
      fun hu => absurd hu.1 hfits⟩
    rintro ⟨i, hi⟩
    exact absurd hi (hnone i)

/-! ## Samples -/

namespace Sample

def evaluatedAt : DateTime := Sample.noonOf Sample.firstOfMarch

/-- Ten shares at 0.30, and more at 0.35. -/
def decisionBook : OrderBookSnapshot Decimal where
  conditionId := "0x1"
  tokenId := "1"
  observedAt := evaluatedAt
  bid := ⟨⟨false, 29, 2⟩, ⟨false, 100, 0⟩⟩
  bids := []
  ask := ⟨⟨false, 30, 2⟩, ⟨false, 10, 0⟩⟩
  asks := [⟨⟨false, 35, 2⟩, ⟨false, 100, 0⟩⟩]
  minimumOrderSize := 1
  tickSize := ⟨false, 1, 2⟩
  negRisk := false
  bookHash := "h"

def usdc (dollars : ℕ) : MoneyOf Decimal := ⟨⟨false, dollars, 0⟩, "USDC"⟩

/-- A request without costs, for at most so many dollars. -/
def sizing (dollars : ℕ) : SizingRequest Decimal where
  capital := ⟨usdc 100, usdc 0, usdc 100, usdc 0, 0⟩
  probability := .number ⟨false, 7, 1⟩
  weather := {
    forecast := {
      temperatureF := ⟨false, 70, 0⟩
      marketDate := Sample.firstOfMarch
      marketTimezone := "UTC"
      source := .openMeteoEcmwfIfs025
      modelRunInitializedAtUtc := none
      snapshotIssuedAtUtc := evaluatedAt
      retrievedAtUtc := evaluatedAt }
    assembledAtUtc := evaluatedAt }
  event := ⟨"e", evaluatedAt, none⟩
  orderBook := decisionBook
  evaluatedAt := evaluatedAt
  freshnessPolicy := ⟨60 * secondMicros, 60 * secondMicros, 60 * secondMicros, 60 * secondMicros,
    5 * secondMicros⟩
  costPolicy := ⟨0, 0, 0, ⟨false, 1, 1⟩, ⟨false, 2, 1⟩, ⟨false, 95, 2⟩, 0, .reduce⟩
  sizingPolicy := ⟨⟨false, 5, 1⟩, usdc dollars, 8⟩
  balance := none

def scope : RiskScope := ⟨"0x1", "1", "e", "nyc", Sample.firstOfMarch, []⟩

def entry : PaperEntryRequest where
  strategyId := "s"
  decisionId := "d"
  modelVersion := "m"
  modelProbability := ⟨false, 7, 1⟩
  scope := scope
  decisionOrderBook := decisionBook
  executionOrderBook := decisionBook
  evaluatedAt := evaluatedAt
  auditMetadata := Dict.empty.insert "bucket_key" (.str "70")

theorem new_decisionBook : OrderBookSnapshot.new decisionBook = .ok decisionBook := by decide

theorem new_scope : RiskScope.new .utc scope = .ok scope := by decide

theorem new_entry : PaperEntryRequest.new entry = .ok entry := by
  have hbucket : notText (entry.auditMetadata.get? "bucket_key") = false := by decide
  have hsource : suppliedNotText (entry.auditMetadata.get? "declared_resolution_source") = false := by
    decide
  have hprobability : ¬ (entry.modelProbability ≤ 0 ∨ 1 ≤ entry.modelProbability) := by decide
  have htexts : ∀ x ∈ [("strategy_id", entry.strategyId), ("decision_id", entry.decisionId),
      ("model_version", entry.modelVersion)], isBlank x.2 = false := by decide
  rw [PaperEntryRequest.new, check_bind_eq_ok, forM_eq_ok]
  refine ⟨fun x hx => ?_, ?_⟩
  · rw [raiseIf_eq_ok, htexts x hx]
    exact Bool.false_ne_true
  · simp only [raiseIf_bind_eq_ok, hbucket, hsource]
    exact ⟨hprobability, by decide, by decide, by decide, Bool.false_ne_true, Bool.false_ne_true, rfl⟩

end Sample

/-- Eleven dollars are approved, and no intent is made of them. -/
theorem not_intent_eleven : ∃ d,
    sizeExecutableBuy Decimal.context (Sample.sizing 11) = .ok d ∧ d.status = .approved ∧
      OrderBookSnapshot.new Sample.decisionBook = .ok (Sample.sizing 11).orderBook ∧
      PaperEntryRequest.new Sample.entry = .ok Sample.entry ∧
      RiskScope.new .utc Sample.scope = .ok Sample.entry.scope ∧
      ∀ i, intentFromSizing .utc Sample.entry d ≠ .ok i := by
  have h : (sizeExecutableBuy Decimal.context (Sample.sizing 11)).toOption.map
      (fun d => (d.status, (intentFromSizing .utc Sample.entry d).isOk)) = some (.approved, false) := by
    decide +kernel
  cases hd : sizeExecutableBuy Decimal.context (Sample.sizing 11) with
  | error e =>
    rw [hd] at h
    cases h
  | ok d =>
    rw [hd] at h
    obtain ⟨hstatus, hnone⟩ := Prod.mk.inj (Option.some.inj h)
    refine ⟨d, rfl, hstatus, Sample.new_decisionBook, Sample.new_entry, Sample.new_scope, fun i hi => ?_⟩
    rw [hi] at hnone
    cases hnone

/-- Ten dollars become an intent that reserves them. -/
theorem intentFromSizing_ten : ∃ d i,
    sizeExecutableBuy Decimal.context (Sample.sizing 10) = .ok d ∧ d.status = .approved ∧
      intentFromSizing .utc Sample.entry d = .ok i ∧ Reserves d i := by
  have h : (sizeExecutableBuy Decimal.context (Sample.sizing 10)).toOption.map
      (fun d => (d.status, decide (RoundsWithin d))) = some (.approved, true) := by
    decide +kernel
  cases hd : sizeExecutableBuy Decimal.context (Sample.sizing 10) with
  | error e =>
    rw [hd] at h
    cases h
  | ok d =>
    rw [hd] at h
    obtain ⟨hstatus, hwithin⟩ := Prod.mk.inj (Option.some.inj h)
    obtain ⟨hiff, hreserves, -⟩ := intentFromSizing_iff .utc Sample.new_decisionBook Sample.new_entry
      Sample.new_scope hd hstatus
    obtain ⟨i, hi⟩ := hiff.mpr (of_decide_eq_true hwithin)
    exact ⟨d, i, rfl, hstatus, hi, hreserves i hi⟩

end WeatherBot.Paper
