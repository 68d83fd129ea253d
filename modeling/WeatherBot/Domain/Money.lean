import WeatherBot.Common.Decimal
import WeatherBot.Domain.Basic

/-!
# Money

Amounts, prices and quantities are decimal numbers with six places. They are
integers here, in units of one millionth. Arithmetic on them is exact or raises:
a result with more than 28 digits is refused.

* `Money.add_eq_ok`, `Money.sub_eq_ok`: when a sum or difference is computed,
  and what it is.
* `moneyFromUnitPrice_eq_ok`: a price times a quantity, rounded half-even
  (`roundedProduct`).
* `roundedProduct_error`: the rounded product is off by at most 0.55 millionths.
* `roundedProduct_split`: cutting a quantity in two costs at most one millionth.
-/

namespace WeatherBot.Domain

open WeatherBot.Common

/-! ## Six-decimal numbers -/

/-- The number of places of `_QUANTUM`. -/
def quantumPlaces : ℕ := 6

/-- `Decimal("1")` in units of one millionth. -/
def one : ℤ := 10 ^ quantumPlaces

/-- The quantized coefficient has at most 28 digits. -/
def Fits (n : ℤ) : Prop := n.natAbs < 10 ^ precision

instance (n : ℤ) : Decidable (Fits n) := inferInstanceAs (Decidable (n.natAbs < 10 ^ precision))

theorem fits_zero : Fits 0 := by decide

/-- A quantized decimal number, in millionths. -/
@[ext] structure Micros where
  val : ℤ
  fits : Fits val
deriving DecidableEq

instance : Coe Micros ℤ := ⟨Micros.val⟩

/-- `Decimal("0.000000")`. -/
def Micros.zero : Micros := ⟨0, fits_zero⟩

@[simp] theorem Micros.zero_val : Micros.zero.val = 0 := rfl

/-- `quantize` of a number of millionths. -/
def quantize (n : ℤ) : Except Error Micros :=
  if h : Fits n then .ok ⟨n, h⟩
  else .error ⟨.invalidOperation, "quantize result has too many digits for current context"⟩

theorem quantize_eq_ok {n : ℤ} {m : Micros} : quantize n = .ok m ↔ m.val = n := by
  unfold quantize
  split_ifs with h
  · rw [Except.ok.injEq, Micros.ext_iff, eq_comm]
  · refine ⟨nofun, ?_⟩
    rintro rfl
    exact absurd m.fits h

theorem quantize_of_fits {n : ℤ} (h : Fits n) : quantize n = .ok ⟨n, h⟩ := by
  rw [quantize, dif_pos h]

@[simp] theorem quantize_val (m : Micros) : quantize m.val = .ok m := quantize_of_fits m.fits

/-- `as_decimal` (`money.py`, 34-36). -/
def asDecimal (d : Decimal) : Except Error Micros := quantize (d.rescale quantumPlaces)

/-- The `Decimal` of a number of millionths. -/
def Micros.toDecimal (m : Micros) : Decimal := .ofScaled m.val quantumPlaces

/-- `format(value, "f")`. -/
def Micros.text (m : Micros) : String := m.toDecimal.format

@[simp] theorem asDecimal_toDecimal (m : Micros) : asDecimal m.toDecimal = .ok m := by
  rw [asDecimal, Micros.toDecimal, Decimal.rescale_ofScaled, quantize_val]

/-- Different numbers have different texts. -/
theorem Micros.text_inj {a b : Micros} (h : a.text = b.text) : a = b := by
  have hdecimal : a.toDecimal = b.toDecimal := by
    have := congrArg Decimal.ofText h
    rw [Micros.text, Micros.text, Decimal.ofText_format, Decimal.ofText_format] at this
    exact Option.some.inj this
  have := congrArg asDecimal hdecimal
  rw [asDecimal_toDecimal, asDecimal_toDecimal] at this
  exact Except.ok.inj this

/-! ## Money -/

/-- `Money` (`money.py`, 39-89). -/
@[ext] structure Money where
  amount : Micros
  currency : String
deriving DecidableEq

namespace Money

/-- Two amounts of one currency are equal when their numbers are. -/
theorem ext_val {a b : Money} (h : a.amount.val = b.amount.val) (hc : a.currency = b.currency) :
    a = b :=
  Money.ext (Micros.ext h) hc

/-- `Money.__post_init__`. -/
def new (rt : Runtime) (amount : Decimal) (currency : String) : Except Error Money := do
  let currency := rt.upper.normalize currency
  raiseIf (currency = "") (.valueError "currency must not be blank")
  let amount ← asDecimal amount
  return ⟨amount, currency⟩

/-- `Money.zero`. -/
def zero (currency : String) : Money := ⟨Micros.zero, currency⟩

@[simp] theorem zero_amount (currency : String) : (zero currency).amount = Micros.zero := rfl

@[simp] theorem zero_currency (currency : String) : (zero currency).currency = currency := rfl

/-- `Money._require_same_currency`. -/
def requireSameCurrency (a b : Money) : Except Error Unit :=
  raiseIf (a.currency ≠ b.currency)
    (.invariantViolation ("currency mismatch: " ++ a.currency ++ " != " ++ b.currency))

/-- `Money.__add__`. -/
def add (a b : Money) : Except Error Money := do
  requireSameCurrency a b
  let amount ← quantize (a.amount + b.amount)
  return ⟨amount, a.currency⟩

/-- `Money.__sub__`. -/
def sub (a b : Money) : Except Error Money := do
  requireSameCurrency a b
  let amount ← quantize (a.amount - b.amount)
  return ⟨amount, a.currency⟩

/-- `Money.scale`: the product is rounded to the context precision, then to six places. -/
def scale (a : Money) (factor : Decimal) : Except Error Money := do
  let product := Decimal.ofScaled (ctxRound (a.amount * factor.signed)) (quantumPlaces + factor.scale)
  let amount ← asDecimal product
  return ⟨amount, a.currency⟩

/-- A computed amount with a currency. -/
theorem quantize_bind_eq_ok {n : ℤ} {currency : String} {m : Money} :
    (quantize n >>= fun amount => pure ⟨amount, currency⟩) = .ok m ↔
      m.amount.val = n ∧ m.currency = currency := by
  rw [bind_eq_ok]
  constructor
  · rintro ⟨a, ha, hm⟩
    cases hm
    exact ⟨quantize_eq_ok.mp ha, rfl⟩
  · rintro ⟨rfl, rfl⟩
    exact ⟨m.amount, quantize_val _, rfl⟩

theorem add_eq_ok {a b m : Money} :
    add a b = .ok m ↔ b.currency = a.currency ∧ m.amount.val = a.amount + b.amount ∧
      m.currency = a.currency := by
  rw [add, requireSameCurrency, raiseIf_bind_eq_ok, not_not, quantize_bind_eq_ok, eq_comm]

theorem sub_eq_ok {a b m : Money} :
    sub a b = .ok m ↔ b.currency = a.currency ∧ m.amount.val = a.amount - b.amount ∧
      m.currency = a.currency := by
  rw [sub, requireSameCurrency, raiseIf_bind_eq_ok, not_not, quantize_bind_eq_ok, eq_comm]

theorem add_of_fits {a b : Money} (hc : b.currency = a.currency)
    (h : Fits (a.amount + b.amount)) : add a b = .ok ⟨⟨_, h⟩, a.currency⟩ :=
  add_eq_ok.mpr ⟨hc, rfl, rfl⟩

theorem sub_of_fits {a b : Money} (hc : b.currency = a.currency)
    (h : Fits (a.amount - b.amount)) : sub a b = .ok ⟨⟨_, h⟩, a.currency⟩ :=
  sub_eq_ok.mpr ⟨hc, rfl, rfl⟩

/-- Money whose currency is the normal form that `Money.__post_init__` stores. -/
def Normal (rt : Runtime) (m : Money) : Prop :=
  rt.upper.normalize m.currency = m.currency ∧ m.currency ≠ ""

/-- An amount in normal form is constructed from its own parts. -/
theorem new_self {rt : Runtime} {m : Money} (h : Normal rt m) :
    new rt m.amount.toDecimal m.currency = .ok m := by
  rw [new, raiseIf_bind_eq_ok, asDecimal_toDecimal, h.1]
  exact ⟨h.2, rfl⟩

end Money

/-- `require_nonnegative` (`money.py`, 97-99). -/
def requireNonnegative (value : Money) (label : String) : Except Error Unit :=
  raiseIf (value.amount.val < 0)
    (.invariantViolation (label ++ " must not be negative: " ++ value.amount.text))

theorem requireNonnegative_eq_ok {value : Money} {label : String} {u : Unit} :
    requireNonnegative value label = .ok u ↔ 0 ≤ value.amount.val := by
  rw [requireNonnegative, raiseIf_eq_ok, not_lt]

/-! ## Price times quantity -/

/-- The product of two six-decimal numbers as `money_from_unit_price` computes it: rounded to the
context precision, then half-even to six places. -/
def roundedProduct (price quantity : ℤ) : ℤ := roundDiv (ctxRound (price * quantity)) one

/-- `money_from_unit_price` (`money.py`, 92-94), for a price and a quantity with six places. -/
def moneyFromUnitPrice (unitPrice quantity : Micros) (currency : String) : Except Error Money := do
  let amount ← quantize (roundedProduct unitPrice quantity)
  return ⟨amount, currency⟩

theorem moneyFromUnitPrice_eq_ok {p q : Micros} {currency : String} {m : Money} :
    moneyFromUnitPrice p q currency = .ok m ↔
      m.amount.val = roundedProduct p q ∧ m.currency = currency :=
  Money.quantize_bind_eq_ok

theorem one_pos : 0 < one := by decide

theorem roundedProduct_nonneg {p q : ℤ} (hp : 0 ≤ p) (hq : 0 ≤ q) : 0 ≤ roundedProduct p q :=
  roundDiv_nonneg one_pos (ctxRound_nonneg (mul_nonneg hp hq))

@[simp] theorem roundedProduct_zero (p : ℤ) : roundedProduct p 0 = 0 := by
  rw [roundedProduct, mul_zero, ctxRound_zero, roundDiv_zero one_pos]

/-- The rounded product grows with the price and with the quantity. -/
theorem roundedProduct_mono {p p' q q' : ℤ} (hp : 0 ≤ p) (hq : 0 ≤ q) (hpp : p ≤ p') (hqq : q ≤ q') :
    roundedProduct p q ≤ roundedProduct p' q' :=
  roundDiv_mono one_pos
    (ctxRound_mono (mul_nonneg hp hq) (mul_le_mul hpp hqq hq (hp.trans hpp)))

/-- The rounded product, where it is representable, is off by at most 0.55 millionths. -/
theorem roundedProduct_error {p q : ℤ} (hp : 0 ≤ p) (hq : 0 ≤ q) (hfits : Fits (roundedProduct p q)) :
    2 * (p * q) ≤ 2 * (one * roundedProduct p q) + 1100000 ∧
      2 * (one * roundedProduct p q) ≤ 2 * (p * q) + 1100000 := by
  set n := p * q with hn
  have hn0 : 0 ≤ n := mul_nonneg hp hq
  have hctx := ctxRound_error n
  have hdiv := roundDiv_error (ctxRound n) one_pos
  have hrp : roundedProduct p q = roundDiv (ctxRound n) one := rfl
  rw [← hrp] at hdiv
  have hone : one = 1000000 := by decide
  rcases Nat.lt_or_ge (excessDigits n) quantumPlaces with hk | hk
  · -- few digits are dropped: the first rounding is off by 0.05
    have hpow : (10 : ℤ) ^ excessDigits n ≤ 10 ^ 5 :=
      pow_le_pow_right₀ (by norm_num) (by unfold quantumPlaces at hk; omega)
    rw [hone] at hdiv ⊢
    constructor <;> linarith
  · -- the first rounding leaves a multiple of one, which the second keeps
    have hdvd : one ∣ ctxRound n := by
      rw [ctxRound_eq]
      exact Dvd.dvd.mul_left (pow_dvd_pow 10 hk) _
    have hexact : one * roundedProduct p q = ctxRound n := by
      obtain ⟨a, ha⟩ := hdvd
      rw [hrp, ha, mul_comm one a, roundDiv_mul_self a one_pos, mul_comm]
    have hk' : excessDigits n ≤ quantumPlaces := by
      by_contra hlt
      have hbig : 10 ^ (quantumPlaces + precision) ≤ n := by
        refine le_trans ?_ (pow_le_of_excessDigits hn0 (by omega))
        exact pow_le_pow_right₀ (by norm_num) (by unfold precision at *; omega)
      have hround : ctxRound (10 ^ (quantumPlaces + precision)) ≤ ctxRound n :=
        ctxRound_mono (by positivity) hbig
      have hself : ctxRound (10 ^ (quantumPlaces + precision)) = 10 ^ (quantumPlaces + precision) := by
        decide
      have hlt : roundedProduct p q < 10 ^ precision := by
        unfold Fits at hfits
        have := Int.le_natAbs (a := roundedProduct p q)
        zify at hfits
        rw [abs_of_nonneg (roundedProduct_nonneg hp hq)] at hfits
        exact hfits
      rw [hself, ← hexact, pow_add] at hround
      have : (10 : ℤ) ^ precision ≤ roundedProduct p q := by
        have h6 : one = 10 ^ quantumPlaces := rfl
        rw [← h6] at hround
        exact le_of_mul_le_mul_left hround one_pos
      omega
    have hpow : (10 : ℤ) ^ excessDigits n ≤ 10 ^ quantumPlaces :=
      pow_le_pow_right₀ (by norm_num) hk'
    rw [hexact]
    have : (10 : ℤ) ^ quantumPlaces = 1000000 := by decide
    rw [this] at hpow
    constructor <;> linarith

/-- Paying for a part now and reserving for the rest at a price that is no lower costs at most one
millionth more than reserving for the whole. -/
theorem roundedProduct_split {p limit q r : ℤ} (hp : 0 ≤ p) (hpl : p ≤ limit) (hq : 0 ≤ q)
    (hqr : q ≤ r) (hpart : Fits (roundedProduct p q)) (hrest : Fits (roundedProduct limit (r - q)))
    (hwhole : Fits (roundedProduct limit r)) :
    roundedProduct p q + roundedProduct limit (r - q) ≤ roundedProduct limit r + 1 := by
  have hl : 0 ≤ limit := hp.trans hpl
  have h1 := roundedProduct_error hp hq hpart
  have h2 := roundedProduct_error hl (sub_nonneg.mpr hqr) hrest
  have h3 := roundedProduct_error hl (hq.trans hqr) hwhole
  have hle : p * q ≤ limit * q := mul_le_mul_of_nonneg_right hpl hq
  have hsplit : limit * (r - q) = limit * r - limit * q := mul_sub ..
  have hone : one = 1000000 := by decide
  rw [hsplit] at h2
  rw [hone] at h1 h2 h3
  omega

end WeatherBot.Domain
