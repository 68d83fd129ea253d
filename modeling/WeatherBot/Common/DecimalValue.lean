import WeatherBot.Common.Number
import Mathlib.Data.Int.Log

/-!
# Values of decimal numbers

The rational number that a `Decimal` stands for. Comparisons are those of the
values, and the operations round the exact value half-even to 28 significant
digits (`round28`).

* `round28_mul_pow`: rounding a coefficient, at whatever exponent it is written.
* `Decimal.value_fix`: the context rounding of a number.
* `Decimal.rescale_eq`: a fixed number of places.
* `Decimal.value_add`, `Decimal.value_sub`, `Decimal.value_mul`: the operations.
-/

namespace WeatherBot.Common

/-! ## Rounding rational numbers -/

theorem roundDiv_neg (n : ℤ) {d : ℤ} (hd : 0 < d) : roundDiv (-n) d = -roundDiv n d := by
  have hn := Int.mul_ediv_add_emod n d
  have h0 := Int.emod_nonneg n hd.ne'
  have h1 := Int.emod_lt_of_pos n hd
  rcases h0.eq_or_lt with hr | hr
  · have hdvd : n = n / d * d := by linarith [mul_comm d (n / d)]
    rw [hdvd, ← neg_mul, roundDiv_mul_self _ hd, roundDiv_mul_self _ hd]
  · -- the quotient and the remainder of the negative number
    have hq : -n / d = -(n / d) - 1 := by
      have : -n = (d - n % d) + (-(n / d) - 1) * d := by linarith [mul_comm d (n / d)]
      rw [this, Int.add_mul_ediv_right _ _ hd.ne', Int.ediv_eq_zero_of_lt (by omega) (by omega), zero_add]
    have hm : -n % d = d - n % d := by
      have := Int.mul_ediv_add_emod (-n) d
      rw [hq] at this
      linarith [mul_sub d (-(n / d)) 1, mul_neg d (n / d)]
    unfold roundDiv
    dsimp only
    rw [hq, hm]
    split_ifs <;> omega

/-- A common factor does not change a rounded quotient. -/
theorem roundDiv_mul_mul (n d : ℤ) {k : ℤ} (hk : 0 < k) : roundDiv (n * k) (d * k) = roundDiv n d := by
  have hlt : ∀ a b : ℤ, 2 * (a * k) < b * k ↔ 2 * a < b := fun a b => by
    rw [← mul_assoc]
    exact mul_lt_mul_iff_left₀ hk
  have hgt : ∀ a b : ℤ, b * k < 2 * (a * k) ↔ b < 2 * a := fun a b => by
    rw [← mul_assoc]
    exact mul_lt_mul_iff_left₀ hk
  unfold roundDiv
  dsimp only
  have hmod : n * k % (d * k) = n % d * k := by
    rw [mul_comm n, mul_comm d, Int.mul_emod_mul_of_pos _ _ hk, mul_comm]
  rw [Int.mul_ediv_mul_of_pos_left _ _ hk, hmod]
  simp only [hlt, hgt]

theorem ctxRound_neg (n : ℤ) : ctxRound (-n) = -ctxRound n := by
  unfold ctxRound
  rw [Int.natAbs_neg]
  split_ifs
  · rfl
  · have hexcess : excessDigits (-n) = excessDigits n := by rw [excessDigits, Int.natAbs_neg, excessDigits]
    rw [hexcess, roundDiv_neg n (by positivity), neg_mul]

/-- The context rounding is monotone. -/
theorem ctxRound_monotone : Monotone ctxRound := by
  intro n m h
  rcases le_total 0 n with hn | hn
  · exact ctxRound_mono hn h
  · rcases le_total 0 m with hm | hm
    · have hneg := ctxRound_nonneg (n := -n) (by omega)
      rw [ctxRound_neg] at hneg
      have hpos := ctxRound_nonneg hm
      omega
    · have := ctxRound_mono (n := -m) (m := -n) (by omega) (by omega)
      rw [ctxRound_neg, ctxRound_neg] at this
      omega

/-- A power of ten is not rounded. -/
theorem ctxRound_pow (k : ℕ) : ctxRound (10 ^ k) = 10 ^ k := by
  apply ctxRound_of_dvd
  apply pow_dvd_pow
  unfold excessDigits
  rw [Int.natAbs_pow]
  have : Nat.log 10 (Int.natAbs 10 ^ k) = k := Nat.log_pow (by norm_num) k
  rw [this]
  unfold precision
  omega

/-- The nearest integer, ties to even. -/
def roundEven (x : ℚ) : ℤ := roundDiv x.num x.den

theorem roundEven_div (n : ℤ) {d : ℤ} (hd : 0 < d) : roundEven (n / d) = roundDiv n d := by
  set x : ℚ := n / d with hx
  have hden : (0 : ℤ) < x.den := by exact_mod_cast x.den_pos
  have hcross : x.num * d = n * x.den := by
    have hd' : (d : ℚ) ≠ 0 := by exact_mod_cast hd.ne'
    have hmul : x * d = n := div_mul_cancel₀ _ hd'
    have hnum : (x.num : ℚ) = x * x.den := (Rat.mul_den_eq_num x).symm
    have : (x.num : ℚ) * d = n * x.den := by
      rw [hnum, ← hmul]
      ring
    exact_mod_cast this
  rw [roundEven, ← roundDiv_mul_mul x.num x.den hd, hcross, mul_comm (x.den : ℤ) d,
    roundDiv_mul_mul n d hden]

@[simp] theorem roundEven_intCast (n : ℤ) : roundEven (n : ℚ) = n := by
  have h := roundEven_div n one_pos
  rw [Int.cast_one, div_one] at h
  rw [h]
  have := roundDiv_mul_self n one_pos
  rwa [mul_one] at this

theorem roundEven_mono {x y : ℚ} (h : x ≤ y) : roundEven x ≤ roundEven y := by
  have hx : (0 : ℤ) < x.den := by exact_mod_cast x.den_pos
  have hy : (0 : ℤ) < y.den := by exact_mod_cast y.den_pos
  have hcross : x.num * y.den ≤ y.num * x.den := (Rat.le_iff x y).mp h
  have hmono := roundDiv_mono (mul_pos hx hy) hcross
  rwa [roundDiv_mul_mul _ _ hy, mul_comm (x.den : ℤ), roundDiv_mul_mul _ _ hx] at hmono

/-- The exponent of the last of 28 significant digits. -/
def quantum (x : ℚ) : ℤ := Int.log 10 |x| - (precision - 1)

/-- A number rounded half-even to 28 significant digits. -/
def round28 (x : ℚ) : ℚ := roundEven (x / 10 ^ quantum x) * 10 ^ quantum x

theorem log_mul_pow {n : ℤ} (hn : n ≠ 0) (e : ℤ) :
    Int.log 10 |(n : ℚ) * 10 ^ e| = (Nat.log 10 n.natAbs : ℤ) + e := by
  have hten : (0 : ℚ) < 10 ^ e := by positivity
  have hpos : (0 : ℚ) < |(n : ℚ) * 10 ^ e| := abs_pos.mpr (mul_ne_zero (by exact_mod_cast hn) hten.ne')
  have habs : |(n : ℚ) * 10 ^ e| = (n.natAbs : ℚ) * 10 ^ e := by
    rw [abs_mul, abs_of_pos hten, Nat.cast_natAbs, Int.cast_abs]
  have hlow : (10 : ℚ) ^ Nat.log 10 n.natAbs ≤ n.natAbs := by
    exact_mod_cast Nat.pow_log_le_self 10 (Int.natAbs_ne_zero.mpr hn)
  have hhigh : (n.natAbs : ℚ) < 10 ^ (Nat.log 10 n.natAbs + 1) := by
    exact_mod_cast Nat.lt_pow_succ_log_self (by norm_num) n.natAbs
  apply le_antisymm
  · rw [← Int.lt_add_one_iff, ← Int.lt_zpow_iff_log_lt (by norm_num) hpos, habs]
    calc (n.natAbs : ℚ) * 10 ^ e < 10 ^ (Nat.log 10 n.natAbs + 1) * 10 ^ e :=
          mul_lt_mul_of_pos_right hhigh hten
      _ = 10 ^ ((Nat.log 10 n.natAbs : ℤ) + e + 1) := by
          rw [← zpow_natCast, ← zpow_add₀ (by norm_num)]
          congr 1
          push_cast
          ring
  · rw [← Int.zpow_le_iff_le_log (by norm_num) hpos, habs]
    calc ((10 : ℕ) : ℚ) ^ ((Nat.log 10 n.natAbs : ℤ) + e) = 10 ^ Nat.log 10 n.natAbs * 10 ^ e := by
          rw [← zpow_natCast, ← zpow_add₀ (by norm_num)]
          rfl
      _ ≤ n.natAbs * 10 ^ e := mul_le_mul_of_nonneg_right hlow hten.le

/-- **Rounding a coefficient**, at whatever exponent it is written. -/
theorem round28_mul_pow (n e : ℤ) : round28 (n * 10 ^ e) = ctxRound n * 10 ^ e := by
  rcases eq_or_ne n 0 with rfl | hn
  · rw [Int.cast_zero, zero_mul, ctxRound_zero, Int.cast_zero, zero_mul, round28, zero_div]
    have : roundEven 0 = 0 := roundEven_intCast 0
    rw [this, Int.cast_zero, zero_mul]
  have hquantum : quantum ((n : ℚ) * 10 ^ e) = e + ((Nat.log 10 n.natAbs : ℤ) - (precision - 1)) := by
    rw [quantum, log_mul_pow hn]
    ring
  set k : ℤ := (Nat.log 10 n.natAbs : ℤ) - (precision - 1) with hk
  have hten : (10 : ℚ) ≠ 0 := by norm_num
  rw [round28, hquantum, zpow_add₀ hten, mul_comm (n : ℚ), mul_div_mul_left _ _ (zpow_ne_zero e hten),
    mul_comm ((10 : ℚ) ^ e), ← mul_assoc]
  congr 1
  by_cases hlt : n.natAbs < 10 ^ precision
  · -- no digit is dropped
    have hlog : Nat.log 10 n.natAbs < precision :=
      Nat.log_lt_of_lt_pow (Int.natAbs_ne_zero.mpr hn) hlt
    obtain ⟨j, hj⟩ : ∃ j : ℕ, k = -(j : ℤ) := ⟨(-k).toNat, by omega⟩
    have hint : (n : ℚ) / 10 ^ k = ((n * 10 ^ j : ℤ) : ℚ) := by
      rw [hj, zpow_neg, div_inv_eq_mul, zpow_natCast]
      push_cast
      rfl
    rw [ctxRound_of_lt hlt, hint, roundEven_intCast, ← hint, div_mul_cancel₀ _ (zpow_ne_zero k hten)]
  · have hlog : precision ≤ Nat.log 10 n.natAbs := by
      rw [not_lt] at hlt
      exact Nat.le_log_of_pow_le (by norm_num) hlt
    have hexcess : k = (excessDigits n : ℤ) := by
      unfold excessDigits
      omega
    rw [ctxRound, if_neg hlt, hexcess, zpow_natCast]
    have hround := roundEven_div n (d := 10 ^ excessDigits n) (by positivity)
    push_cast at hround ⊢
    rw [hround]

theorem round28_nonpos {x : ℚ} (h : x ≤ 0) : round28 x ≤ 0 := by
  have hquantum : (0 : ℚ) < 10 ^ quantum x := by positivity
  have hround : roundEven (x / 10 ^ quantum x) ≤ roundEven ((0 : ℤ) : ℚ) :=
    roundEven_mono (by rw [Int.cast_zero]; exact div_nonpos_of_nonpos_of_nonneg h hquantum.le)
  rw [roundEven_intCast] at hround
  exact mul_nonpos_of_nonpos_of_nonneg (by exact_mod_cast hround) hquantum.le

namespace Decimal

/-! ## Values -/

/-- The number that a `Decimal` stands for. -/
def value (d : Decimal) : ℚ := d.signed / 10 ^ d.scale

theorem value_eq_zpow (d : Decimal) : d.value = d.signed * 10 ^ d.exponent := by
  rw [value, exponent, zpow_neg, zpow_natCast, div_eq_mul_inv]

theorem cross_lt (a b : Decimal) :
    a.signed * 10 ^ b.scale < b.signed * 10 ^ a.scale ↔ a.value < b.value := by
  rw [value, value, div_lt_div_iff₀ (by positivity) (by positivity)]
  exact_mod_cast Iff.rfl

theorem lt_iff (a b : Decimal) : a < b ↔ a.value < b.value := cross_lt a b

theorem le_iff (a b : Decimal) : a ≤ b ↔ a.value ≤ b.value := by
  have h := cross_lt b a
  constructor
  · intro hle
    exact not_lt.mp fun hlt => absurd (h.mpr hlt) (not_lt.mpr hle)
  · intro hle
    exact not_lt.mp fun hlt => absurd (h.mp hlt) (not_lt.mpr hle)

theorem numEq_iff_value (a b : Decimal) : NumEq a b ↔ a.value = b.value := by
  rw [le_antisymm_iff, ← le_iff, ← le_iff]
  exact ⟨fun h => ⟨h.le, h.ge⟩, fun h => le_antisymm h.1 h.2⟩

theorem value_ofExponent (neg : Bool) (coeff : ℕ) (e : ℤ) :
    (ofExponent neg coeff e).value = (if neg then -(coeff : ℚ) else coeff) * 10 ^ e := by
  have hpow : (10 : ℚ) ^ e.toNat / 10 ^ (-e).toNat = 10 ^ e := by
    rw [← zpow_natCast, ← zpow_natCast, ← zpow_sub₀ (by norm_num)]
    congr 1
    omega
  rw [value, ofExponent, ← hpow]
  cases neg with
  | true => simp [signed, mul_div_assoc, neg_div]
  | false => simp [signed, mul_div_assoc]

/-- **The context rounding of a number.** -/
theorem value_fix (neg : Bool) (coeff : ℕ) (e : ℤ) :
    (fix neg coeff e).value = round28 ((if neg then -(coeff : ℚ) else coeff) * 10 ^ e) := by
  have hsign : (if neg then -(coeff : ℚ) else coeff) = ((if neg then -coeff else coeff : ℤ) : ℚ) := by
    cases neg <;> simp
  have hround : ctxRound (if neg then -coeff else coeff : ℤ) =
      if neg then -ctxRound coeff else ctxRound coeff := by
    cases neg with
    | true => exact ctxRound_neg _
    | false => rfl
  rw [hsign, round28_mul_pow, hround]
  unfold fix
  dsimp only
  by_cases hlt : coeff < 10 ^ precision
  · have hexact : ctxRound (coeff : ℤ) = coeff := ctxRound_of_lt (by rwa [Int.natAbs_natCast])
    rw [if_pos hlt, value_ofExponent, hexact]
    cases neg <;> simp
  · have hcoeff : (0 : ℤ) ≤ coeff := Int.natCast_nonneg _
    have hpow : (0 : ℤ) < 10 ^ excessDigits coeff := by positivity
    have hnonneg := roundDiv_nonneg hpow hcoeff
    have hctx : ctxRound (coeff : ℤ) = roundDiv coeff (10 ^ excessDigits coeff) * 10 ^ excessDigits coeff :=
      ctxRound_eq _
    obtain ⟨r, hr⟩ := Int.eq_ofNat_of_zero_le hnonneg
    rw [if_neg hlt, hctx, hr, Int.toNat_natCast]
    have hten : (10 : ℚ) ≠ 0 := by norm_num
    split_ifs with hrounded hneg hneg
    · rw [value_ofExponent, zpow_add₀ hten, zpow_natCast, if_pos hneg]
      push_cast
      ring
    · rw [value_ofExponent, zpow_add₀ hten, zpow_natCast, if_neg hneg]
      push_cast
      ring
    all_goals
      -- the rounding carried to one digit more
      have hr10 : r = 10 ^ precision := by
        refine le_antisymm ?_ (not_lt.mp hrounded)
        have hbelow := lt_pow_excessDigits hcoeff
        have hmono := roundDiv_mono hpow hbelow.le
        rw [pow_add, mul_comm, roundDiv_mul_self _ hpow, hr] at hmono
        exact_mod_cast hmono
      have hdiv : ((r / 10 : ℕ) : ℚ) * 10 = r := by
        rw [hr10]
        norm_num [precision]
    · rw [value_ofExponent, zpow_add₀ hten, zpow_add₀ hten, zpow_natCast, if_pos hneg, zpow_one]
      push_cast at hdiv ⊢
      rw [← hdiv]
      ring
    · rw [value_ofExponent, zpow_add₀ hten, zpow_add₀ hten, zpow_natCast, if_neg hneg, zpow_one]
      push_cast at hdiv ⊢
      rw [← hdiv]
      ring

/-! ## Operations -/

theorem signed_natAbs (d : Decimal) : d.signed.natAbs = d.coeff := by
  unfold signed
  split_ifs <;> simp

@[simp] theorem value_negate (d : Decimal) : d.negate.value = -d.value := by
  obtain ⟨neg, coeff, scale⟩ := d
  cases neg <;> simp [value, negate, signed, neg_div]

theorem value_of_coeff {d : Decimal} (h : d.coeff = 0) : d.value = 0 := by
  have : d.signed = 0 := by
    unfold signed
    simp [h]
  rw [value, this, Int.cast_zero, zero_div]

/-- The number at a smaller exponent. -/
theorem padded_mul_pow {d : Decimal} {e : ℤ} (he : e ≤ d.exponent) :
    (d.padded e : ℚ) * 10 ^ e = d.value := by
  have hten : (10 : ℚ) ≠ 0 := by norm_num
  obtain ⟨k, hk⟩ : ∃ k : ℕ, d.exponent - e = k := ⟨(d.exponent - e).toNat, by omega⟩
  rw [padded, hk, Int.toNat_natCast, value_eq_zpow]
  have hsplit : d.exponent = k + e := by omega
  rw [hsplit, zpow_add₀ hten, zpow_natCast]
  push_cast
  ring

theorem sign_natAbs (n : ℤ) : (if n < 0 then -(n.natAbs : ℚ) else n.natAbs) = n := by
  have habs : (n.natAbs : ℚ) = |(n : ℚ)| := by rw [Nat.cast_natAbs, Int.cast_abs]
  rw [habs]
  split_ifs with h
  · rw [abs_of_neg (by exact_mod_cast h), neg_neg]
  · exact abs_of_nonneg (by exact_mod_cast not_lt.mp h)

/-- A number that is padded and rounded. -/
theorem value_fix_padded {d : Decimal} {e : ℤ} (he : e ≤ d.exponent) :
    (fix d.neg (d.padded e).natAbs e).value = round28 d.value := by
  rw [value_fix]
  congr 1
  have hpow : (0 : ℤ) ≤ 10 ^ (d.exponent - e).toNat := by positivity
  have habs : ((d.padded e).natAbs : ℚ) = d.coeff * 10 ^ (d.exponent - e).toNat := by
    rw [padded, Int.natAbs_mul, signed_natAbs, Int.natAbs_pow]
    push_cast
    rfl
  rw [← padded_mul_pow he, habs, padded, signed]
  split_ifs <;> push_cast <;> ring

/-- **A sum is rounded.** -/
theorem value_add (a b : Decimal) : (a + b).value = round28 (a.value + b.value) := by
  show (add a b).value = _
  unfold add
  dsimp only
  split_ifs with h0 ha hb
  · rw [value_fix, value_of_coeff h0.1, value_of_coeff h0.2]
    simp
  · rw [value_fix_padded (by omega), value_of_coeff ha, zero_add]
  · rw [value_fix_padded (by omega), value_of_coeff hb, add_zero]
  · rw [value_fix]
    congr 1
    have hsum := sign_natAbs (a.padded (min a.exponent b.exponent) + b.padded (min a.exponent b.exponent))
    simp only [decide_eq_true_eq]
    rw [hsum]
    push_cast
    rw [add_mul, padded_mul_pow (min_le_left _ _), padded_mul_pow (min_le_right _ _)]

/-- The nearest number of units of a place. -/
theorem rescale_eq (d : Decimal) (scale : ℕ) : d.rescale scale = roundEven (d.value * 10 ^ scale) := by
  unfold rescale
  split_ifs with hle
  · have hvalue : d.value * 10 ^ scale = ((d.signed * 10 ^ (scale - d.scale) : ℤ) : ℚ) := by
      rw [value, div_mul_eq_mul_div, div_eq_iff (by positivity)]
      push_cast
      rw [mul_assoc, ← pow_add, Nat.sub_add_cancel hle]
    rw [hvalue, roundEven_intCast]
  · have hvalue : d.value * 10 ^ scale = (d.signed : ℚ) / ((10 ^ (d.scale - scale) : ℤ) : ℚ) := by
      rw [value, div_mul_eq_mul_div, div_eq_div_iff (by positivity) (by positivity)]
      push_cast
      rw [mul_assoc, ← pow_add, Nat.add_sub_cancel' (not_le.mp hle).le]
    rw [hvalue, roundEven_div _ (by positivity)]

/-- **A difference is rounded.** -/
theorem value_sub (a b : Decimal) : (a - b).value = round28 (a.value - b.value) := by
  have h := value_add a b.negate
  rw [value_negate, ← sub_eq_add_neg] at h
  exact h

/-- **A product is rounded.** -/
theorem value_mul (a b : Decimal) : (a * b).value = round28 (a.value * b.value) := by
  show (mul a b).value = _
  rw [mul, value_fix]
  congr 1
  have hten : (10 : ℚ) ≠ 0 := by norm_num
  rw [value_eq_zpow, value_eq_zpow, zpow_add₀ hten, signed, signed]
  push_cast
  cases a.neg <;> cases b.neg <;> simp <;> ring

end Decimal

end WeatherBot.Common
