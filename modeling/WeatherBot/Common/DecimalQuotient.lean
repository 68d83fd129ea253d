import Mathlib.Algebra.Order.Floor.Semifield
import WeatherBot.Common.DecimalValue

/-!
# Quotients of decimal numbers

`/` computes one digit more than the context has and makes the last digit a sticky
one, so that the rounding that follows sees on which side of a tie the quotient is.

* `roundDiv_sticky`: the sticky digit does not change the rounding.
* `Decimal.value_truediv`: **a quotient is rounded.**
* `round28_mono`: rounding keeps the order of numbers.
-/

namespace WeatherBot.Common

/-- The last digit of a quotient that is not exact. -/
def sticky (quotient : ℕ) : ℕ := if quotient % 5 = 0 then quotient + 1 else quotient

theorem sticky_mod_five (q : ℕ) : sticky q % 5 ≠ 0 := by
  unfold sticky
  split_ifs with h
  · omega
  · exact h

theorem sticky_bounds (q : ℕ) : q ≤ sticky q ∧ sticky q ≤ q + 1 := by
  unfold sticky
  split_ifs
  · omega
  · omega

theorem five_dvd_pow {k : ℕ} (hk : 0 < k) : 5 ∣ 10 ^ k := by
  obtain ⟨j, rfl⟩ := Nat.exists_eq_succ_of_ne_zero hk.ne'
  exact ⟨2 * 10 ^ j, by rw [pow_succ]; ring⟩

/-- A quotient with a sticky digit has as many digits. -/
theorem log_sticky {q : ℕ} (hq : 10 ≤ q) : Nat.log 10 (sticky q) = Nat.log 10 q := by
  obtain ⟨hle, hsucc⟩ := sticky_bounds q
  have hlow : 10 ^ Nat.log 10 q ≤ q := Nat.pow_log_le_self 10 (by omega)
  have hhigh : q < 10 ^ (Nat.log 10 q + 1) := Nat.lt_pow_succ_log_self (by norm_num) q
  have hne : sticky q ≠ 10 ^ (Nat.log 10 q + 1) := by
    intro heq
    have := five_dvd_pow (Nat.succ_pos (Nat.log 10 q))
    rw [← heq] at this
    exact sticky_mod_five q (Nat.mod_eq_zero_of_dvd this)
  exact (Nat.log_eq_iff (.inr ⟨by norm_num, by omega⟩)).mpr ⟨hlow.trans hle, by omega⟩

/-- **The sticky digit does not change the rounding.** -/
theorem roundDiv_sticky {n d k : ℕ} (hd : 0 < d) (hk : 0 < k) (hrem : n % d ≠ 0) :
    roundDiv (sticky (n / d)) (10 ^ k) = roundDiv n (d * 10 ^ k) := by
  obtain ⟨j, rfl⟩ := Nat.exists_eq_succ_of_ne_zero hk.ne'
  -- half of the divisor is a multiple of five, and the sticky quotient is not
  set h := 5 * 10 ^ j with hh
  have hpow : 10 ^ (j + 1) = 2 * h := by
    rw [hh, pow_succ]
    ring
  have hpos : 0 < h := by positivity
  set q := n / d with hq
  set r := n % d with hr
  have hn : n = d * q + r := (Nat.div_add_mod n d).symm
  have hrd : r < d := Nat.mod_lt n hd
  have hfive := sticky_mod_five q
  obtain ⟨hle, hsucc⟩ := sticky_bounds q
  have hsplit : q = 2 * h * (q / (2 * h)) + q % (2 * h) := (Nat.div_add_mod q (2 * h)).symm
  have hmod : q % (2 * h) < 2 * h := Nat.mod_lt q (by omega)
  set a := q / (2 * h) with ha
  set b := q % (2 * h) with hb
  have hbfive : (sticky q - 2 * h * a) % 5 ≠ 0 := by
    intro hzero
    apply hfive
    have : sticky q = (sticky q - 2 * h * a) + 5 * (2 * 10 ^ j * a) := by
      have : 2 * h * a = 5 * (2 * 10 ^ j * a) := by rw [hh]; ring
      omega
    rw [this, Nat.add_mul_mod_self_left, hzero]
  have hstick : ∃ c, sticky q = 2 * h * a + c ∧ b ≤ c ∧ c ≤ b + 1 ∧ c ≠ h ∧ c ≠ 2 * h := by
    refine ⟨sticky q - 2 * h * a, by omega, by omega, by omega, ?_, ?_⟩
    · intro heq
      rw [heq, hh] at hbfive
      exact hbfive (Nat.mul_mod_right 5 _)
    · intro heq
      rw [heq, hh] at hbfive
      exact hbfive (by rw [show 2 * (5 * 10 ^ j) = 5 * (2 * 10 ^ j) by ring]; exact Nat.mul_mod_right 5 _)
  obtain ⟨c, hc, hbc, hcb, hch, hc2⟩ := hstick
  have hquotient : (n : ℤ) / (d * (2 * h : ℕ) : ℕ) = a ∧ (n : ℤ) % (d * (2 * h : ℕ) : ℕ) = d * b + r := by
    have hnat : n / (d * (2 * h)) = a ∧ n % (d * (2 * h)) = d * b + r := by
      constructor
      · rw [← Nat.div_div_eq_div_mul]
      · rw [Nat.mod_mul, ← hr, ← hq]
        ring
    exact ⟨by exact_mod_cast hnat.1, by exact_mod_cast hnat.2⟩
  have hstickyq : (sticky q : ℤ) / (2 * h : ℕ) = a ∧ (sticky q : ℤ) % (2 * h : ℕ) = c := by
    have hnat : sticky q / (2 * h) = a ∧ sticky q % (2 * h) = c := by
      rw [hc]
      constructor
      · rw [Nat.mul_add_div (by omega), Nat.div_eq_of_lt (by omega), add_zero]
      · rw [Nat.mul_add_mod, Nat.mod_eq_of_lt (by omega)]
    exact ⟨by exact_mod_cast hnat.1, by exact_mod_cast hnat.2⟩
  have hcast : ((10 : ℤ) ^ (j + 1)) = ((2 * h : ℕ) : ℤ) := by exact_mod_cast hpow
  have hcast' : ((d : ℤ) * 10 ^ (j + 1)) = ((d * (2 * h) : ℕ) : ℤ) := by
    rw [hcast]
    push_cast
    rfl
  unfold roundDiv
  dsimp only
  rw [hcast', hcast, hquotient.1, hquotient.2, hstickyq.1, hstickyq.2]
  push_cast
  -- neither side is a tie, and both are on the same side of it
  rcases lt_or_ge b h with hbh | hbh
  · have hleft : 2 * (c : ℤ) < 2 * h := by omega
    have hright : 2 * ((d : ℤ) * b + r) < d * (2 * h) := by
      have : d * (b + 1) ≤ d * h := Nat.mul_le_mul_left d hbh
      zify at this hrd
      nlinarith
    rw [if_pos hleft, if_pos hright]
  · have hleft : 2 * (h : ℤ) < 2 * c := by omega
    have hright : (d : ℤ) * (2 * h) < 2 * (d * b + r) := by
      have : d * h ≤ d * b := Nat.mul_le_mul_left d hbh
      have hrpos : 0 < r := Nat.pos_of_ne_zero hrem
      zify at this hrpos
      nlinarith
    rw [if_neg hleft.not_gt, if_pos hleft, if_neg hright.not_gt, if_pos hright]

theorem roundEven_neg (x : ℚ) : roundEven (-x) = -roundEven x := by
  have hden : (0 : ℤ) < x.den := by exact_mod_cast x.den_pos
  rw [roundEven, roundEven, Rat.neg_num, Rat.neg_den, roundDiv_neg _ hden]

theorem round28_neg (x : ℚ) : round28 (-x) = -round28 x := by
  rw [round28, round28, quantum, quantum, abs_neg, neg_div, roundEven_neg]
  push_cast
  ring

/-- A positive number is rounded between the powers of ten around it. -/
theorem round28_bounds {x : ℚ} (hx : 0 < x) :
    10 ^ Int.log 10 x ≤ round28 x ∧ round28 x ≤ 10 ^ (Int.log 10 x + 1) := by
  have hten : (10 : ℚ) ≠ 0 := by norm_num
  have hq : (0 : ℚ) < 10 ^ quantum x := by positivity
  have hlow : ((10 : ℕ) : ℚ) ^ Int.log 10 x ≤ x := Int.zpow_log_le_self (by norm_num) hx
  have hhigh : x < ((10 : ℕ) : ℚ) ^ (Int.log 10 x + 1) := Int.lt_zpow_succ_log_self (by norm_num) x
  push_cast at hlow hhigh
  have hlog : Int.log 10 x = ((precision - 1 : ℕ) : ℤ) + quantum x := by
    rw [quantum, abs_of_pos hx]
    norm_num [precision]
  have hlog' : Int.log 10 x + 1 = (precision : ℤ) + quantum x := by
    rw [quantum, abs_of_pos hx]
    ring
  rw [hlog, zpow_add₀ hten, zpow_natCast] at hlow
  rw [hlog', zpow_add₀ hten, zpow_natCast] at hhigh
  rw [hlog', hlog, zpow_add₀ hten, zpow_add₀ hten, zpow_natCast, zpow_natCast, round28]
  constructor
  · refine mul_le_mul_of_nonneg_right ?_ hq.le
    have := roundEven_mono ((le_div_iff₀ hq).mpr hlow)
    have hint := roundEven_intCast (10 ^ (precision - 1))
    push_cast at hint
    rw [hint] at this
    exact_mod_cast this
  · refine mul_le_mul_of_nonneg_right ?_ hq.le
    have := roundEven_mono ((div_le_iff₀ hq).mpr hhigh.le)
    have hint := roundEven_intCast (10 ^ precision)
    push_cast at hint
    rw [hint] at this
    exact_mod_cast this

theorem round28_mono_pos {x y : ℚ} (hx : 0 < x) (h : x ≤ y) : round28 x ≤ round28 y := by
  have hy : 0 < y := hx.trans_le h
  rcases (Int.log_mono_right (b := 10) hx h).eq_or_lt with heq | hlt
  · -- the same digits are dropped
    have hquantum : quantum x = quantum y := by
      rw [quantum, quantum, abs_of_pos hx, abs_of_pos hy, heq]
    have hq : (0 : ℚ) < 10 ^ quantum y := by positivity
    rw [round28, round28, hquantum]
    refine mul_le_mul_of_nonneg_right ?_ hq.le
    exact_mod_cast roundEven_mono (div_le_div_of_nonneg_right h hq.le)
  · -- a power of ten is between them
    calc round28 x ≤ 10 ^ (Int.log 10 x + 1) := (round28_bounds hx).2
      _ ≤ 10 ^ Int.log 10 y := zpow_le_zpow_right₀ (by norm_num) hlt
      _ ≤ round28 y := (round28_bounds hy).1

/-- **Rounding keeps the order of numbers.** -/
theorem round28_mono {x y : ℚ} (h : x ≤ y) : round28 x ≤ round28 y := by
  have hpos : ∀ {z : ℚ}, 0 < z → 0 ≤ round28 z := fun hz =>
    (by positivity : (0 : ℚ) ≤ 10 ^ Int.log 10 _).trans (round28_bounds hz).1
  rcases lt_or_ge 0 x with hx | hx
  · exact round28_mono_pos hx h
  · rcases lt_or_ge 0 y with hy | hy
    · exact (round28_nonpos hx).trans (hpos hy)
    · rcases hy.eq_or_lt with rfl | hy
      · exact (round28_nonpos hx).trans_eq (by rw [round28, zero_div]; simp [roundEven, roundDiv])
      · have := round28_mono_pos (neg_pos.mpr hy) (neg_le_neg h)
        rw [round28_neg, round28_neg] at this
        exact neg_le_neg_iff.mp this

theorem log_mul_zpow {x : ℚ} (hx : 0 < x) (e : ℤ) : Int.log 10 (x * 10 ^ e) = Int.log 10 x + e := by
  have hten : (10 : ℚ) ≠ 0 := by norm_num
  have hpow : (0 : ℚ) < 10 ^ e := by positivity
  have hpos : 0 < x * 10 ^ e := mul_pos hx hpow
  have hlow : ((10 : ℕ) : ℚ) ^ Int.log 10 x ≤ x := Int.zpow_log_le_self (by norm_num) hx
  have hhigh : x < ((10 : ℕ) : ℚ) ^ (Int.log 10 x + 1) := Int.lt_zpow_succ_log_self (by norm_num) x
  push_cast at hlow hhigh
  apply le_antisymm
  · rw [← Int.lt_add_one_iff, ← Int.lt_zpow_iff_log_lt (by norm_num) hpos]
    push_cast
    rw [add_right_comm, zpow_add₀ hten]
    exact mul_lt_mul_of_pos_right hhigh hpow
  · rw [← Int.zpow_le_iff_le_log (by norm_num) hpos]
    push_cast
    rw [zpow_add₀ hten]
    exact mul_le_mul_of_nonneg_right hlow hpow.le

/-- **A quotient that is not exact is rounded as its sticky quotient.** -/
theorem round28_sticky {n d : ℕ} (hd : 0 < d) (hdigits : d * 10 ^ precision ≤ n) (hrem : n % d ≠ 0) (e : ℤ) :
    round28 ((sticky (n / d) : ℚ) * 10 ^ e) = round28 ((n / d : ℚ) * 10 ^ e) := by
  have hq : 10 ^ precision ≤ n / d := (Nat.le_div_iff_mul_le hd).mpr (by rwa [mul_comm])
  set q := n / d with hqdef
  have hlarge : 10 ≤ q := le_trans (by norm_num [precision]) hq
  have hlog : precision ≤ Nat.log 10 q := Nat.le_log_of_pow_le (by norm_num) hq
  have hten : (10 : ℚ) ≠ 0 := by norm_num
  have hdq : (0 : ℚ) < d := by exact_mod_cast hd
  set k := Nat.log 10 q + 1 - precision with hk
  have hkpos : 0 < k := by omega
  -- the digits that are dropped
  have hexcess : excessDigits (sticky q : ℤ) = k := by
    rw [excessDigits, Int.natAbs_natCast, log_sticky hlarge]
  have hfloor : Int.log 10 (n / d : ℚ) = Nat.log 10 q := by
    have hone : (1 : ℚ) ≤ n / d := by
      rw [le_div_iff₀ hdq, one_mul]
      exact_mod_cast (Nat.le_mul_of_pos_right d (by positivity)).trans hdigits
    rw [Int.log_of_one_le_right 10 hone, Nat.floor_div_eq_div]
  have hquantum : quantum ((n / d : ℚ) * 10 ^ e) = k + e := by
    have hpos : (0 : ℚ) < n / d := by
      apply div_pos _ hdq
      exact_mod_cast lt_of_lt_of_le (by positivity) hdigits
    rw [quantum, abs_of_pos (by positivity), log_mul_zpow hpos, hfloor]
    omega
  have hsticky := round28_mul_pow (sticky q : ℤ) e
  rw [Int.cast_natCast] at hsticky
  have hexact := roundEven_div n (d := ((d * 10 ^ k : ℕ) : ℤ)) (by positivity)
  have hscaled : (n / d : ℚ) * 10 ^ e / 10 ^ ((k : ℤ) + e) = ((n : ℤ) : ℚ) / (((d * 10 ^ k : ℕ) : ℤ) : ℚ) := by
    rw [zpow_add₀ hten, zpow_natCast]
    push_cast
    field_simp
  rw [hsticky, ctxRound_eq, hexcess, roundDiv_sticky hd hkpos hrem, round28, hquantum, hscaled, hexact,
    zpow_add₀ hten, zpow_natCast]
  push_cast
  ring

namespace Decimal

theorem dropZeros_value (n : ℕ) (coeff : ℕ) (e : ℤ) :
    ((dropZeros n coeff e).1 : ℚ) * 10 ^ (dropZeros n coeff e).2 = coeff * 10 ^ e := by
  induction n generalizing coeff e with
  | zero => rfl
  | succ n ih =>
    rw [dropZeros]
    split_ifs with h
    · have hcoeff : coeff = coeff / 10 * 10 := (Nat.div_mul_cancel (Nat.dvd_of_mod_eq_zero h)).symm
      rw [ih, zpow_add₀ (by norm_num), zpow_one]
      have hcast : (coeff : ℚ) = (coeff / 10 : ℕ) * 10 := by exact_mod_cast hcoeff
      rw [hcast]
      ring
    · rfl

/-- **A quotient is rounded.** -/
theorem value_truediv (a b : Decimal) (hb : b.coeff ≠ 0) :
    (a.truediv b).value = round28 (a.value / b.value) := by
  have hten : (10 : ℚ) ≠ 0 := by norm_num
  -- the sign is taken apart
  have hsign : a.value / b.value = (if (a.neg != b.neg) = true then (-1 : ℚ) else 1) *
      ((a.coeff / b.coeff : ℚ) * 10 ^ (a.exponent - b.exponent)) := by
    rw [value_eq_zpow, value_eq_zpow, signed, signed, zpow_sub₀ hten]
    push_cast
    cases a.neg <;> cases b.neg <;> simp <;> field_simp
  have hfix : ∀ (coeff : ℕ) (e : ℤ) (x : ℚ), round28 (coeff * 10 ^ e) = round28 x →
      (fix (a.neg != b.neg) coeff e).value =
        round28 ((if (a.neg != b.neg) = true then (-1 : ℚ) else 1) * x) := by
    intro coeff e x hx
    rw [value_fix]
    split_ifs
    · rw [neg_mul, round28_neg, neg_one_mul, round28_neg, hx]
    · rw [one_mul, hx]
  rw [hsign]
  generalize (if (a.neg != b.neg) = true then (-1 : ℚ) else 1) = sign at hfix
  unfold truediv
  dsimp only
  by_cases ha : a.coeff = 0
  · rw [if_pos ha]
    refine hfix 0 _ _ ?_
    rw [ha, Nat.cast_zero, zero_div, zero_mul]
  rw [if_neg ha]
  set shift : ℤ := (numDigits b.coeff : ℤ) - numDigits a.coeff + precision + 1 with hshift
  have hdpos : 0 < b.coeff * 10 ^ (-shift).toNat := Nat.mul_pos (Nat.pos_of_ne_zero hb) (by positivity)
  -- the exact quotient
  have hquotient : (a.coeff / b.coeff : ℚ) * 10 ^ (a.exponent - b.exponent) =
      (((a.coeff * 10 ^ shift.toNat : ℕ) : ℚ) / ((b.coeff * 10 ^ (-shift).toNat : ℕ) : ℚ)) *
        10 ^ (a.exponent - b.exponent - shift) := by
    have hpow : (10 : ℚ) ^ shift = 10 ^ shift.toNat / 10 ^ (-shift).toNat := by
      rw [← zpow_natCast, ← zpow_natCast, ← zpow_sub₀ hten]
      congr 1
      omega
    have hbq : (b.coeff : ℚ) ≠ 0 := by exact_mod_cast hb
    rw [zpow_sub₀ hten _ shift, hpow]
    push_cast
    field_simp
  rw [hquotient]
  by_cases hrem : a.coeff * 10 ^ shift.toNat % (b.coeff * 10 ^ (-shift).toNat) ≠ 0
  · rw [if_pos hrem]
    -- the quotient has one digit more than the context
    have hdigits : ∀ c : ℕ, c ≠ 0 → 10 ^ (numDigits c - 1) ≤ c ∧ c < 10 ^ numDigits c := by
      intro c hc
      rw [numDigits, Int.natAbs_natCast]
      exact ⟨Nat.pow_log_le_self 10 hc, Nat.lt_pow_succ_log_self (by norm_num) c⟩
    obtain ⟨hlow, -⟩ := hdigits a.coeff ha
    obtain ⟨-, hhigh⟩ := hdigits b.coeff hb
    have hpos : 0 < numDigits a.coeff := Nat.succ_pos _
    have hlarge : b.coeff * 10 ^ (-shift).toNat * 10 ^ precision ≤ a.coeff * 10 ^ shift.toNat :=
      calc b.coeff * 10 ^ (-shift).toNat * 10 ^ precision
          ≤ 10 ^ numDigits b.coeff * 10 ^ (-shift).toNat * 10 ^ precision :=
            Nat.mul_le_mul_right _ (Nat.mul_le_mul_right _ hhigh.le)
        _ = 10 ^ (numDigits a.coeff - 1) * 10 ^ shift.toNat := by
            rw [← pow_add, ← pow_add, ← pow_add]
            congr 1
            omega
        _ ≤ a.coeff * 10 ^ shift.toNat := Nat.mul_le_mul_right _ hlow
    exact hfix (sticky _) _ _ (round28_sticky hdpos hlarge hrem _)
  · rw [if_neg hrem]
    refine hfix _ _ _ ?_
    rw [not_not] at hrem
    have hdq : ((b.coeff * 10 ^ (-shift).toNat : ℕ) : ℚ) ≠ 0 := by exact_mod_cast hdpos.ne'
    rw [dropZeros_value, Nat.cast_div (Nat.dvd_of_mod_eq_zero hrem) hdq]

end Decimal

end WeatherBot.Common
