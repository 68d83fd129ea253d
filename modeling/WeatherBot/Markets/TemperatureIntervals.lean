import WeatherBot.Markets.Temperature

/-!
# Classification of a point forecast

A forecast is rounded to a whole degree, ties away from zero, and the bucket of
that degree is taken. The probability of a bucket is that of its continuous
interval, from half a degree below its lower bound. Both agree except on ties below
zero, and where half a degree is lost in 28 digits.

* `quantizeHalfUp_spec`: on which side of a bound the rounded forecast is.
* `classified_iff`: **a forecast is put in the bucket whose interval contains it
  iff no lower bound misplaces it.**
-/

namespace WeatherBot.Markets

open WeatherBot.Common
open WeatherBot.Domain

/-! ## Whole degrees -/

/-- The least number that rounds to more than 28 digits. -/
def forecastLimit : ℚ := 10 ^ precision - 1 / 2

theorem value_of_scale_zero {d : Decimal} (h : d.scale = 0) : d.value = d.signed := by
  rw [Decimal.value, h, pow_zero, div_one]

theorem isIntegral_of_scale_zero {d : Decimal} (h : d.scale = 0) : IsIntegral d := by
  have hround : toIntegralValue d = d := by
    obtain ⟨neg, coeff, scale⟩ := d
    cases h
    have := roundDiv_mul_self (coeff : ℤ) Int.one_pos
    rw [mul_one] at this
    simp [toIntegralValue, this]
  rw [IsIntegral, hround]
  rfl

/-- A whole-degree value is an integer. -/
theorem exists_int_of_isIntegral {d : Decimal} (h : IsIntegral d) : ∃ n : ℤ, d.value = n :=
  ⟨_, ((Decimal.numEq_iff_value _ _).mp h).trans (value_of_scale_zero rfl)⟩

theorem isIntegral_of_value {d : Decimal} {n : ℤ} (h : d.value = n) : IsIntegral d := by
  obtain ⟨neg, coeff, scale⟩ := d
  -- the coefficient is a multiple of the power of ten
  have hpow : (10 : ℚ) ^ scale ≠ 0 := by positivity
  have hsigned : (⟨neg, coeff, scale⟩ : Decimal).signed = n * 10 ^ scale := by
    rw [Decimal.value, div_eq_iff hpow] at h
    exact_mod_cast h
  have hcoeff : coeff = n.natAbs * 10 ^ scale := by
    have := congrArg Int.natAbs hsigned
    rwa [Decimal.signed_natAbs, Int.natAbs_mul, Int.natAbs_pow] at this
  have hround : roundDiv (coeff : ℤ) (10 ^ scale) = n.natAbs := by
    rw [hcoeff]
    push_cast
    exact roundDiv_mul_self _ (by positivity)
  rw [IsIntegral, Decimal.numEq_iff_value, h, toIntegralValue]
  dsimp only
  rw [hround, Int.natAbs_natCast, value_of_scale_zero rfl]
  unfold Decimal.signed at hsigned ⊢
  dsimp only at hsigned ⊢
  cases neg with
  | true =>
    rw [if_pos rfl] at hsigned ⊢
    have hn : n ≤ 0 := by
      by_contra hpos
      have : 0 < n * 10 ^ scale := mul_pos (by omega) (by positivity)
      omega
    exact_mod_cast (by omega : n = -(n.natAbs : ℤ))
  | false =>
    rw [if_neg Bool.false_ne_true] at hsigned ⊢
    have hn : 0 ≤ n := by
      by_contra hneg
      have : n * 10 ^ scale < 0 := mul_neg_of_neg_of_pos (by omega) (by positivity)
      omega
    exact_mod_cast (by omega : n = (n.natAbs : ℤ))

theorem abs_value (d : Decimal) : |d.value| = d.coeff / 10 ^ d.scale := by
  have habs : |(d.signed : ℚ)| = d.coeff := by
    rw [← Int.cast_abs, ← Int.natCast_natAbs, Decimal.signed_natAbs]
    rfl
  rw [Decimal.value, abs_div, habs, abs_of_pos (show (0 : ℚ) < 10 ^ d.scale by positivity)]

/-- What the rounded coefficient is below. -/
theorem halfUp_lt_iff (coeff scale : ℕ) (k : ℕ) :
    (2 * coeff + 10 ^ scale) / (2 * 10 ^ scale) < k ↔ (coeff / 10 ^ scale : ℚ) < k - 1 / 2 := by
  have hpow : (0 : ℚ) < 10 ^ scale := by positivity
  rw [Nat.div_lt_iff_lt_mul (by positivity), div_lt_iff₀ hpow, ← Nat.cast_lt (α := ℚ)]
  push_cast
  constructor
  · intro h
    linarith
  · intro h
    linarith

/-- **A forecast is rounded unless it has too many digits.** -/
theorem quantizeHalfUp_isSome (v : Decimal) :
    (quantizeHalfUp v).isSome = true ↔ |v.value| < forecastLimit := by
  have h := halfUp_lt_iff v.coeff v.scale (10 ^ precision)
  rw [abs_value, forecastLimit]
  push_cast at h
  rw [← h]
  unfold quantizeHalfUp
  dsimp only
  split_ifs with hlt
  · exact iff_of_true rfl hlt
  · exact iff_of_false (by simp) hlt

/-- **The rounded forecast**: below a bound iff the forecast is more than half a degree below, or
exactly that and negative. -/
theorem quantizeHalfUp_spec {v r : Decimal} (h : quantizeHalfUp v = some r) :
    r.scale = 0 ∧ ∃ n : ℤ, r.value = n ∧ |n| < 10 ^ precision ∧
      ∀ l : ℤ, n < l ↔ v.value < l - 1 / 2 ∨ v.value = l - 1 / 2 ∧ v.value < 0 := by
  unfold quantizeHalfUp at h
  dsimp only at h
  set m := (2 * v.coeff + 10 ^ v.scale) / (2 * 10 ^ v.scale) with hm
  split_ifs at h with hlt
  cases h
  have hbelow : ∀ k : ℕ, m < k ↔ |v.value| < k - 1 / 2 := fun k => by
    rw [abs_value]
    exact halfUp_lt_iff v.coeff v.scale k
  clear_value m
  refine ⟨rfl, (⟨v.neg, m, 0⟩ : Decimal).signed, value_of_scale_zero rfl, ?_, ?_⟩
  · rw [← Int.natCast_natAbs, Decimal.signed_natAbs]
    exact_mod_cast hlt
  have hcoeff : (0 : ℚ) ≤ v.coeff / 10 ^ v.scale := by positivity
  intro l
  cases hneg : v.neg with
  | false =>
    have hvalue : v.value = |v.value| := by
      rw [abs_value, Decimal.value, Decimal.signed, hneg]
      simp
    have hnonneg : 0 ≤ v.value := by
      rw [hvalue]
      exact abs_nonneg _
    rw [show (⟨false, m, 0⟩ : Decimal).signed = m from rfl]
    constructor
    · intro hml
      obtain ⟨k, rfl⟩ := Int.eq_ofNat_of_zero_le (by omega : 0 ≤ l)
      have := (hbelow k).mp (by exact_mod_cast hml)
      exact .inl (by rw [hvalue]; exact_mod_cast this)
    · rintro (hlt | ⟨-, hlt⟩)
      · have hl : (0 : ℚ) < l := by linarith
        obtain ⟨k, rfl⟩ := Int.eq_ofNat_of_zero_le (by exact_mod_cast hl.le : 0 ≤ l)
        rw [hvalue] at hlt
        exact_mod_cast (hbelow k).mpr (by exact_mod_cast hlt)
      · exact absurd hlt hnonneg.not_gt
  | true =>
    have hvalue : v.value = -|v.value| := by
      rw [abs_value, Decimal.value, Decimal.signed, hneg]
      simp [neg_div]
    rw [show (⟨true, m, 0⟩ : Decimal).signed = -m from rfl]
    have hzero : |v.value| = -v.value := by linarith
    constructor
    · intro hml
      rcases le_or_gt l 0 with hl | hl
      · obtain ⟨k, hk⟩ := Int.eq_ofNat_of_zero_le (by omega : 0 ≤ -l)
        have hge : ¬ m < k + 1 := by omega
        rw [hbelow, hzero] at hge
        have hcast : (l : ℚ) = -k := by
          have : l = -(k : ℤ) := by omega
          rw [this]
          push_cast
          rfl
        push_cast at hge
        have hle : v.value ≤ l - 1 / 2 := by
          rw [hcast]
          linarith
        rcases hle.lt_or_eq with hlt | heq
        · exact .inl hlt
        · refine .inr ⟨heq, ?_⟩
          have : (l : ℚ) ≤ 0 := by exact_mod_cast hl
          linarith
      · have hl' : (1 : ℚ) ≤ l := by exact_mod_cast hl
        have := abs_nonneg v.value
        exact .inl (by linarith)
    · intro hle
      by_contra hge
      have hl : l ≤ -(m : ℤ) := by omega
      obtain ⟨k, hk⟩ := Int.eq_ofNat_of_zero_le (by omega : 0 ≤ -l)
      have hmk : m < k + 1 := by omega
      rw [hbelow, hzero] at hmk
      have hcast : (l : ℚ) = -k := by
        have : l = -(k : ℤ) := by omega
        rw [this]
        push_cast
        rfl
      push_cast at hmk
      rw [hcast] at hle
      rcases hle with hlt | ⟨heq, -⟩ <;> linarith

/-! ## Limits of the intervals -/

/-- `l - 0.5` and `u + 0.5` in the default context. -/
def lowerEdge (l : ℤ) : ℚ := ctxRound (10 * l - 5) / 10

def upperEdge (u : ℤ) : ℚ := ctxRound (10 * u + 5) / 10

theorem round28_tenths (n : ℤ) : round28 (n / 10) = ctxRound n / 10 := by
  have h := round28_mul_pow n (-1)
  rw [zpow_neg_one, ← div_eq_mul_inv, ← div_eq_mul_inv] at h
  exact h

theorem value_half : TemperatureBucket.half.value = 1 / 2 := by
  norm_num [TemperatureBucket.half, Decimal.value, Decimal.signed]

theorem value_sub_half {d : Decimal} {l : ℤ} (h : d.value = l) :
    (d - TemperatureBucket.half).value = lowerEdge l := by
  rw [Decimal.value_sub, h, value_half, lowerEdge, ← round28_tenths]
  congr 1
  push_cast
  ring

theorem value_add_half {d : Decimal} {u : ℤ} (h : d.value = u) :
    (d + TemperatureBucket.half).value = upperEdge u := by
  rw [Decimal.value_add, h, value_half, upperEdge, ← round28_tenths]
  congr 1
  push_cast
  ring

theorem value_add_one {d : Decimal} {u : ℤ} (h : d.value = u) : (d + 1).value = ctxRound (u + 1) := by
  have hone : (1 : Decimal).value = 1 := by
    show Decimal.one.value = 1
    norm_num [Decimal.one, Decimal.value, Decimal.signed]
  have hround := round28_mul_pow (u + 1) 0
  rw [zpow_zero, mul_one, mul_one] at hround
  rw [Decimal.value_add, h, hone, ← hround]
  push_cast
  rfl

/-- Half a degree below a whole one is rounded to the even neighbour where it takes 29 digits. -/
theorem ctxRound_tie {l : ℤ} (hlow : 10 ^ precision ≤ (10 * l - 5).natAbs)
    (hhigh : (10 * l - 5).natAbs < 10 ^ (precision + 1)) :
    ctxRound (10 * l - 5) = 10 * (if l % 2 = 0 then l else l - 1) := by
  have hlog : Nat.log 10 (10 * l - 5).natAbs = precision :=
    Nat.log_eq_of_pow_le_of_lt_pow hlow hhigh
  have hexcess : excessDigits (10 * l - 5) = 1 := by
    unfold excessDigits
    rw [hlog]
    omega
  rw [ctxRound_eq, hexcess, pow_one, mul_comm]
  congr 1
  unfold roundDiv
  dsimp only
  split_ifs <;> omega

/-- Half a degree below a whole one of more digits is beyond every forecast. -/
theorem lowerEdge_far {l : ℤ} (h : 10 ^ (precision + 1) ≤ (10 * l - 5).natAbs) :
    (10 : ℤ) ^ precision < l ∧ (10 ^ precision : ℚ) ≤ lowerEdge l ∨
      l ≤ -10 ^ precision ∧ lowerEdge l ≤ -10 ^ precision := by
  have hpow : (10 : ℤ) ^ (precision + 1) = 10 * 10 ^ precision := by rw [pow_succ, mul_comm]
  have hround := ctxRound_pow (precision + 1)
  have h : (10 : ℤ) ^ (precision + 1) ≤ |10 * l - 5| := by
    rw [← Int.natCast_natAbs]
    exact_mod_cast h
  rw [hpow] at h hround
  have hneg : ctxRound (-(10 * 10 ^ precision)) = -(10 * 10 ^ precision) := by
    rw [ctxRound_neg, hround]
  rcases le_total 0 (10 * l - 5) with hsign | hsign
  · rw [abs_of_nonneg hsign] at h
    have hmono := ctxRound_monotone h
    rw [hround] at hmono
    refine .inl ⟨by omega, ?_⟩
    rw [lowerEdge, le_div_iff₀ (by norm_num), mul_comm]
    exact_mod_cast hmono
  · rw [abs_of_nonpos hsign] at h
    have hmono := ctxRound_monotone (show 10 * l - 5 ≤ -(10 * 10 ^ precision) by omega)
    rw [hneg] at hmono
    refine .inr ⟨by omega, ?_⟩
    rw [lowerEdge, div_le_iff₀ (by norm_num), neg_mul, mul_comm ((10 : ℚ) ^ precision)]
    exact_mod_cast hmono

/-! ## Misplaced forecasts -/

/-- A forecast that is on the other side of a lower bound than of the limit of its interval: a tie below
zero, or between the limit and its rounded value. -/
def Misplaced (v : ℚ) (l : ℤ) : Prop :=
  if (10 * l - 5).natAbs < 10 ^ precision then v = l - 1 / 2 ∧ v < 0
  else if l % 2 = 0 then l - 1 / 2 ≤ v ∧ v < l ∧ (v = l - 1 / 2 → 0 ≤ v)
  else l - 1 ≤ v ∧ (v < l - 1 / 2 ∨ v = l - 1 / 2 ∧ v < 0)

/-- **A forecast is on the same side of a bound and of the limit unless it is misplaced.** -/
theorem side_iff {v : ℚ} (hv : |v| < forecastLimit) (l : ℤ) :
    ((v < l - 1 / 2 ∨ v = l - 1 / 2 ∧ v < 0) ↔ v < lowerEdge l) ↔ ¬ Misplaced v l := by
  obtain ⟨hlow, hhigh⟩ := abs_lt.mp hv
  unfold Misplaced
  by_cases hexact : (10 * l - 5).natAbs < 10 ^ precision
  · -- half a degree below the bound is exact
    have hedge : lowerEdge l = l - 1 / 2 := by
      rw [lowerEdge, ctxRound_of_lt hexact]
      push_cast
      ring
    rw [if_pos hexact, hedge]
    constructor
    · rintro hside ⟨heq, hneg⟩
      exact absurd (hside.mp (.inr ⟨heq, hneg⟩)) heq.not_lt
    · intro hnot
      exact ⟨fun hlt => hlt.resolve_right hnot, .inl⟩
  rw [if_neg hexact]
  by_cases htie : (10 * l - 5).natAbs < 10 ^ (precision + 1)
  · have hround := ctxRound_tie (not_lt.mp hexact) htie
    split_ifs at hround ⊢ with heven
    · have hedge : lowerEdge l = l := by
        rw [lowerEdge, hround]
        push_cast
        ring
      rw [hedge]
      constructor
      · rintro hside ⟨hge, hlt, hzero⟩
        rcases hside.mpr hlt with hlt | ⟨heq, hneg⟩
        · exact absurd hge hlt.not_ge
        · exact absurd (hzero heq) hneg.not_ge
      · intro hnot
        constructor
        · rintro (hlt | ⟨heq, -⟩) <;> linarith
        · intro hlt
          by_contra hside
          rw [not_or, not_and, not_lt, not_lt] at hside
          exact hnot ⟨hside.1, hlt, hside.2⟩
    · have hedge : lowerEdge l = l - 1 := by
        rw [lowerEdge, hround]
        push_cast
        ring
      rw [hedge]
      constructor
      · rintro hside ⟨hge, hlt⟩
        exact absurd (hside.mp hlt) hge.not_gt
      · intro hnot
        constructor
        · intro hside
          by_contra hge
          exact hnot ⟨not_lt.mp hge, hside⟩
        · intro hlt
          exact .inl (by linarith)
  · -- the bound is beyond every forecast
    rw [forecastLimit] at hlow hhigh
    rcases lowerEdge_far (not_lt.mp htie) with ⟨hl, hedge⟩ | ⟨hl, hedge⟩
    · have hl : (10 : ℚ) ^ precision + 1 ≤ l := by exact_mod_cast hl
      refine iff_of_true (iff_of_true (.inl (by linarith)) (by linarith)) ?_
      split_ifs
      · rintro ⟨hge, -⟩
        linarith
      · rintro ⟨hge, -⟩
        linarith
    · have hl : (l : ℚ) ≤ -10 ^ precision := by exact_mod_cast hl
      refine iff_of_true (iff_of_false ?_ (by linarith)) ?_
      · rintro (hlt | ⟨heq, -⟩) <;> linarith
      · split_ifs
        · rintro ⟨-, hlt, -⟩
          linarith
        · rintro ⟨-, hlt | ⟨heq, -⟩⟩ <;> linarith

/-! ## Neighbouring buckets -/

/-- The bounds of neighbours are a degree apart, unless they are beyond every forecast. -/
theorem neighbour_cases (u : ℤ) :
    ctxRound (u + 1) = u + 1 ∨ (10 : ℤ) ^ precision ≤ u ∧ (10 : ℤ) ^ precision ≤ ctxRound (u + 1) ∨
      u < -10 ^ precision ∧ ctxRound (u + 1) ≤ -10 ^ precision := by
  have hround := ctxRound_pow precision
  have hneg : ctxRound (-10 ^ precision) = -10 ^ precision := by rw [ctxRound_neg, hround]
  rcases lt_or_ge (10 ^ precision) (u + 1) with hbig | hbig
  · have hmono := ctxRound_monotone hbig.le
    rw [hround] at hmono
    exact .inr (.inl ⟨by omega, hmono⟩)
  · rcases lt_or_ge (u + 1) (-10 ^ precision) with hsmall | hsmall
    · have hmono := ctxRound_monotone hsmall.le
      rw [hneg] at hmono
      exact .inr (.inr ⟨by omega, hmono⟩)
    · left
      rcases hbig.eq_or_lt with heq | hlt
      · rw [heq, hround]
      · rcases hsmall.eq_or_lt with heq | hlt'
        · rw [← heq, hneg]
        · refine ctxRound_of_lt ?_
          have habs : |u + 1| < 10 ^ precision := abs_lt.mpr ⟨hlt', hlt⟩
          rw [← Int.natCast_natAbs] at habs
          exact_mod_cast habs

/-- A whole degree is at most the upper bound of a bucket iff it is below the next lower bound. -/
theorem le_upper_iff {n : ℤ} (hn : |n| < 10 ^ precision) (u : ℤ) : n ≤ u ↔ ¬ ctxRound (u + 1) ≤ n := by
  obtain ⟨hlow, hhigh⟩ := abs_lt.mp hn
  rcases neighbour_cases u with heq | ⟨hu, hl⟩ | ⟨hu, hl⟩
  · rw [heq]
    omega
  · omega
  · omega

theorem lowerEdge_mono : Monotone lowerEdge := by
  intro l l' h
  have hmono := ctxRound_monotone (show 10 * l - 5 ≤ 10 * l' - 5 by omega)
  exact div_le_div_of_nonneg_right (by exact_mod_cast hmono) (by norm_num)

theorem lowerEdge_limit : lowerEdge (10 ^ precision) = 10 ^ precision := by
  rw [lowerEdge, ctxRound_tie (by norm_num [precision]) (by norm_num [precision]),
    if_pos (by norm_num [precision])]
  push_cast
  ring

/-- A forecast is below the upper limit of an interval iff it is below the next lower limit. -/
theorem lt_upperEdge_iff {v : ℚ} (hv : |v| < forecastLimit) (u : ℤ) :
    v < upperEdge u ↔ ¬ lowerEdge (ctxRound (u + 1)) ≤ v := by
  obtain ⟨hlow, hhigh⟩ := abs_lt.mp hv
  rw [forecastLimit] at hlow hhigh
  have hround := ctxRound_pow (precision + 1)
  have hpow : (10 : ℤ) ^ (precision + 1) = 10 * 10 ^ precision := by rw [pow_succ, mul_comm]
  rw [hpow] at hround
  rw [not_le]
  rcases neighbour_cases u with heq | ⟨hu, hl⟩ | ⟨hu, hl⟩
  · have hsame : 10 * (u + 1) - 5 = 10 * u + 5 := by ring
    rw [heq, lowerEdge, upperEdge, hsame]
  · -- both limits are above every forecast
    have hmono := ctxRound_monotone (show 10 * 10 ^ precision ≤ 10 * u + 5 by omega)
    rw [hround] at hmono
    have hupper : (10 : ℚ) ^ precision ≤ upperEdge u := by
      rw [upperEdge, le_div_iff₀ (by norm_num), mul_comm]
      exact_mod_cast hmono
    have hlower := lowerEdge_mono hl
    rw [lowerEdge_limit] at hlower
    exact iff_of_true (by linarith) (by linarith)
  · -- both are below
    have hneg : ctxRound (-(10 * 10 ^ precision)) = -(10 * 10 ^ precision) := by
      rw [ctxRound_neg, hround]
    have hedge : ∀ n : ℤ, n ≤ -(10 * 10 ^ precision) → (ctxRound n : ℚ) / 10 ≤ -10 ^ precision := by
      intro n hn
      have hmono := ctxRound_monotone hn
      rw [hneg] at hmono
      rw [div_le_iff₀ (by norm_num), neg_mul, mul_comm ((10 : ℚ) ^ precision)]
      exact_mod_cast hmono
    have hupper : upperEdge u ≤ -10 ^ precision := hedge _ (by omega)
    have hlower : lowerEdge (ctxRound (u + 1)) ≤ -10 ^ precision := hedge _ (by omega)
    exact iff_of_false (by linarith) (by linarith)

/-! ## Classification -/

namespace TemperatureMarketPartition

/-- The degree is at least the lower bound, and at most the upper one. -/
def AtLeast (n : ℤ) (b : TemperatureBucket) : Prop := ∀ l ∈ b.lowerInclusive, l.value ≤ n

def AtMost (n : ℤ) (b : TemperatureBucket) : Prop := ∀ u ∈ b.upperInclusive, (n : ℚ) ≤ u.value

/-- The forecast is at or above the lower limit of the interval, and below the upper one. -/
def FromLower (v : Decimal) (b : TemperatureBucket) : Prop := ∀ l ∈ b.continuousLower, l ≤ v

def BelowUpper (v : Decimal) (b : TemperatureBucket) : Prop := ∀ u ∈ b.continuousUpper, v < u

theorem cells_reported {p : TemperatureMarketPartition} {raw : List TemperatureBucket}
    (h : new raw = .ok p) {n : ℤ} (hn : |n| < 10 ^ precision) : Cells (AtLeast n) (AtMost n) p.buckets := by
  obtain ⟨-, hchain, hfirst, hlast⟩ := chain_of_new h
  constructor
  · intro b hb
    by_contra hnot
    rw [not_or, AtLeast, AtMost] at hnot
    push Not at hnot
    obtain ⟨⟨l, hl, hnl⟩, u, hu, hun⟩ := hnot
    exact b.ordered l hl u hu ((Decimal.lt_iff _ _).mpr (hun.trans hnl))
  · refine hchain.imp ?_
    rintro a b ⟨u, hu, l, hl, heq⟩
    obtain ⟨u', hu'⟩ := exists_int_of_isIntegral (a.integral_upper u hu)
    rw [value_add_one hu'] at heq
    have := le_upper_iff hn u'
    unfold AtMost AtLeast
    rw [Option.mem_def.mp hu, Option.mem_def.mp hl]
    simp only [Option.mem_some_iff, forall_eq', hu', heq]
    exact_mod_cast this
  · intro b hb l hl
    rw [hfirst b hb] at hl
    cases hl
  · intro b hb u hu
    rw [hlast b hb] at hu
    cases hu

theorem cells_forecast {p : TemperatureMarketPartition} {raw : List TemperatureBucket}
    (h : new raw = .ok p) {v : Decimal} (hv : |v.value| < forecastLimit) :
    Cells (FromLower v) (BelowUpper v) p.buckets := by
  obtain ⟨-, hchain, hfirst, hlast⟩ := chain_of_new h
  constructor
  · intro b hb
    by_contra hnot
    rw [not_or, FromLower, BelowUpper] at hnot
    push Not at hnot
    obtain ⟨⟨cl, hcl, hvl⟩, cu, hcu, hvu⟩ := hnot
    obtain ⟨l, hl, rfl⟩ := Option.mem_map.mp hcl
    obtain ⟨u, hu, rfl⟩ := Option.mem_map.mp hcu
    obtain ⟨l', hl'⟩ := exists_int_of_isIntegral (b.integral_lower l hl)
    obtain ⟨u', hu'⟩ := exists_int_of_isIntegral (b.integral_upper u hu)
    have hordered := b.ordered l hl u hu
    rw [Decimal.lt_iff, not_lt, hl', hu'] at hordered
    have hle : l' ≤ u' := by exact_mod_cast hordered
    rw [Decimal.le_iff, value_sub_half hl', not_le] at hvl
    rw [Decimal.lt_iff, value_add_half hu', not_lt] at hvu
    -- the limits of a bucket are in order
    have hmono := ctxRound_monotone (show 10 * l' - 5 ≤ 10 * u' + 5 by omega)
    have hedges : lowerEdge l' ≤ upperEdge u' :=
      div_le_div_of_nonneg_right (by exact_mod_cast hmono) (by norm_num)
    linarith
  · refine hchain.imp ?_
    rintro a b ⟨u, hu, l, hl, heq⟩
    obtain ⟨u', hu'⟩ := exists_int_of_isIntegral (a.integral_upper u hu)
    rw [value_add_one hu'] at heq
    unfold BelowUpper FromLower TemperatureBucket.continuousUpper TemperatureBucket.continuousLower
    rw [Option.mem_def.mp hu, Option.mem_def.mp hl]
    simp only [Option.map_some, Option.mem_some_iff, forall_eq', Decimal.lt_iff, Decimal.le_iff,
      value_add_half hu', value_sub_half heq]
    exact lt_upperEdge_iff hv u'
  · intro b hb l hl
    rw [TemperatureBucket.continuousLower, hfirst b hb] at hl
    cases hl
  · intro b hb u hu
    rw [TemperatureBucket.continuousUpper, hlast b hb] at hu
    cases hu

theorem filterM_eq_ok {ε α : Type} {f : α → Except ε Bool} {p : α → Bool} {l : List α}
    (h : ∀ a ∈ l, f a = .ok (p a)) : l.filterM f = .ok (l.filter p) := by
  have haux : ∀ acc, List.filterAuxM f l acc = .ok ((l.filter p).reverse ++ acc) := by
    induction l with
    | nil => exact fun acc => rfl
    | cons a l ih =>
      intro acc
      rw [List.filterAuxM, h a List.mem_cons_self]
      show List.filterAuxM f l _ = _
      rw [ih fun b hb => h b (List.mem_cons_of_mem _ hb), List.filter_cons]
      cases p a <;> simp
  rw [List.filterM, haux]
  show Except.ok _ = _
  rw [List.append_nil, List.reverse_reverse]

/-- A bucket is asked for a whole degree. -/
theorem containsReported_eq {r : Decimal} {n : ℤ} (hr : IsIntegral r) (hn : r.value = n)
    (b : TemperatureBucket) :
    ∃ c, b.containsReported r = .ok c ∧ (c = true ↔ InCell (AtLeast n) (AtMost n) b) := by
  have hintegral := raiseIf_of_not (notIntegral "reported temperature") (not_not.mpr hr)
  by_cases hlow : ∃ l ∈ b.lowerInclusive, r < l
  · have hcontains : b.containsReported r = .ok false := by
      rw [TemperatureBucket.containsReported, hintegral]
      exact if_pos hlow
    obtain ⟨l, hl, hlt⟩ := hlow
    rw [Decimal.lt_iff, hn] at hlt
    exact ⟨false, hcontains, iff_of_false Bool.false_ne_true fun hin => absurd (hin.1 l hl) hlt.not_ge⟩
  · have hcontains : b.containsReported r = .ok (decide (∀ u ∈ b.upperInclusive, r ≤ u)) := by
      rw [TemperatureBucket.containsReported, hintegral]
      exact if_neg hlow
    refine ⟨_, hcontains, ?_⟩
    simp only [InCell, AtLeast, AtMost, decide_eq_true_eq, Decimal.le_iff, hn]
    rw [and_iff_right]
    intro l hl
    by_contra hlt
    exact hlow ⟨l, hl, (Decimal.lt_iff _ _).mpr (hn ▸ not_le.mp hlt)⟩

/-- The forecast is in the continuous interval of the bucket. -/
def InInterval (v : Decimal) (b : TemperatureBucket) : Prop :=
  (∀ l ∈ b.continuousLower, l ≤ v) ∧ ∀ u ∈ b.continuousUpper, v < u

/-- The bucket of the forecast is the one whose continuous interval contains it. -/
def Classified (p : TemperatureMarketPartition) (v : Decimal) : Prop :=
  ∃ b ∈ p.buckets, p.bucketForForecast v = .ok b ∧ ∀ b' ∈ p.buckets, InInterval v b' ↔ b' = b

/-- A rounded forecast and the forecast are on the same side of the lower bounds. -/
theorem same_side_iff {v : Decimal} {n : ℤ} (hv : |v.value| < forecastLimit)
    (hside : ∀ l : ℤ, n < l ↔ v.value < l - 1 / 2 ∨ v.value = l - 1 / 2 ∧ v.value < 0)
    (b : TemperatureBucket) :
    (AtLeast n b ↔ FromLower v b) ↔
      ∀ l ∈ b.lowerInclusive, ∀ m : ℤ, l.value = m → ¬ Misplaced v.value m := by
  unfold AtLeast FromLower TemperatureBucket.continuousLower
  cases hlower : b.lowerInclusive with
  | none => simp
  | some l =>
    obtain ⟨m, hm⟩ := exists_int_of_isIntegral (b.integral_lower l hlower)
    simp only [Option.map_some, Option.mem_some_iff, forall_eq', Decimal.le_iff, value_sub_half hm, hm,
      Int.cast_inj, Int.cast_le]
    rw [← side_iff hv m, ← hside m, ← not_lt, ← not_lt (a := v.value), not_iff_not]

/-- **A forecast is put in the bucket whose interval contains it** iff it rounds to at most 28 digits and
no lower bound misplaces it. -/
theorem classified_iff {raw : List TemperatureBucket} {p : TemperatureMarketPartition}
    (h : new raw = .ok p) (v : Decimal) :
    p.Classified v ↔ |v.value| < forecastLimit ∧
      ∀ b ∈ p.buckets, ∀ l ∈ b.lowerInclusive, ∀ m : ℤ, l.value = m → ¬ Misplaced v.value m := by
  have hne := (chain_of_new h).1
  have hsome := quantizeHalfUp_isSome v
  cases hround : quantizeHalfUp v with
  | none =>
    rw [hround] at hsome
    refine iff_of_false ?_ fun hv => absurd (hsome.mpr hv.1) Bool.false_ne_true
    rintro ⟨b, -, hb, -⟩
    rw [bucketForForecast, hround] at hb
    cases hb
  | some r =>
    rw [hround] at hsome
    have hv := hsome.mp rfl
    obtain ⟨hscale, n, hvalue, hn, hside⟩ := quantizeHalfUp_spec hround
    have hreported := cells_reported h hn
    obtain ⟨c, hc, hfilter, hcell⟩ := hreported.filter_eq hne
      (p := fun b => okOr (b.containsReported r) false) (fun b _ => by
        obtain ⟨c, hcontains, hc⟩ := containsReported_eq (isIntegral_of_scale_zero hscale) hvalue b
        rw [hcontains]
        exact hc)
    have hbucket : p.bucketForForecast v = .ok c := by
      have hall := filterM_eq_ok (f := fun b => b.containsReported r)
        (p := fun b => okOr (b.containsReported r) false) (l := p.buckets) fun b _ => by
          obtain ⟨c, hcontains, -⟩ := containsReported_eq (isIntegral_of_scale_zero hscale) hvalue b
          rw [hcontains]
          rfl
      rw [bucketForForecast, hround]
      dsimp only
      rw [bucketForReported, hall, hfilter]
      rfl
    have hsame := hreported.same_cell_iff (cells_forecast h hv) hne hcell
    rw [and_iff_right hv]
    calc p.Classified v ↔ ∀ b ∈ p.buckets, InInterval v b ↔ b = c := by
          constructor
          · rintro ⟨b, -, hb, hinterval⟩
            cases hbucket.symm.trans hb
            exact hinterval
          · intro hinterval
            exact ⟨c, hc, hbucket, hinterval⟩
      _ ↔ ∀ b ∈ p.buckets, AtLeast n b ↔ FromLower v b := hsame
      _ ↔ _ := forall₂_congr fun b _ => same_side_iff hv hside b

end TemperatureMarketPartition

/-! ## A tie below zero -/

namespace Sample

/-- The bound -1 or 0. -/
def minusOne : Decimal := ⟨true, 1, 0⟩

def zeroDegrees : Decimal := ⟨false, 0, 0⟩

/-- Minus one or below. -/
def belowZero : TemperatureBucket where
  unit := .celsius
  lowerInclusive := none
  upperInclusive := some minusOne
  bounded := .inr (by decide)
  integral_lower := by decide
  integral_upper := by decide
  ordered := by decide

/-- Zero or higher. -/
def fromZero : TemperatureBucket where
  unit := .celsius
  lowerInclusive := some zeroDegrees
  upperInclusive := none
  bounded := .inl (by decide)
  integral_lower := by decide
  integral_upper := by decide
  ordered := by decide

def partition : TemperatureMarketPartition := ⟨[belowZero, fromZero]⟩

/-- Half a degree below zero. -/
def minusHalf : Decimal := ⟨true, 5, 1⟩

end Sample

/-- The forecast of -0.5 is rounded to -1, and is in the interval from -0.5. -/
theorem not_classified_minusHalf :
    TemperatureMarketPartition.new [Sample.belowZero, Sample.fromZero] = .ok Sample.partition ∧
      ¬ Sample.partition.Classified Sample.minusHalf := by
  refine ⟨by decide, ?_⟩
  rintro ⟨b, -, hb, hinterval⟩
  have hrounded : Sample.partition.bucketForForecast Sample.minusHalf = .ok Sample.belowZero := by
    decide
  cases hrounded.symm.trans hb
  have hin := (hinterval Sample.fromZero (by decide)).mp ⟨by decide, by decide⟩
  exact absurd hin (by decide)

/-- The forecast of 0.5 is rounded to 1. -/
theorem classified_half : Sample.partition.Classified ⟨false, 5, 1⟩ := by
  have hnew : TemperatureMarketPartition.new [Sample.belowZero, Sample.fromZero] =
      .ok Sample.partition := by decide
  refine (TemperatureMarketPartition.classified_iff hnew _).mpr ⟨by norm_num [Decimal.value, Decimal.signed, forecastLimit, precision], ?_⟩
  intro b hb l hl m hm
  have hvalue : (⟨false, 5, 1⟩ : Decimal).value = 1 / 2 := value_half
  rcases List.mem_cons.mp hb with rfl | hb
  · cases hl
  · cases List.mem_singleton.mp hb
    cases hl
    have hzero : m = 0 := by
      have : Sample.zeroDegrees.value = 0 := Decimal.value_of_coeff rfl
      exact_mod_cast hm.symm.trans this
    rw [hzero, hvalue]
    norm_num [Misplaced, precision]

end WeatherBot.Markets
