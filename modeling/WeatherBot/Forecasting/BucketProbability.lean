import WeatherBot.Forecasting.Scores
import WeatherBot.Markets.Partition

/-!
# Bucket probabilities over a partition

`_bucket_probability` takes one difference of distribution functions for a bounded bucket, and
one value of it for a tail.

* `bucketProbabilityOf_eq_ok`: in exact arithmetic it is the same difference for every bucket.
* `sum_probability`: the differences telescope over the buckets of a market.
* `bucketProbability_distribution`: **the probabilities of a market's buckets are a
  distribution**, and under an empirical distribution they count its residuals.
-/

namespace WeatherBot.Forecasting

open WeatherBot.Common
open WeatherBot.Domain
open WeatherBot.Markets
open CalibrationException (calibrationError raised)

variable {f : Numerics CalibrationException ℚ}

/-! ## One difference for every bucket -/

/-- A distribution function: it returns, with values from zero to one, and is monotone. -/
structure IsCdf (cdf : Decimal → Except CalibrationException ℚ) : Prop where
  returns : ∀ x, ∃ y, cdf x = .ok y ∧ 0 ≤ y ∧ y ≤ 1
  monotone : ∀ x x' y y', x ≤ x' → cdf x = .ok y → cdf x' = .ok y' → y ≤ y'

/-- The value of a distribution function. -/
def valueOf (cdf : Decimal → Except CalibrationException ℚ) (x : Decimal) : ℚ := okOr (cdf x) 0

theorem IsCdf.valueOf {cdf : Decimal → Except CalibrationException ℚ} (h : IsCdf cdf) (x : Decimal) :
    cdf x = .ok (valueOf cdf x) ∧ 0 ≤ Forecasting.valueOf cdf x ∧ Forecasting.valueOf cdf x ≤ 1 := by
  obtain ⟨y, hy, h0, h1⟩ := h.returns x
  have hval : Forecasting.valueOf cdf x = y := by
    unfold Forecasting.valueOf
    rw [hy]
    rfl
  rw [hval]
  exact ⟨hy, h0, h1⟩

theorem IsCdf.valueOf_le {cdf : Decimal → Except CalibrationException ℚ} (h : IsCdf cdf) {x x' : Decimal}
    (hle : x.value ≤ x'.value) : Forecasting.valueOf cdf x ≤ Forecasting.valueOf cdf x' :=
  h.monotone x x' _ _ ((Decimal.le_iff x x').mpr hle) (h.valueOf x).1 (h.valueOf x').1

/-- The probability below the bucket. -/
def belowBucket (cdf : Decimal → Except CalibrationException ℚ) (forecast : Decimal)
    (b : TemperatureBucket) : ℚ :=
  match b.continuousLower with
  | none => 0
  | some lower => valueOf cdf (lower - forecast)

/-- The probability up to the end of the bucket. -/
def upToBucket (cdf : Decimal → Except CalibrationException ℚ) (forecast : Decimal)
    (b : TemperatureBucket) : ℚ :=
  match b.continuousUpper with
  | none => 1
  | some upper => valueOf cdf (upper - forecast)

/-- The `Decimal` operations on the bounds of the buckets are exact. -/
structure ExactBounds (buckets : List TemperatureBucket) (forecast : Decimal) : Prop where
  succ : ∀ b ∈ buckets, ∀ u ∈ b.upperInclusive, (u + 1).value = u.value + 1
  lower : ∀ b ∈ buckets, ∀ l ∈ b.lowerInclusive, (l - TemperatureBucket.half).value = l.value - 1 / 2
  upper : ∀ b ∈ buckets, ∀ u ∈ b.upperInclusive, (u + TemperatureBucket.half).value = u.value + 1 / 2
  lowerDifference : ∀ b ∈ buckets, ∀ l ∈ b.continuousLower, (l - forecast).value = l.value - forecast.value
  upperDifference : ∀ b ∈ buckets, ∀ u ∈ b.continuousUpper, (u - forecast).value = u.value - forecast.value

section Buckets

variable {buckets : List TemperatureBucket} {forecast : Decimal} (hexact : ExactBounds buckets forecast)
  {b : TemperatureBucket} (hb : b ∈ buckets)

include hexact hb

theorem value_continuousLower {l : Decimal} (hl : l ∈ b.lowerInclusive) :
    ((l - TemperatureBucket.half) - forecast).value = l.value - 1 / 2 - forecast.value := by
  have hmem : l - TemperatureBucket.half ∈ b.continuousLower := Option.mem_map_of_mem _ hl
  rw [hexact.lowerDifference b hb _ hmem, hexact.lower b hb l hl]

theorem value_continuousUpper {u : Decimal} (hu : u ∈ b.upperInclusive) :
    ((u + TemperatureBucket.half) - forecast).value = u.value + 1 / 2 - forecast.value := by
  have hmem : u + TemperatureBucket.half ∈ b.continuousUpper := Option.mem_map_of_mem _ hu
  rw [hexact.upperDifference b hb _ hmem, hexact.upper b hb u hu]

/-- The difference of a bucket is a probability. -/
theorem difference_range {cdf : Decimal → Except CalibrationException ℚ} (hcdf : IsCdf cdf) :
    0 ≤ upToBucket cdf forecast b - belowBucket cdf forecast b ∧
      upToBucket cdf forecast b - belowBucket cdf forecast b ≤ 1 := by
  have hbelow : 0 ≤ belowBucket cdf forecast b ∧ belowBucket cdf forecast b ≤ 1 := by
    unfold belowBucket
    cases b.continuousLower with
    | none => exact ⟨le_rfl, zero_le_one⟩
    | some l => exact (hcdf.valueOf _).2
  have hupTo : 0 ≤ upToBucket cdf forecast b ∧ upToBucket cdf forecast b ≤ 1 := by
    unfold upToBucket
    cases b.continuousUpper with
    | none => exact ⟨zero_le_one, le_rfl⟩
    | some u => exact (hcdf.valueOf _).2
  have hle : belowBucket cdf forecast b ≤ upToBucket cdf forecast b := by
    cases hl : b.lowerInclusive with
    | none =>
      have hzero : belowBucket cdf forecast b = 0 := by
        unfold belowBucket TemperatureBucket.continuousLower
        rw [hl]
        rfl
      exact hzero ▸ hupTo.1
    | some l =>
      cases hu : b.upperInclusive with
      | none =>
        have hone : upToBucket cdf forecast b = 1 := by
          unfold upToBucket TemperatureBucket.continuousUpper
          rw [hu]
          rfl
        exact hone ▸ hbelow.2
      | some u =>
        have hlu : l.value ≤ u.value := by
          have := b.ordered l hl u hu
          rwa [Decimal.lt_iff, not_lt] at this
        unfold belowBucket upToBucket TemperatureBucket.continuousLower TemperatureBucket.continuousUpper
        rw [hl, hu]
        apply hcdf.valueOf_le
        rw [value_continuousLower hexact hb hl, value_continuousUpper hexact hb hu]
        linarith
  constructor <;> linarith

/-- **In exact arithmetic every bucket has the same difference**, and nothing is raised. -/
theorem bucketProbabilityOf_eq_ok (hf : f.Exact) {cdf : Decimal → Except CalibrationException ℚ}
    (hcdf : IsCdf cdf) : bucketProbabilityOf f cdf forecast b =
      .ok (upToBucket cdf forecast b - belowBucket cdf forecast b) := by
  obtain ⟨h0, h1⟩ := difference_range hexact hb hcdf
  have hone : f.lit "1.0" = 1 := by
    rw [hf.lit (d := ⟨false, 10, 1⟩) (by decide)]
    decide +kernel
  have hint : f.lit "1" = 1 := by
    rw [hf.lit (d := ⟨false, 1, 0⟩) (by decide)]
    decide +kernel
  set p := upToBucket cdf forecast b - belowBucket cdf forecast b with hp
  have hmatch : cdfDifference f cdf forecast b = .ok p := by
    have hsome : b.continuousLower ≠ none ∨ b.continuousUpper ≠ none := by
      unfold TemperatureBucket.continuousLower TemperatureBucket.continuousUpper
      rw [ne_eq, ne_eq, Option.map_eq_none_iff, Option.map_eq_none_iff]
      exact b.bounded
    unfold upToBucket belowBucket at hp
    unfold cdfDifference
    cases hl : b.continuousLower with
    | none =>
      cases hu : b.continuousUpper with
      | none => exact absurd (hsome.resolve_left fun h => h hl) fun h => h hu
      | some u =>
        rw [hl, hu] at hp
        dsimp only at hp ⊢
        rw [(hcdf.valueOf _).1, hp, sub_zero]
    | some l =>
      cases hu : b.continuousUpper with
      | none =>
        rw [hl, hu] at hp
        dsimp only at hp ⊢
        rw [(hcdf.valueOf _).1, ok_bind, hf.sub, hone, hp]
        rfl
      | some u =>
        rw [hl, hu] at hp
        dsimp only at hp ⊢
        rw [(hcdf.valueOf _).1, ok_bind, (hcdf.valueOf _).1, ok_bind, hf.sub, hp]
        rfl
  unfold bucketProbabilityOf
  rw [hmatch, ok_bind]
  dsimp only
  have hlow : f.lt p (f.lit "0") = false := by
    rw [hf.lt, hf.lit_zero]
    exact decide_eq_false (not_lt.mpr h0)
  have hhigh : f.lt (f.lit "1") p = false := by
    rw [hf.lt, hint]
    exact decide_eq_false (not_lt.mpr h1)
  rw [hlow, Bool.false_and, if_neg Bool.false_ne_true, hhigh, Bool.false_and, if_neg Bool.false_ne_true,
    hhigh, (hf.finiteNonneg p).mpr h0, raiseIf_of_not _ (by simp)]
  rfl

end Buckets

/-! ## Telescoping -/

/-- The differences of consecutive buckets add up to what is not below the first of them. -/
theorem sum_probability {cdf : Decimal → Except CalibrationException ℚ} (hcdf : IsCdf cdf)
    {forecast : Decimal} {b : TemperatureBucket} {l : List TemperatureBucket}
    (hexact : ExactBounds (b :: l) forecast)
    (hchain : (b :: l).IsChain TemperatureMarketPartition.Adjacent)
    (hlast : ∀ c ∈ (b :: l).getLast?, c.upperInclusive = none) :
    ((b :: l).map fun c => upToBucket cdf forecast c - belowBucket cdf forecast c).sum =
      1 - belowBucket cdf forecast b := by
  induction l generalizing b with
  | nil =>
    have hupTo : upToBucket cdf forecast b = 1 := by
      unfold upToBucket TemperatureBucket.continuousUpper
      rw [hlast b rfl]
      rfl
    rw [List.map_singleton, List.sum_singleton, hupTo]
  | cons c l ih =>
    obtain ⟨⟨u, hu, lower, hlower, heq⟩, hrest⟩ := List.isChain_cons_cons.mp hchain
    rw [List.getLast?_cons_cons] at hlast
    have hmemb : b ∈ b :: c :: l := List.mem_cons_self
    have hmemc : c ∈ b :: c :: l := List.mem_cons_of_mem _ List.mem_cons_self
    have htail : ∀ d ∈ c :: l, d ∈ b :: c :: l := fun d hd => List.mem_cons_of_mem _ hd
    have hexactTail : ExactBounds (c :: l) forecast :=
      ⟨fun d hd => hexact.succ d (htail d hd), fun d hd => hexact.lower d (htail d hd),
        fun d hd => hexact.upper d (htail d hd), fun d hd => hexact.lowerDifference d (htail d hd),
        fun d hd => hexact.upperDifference d (htail d hd)⟩
    -- the end of the first bucket is the beginning of the second one
    have hedge : upToBucket cdf forecast b = belowBucket cdf forecast c := by
      unfold upToBucket belowBucket TemperatureBucket.continuousUpper TemperatureBucket.continuousLower
      rw [Option.mem_def.mp hu, Option.mem_def.mp hlower]
      have hvalue : ((u + TemperatureBucket.half) - forecast).value =
          ((lower - TemperatureBucket.half) - forecast).value := by
        rw [value_continuousUpper hexact hmemb hu, value_continuousLower hexact hmemc hlower, heq,
          hexact.succ b hmemb u hu]
        ring
      exact le_antisymm (hcdf.valueOf_le hvalue.le) (hcdf.valueOf_le hvalue.ge)
    rw [List.map_cons, List.sum_cons, ih hexactTail hrest hlast, hedge]
    ring

/-! ## Empirical distributions -/

/-- Counting a part and the rest of a whole. -/
theorem countP_add_of_imp {α : Type} {p q : α → Bool} (l : List α) (h : ∀ a, p a = true → q a = true) :
    l.countP q = l.countP p + l.countP fun a => !p a && q a := by
  induction l with
  | nil => rfl
  | cons a l ih =>
    simp only [List.countP_cons, ih]
    cases hp : p a with
    | true => simp [h a hp]; omega
    | false => simp; omega

theorem cdf_empirical (hf : f.Exact) (d : EmpiricalResidualDistribution) (x : Decimal) :
    (ResidualDistribution.empirical d).cdf f x =
      .ok ((d.residualsF.countP (· < x) : ℚ) / d.residualsF.length) := by
  have hlength : (d.residualsF.length : ℤ) ≠ 0 := by
    have := d.two
    omega
  show f.ratio (bisectLeft d.residualsF x) d.residualsF.length = _
  rw [hf.ratio _ _ hlength, bisectLeft, Int.cast_natCast, Int.cast_natCast]

theorem length_pos (d : EmpiricalResidualDistribution) : (0 : ℚ) < d.residualsF.length := by
  have := d.two
  exact_mod_cast (by omega : 0 < d.residualsF.length)

/-- The distribution function of residuals is one. -/
theorem isCdf_empirical (hf : f.Exact) (d : EmpiricalResidualDistribution) :
    IsCdf ((ResidualDistribution.empirical d).cdf f ·) := by
  have hpos := length_pos d
  constructor
  · intro x
    refine ⟨_, cdf_empirical hf d x, by positivity, ?_⟩
    rw [div_le_one hpos]
    exact_mod_cast List.countP_le_length
  · intro x x' y y' hle hy hy'
    rw [cdf_empirical hf, Except.ok.injEq] at hy hy'
    rw [← hy, ← hy']
    have hcount : d.residualsF.countP (· < x) ≤ d.residualsF.countP (· < x') := by
      refine List.countP_mono_left fun r _ hr => ?_
      rw [decide_eq_true_eq, Decimal.lt_iff] at hr ⊢
      exact hr.trans_le ((Decimal.le_iff _ _).mp hle)
    gcongr

/-- The forecast with the residual is in the continuous interval of the bucket. -/
def FallsIn (forecast : Decimal) (b : TemperatureBucket) (r : Decimal) : Prop :=
  (∀ l ∈ b.continuousLower, l.value ≤ forecast.value + r.value) ∧
    ∀ u ∈ b.continuousUpper, forecast.value + r.value < u.value

instance (forecast : Decimal) (b : TemperatureBucket) (r : Decimal) : Decidable (FallsIn forecast b r) :=
  inferInstanceAs (Decidable (_ ∧ _))

/-- A residual that is below the bucket. -/
def isBelow (forecast : Decimal) (b : TemperatureBucket) (r : Decimal) : Bool :=
  match b.continuousLower with
  | none => false
  | some l => decide (r < l - forecast)

/-- A residual that is not above the bucket. -/
def isUpTo (forecast : Decimal) (b : TemperatureBucket) (r : Decimal) : Bool :=
  match b.continuousUpper with
  | none => true
  | some u => decide (r < u - forecast)

/-- **Under an empirical distribution the probability counts the residuals that fall in the
bucket.** -/
theorem bucketProbability_empirical (hf : f.Exact) (d : EmpiricalResidualDistribution)
    {buckets : List TemperatureBucket} {forecast : Decimal} (hexact : ExactBounds buckets forecast)
    {b : TemperatureBucket} (hb : b ∈ buckets) : bucketProbability f (.empirical d) forecast b =
      .ok ((d.residualsF.countP fun r => decide (FallsIn forecast b r)) / d.residualsF.length) := by
  have hvalue : ∀ x, valueOf ((ResidualDistribution.empirical d).cdf f ·) x =
      (d.residualsF.countP (· < x) : ℚ) / d.residualsF.length := by
    intro x
    show okOr ((ResidualDistribution.empirical d).cdf f x) 0 = _
    rw [cdf_empirical hf]
    rfl
  have hbelow : belowBucket ((ResidualDistribution.empirical d).cdf f ·) forecast b =
      d.residualsF.countP (isBelow forecast b) / d.residualsF.length := by
    unfold belowBucket
    cases hl : b.continuousLower with
    | none =>
      have hzero : isBelow forecast b = fun _ => false := by
        funext r
        rw [isBelow, hl]
      rw [hzero, List.countP_false]
      simp
    | some l =>
      have hsame : isBelow forecast b = fun r => decide (r < l - forecast) := by
        funext r
        rw [isBelow, hl]
      dsimp only
      rw [hvalue, hsame]
  have hupTo : upToBucket ((ResidualDistribution.empirical d).cdf f ·) forecast b =
      d.residualsF.countP (isUpTo forecast b) / d.residualsF.length := by
    unfold upToBucket
    cases hu : b.continuousUpper with
    | none =>
      have hone : isUpTo forecast b = fun _ => true := by
        funext r
        rw [isUpTo, hu]
      rw [hone, List.countP_true, div_self (length_pos d).ne']
    | some u =>
      have hsame : isUpTo forecast b = fun r => decide (r < u - forecast) := by
        funext r
        rw [isUpTo, hu]
      dsimp only
      rw [hvalue, hsame]
  have himp : ∀ r, isBelow forecast b r = true → isUpTo forecast b r = true := by
    intro r hr
    unfold isBelow TemperatureBucket.continuousLower at hr
    unfold isUpTo TemperatureBucket.continuousUpper
    cases hl : b.lowerInclusive with
    | none =>
      rw [hl] at hr
      cases hr
    | some l =>
      cases hu : b.upperInclusive with
      | none => rfl
      | some u =>
        have hlu : l.value ≤ u.value := by
          have := b.ordered l hl u hu
          rwa [Decimal.lt_iff, not_lt] at this
        rw [hl] at hr
        dsimp only [Option.map_some] at hr ⊢
        rw [decide_eq_true_eq, Decimal.lt_iff, value_continuousLower hexact hb hl] at hr
        rw [decide_eq_true_eq, Decimal.lt_iff, value_continuousUpper hexact hb hu]
        linarith
  have hin : ∀ r, (!isBelow forecast b r && isUpTo forecast b r) = decide (FallsIn forecast b r) := by
    intro r
    rw [Bool.eq_iff_iff, Bool.and_eq_true, Bool.not_eq_true', decide_eq_true_eq]
    refine and_congr ?_ ?_
    · unfold isBelow
      cases hl : b.continuousLower with
      | none => simp
      | some l =>
        have hdifference := hexact.lowerDifference b hb l hl
        simp only [decide_eq_false_iff_not, Decimal.lt_iff, not_lt, hdifference, Option.mem_some_iff,
          forall_eq']
        constructor <;> intro h <;> linarith
    · unfold isUpTo
      cases hu : b.continuousUpper with
      | none => simp
      | some u =>
        have hdifference := hexact.upperDifference b hb u hu
        simp only [decide_eq_true_eq, Decimal.lt_iff, hdifference, Option.mem_some_iff, forall_eq']
        constructor <;> intro h <;> linarith
  have hcount := countP_add_of_imp d.residualsF himp
  simp only [hin] at hcount
  rw [bucketProbability, bucketProbabilityOf_eq_ok hexact hb hf (isCdf_empirical hf d), hbelow, hupTo,
    hcount, ← sub_div]
  congr 2
  push_cast
  ring

/-- **The probabilities of a market's buckets are a distribution.** In exact arithmetic, for every
accepted partition, forecast and distribution function, nothing is raised, the values lie between zero
and one and add up to one; under an empirical distribution each value is the fraction of the residuals
with which the forecast falls in the bucket. -/
theorem bucketProbability_distribution (f : Numerics CalibrationException ℚ) (hf : f.Exact)
    {raw : List TemperatureBucket} {p : TemperatureMarketPartition}
    (hnew : TemperatureMarketPartition.new raw = .ok p) (forecast : Decimal)
    (hexact : ExactBounds p.buckets forecast) :
    (∀ cdf, IsCdf cdf → ∃ probabilities, p.buckets.mapM (bucketProbabilityOf f cdf forecast) =
        .ok probabilities ∧ (∀ x ∈ probabilities, 0 ≤ x ∧ x ≤ 1) ∧ probabilities.sum = 1) ∧
    ∀ d : EmpiricalResidualDistribution, ∀ b ∈ p.buckets,
      bucketProbability f (.empirical d) forecast b =
        .ok ((d.residualsF.countP fun r => decide (FallsIn forecast b r)) / d.residualsF.length) := by
  refine ⟨fun cdf hcdf => ?_, fun d b hb => bucketProbability_empirical hf d hexact hb⟩
  obtain ⟨hne, hchain, hfirst, hlast⟩ := TemperatureMarketPartition.chain_of_new hnew
  refine ⟨_, mapM_eq_ok_map fun b hb => bucketProbabilityOf_eq_ok hexact hb hf hcdf, ?_, ?_⟩
  · rw [List.forall_mem_map]
    exact fun b hb => difference_range hexact hb hcdf
  · cases hbuckets : p.buckets with
    | nil => exact absurd hbuckets hne
    | cons b l =>
      rw [hbuckets] at hchain hfirst hlast hexact
      have hzero : belowBucket cdf forecast b = 0 := by
        unfold belowBucket TemperatureBucket.continuousLower
        rw [hfirst b rfl]
        rfl
      rw [sum_probability hcdf hexact hchain hlast, hzero, sub_zero]

namespace Sample

open WeatherBot.Markets.Sample

theorem exactBounds_partition : ExactBounds partition.buckets ⟨false, 5, 1⟩ := by
  have hall : ∀ b ∈ partition.buckets, b = belowZero ∨ b = fromZero := by
    intro b hb
    rcases List.mem_cons.mp hb with rfl | hb
    · exact .inl rfl
    · exact .inr (List.mem_singleton.mp hb)
  constructor <;>
    (intro b hb d hd; rcases hall b hb with rfl | rfl <;> first | (cases hd; done) | (cases hd; decide +kernel))

end Sample

/-- With a forecast of 0.5, a residual of minus one is on the edge of the bucket from zero on: three of
the four fall in it. -/
theorem bucketProbability_distribution_four : ∃ d, EmpiricalResidualDistribution.new
      [⟨false, 1, 0⟩, ⟨true, 2, 0⟩, ⟨true, 1, 0⟩, ⟨true, 10, 1⟩] = .ok d ∧
    bucketProbability FitSample.numerics (.empirical d) ⟨false, 5, 1⟩ Markets.Sample.fromZero =
      .ok (3 / 4) ∧
    ∃ probabilities, Markets.Sample.partition.buckets.mapM
        (bucketProbability FitSample.numerics (.empirical d) ⟨false, 5, 1⟩) = .ok probabilities ∧
      (∀ x ∈ probabilities, 0 ≤ x ∧ x ≤ 1) ∧ probabilities.sum = 1 := by
  have hnew : TemperatureMarketPartition.new [Markets.Sample.belowZero, Markets.Sample.fromZero] =
      .ok Markets.Sample.partition := by decide
  obtain ⟨d, hd⟩ := exists_of_isOk (x := EmpiricalResidualDistribution.new
    [⟨false, 1, 0⟩, ⟨true, 2, 0⟩, ⟨true, 1, 0⟩, ⟨true, 10, 1⟩]) (by decide)
  have hresiduals : d.residualsF =
      [⟨true, 2, 0⟩, ⟨true, 1, 0⟩, ⟨true, 10, 1⟩, ⟨false, 1, 0⟩] := by
    obtain ⟨_, -, hd⟩ := bind_eq_ok.mp hd
    cases hd
    show sortedDecimals [⟨false, 1, 0⟩, ⟨true, 2, 0⟩, ⟨true, 1, 0⟩, ⟨true, 10, 1⟩] = _
    decide
  obtain ⟨hsum, hempirical⟩ := bucketProbability_distribution _ FitSample.exact_numerics hnew
    ⟨false, 5, 1⟩ Sample.exactBounds_partition
  refine ⟨d, hd, ?_, hsum _ (isCdf_empirical FitSample.exact_numerics d)⟩
  rw [hempirical d Markets.Sample.fromZero (by decide), hresiduals]
  decide +kernel

end WeatherBot.Forecasting
