import WeatherBot.Common.ExactNumerics
import WeatherBot.Common.PairSums
import WeatherBot.Forecasting.FitOrder

/-!
# The score of an empirical distribution

`empirical_crps` weights the sorted residuals by their indices, where the continuous
ranked probability score sums over all pairs.

* `empiricalCrps_eq_ok`: in exact arithmetic the function returns the double sum.
* `empiricalCrps_exact`: **the returned score is the continuous ranked probability
  score**, for residuals in any order, and a mean score passes the check of
  `CalibrationDiagnostics`.
-/

namespace WeatherBot.Forecasting

open WeatherBot.Common
open WeatherBot.Domain

variable {f : Numerics CalibrationException ℚ}

/-- The continuous ranked probability score of the empirical distribution of `xs` at `y`. -/
def crpsOf (xs : List ℚ) (y : ℚ) : ℚ :=
  1 / xs.length * (xs.map fun x => |x - y|).sum -
    1 / (2 * xs.length ^ 2) * (xs.map fun x => (xs.map fun x' => |x' - x|).sum).sum

theorem crpsOf_perm {xs xs' : List ℚ} (h : xs.Perm xs') (y : ℚ) : crpsOf xs y = crpsOf xs' y := by
  have hdistance := distanceSum_perm h y
  have hpairs := pairSum_perm h
  unfold distanceSum at hdistance
  unfold pairSum distanceSum at hpairs
  rw [crpsOf, crpsOf, hdistance, hpairs, h.length_eq]

/-- The score is not negative: it is at least the score that the triangle inequality bounds. -/
theorem crpsOf_nonneg {xs : List ℚ} (hxs : xs ≠ []) (y : ℚ) : 0 ≤ crpsOf xs y := by
  have hn : (0 : ℚ) < xs.length := by exact_mod_cast List.length_pos_iff.mpr hxs
  have hle := pairSum_le xs y
  have heq : crpsOf xs y = (2 * xs.length * distanceSum xs y - pairSum xs) / (2 * xs.length ^ 2) := by
    rw [crpsOf, pairSum, distanceSum]
    unfold distanceSum
    field_simp
  rw [heq]
  exact div_nonneg (sub_nonneg.mpr hle) (by positivity)

/-- The residuals of a distribution as rational numbers, in increasing order. -/
theorem pairwise_values (d : EmpiricalResidualDistribution) :
    (d.residualsF.map Decimal.value).Pairwise (· ≤ ·) :=
  List.Pairwise.map _ (fun _ _ h => (Decimal.le_iff _ _).mp h) d.sorted

/-- **In exact arithmetic the index weights give the double sum.** -/
theorem empiricalCrps_eq_ok (hf : f.Exact) (d : EmpiricalResidualDistribution) (observed : Decimal) :
    empiricalCrps f d observed = .ok (crpsOf (d.residualsF.map Decimal.value) observed.value) := by
  have hlength : d.residualsF.length ≠ 0 := by
    have := d.two
    omega
  have hn : (d.residualsF.length : ℚ) ≠ 0 := by exact_mod_cast hlength
  have hfirst : mean f (d.residualsF.map fun value => f.abs (f.sub (f.ofDecimal value) (f.ofDecimal observed))) =
      .ok (distanceSum (d.residualsF.map Decimal.value) observed.value / d.residualsF.length) := by
    rw [mean, List.length_map, hf.divCount _ hlength, hf.sum, distanceSum, List.map_map]
    simp only [hf.abs, hf.sub, hf.ofDecimal]
    rfl
  have hsum : (d.residualsF.zipIdx.map fun p =>
      (2 * (p.2 : ℚ) - (d.residualsF.length - 1)) * p.1.value).sum =
      pairSum (d.residualsF.map Decimal.value) / 2 := by
    have hsorted := weightedSum_of_sorted (pairwise_values d) 0
    rw [weightedSum, List.zipIdx_map, List.map_map, List.length_map] at hsorted
    rw [← hsorted]
    simp only [Function.comp_def, Prod.map_fst, Prod.map_snd, Nat.cast_zero, mul_zero, add_zero, id]
    ring
  have hsquare : d.residualsF.length * d.residualsF.length ≠ 0 := Nat.mul_ne_zero hlength hlength
  unfold empiricalCrps
  dsimp only
  rw [hfirst, ok_bind, mapM_eq_ok_map (g := fun p : Decimal × ℕ =>
    (2 * (p.2 : ℚ) - (d.residualsF.length - 1)) * p.1.value) ?weights, ok_bind, hf.sum, hsum,
    hf.divCount _ hsquare, ok_bind, hf.sub, crpsOf, List.length_map, pairSum, distanceSum]
  · unfold distanceSum
    push_cast
    rw [pure_eq_ok]
    congr 1
    field_simp
  case weights =>
    rintro ⟨value, index⟩ -
    dsimp only
    rw [hf.ofInt, ok_bind, hf.mul, hf.ofDecimal, pure_eq_ok]
    push_cast
    congr 2
    ring

/-- **The linear-time score is the continuous ranked probability score.** For residuals in any
order, with ties, it is the double sum, which is not negative; so the mean score of a distribution
passes the check of `CalibrationDiagnostics`. -/
theorem empiricalCrps_exact (f : Numerics CalibrationException ℚ) (hf : f.Exact)
    (residuals : List Decimal) (d : EmpiricalResidualDistribution)
    (h : EmpiricalResidualDistribution.new residuals = .ok d) :
    (∀ observed, empiricalCrps f d observed =
        .ok (crpsOf (residuals.map Decimal.value) observed.value) ∧
      0 ≤ crpsOf (residuals.map Decimal.value) observed.value) ∧
    ∀ observed : List Decimal, observed ≠ [] →
      ∃ score, meanCrps f (.empirical d) observed = .ok score ∧ f.finiteNonneg score = true := by
  have hperm : (d.residualsF.map Decimal.value).Perm (residuals.map Decimal.value) := by
    obtain ⟨_, -, hd⟩ := bind_eq_ok.mp h
    obtain rfl := Except.ok.inj hd
    exact (List.perm_insertionSort _ residuals).map _
  have hne : residuals.map Decimal.value ≠ [] := by
    have hlength := hperm.length_eq
    rw [List.length_map] at hlength
    have := d.two
    exact List.ne_nil_of_length_pos (by omega)
  have hscore : ∀ observed, empiricalCrps f d observed =
      .ok (crpsOf (residuals.map Decimal.value) observed.value) := by
    intro observed
    rw [empiricalCrps_eq_ok hf, crpsOf_perm hperm]
  have hnonneg := crpsOf_nonneg hne
  refine ⟨fun observed => ⟨hscore observed, hnonneg observed.value⟩, fun observed hobserved => ?_⟩
  have hscores : (observed.mapM fun value => crps f value (.empirical d)) =
      .ok (observed.map fun value => crpsOf (residuals.map Decimal.value) value.value) :=
    mapM_eq_ok_map fun value _ => hscore value
  have hcount : observed.length ≠ 0 := (List.length_pos_iff.mpr hobserved).ne'
  rw [meanCrps, raiseIf_of_not _ hobserved, ok_bind, hscores, ok_bind, mean, List.length_map,
    hf.divCount _ hcount, hf.sum]
  refine ⟨_, rfl, (hf.finiteNonneg _).mpr (div_nonneg (List.sum_nonneg ?_) (Nat.cast_nonneg _))⟩
  rw [List.forall_mem_map]
  exact fun value _ => hnonneg value.value

theorem FitSample.exact_numerics : FitSample.numerics.Exact where
  lit h := by
    show ((Decimal.ofText _).getD Decimal.zero).value = _
    rw [h]
    rfl
  ofInt _ := rfl
  ofDecimal _ := rfl
  ratio _ _ h := if_neg h
  add _ _ := rfl
  sub _ _ := rfl
  mul _ _ := rfl
  abs _ := rfl
  div _ _ h := if_neg h
  lt _ _ := rfl
  isFinite _ := rfl
  sum _ := rfl

/-- Three residuals, two of them equal: the score at one is 5/9. -/
theorem empiricalCrps_exact_three : ∃ d, EmpiricalResidualDistribution.new
      [⟨false, 2, 0⟩, ⟨false, 0, 0⟩, ⟨false, 20, 1⟩] = .ok d ∧
    empiricalCrps FitSample.numerics d ⟨false, 1, 0⟩ = .ok (5 / 9) := by
  obtain ⟨d, hd⟩ := exists_of_isOk (x := EmpiricalResidualDistribution.new
    [⟨false, 2, 0⟩, ⟨false, 0, 0⟩, ⟨false, 20, 1⟩]) (by decide)
  refine ⟨d, hd, ?_⟩
  rw [((empiricalCrps_exact _ FitSample.exact_numerics _ d hd).1 ⟨false, 1, 0⟩).1]
  decide +kernel

end WeatherBot.Forecasting
