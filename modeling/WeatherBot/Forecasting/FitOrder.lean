import WeatherBot.Common.SortKey
import WeatherBot.Forecasting.Fit

/-!
# What a fit depends on

The samples of a fit are sorted before they are used, and a group is fitted on
samples of its window only.

* `validateCalibrationSamples_perm`: the order of the samples does not matter: two
  samples that the sort does not tell apart have one identity, which is refused.
* `fit_orderIndependent_and_local`: **a permutation of the samples gives the same
  result, and samples outside the training window change no group.**
-/

namespace WeatherBot.Forecasting

open WeatherBot.Common
open WeatherBot.Domain

/-! ## Order -/

/-- The key of the sort and the identity tell the same samples apart: there is one source. -/
theorem identity_eq_iff {a b : CalibrationSample} :
    a.identity = b.identity ↔ sampleKey a = sampleKey b := by
  constructor
  · intro h
    simp only [CalibrationSample.identity, Prod.mk.injEq] at h
    obtain ⟨hcity, -, hdate, hlead, hstation, hbasis⟩ := h
    rw [sampleKey, sampleKey, hdate, hcity, hlead, hstation, hbasis]
  · intro h
    obtain ⟨hdate, h⟩ := Prod.mk.inj (toLex.injective h)
    obtain ⟨hcity, h⟩ := Prod.mk.inj (toLex.injective h)
    obtain ⟨hlead, h⟩ := Prod.mk.inj (toLex.injective h)
    obtain ⟨hstation, hbasis⟩ := Prod.mk.inj (toLex.injective h)
    have hsource : a.forecastSource = b.forecastSource := by
      cases a.forecastSource
      cases b.forecastSource
      rfl
    rw [CalibrationSample.identity, CalibrationSample.identity, hsource, dateKey_inj hdate, hcity, hlead,
      hstation, hbasis]

theorem orderedSamples_perm (l : List CalibrationSample) : (orderedSamples l).Perm l :=
  List.perm_insertionSort _ l

theorem pairwise_orderedSamples (l : List CalibrationSample) :
    (orderedSamples l).Pairwise fun a b => sampleKey a ≤ sampleKey b :=
  SortKey.pairwise_sort sampleKey l

/-- Different identities are different keys. -/
theorem nodup_sampleKey {l : List CalibrationSample}
    (h : (l.map CalibrationSample.identity).Nodup) : (l.map sampleKey).Nodup := by
  rw [List.Nodup, List.pairwise_map] at *
  exact h.imp fun hne heq => hne (identity_eq_iff.mpr heq)

/-- Sorted samples with different identities are determined by what they are. -/
theorem eq_of_sorted {l l' : List CalibrationSample} (hp : l.Perm l')
    (h : l.Pairwise fun a b => sampleKey a ≤ sampleKey b)
    (h' : l'.Pairwise fun a b => sampleKey a ≤ sampleKey b)
    (hnodup : (l.map CalibrationSample.identity).Nodup) : l = l' :=
  SortKey.eq_of_perm hp h h' (nodup_sampleKey hnodup)

/-- Lists with the same keys have the same identities. -/
theorem identities_eq {l l' : List CalibrationSample} (h : l.map sampleKey = l'.map sampleKey) :
    l.map CalibrationSample.identity = l'.map CalibrationSample.identity := by
  induction l generalizing l' with
  | nil =>
    cases l' with
    | nil => rfl
    | cons b l' => cases h
  | cons a l ih =>
    cases l' with
    | nil => cases h
    | cons b l' =>
      obtain ⟨hkey, hrest⟩ := List.cons.inj h
      rw [List.map_cons, List.map_cons, identity_eq_iff.mpr hkey, ih hrest]

variable {rt : Runtime}

/-- Identities that pass the check are different. -/
theorem nodup_of_checkUnique {seen l : List SampleIdentity} {u : Unit}
    (h : checkUnique rt seen l = .ok u) : l.Nodup ∧ ∀ x ∈ l, x ∉ seen := by
  induction l generalizing seen with
  | nil => exact ⟨List.nodup_nil, nofun⟩
  | cons x l ih =>
    rw [checkUnique, raiseIf_bind_eq_ok] at h
    obtain ⟨hx, h⟩ := h
    obtain ⟨hnodup, hseen⟩ := ih h
    refine ⟨List.nodup_cons.mpr ⟨fun hmem => hseen x hmem (List.mem_cons_self ..), hnodup⟩, ?_⟩
    intro y hy
    rcases List.mem_cons.mp hy with rfl | hy
    · exact hx
    · exact fun hmem => hseen y hy (List.mem_cons_of_mem _ hmem)

/-- What is validated: the samples in order, with different identities. -/
theorem validateCalibrationSamples_eq_ok {l ordered : List CalibrationSample}
    (h : validateCalibrationSamples rt l = .ok ordered) :
    ordered = orderedSamples l ∧ (ordered.map CalibrationSample.identity).Nodup := by
  rw [validateCalibrationSamples, raiseIf_bind_eq_ok, check_bind_eq_ok] at h
  obtain ⟨-, hunique, h⟩ := h
  cases h
  exact ⟨rfl, (nodup_of_checkUnique hunique).1⟩

/-- **The order of the samples does not matter.** -/
theorem validateCalibrationSamples_perm {l l' : List CalibrationSample} (hp : l.Perm l') :
    validateCalibrationSamples rt l = validateCalibrationSamples rt l' := by
  have hordered : (orderedSamples l).Perm (orderedSamples l') :=
    (orderedSamples_perm l).trans (hp.trans (orderedSamples_perm l').symm)
  have hidentities : (orderedSamples l).map CalibrationSample.identity =
      (orderedSamples l').map CalibrationSample.identity :=
    identities_eq (SortKey.map_eq_of_perm hordered (pairwise_orderedSamples l)
      (pairwise_orderedSamples l'))
  have hempty : orderedSamples l = [] ↔ orderedSamples l' = [] :=
    ⟨fun h => (h ▸ hordered).nil_eq.symm, fun h => (h ▸ hordered).eq_nil⟩
  unfold validateCalibrationSamples
  dsimp only
  rw [hidentities]
  simp only [hempty]
  cases hunique : checkUnique rt [] ((orderedSamples l').map CalibrationSample.identity) with
  | error e => rfl
  | ok u =>
    -- different identities: the sort has one result
    have hnodup := (nodup_of_checkUnique hunique).1
    rw [← hidentities] at hnodup
    rw [eq_of_sorted hordered (pairwise_orderedSamples l) (pairwise_orderedSamples l') hnodup]

/-! ## The training window -/

theorem within_perm {first last : Date} {l l' : List CalibrationSample} (hp : l.Perm l') :
    (within first last l).Perm (within first last l') :=
  hp.filter _

/-- The validated samples of a window are determined by the samples of the window. -/
theorem within_validated_eq {first last : Date} {l l' ordered ordered' : List CalibrationSample}
    (hp : (within first last l).Perm (within first last l'))
    (h : validateCalibrationSamples rt l = .ok ordered)
    (h' : validateCalibrationSamples rt l' = .ok ordered') :
    within first last ordered = within first last ordered' := by
  obtain ⟨rfl, hnodup⟩ := validateCalibrationSamples_eq_ok h
  obtain ⟨rfl, -⟩ := validateCalibrationSamples_eq_ok h'
  have hperm : (within first last (orderedSamples l)).Perm (within first last (orderedSamples l')) :=
    (within_perm (orderedSamples_perm l)).trans (hp.trans (within_perm (orderedSamples_perm l').symm))
  refine eq_of_sorted hperm ((pairwise_orderedSamples l).filter _)
    ((pairwise_orderedSamples l').filter _) ?_
  exact hnodup.sublist (List.filter_sublist.map _)

variable {F : Type} {f : Numerics CalibrationException F}

/-- The groups of an artifact are those of the validated training samples. -/
theorem groups_of_fit {r : FitRequest} {l : List CalibrationSample} {result : V3CalibrationFitResult F}
    (h : fitV3CalibrationArtifact f rt r l = .ok result) :
    ∃ ordered fitted, validateCalibrationSamples rt l = .ok ordered ∧
      fitGroups f rt r (within r.trainingStart r.trainingEnd ordered) = .ok fitted ∧
      result.artifact.groups = CalibrationArtifact.sortedGroups fitted.groups ∧
      result.groupFitDecisions = fitted.decisions := by
  obtain ⟨ordered, hordered, h⟩ := bind_eq_ok.mp h
  simp only [raiseIf_bind_eq_ok] at h
  obtain ⟨-, -, -, -, -, h⟩ := h
  obtain ⟨fitted, hfitted, h⟩ := bind_eq_ok.mp h
  rw [raiseIf_bind_eq_ok] at h
  obtain ⟨artifact, hartifact, h⟩ := bind_eq_ok.mp h.2
  obtain ⟨validation, -, h⟩ := bind_eq_ok.mp h
  cases h
  refine ⟨ordered, fitted, hordered, hfitted, ?_, rfl⟩
  simp only [CalibrationArtifact.new, raiseIf_bind_eq_ok] at hartifact
  obtain ⟨-, -, -, -, hartifact⟩ := hartifact
  obtain ⟨created, -, hartifact⟩ := bind_eq_ok.mp hartifact
  rw [raiseIf_bind_eq_ok, raiseIf_bind_eq_ok, raiseIf_bind_eq_ok] at hartifact
  obtain ⟨-, -, -, hartifact⟩ := hartifact
  obtain ⟨digest, -, hartifact⟩ := bind_eq_ok.mp hartifact
  simp only [raiseIf_bind_eq_ok] at hartifact
  obtain ⟨-, -, -, -, hartifact⟩ := hartifact
  exact (congrArg CalibrationArtifact.groups (Except.ok.inj hartifact)).symm

/-- Samples outside both windows change nothing, as long as all samples are valid. -/
theorem fit_eq_of_windows {r : FitRequest} {l l' ordered' : List CalibrationSample}
    {result : V3CalibrationFitResult F}
    (htraining : (within r.trainingStart r.trainingEnd l).Perm (within r.trainingStart r.trainingEnd l'))
    (hvalidation : (within r.validationStart r.validationEnd l).Perm
      (within r.validationStart r.validationEnd l'))
    (h : fitV3CalibrationArtifact f rt r l = .ok result)
    (h' : validateCalibrationSamples rt l' = .ok ordered') :
    fitV3CalibrationArtifact f rt r l' = .ok result := by
  obtain ⟨ordered, hordered, -⟩ := bind_eq_ok.mp h
  rw [← h, fitV3CalibrationArtifact, fitV3CalibrationArtifact, hordered, h', ok_bind, ok_bind,
    within_validated_eq htraining hordered h', within_validated_eq hvalidation hordered h']

/-- **A permutation of the samples gives the same result, and samples outside the training window change
no group.** -/
theorem fit_orderIndependent_and_local (f : Numerics CalibrationException F) (rt : Runtime)
    (r : FitRequest) :
    (∀ l l' : List CalibrationSample, l.Perm l' →
      fitV3CalibrationArtifact f rt r l = fitV3CalibrationArtifact f rt r l') ∧
    ∀ (l l' : List CalibrationSample) (result result' : V3CalibrationFitResult F),
      (within r.trainingStart r.trainingEnd l).Perm (within r.trainingStart r.trainingEnd l') →
      fitV3CalibrationArtifact f rt r l = .ok result → fitV3CalibrationArtifact f rt r l' = .ok result' →
      result.artifact.groups = result'.artifact.groups ∧
        result.groupFitDecisions = result'.groupFitDecisions := by
  constructor
  · intro l l' hp
    rw [fitV3CalibrationArtifact, fitV3CalibrationArtifact, validateCalibrationSamples_perm hp]
  · intro l l' result result' hp h h'
    obtain ⟨ordered, fitted, hordered, hfitted, hgroups, hdecisions⟩ := groups_of_fit h
    obtain ⟨ordered', fitted', hordered', hfitted', hgroups', hdecisions'⟩ := groups_of_fit h'
    rw [within_validated_eq hp hordered hordered', hfitted', Except.ok.injEq] at hfitted
    subst hfitted
    exact ⟨hgroups.trans hgroups'.symm, hdecisions.trans hdecisions'.symm⟩

namespace FitSample

/-- Rational numbers in place of floats, with coarse transcendental functions. -/
def numerics : Numerics CalibrationException ℚ where
  lit s := ((Decimal.ofText s).getD Decimal.zero).value
  pi := 355 / 113
  ofText s := ((Decimal.ofText s).getD Decimal.zero).value
  repr x := toString x.num ++ "/" ++ toString x.den
  ofInt n := .ok n
  ofDecimal d := d.value
  toInt x := .ok (if x < 0 then ⌈x⌉ else ⌊x⌋)
  ratio m n := if n = 0 then .error (.raised (.valueError "division by zero")) else .ok (m / n)
  add := (· + ·)
  sub := (· - ·)
  mul := (· * ·)
  neg x := -x
  abs x := |x|
  div x y := if y = 0 then .error (.raised (.valueError "float division by zero")) else .ok (x / y)
  pow x y := .ok (x ^ y.num.toNat)
  lt x y := decide (x < y)
  le x y := decide (x ≤ y)
  isFinite _ := true
  isClose x y tolerance := decide (|x - y| ≤ tolerance)
  sqrt x := .ok x
  exp _ := .ok 1
  log x := .ok (x - 1)
  erf x := if x < 0 then -1 else if 0 < x then 1 else 0
  sum := List.sum
  decimalSquare d := some (d * d)
  decimalSqrt d := some d

def digest : String := String.ofList (List.replicate 64 '0')

/-- A forecast of 30 degrees for a day of January, and what was observed. -/
def sample (day : ℕ) (h : 1 ≤ day ∧ day ≤ 31) (observed : ℕ) : CalibrationSample where
  city := "nyc"
  climateRegion := "northeast"
  forecastSource := .openMeteoEcmwfIfs025
  marketDate := ⟨2026, 1, day, by decide, by decide, by decide, by decide, h.1, h.2⟩
  leadDays := 1
  forecastTemperatureF := ⟨false, 30, 0⟩
  observedTemperatureF := ⟨false, observed, 0⟩
  forecastAsOfUtc := ⟨⟨2025, 12, 31, by decide⟩, 0, 0, 0, 0, 0, by decide⟩
  observationFinalizedAtUtc := ⟨⟨2026, 2, 1, by decide⟩, 0, 0, 0, 0, 0, by decide⟩
  observationSource := "metar"
  stationId := "KLGA"
  measurementBasis := "daily high"
  forecastPayloadSha256 := digest
  observationPayloadSha256 := digest

def request : FitRequest where
  modelVersion := "v3"
  createdAtUtc := ⟨⟨2026, 2, 2, by decide⟩, 0, 0, 0, 0, 0, by decide⟩
  forecastContractId := "f"
  observationContractId := "o"
  trainingStart := Sample.newYear
  trainingEnd := ⟨2026, 1, 5, by decide⟩
  validationStart := ⟨2026, 1, 8, by decide⟩
  validationEnd := ⟨2026, 1, 31, by decide⟩
  datasetSha256 := digest
  minSampleCount := 2

/-- Three training samples, and a validation sample with an observation. -/
def samples (observed : ℕ) : List CalibrationSample :=
  [sample 1 (by decide) 29, sample 2 (by decide) 30, sample 3 (by decide) 31,
    sample 10 (by decide) observed]

/-- The samples in another order, with one between the two windows. -/
def moreSamples : List CalibrationSample := sample 6 (by decide) 20 :: (samples 30).reverse

end FitSample

/-- Another order and a sample outside the windows: the fit of the three training samples stays. -/
theorem fit_orderIndependent_and_local_samples :
    fitV3CalibrationArtifact FitSample.numerics .utc FitSample.request (FitSample.samples 30) =
      fitV3CalibrationArtifact FitSample.numerics .utc FitSample.request (FitSample.samples 30).reverse ∧
    ∃ result result',
      fitV3CalibrationArtifact FitSample.numerics .utc FitSample.request (FitSample.samples 30) =
        .ok result ∧
      fitV3CalibrationArtifact FitSample.numerics .utc FitSample.request FitSample.moreSamples =
        .ok result' ∧
      result.artifact.groups = result'.artifact.groups := by
  obtain ⟨hperm, hlocal⟩ :=
    fit_orderIndependent_and_local FitSample.numerics .utc FitSample.request
  have hfit : (fitV3CalibrationArtifact FitSample.numerics .utc FitSample.request
      (FitSample.samples 30)).isOk = true := by decide +kernel
  have hvalid : (validateCalibrationSamples .utc FitSample.moreSamples).isOk = true := by decide
  have htraining : (within FitSample.request.trainingStart FitSample.request.trainingEnd
      (FitSample.samples 30)).Perm (within FitSample.request.trainingStart
        FitSample.request.trainingEnd FitSample.moreSamples) := by decide
  have hvalidation : (within FitSample.request.validationStart FitSample.request.validationEnd
      (FitSample.samples 30)).Perm (within FitSample.request.validationStart
        FitSample.request.validationEnd FitSample.moreSamples) := by decide
  obtain ⟨result, hresult⟩ := exists_of_isOk hfit
  obtain ⟨ordered, hordered⟩ := exists_of_isOk hvalid
  have hmore := fit_eq_of_windows htraining hvalidation hresult hordered
  exact ⟨hperm _ _ (List.reverse_perm _).symm, result, result, hresult, hmore,
    (hlocal _ _ _ _ htraining hresult hmore).1⟩

end WeatherBot.Forecasting
