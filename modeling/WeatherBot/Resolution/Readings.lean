import WeatherBot.Common.DecimalQuotient
import WeatherBot.Common.SortKey
import WeatherBot.Markets.TemperatureIntervals
import WeatherBot.Resolution.Wunderground

/-!
# The readings of a series

A reading is a row with a temperature. The series may have them in any order, and
rows without a temperature between them.

* `displayFahrenheit_mono`: the Fahrenheit display keeps the order of Celsius numbers,
  so that it does not matter whether the highest reading is taken before or after it.
* `normalizeRow_foldlM`: the loop over the rows is a loop over the readings.
* `normalizeObservations_eq_ok_of_perm`: **what it returns does not depend on their
  order.**
-/

namespace WeatherBot.Resolution

open WeatherBot.Common
open WeatherBot.Domain
open WeatherBot.Markets (quantizeHalfUp quantizeHalfUp_spec IsIntegral)
open WeatherBot.Forecasting (getValue)

variable {rt : Runtime} {lib : HistoryLibrary}

/-! ## The display -/

/-- Half-up, ties away from zero. -/
def halfUp (x : ℚ) : ℤ := if x < 0 then -⌊-x + 1 / 2⌋ else ⌊x + 1 / 2⌋

/-- **The rounding of `quantize`.** -/
theorem value_quantizeHalfUp {d r : Decimal} (h : quantizeHalfUp d = some r) :
    r.value = halfUp d.value := by
  obtain ⟨-, n, hvalue, -, hside⟩ := quantizeHalfUp_spec h
  rw [hvalue]
  have hat := hside n
  have habove := hside (n + 1)
  rw [iff_false_left (lt_irrefl n), not_or, not_lt, not_and] at hat
  rw [iff_true_left (lt_add_one n)] at habove
  push_cast at habove
  have hn : n = halfUp d.value := by
    unfold halfUp
    split_ifs with hneg
    · have hlow : (n : ℚ) - 1 / 2 < d.value :=
        lt_of_le_of_ne hat.1 fun heq => hat.2 heq.symm hneg
      have hhigh : d.value ≤ n + 1 / 2 := by
        rcases habove with h | ⟨h, -⟩
        · linarith
        · linarith
      rw [eq_neg_iff_add_eq_zero, add_comm, ← eq_neg_iff_add_eq_zero, Int.floor_eq_iff]
      push_cast
      constructor
      · linarith
      · linarith
    · have hhigh : d.value < n + 1 / 2 := by
        rcases habove with h | ⟨-, h⟩
        · linarith
        · exact absurd h hneg
      rw [eq_comm, Int.floor_eq_iff]
      constructor
      · linarith [hat.1]
      · linarith
  rw [← hn]

theorem halfUp_mono {x y : ℚ} (h : x ≤ y) : halfUp x ≤ halfUp y := by
  unfold halfUp
  split_ifs with hx hy hy
  · exact neg_le_neg (Int.floor_le_floor (by linarith))
  · have h1 : 0 ≤ ⌊-x + 1 / 2⌋ := Int.floor_nonneg.mpr (by linarith)
    have h2 : 0 ≤ ⌊y + 1 / 2⌋ := Int.floor_nonneg.mpr (by linarith)
    omega
  · exact absurd (lt_of_le_of_lt h hy) hx
  · exact Int.floor_le_floor (by linarith)

/-- The Fahrenheit number of a Celsius number, each step in 28 digits. -/
def roundedFahrenheit (celsius : ℚ) : ℚ := round28 (round28 (round28 (celsius * 9) / 5) + 32)

theorem value_fahrenheitOf (celsius : Decimal) :
    (fahrenheitOf celsius).value = roundedFahrenheit celsius.value := by
  have h9 : (⟨false, 9, 0⟩ : Decimal).value = 9 := by norm_num [Decimal.value, Decimal.signed]
  have h5 : (⟨false, 5, 0⟩ : Decimal).value = 5 := by norm_num [Decimal.value, Decimal.signed]
  have h32 : (⟨false, 32, 0⟩ : Decimal).value = 32 := by norm_num [Decimal.value, Decimal.signed]
  rw [fahrenheitOf, Decimal.value_add, Decimal.value_truediv _ _ (by decide), Decimal.value_mul, h9, h5,
    h32, roundedFahrenheit]

theorem roundedFahrenheit_mono {x y : ℚ} (h : x ≤ y) : roundedFahrenheit x ≤ roundedFahrenheit y := by
  have hmul : round28 (x * 9) ≤ round28 (y * 9) :=
    round28_mono (mul_le_mul_of_nonneg_right h (by norm_num))
  have hdiv : round28 (round28 (x * 9) / 5) ≤ round28 (round28 (y * 9) / 5) :=
    round28_mono (div_le_div_of_nonneg_right hmul (by norm_num))
  exact round28_mono (add_le_add_left hdiv 32)

/-- A number of at most 28 digits is not rounded. -/
theorem round28_eq_self {n e : ℤ} (h : n.natAbs < 10 ^ precision) :
    round28 (n * 10 ^ e) = n * 10 ^ e := by
  rw [round28_mul_pow, ctxRound_of_lt h]

/-- **Nothing is rounded before the display**, for a number with as many digits as a float has. -/
theorem roundedFahrenheit_exact {celsius : Decimal} (hcoeff : celsius.coeff < 10 ^ 17)
    (hscale : celsius.scale ≤ 20) : roundedFahrenheit celsius.value = celsius.value * 9 / 5 + 32 := by
  have hsigned := celsius.signed_natAbs
  have hten : (10 : ℚ) ≠ 0 := by norm_num
  have hvalue := celsius.value_eq_zpow
  rw [Decimal.exponent] at hvalue
  set s := celsius.signed with hs
  set k := celsius.scale with hk
  have hmul : celsius.value * 9 = ((s * 9 : ℤ) : ℚ) * 10 ^ (-(k : ℤ)) := by
    rw [hvalue]
    push_cast
    ring
  have hsplit : (10 : ℚ) ^ (-(k : ℤ)) = 10 * 10 ^ (-(k : ℤ) - 1) := by
    rw [zpow_sub₀ hten, zpow_one]
    field_simp
  have hdiv : celsius.value * 9 / 5 = ((s * 18 : ℤ) : ℚ) * 10 ^ (-(k : ℤ) - 1) := by
    rw [hvalue, hsplit]
    push_cast
    ring
  have hadd : celsius.value * 9 / 5 + 32 =
      ((s * 18 + 32 * 10 ^ (k + 1) : ℤ) : ℚ) * 10 ^ (-(k : ℤ) - 1) := by
    have hpow : (10 : ℚ) ^ (k + 1) * 10 ^ (-(k : ℤ) - 1) = 1 := by
      rw [← zpow_natCast, ← zpow_add₀ hten]
      push_cast
      rw [show ((k : ℤ) + 1 + (-(k : ℤ) - 1)) = 0 by ring, zpow_zero]
    rw [hdiv]
    push_cast
    rw [add_mul, mul_assoc 32, hpow, mul_one]
  have hpow20 : (10 : ℕ) ^ (k + 1) ≤ 10 ^ 21 := Nat.pow_le_pow_right (by norm_num) (by omega)
  have hsum : (s * 18 + 32 * 10 ^ (k + 1) : ℤ).natAbs < 10 ^ precision := by
    have h1 := Int.natAbs_add_le (s * 18) (32 * 10 ^ (k + 1))
    have h2 : (s * 18).natAbs = s.natAbs * 18 := Int.natAbs_mul ..
    have h3 : ((32 : ℤ) * 10 ^ (k + 1)).natAbs = 32 * 10 ^ (k + 1) := by
      rw [Int.natAbs_mul, Int.natAbs_pow]
      rfl
    rw [h2, h3, hsigned] at h1
    have h4 : celsius.coeff * 18 + 32 * 10 ^ (k + 1) < 10 ^ precision := by
      norm_num [precision] at hcoeff hpow20 ⊢
      omega
    exact h1.trans_lt h4
  have h9 : (s * 9).natAbs < 10 ^ precision := by
    rw [Int.natAbs_mul, hsigned]
    norm_num [precision] at hcoeff ⊢
    omega
  have h18 : (s * 18).natAbs < 10 ^ precision := by
    rw [Int.natAbs_mul, hsigned]
    norm_num [precision] at hcoeff ⊢
    omega
  rw [roundedFahrenheit, hmul, round28_eq_self h9, ← hmul, hdiv, round28_eq_self h18, ← hdiv, hadd,
    round28_eq_self hsum]

/-- **The display of a Celsius number.** -/
theorem value_displayFahrenheit {celsius f : Decimal} (h : displayFahrenheit celsius = .ok f) :
    f.value = halfUp (roundedFahrenheit celsius.value) ∧ IsIntegral f := by
  unfold displayFahrenheit at h
  cases hround : quantizeHalfUp (fahrenheitOf celsius) with
  | none =>
    rw [hround] at h
    cases h
  | some r =>
    rw [hround] at h
    cases h
    have hvalue := value_quantizeHalfUp hround
    rw [value_fahrenheitOf] at hvalue
    exact ⟨hvalue, Markets.isIntegral_of_value hvalue⟩

/-- **The display keeps the order of Celsius numbers.** -/
theorem displayFahrenheit_mono {a b f g : Decimal} (hf : displayFahrenheit a = .ok f)
    (hg : displayFahrenheit b = .ok g) (h : a.value ≤ b.value) : f.value ≤ g.value := by
  rw [(value_displayFahrenheit hf).1, (value_displayFahrenheit hg).1]
  exact_mod_cast halfUp_mono (roundedFahrenheit_mono h)

/-! ## The loop -/

/-- A row with a temperature. -/
def isReading (row : Row) : Bool :=
  match getValue row "temp" with
  | .null => false
  | _ => true

/-- The rows with a temperature. -/
def readings (rows : List Row) : List Row := rows.filter isReading

/-- What a reading becomes, apart from its place among the others. -/
def observationOf (rt : Runtime) (lib : HistoryLibrary) (marketDate : Date) (marketTimezone : String)
    (row : Row) : Except HistoryError WeatherUndergroundObservation := do
  let timestampMs ← integer (getValue row "ts") "Weather Underground observation timestamp"
  let timestampUtc ← (lib.fromtimestamp timestampMs).mapError .raised
  match rt.localDate marketTimezone timestampUtc.1.instant with
  | none => throw (.raised ⟨.overflowError, "date value out of range"⟩)
  | some localDate => do
    raiseIf (localDate ≠ marketDate) (.weatherUndergroundHistoryError
      "Weather Underground observation series contains a timestamp outside the requested local day")
    let temperatureF ← embeddedCelsiusToDisplayFahrenheit lib (getValue row "temp")
    WeatherUndergroundObservation.new ⟨timestampUtc.1, temperatureF⟩

theorem observation_new {t : {t : DateTime // t.utcoffset = 0}} {f : Decimal}
    {o : WeatherUndergroundObservation}
    (h : WeatherUndergroundObservation.new ⟨t.1, f⟩ = .ok o) : o = ⟨t.1, f⟩ := by
  rw [WeatherUndergroundObservation.new, raiseIf_bind_eq_ok] at h
  obtain ⟨-, h⟩ := h
  rw [DateTime.astimezoneUtc_of_utc t.2] at h
  cases h
  rfl

variable {marketDate : Date} {marketTimezone : String}

/-- The parts of a reading. -/
theorem observationOf_eq_ok {row : Row} {o : WeatherUndergroundObservation}
    (h : observationOf rt lib marketDate marketTimezone row = .ok o) :
    (∃ ms t, getValue row "ts" = .int ms ∧ lib.fromtimestamp ms = .ok t ∧ o.timestampUtc = t.1) ∧
      embeddedCelsiusToDisplayFahrenheit lib (getValue row "temp") = .ok o.temperatureF := by
  obtain ⟨ms, hms, h⟩ := bind_eq_ok.mp h
  obtain ⟨t, ht, h⟩ := bind_eq_ok.mp h
  rw [mapError_eq_ok] at ht
  cases hlocal : rt.localDate marketTimezone t.1.instant with
  | none =>
    rw [hlocal] at h
    cases h
  | some localDate =>
    rw [hlocal] at h
    dsimp only at h
    rw [raiseIf_bind_eq_ok] at h
    obtain ⟨f, hf, h⟩ := bind_eq_ok.mp h.2
    rw [observation_new h]
    refine ⟨⟨ms, t, ?_, ht, rfl⟩, hf⟩
    cases hvalue : getValue row "ts" with
    | int n =>
      rw [hvalue] at hms
      cases hms
      rfl
    | _ =>
      rw [hvalue] at hms
      cases hms

/-- A reading in the loop: it is of a new time. -/
theorem normalizeReading_eq_ok {s s' : Normalizing} {row : Row} :
    normalizeReading rt lib marketDate marketTimezone s row = .ok s' ↔
      ∃ o, observationOf rt lib marketDate marketTimezone row = .ok o ∧
        (∀ t ∈ s.seenTimestamps, t.instant ≠ o.timestampUtc.instant) ∧
        s' = ⟨s.observations ++ [o], o.timestampUtc :: s.seenTimestamps⟩ := by
  have hnew : ∀ (t : {t : DateTime // t.utcoffset = 0}),
      ¬ (∃ u ∈ s.seenTimestamps, u.SameInstant t.1) ↔
        ∀ u ∈ s.seenTimestamps, u.instant ≠ t.1.instant := by
    intro t
    rw [not_exists]
    exact forall_congr' fun u => not_and
  unfold normalizeReading observationOf
  constructor
  · intro h
    obtain ⟨ms, hms, h⟩ := bind_eq_ok.mp h
    obtain ⟨t, ht, h⟩ := bind_eq_ok.mp h
    rw [hms, ok_bind, ht, ok_bind]
    cases hlocal : rt.localDate marketTimezone t.1.instant with
    | none =>
      rw [hlocal] at h
      cases h
    | some localDate =>
      rw [hlocal] at h
      dsimp only at h ⊢
      rw [raiseIf_bind_eq_ok, raiseIf_bind_eq_ok, hnew] at h
      obtain ⟨hdate, hseen, h⟩ := h
      obtain ⟨f, hf, h⟩ := bind_eq_ok.mp h
      obtain ⟨o, ho, h⟩ := bind_eq_ok.mp h
      cases h
      rw [raiseIf_of_not _ hdate, ok_bind, hf, ok_bind]
      obtain rfl := observation_new ho
      exact ⟨_, ho, hseen, rfl⟩
  · rintro ⟨o, h, hseen, rfl⟩
    obtain ⟨ms, hms, h⟩ := bind_eq_ok.mp h
    obtain ⟨t, ht, h⟩ := bind_eq_ok.mp h
    rw [hms, ok_bind, ht, ok_bind]
    cases hlocal : rt.localDate marketTimezone t.1.instant with
    | none =>
      rw [hlocal] at h
      cases h
    | some localDate =>
      rw [hlocal] at h
      dsimp only at h ⊢
      rw [raiseIf_bind_eq_ok] at h
      obtain ⟨hdate, h⟩ := h
      obtain ⟨f, hf, h⟩ := bind_eq_ok.mp h
      obtain rfl := observation_new h
      rw [raiseIf_of_not _ hdate, ok_bind, raiseIf_of_not _ ((hnew t).mpr hseen), ok_bind, hf, ok_bind,
        h, ok_bind]
      rfl

theorem normalizeRow_of_reading {s : Normalizing} {row : Row} (h : isReading row = true) :
    normalizeRow rt lib marketDate marketTimezone s row =
      normalizeReading rt lib marketDate marketTimezone s row := by
  unfold normalizeRow
  unfold isReading at h
  cases htemp : getValue row "temp" with
  | null =>
    rw [htemp] at h
    cases h
  | _ => rfl

theorem normalizeRow_of_not_reading {s : Normalizing} {row : Row} (h : isReading row = false) :
    normalizeRow rt lib marketDate marketTimezone s row = .ok s := by
  unfold normalizeRow
  unfold isReading at h
  cases htemp : getValue row "temp" with
  | null => rfl
  | _ =>
    rw [htemp] at h
    cases h

/-- **The loop over the rows is a loop over the readings**, whose times are new and different. -/
theorem normalizeRow_foldlM {rows : List Row} {s s' : Normalizing} :
    rows.foldlM (normalizeRow rt lib marketDate marketTimezone) s = .ok s' ↔
      ∃ os, (readings rows).mapM (observationOf rt lib marketDate marketTimezone) = .ok os ∧
        (os.map (·.timestampUtc.instant)).Nodup ∧
        (∀ t ∈ s.seenTimestamps, ∀ o ∈ os, t.instant ≠ o.timestampUtc.instant) ∧
        s' = ⟨s.observations ++ os, (os.map (·.timestampUtc)).reverse ++ s.seenTimestamps⟩ := by
  induction rows generalizing s with
  | nil =>
    constructor
    · intro h
      cases h
      exact ⟨[], rfl, List.nodup_nil, fun _ _ _ ho => absurd ho List.not_mem_nil, by simp⟩
    · rintro ⟨os, hos, -, -, rfl⟩
      cases hos
      simp
  | cons row rows ih =>
    rw [foldlM_cons_eq_ok]
    cases hrow : isReading row with
    | false =>
      have hreadings : readings (row :: rows) = readings rows := List.filter_cons_of_neg (by simp [hrow])
      rw [hreadings, normalizeRow_of_not_reading hrow, ← ih]
      constructor
      · rintro ⟨t, ht, h⟩
        cases ht
        exact h
      · intro h
        exact ⟨s, rfl, h⟩
    | true =>
      have hreadings : readings (row :: rows) = row :: readings rows := List.filter_cons_of_pos hrow
      rw [hreadings, normalizeRow_of_reading hrow]
      constructor
      · rintro ⟨t, ht, h⟩
        obtain ⟨o, ho, hfresh, rfl⟩ := normalizeReading_eq_ok.mp ht
        obtain ⟨os, hos, hnodup, hseen, rfl⟩ := ih.mp h
        refine ⟨o :: os, ?_, ?_, ?_, by simp⟩
        · rw [List.mapM_cons, ho, ok_bind, hos, ok_bind]
          rfl
        · rw [List.map_cons, List.nodup_cons]
          refine ⟨fun hmem => ?_, hnodup⟩
          obtain ⟨o', ho', heq⟩ := List.mem_map.mp hmem
          exact hseen _ (List.mem_cons_self ..) o' ho' heq.symm
        · intro u hu o' ho'
          rcases List.mem_cons.mp ho' with rfl | ho'
          · exact hfresh u hu
          · exact hseen u (List.mem_cons_of_mem _ hu) o' ho'
      · rintro ⟨os, hos, hnodup, hseen, rfl⟩
        rw [List.mapM_cons] at hos
        obtain ⟨o, ho, hos⟩ := bind_eq_ok.mp hos
        obtain ⟨rest, hrest, hos⟩ := bind_eq_ok.mp hos
        cases hos
        rw [List.map_cons, List.nodup_cons] at hnodup
        refine ⟨_, normalizeReading_eq_ok.mpr ⟨o, ho, fun t ht => hseen t ht o (List.mem_cons_self ..), rfl⟩,
          ih.mpr ⟨rest, hrest, hnodup.2, ?_, by simp⟩⟩
        intro t ht o' ho'
        rcases List.mem_cons.mp ht with rfl | ht
        · exact fun heq => hnodup.1 (List.mem_map.mpr ⟨o', ho', heq.symm⟩)
        · exact hseen t ht o' (List.mem_cons_of_mem _ ho')

/-! ## The readings in order -/

/-- When the readings are normalized, and to what. -/
theorem normalizeObservations_eq_ok {rows : List Row} {l : List WeatherUndergroundObservation} :
    normalizeObservations rt lib rows marketDate marketTimezone = .ok l ↔
      rt.zoneKnown marketTimezone = true ∧
      ∃ os, (readings rows).mapM (observationOf rt lib marketDate marketTimezone) = .ok os ∧
        (os.map (·.timestampUtc.instant)).Nodup ∧ os ≠ [] ∧ l = sortedObservations os := by
  rw [normalizeObservations, raiseIf_bind_eq_ok, Bool.not_eq_false]
  refine and_congr_right fun _ => ?_
  constructor
  · intro h
    obtain ⟨s, hs, h⟩ := bind_eq_ok.mp h
    obtain ⟨os, hos, hnodup, -, rfl⟩ := normalizeRow_foldlM.mp hs
    rw [raiseIf_bind_eq_ok] at h
    obtain ⟨hne, h⟩ := h
    cases h
    exact ⟨os, hos, hnodup, hne, rfl⟩
  · rintro ⟨os, hos, hnodup, hne, rfl⟩
    have hs : rows.foldlM (normalizeRow rt lib marketDate marketTimezone) ⟨[], []⟩ =
        .ok ⟨[] ++ os, (os.map (·.timestampUtc)).reverse ++ []⟩ :=
      normalizeRow_foldlM.mpr ⟨os, hos, hnodup, fun _ ht => absurd ht List.not_mem_nil, rfl⟩
    rw [hs, ok_bind]
    dsimp only
    rw [List.nil_append, raiseIf_of_not _ hne]
    rfl

theorem pairwise_sortedObservations (os : List WeatherUndergroundObservation) :
    (sortedObservations os).Pairwise fun a b => a.timestampUtc.instant ≤ b.timestampUtc.instant :=
  SortKey.pairwise_sort (fun o : WeatherUndergroundObservation => o.timestampUtc.instant) os

theorem perm_sortedObservations (os : List WeatherUndergroundObservation) :
    (sortedObservations os).Perm os :=
  List.perm_insertionSort _ _

/-- **What is normalized does not depend on the order of the readings.** -/
theorem normalizeObservations_eq_ok_of_perm {rows rows' : List Row}
    (hp : (readings rows).Perm (readings rows')) {l : List WeatherUndergroundObservation}
    (h : normalizeObservations rt lib rows marketDate marketTimezone = .ok l) :
    normalizeObservations rt lib rows' marketDate marketTimezone = .ok l := by
  obtain ⟨hzone, os, hos, hnodup, hne, rfl⟩ := normalizeObservations_eq_ok.mp h
  obtain ⟨os', hos', hperm⟩ := exists_mapM_of_perm hp hos
  refine normalizeObservations_eq_ok.mpr ⟨hzone, os', hos', ?_, ?_, ?_⟩
  · exact (hperm.map _).nodup_iff.mp hnodup
  · rintro rfl
    exact hne hperm.eq_nil
  · have hsorted : (sortedObservations os).Perm (sortedObservations os') :=
      (perm_sortedObservations os).trans (hperm.trans (perm_sortedObservations os').symm)
    refine SortKey.eq_of_perm hsorted (pairwise_sortedObservations os) (pairwise_sortedObservations os') ?_
    exact ((perm_sortedObservations os).map _).nodup_iff.mpr hnodup

end WeatherBot.Resolution
