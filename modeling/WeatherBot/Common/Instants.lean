import WeatherBot.Common.Calendar

/-!
# Days and instants

The day numbers of `fromordinal` and `toordinal` belong together, so the parts of
a datetime that `ofInstant` finds are those of the instant.

* `Date.toordinal_fromordinal`: the number of the date with a number.
* `DateTime.ofInstant_eq_some`: the datetime in UTC at an instant.
-/

namespace WeatherBot.Common

namespace Date

/-- The days of the months before `month`. -/
def daysBefore (year month : ℕ) : ℕ :=
  ((List.range (month - 1)).map fun m => daysInMonth year (m + 1)).sum

theorem daysBefore_succ (year : ℕ) {month : ℕ} (h : 1 ≤ month) :
    daysBefore year (month + 1) = daysBefore year month + daysInMonth year month := by
  obtain ⟨k, rfl⟩ : ∃ k, month = k + 1 := ⟨month - 1, by omega⟩
  simp [daysBefore, List.range_succ]

theorem daysBefore_monthDay (year : ℕ) (k : ℕ) {month : ℕ} (h : 1 ≤ month) (n : ℕ) :
    daysBefore year (monthDay year k month n).1 + (monthDay year k month n).2 =
      daysBefore year month + n + 1 := by
  induction k generalizing month n with
  | zero => rfl
  | succ k ih =>
    rw [monthDay]
    split_ifs with hn
    · rfl
    · rw [ih (by omega), daysBefore_succ year h]
      omega

theorem daysBefore_december (year : ℕ) :
    daysBefore year 12 + 31 = if isLeap year then 366 else 365 := by
  have hmonths : List.range (12 - 1) = [0, 1, 2, 3, 4, 5, 6, 7, 8, 9, 10] := rfl
  rw [daysBefore, hmonths]
  cases h : isLeap year <;> simp [daysInMonth, h]

theorem make_eq_some {year month day : ℕ} {d : Date} (h : make year month day = some d) :
    d.year = year ∧ d.month = month ∧ d.day = day := by
  unfold make at h
  split_ifs at h
  cases h
  exact ⟨rfl, rfl, rfl⟩

/-- The days of the years before `year`. -/
def daysBeforeYear (year : ℕ) : ℕ :=
  (year - 1) * 365 + (year - 1) / 4 - (year - 1) / 100 + (year - 1) / 400

theorem toordinal_eq (d : Date) :
    d.toordinal = daysBeforeYear d.year + daysBefore d.year d.month + d.day := rfl

/-- The days of whole cycles of 400, 100, 4 and 1 years. -/
theorem daysBeforeYear_eq {a b c e : ℕ} (hb : b ≤ 3) (hc : c ≤ 24) (he : e ≤ 3) :
    daysBeforeYear (400 * a + 100 * b + 4 * c + e + 1) = 146097 * a + 36524 * b + 1461 * c + 365 * e := by
  have h4 : (400 * a + 100 * b + 4 * c + e) / 4 = 100 * a + 25 * b + c := by omega
  have h100 : (400 * a + 100 * b + 4 * c + e) / 100 = 4 * a + b := by omega
  have h400 : (400 * a + 100 * b + 4 * c + e) / 400 = a := by omega
  rw [daysBeforeYear, Nat.add_sub_cancel, h4, h100, h400]
  omega

/-- The last year of a cycle of 4 is a leap year, but for those that end a century only. -/
theorem isLeap_cycle {a b c e : ℕ} (hb : b ≤ 3) (hc : c ≤ 24) (he : e ≤ 3) :
    isLeap (400 * a + 100 * b + 4 * c + e + 1) = true ↔ e = 3 ∧ (c = 24 → b = 3) := by
  simp only [isLeap, Bool.and_eq_true, Bool.or_eq_true, decide_eq_true_eq]
  omega

/-- **The date with a number has that number.** -/
theorem toordinal_fromordinal {n : ℕ} (hn : 1 ≤ n) {d : Date} (h : fromordinal n = some d) :
    d.toordinal = n := by
  obtain ⟨m, rfl⟩ : ∃ m, n = m + 1 := ⟨n - 1, by omega⟩
  simp only [fromordinal, Nat.add_sub_cancel] at h
  obtain ⟨a, ha⟩ : ∃ a, a = m / 146097 := ⟨_, rfl⟩
  obtain ⟨b, hb⟩ : ∃ b, b = m % 146097 / 36524 := ⟨_, rfl⟩
  obtain ⟨c, hc⟩ : ∃ c, c = m % 146097 % 36524 / 1461 := ⟨_, rfl⟩
  obtain ⟨e, he⟩ : ∃ e, e = m % 146097 % 36524 % 1461 / 365 := ⟨_, rfl⟩
  obtain ⟨r, hr⟩ : ∃ r, r = m % 146097 % 36524 % 1461 % 365 := ⟨_, rfl⟩
  rw [← ha, ← hb, ← hc, ← he, ← hr] at h
  have hm : m = 146097 * a + 36524 * b + 1461 * c + 365 * e + r := by omega
  have hyear : a * 400 + 1 + b * 100 + c * 4 + e = 400 * a + 100 * b + 4 * c + e + 1 := by omega
  rw [hyear, Nat.add_sub_cancel] at h
  rw [toordinal_eq]
  split_ifs at h with hlast
  · -- the last day of a cycle of 4 or of 400 years
    obtain ⟨hy, hmonth, hday⟩ := make_eq_some h
    have hr0 : r = 0 := by omega
    obtain ⟨b', c', hb', hc', hcentury, hyear⟩ : ∃ b' c', b' ≤ 3 ∧ c' ≤ 24 ∧ (c' = 24 → b' = 3) ∧
        400 * a + 100 * b + 4 * c + e = 400 * a + 100 * b' + 4 * c' + 3 + 1 := by
      rcases hlast with hlast | hlast
      · exact ⟨3, 24, le_rfl, le_rfl, fun _ => rfl, by omega⟩
      · exact ⟨b, c, by omega, by omega, fun h => by omega, by omega⟩
    have hleap := (isLeap_cycle (a := a) hb' hc' le_rfl).mpr ⟨rfl, hcentury⟩
    rw [hy, hmonth, hday, hyear, add_assoc, daysBefore_december, if_pos hleap,
      daysBeforeYear_eq hb' hc' le_rfl]
    omega
  · obtain ⟨hy, hmonth, hday⟩ := make_eq_some h
    rw [not_or] at hlast
    have hb3 : b ≤ 3 := by omega
    have hc24 : c ≤ 24 := by omega
    have he3 : e ≤ 3 := by omega
    have hmd := daysBefore_monthDay (400 * a + 100 * b + 4 * c + e + 1) 11 le_rfl r
    have hjan : daysBefore (400 * a + 100 * b + 4 * c + e + 1) 1 = 0 := rfl
    rw [hy, hmonth, hday, daysBeforeYear_eq hb3 hc24 he3, add_assoc, hmd, hjan]
    omega

end Date

namespace DateTime

/-- The time of day at a point of time is one. -/
theorem clock_valid (n : ℕ) :
    n % dayMicros / hourMicros < 24 ∧ n % hourMicros / minuteMicros < 60 ∧
      n % minuteMicros / secondMicros < 60 ∧ n % secondMicros < 1000000 ∧
      (0 : ℤ).natAbs < dayMicros := by
  unfold dayMicros hourMicros minuteMicros secondMicros
  omega

theorem ofInstant_of_fromordinal {n : ℤ} {d : Date} (hn : 0 ≤ n)
    (h : Date.fromordinal (n.toNat / dayMicros + 1) = some d) :
    ∃ t, ofInstant n = some t ∧ t.date = d := by
  refine ⟨⟨d, _, _, _, _, 0, clock_valid n.toNat⟩, ?_, rfl⟩
  rw [ofInstant, if_neg (not_lt.mpr hn)]
  refine Option.bind_eq_some_iff.mpr ⟨d, h, ?_⟩
  rw [make, dif_pos (clock_valid n.toNat)]

/-- A point of time from the first of January of year 1 on is a day and a time of day. -/
theorem ofInstant_eq_some {n : ℤ} {t : DateTime} :
    ofInstant n = some t ↔ 0 ≤ n ∧ Date.fromordinal (n.toNat / dayMicros + 1) = some t.date ∧
      t.utcoffset = 0 ∧ t.instant = n := by
  unfold ofInstant
  have hclock := clock_valid n.toNat
  split_ifs with hn
  · exact iff_of_false (fun h => h.elim) (fun h => absurd h.1 (not_le.mpr hn))
  · have hn0 : 0 ≤ n := not_lt.mp hn
    rw [and_iff_right hn0]
    constructor
    · intro h
      obtain ⟨date, hdate, h⟩ := Option.bind_eq_some_iff.mp h
      rw [make, dif_pos hclock] at h
      cases h
      refine ⟨hdate, rfl, ?_⟩
      have hord := Date.toordinal_fromordinal (Nat.le_add_left 1 _) hdate
      rw [instant, civilMicros, hord]
      unfold dayMicros hourMicros minuteMicros secondMicros
      push_cast
      omega
    · rintro ⟨hdate, hoffset, hinstant⟩
      have hord := Date.toordinal_fromordinal (Nat.le_add_left 1 _) hdate
      refine Option.bind_eq_some_iff.mpr ⟨t.date, hdate, ?_⟩
      rw [make, dif_pos hclock]
      obtain ⟨date, hour, minute, second, microsecond, utcoffset, hvalid⟩ := t
      rw [instant, civilMicros] at hinstant
      dsimp only at hord hoffset hinstant
      rw [hord] at hinstant
      unfold dayMicros hourMicros minuteMicros secondMicros at *
      push_cast at hinstant
      congr 2 <;> omega

end DateTime

end WeatherBot.Common
