import Mathlib.Data.List.Chain
import Mathlib.Tactic

/-!
# Partitions of the integers into intervals

Intervals of integers with optional ends. A list of them is a partition if every
integer lies in exactly one of them, counting repetitions.

* `Interval.covers_iff`: sorted intervals cover the integers from a start on exactly
  once iff each begins where the one before it ends.
* `Interval.before_of_consecutive`: such intervals lie one behind the other.
* `Interval.countP_unbounded`: exactly one of them has no lower end, and one no upper end.
-/

namespace WeatherBot.Common

/-- A nonempty interval of integers, without a lower or an upper end where there is `none`. -/
structure Interval where
  lower : Option ℤ
  upper : Option ℤ
  nonempty : ∀ l ∈ lower, ∀ u ∈ upper, l ≤ u

namespace Interval

/-- `n` is in the interval. -/
def Contains (n : ℤ) (c : Interval) : Prop := (∀ l ∈ c.lower, l ≤ n) ∧ ∀ u ∈ c.upper, n ≤ u

instance (n : ℤ) (c : Interval) : Decidable (c.Contains n) := inferInstanceAs (Decidable (_ ∧ _))

/-- The first interval ends below the beginning of the second one. -/
def Before (a b : Interval) : Prop := ∃ u ∈ a.upper, ∃ l ∈ b.lower, u < l

/-- The intervals are sorted by their lower ends, one without a lower end first. -/
def LowerLe (a b : Interval) : Prop := ∀ l ∈ a.lower, ∃ l' ∈ b.lower, l ≤ l'

/-- Every integer from `start` on lies in exactly one interval, and no other integer in any. -/
def Covers (start : Option ℤ) (l : List Interval) : Prop :=
  ∀ n, l.countP (fun c => decide (c.Contains n)) = if ∀ s ∈ start, s ≤ n then 1 else 0

/-- The intervals follow one another from `start` on, and the last one has no end. -/
def Consecutive : Option ℤ → List Interval → Prop
  | _, [] => False
  | start, [c] => c.lower = start ∧ c.upper = none
  | start, c :: d :: l => c.lower = start ∧ ∃ u ∈ c.upper, Consecutive (some (u + 1)) (d :: l)

/-! ## Members -/

theorem exists_contains (c : Interval) : ∃ n, c.Contains n := by
  obtain ⟨lower, upper, nonempty⟩ := c
  cases lower with
  | some l => exact ⟨l, by rintro _ ⟨⟩; exact le_rfl, fun u hu => nonempty l rfl u hu⟩
  | none =>
    cases upper with
    | some u => exact ⟨u, (fun _ h => by cases h), by rintro _ ⟨⟩; exact le_rfl⟩
    | none => exact ⟨0, (fun _ h => by cases h), fun _ h => by cases h⟩

/-- Below all lower ends there is an integer in the intervals without one. -/
theorem exists_below (l : List Interval) (m : ℤ) : ∃ n ≤ m, ∀ c ∈ l, ∀ k ∈ c.lower, n < k := by
  induction l with
  | nil => exact ⟨m, le_rfl, fun c hc => absurd hc List.not_mem_nil⟩
  | cons c l ih =>
    obtain ⟨n, hn, hl⟩ := ih
    cases hlower : c.lower with
    | none =>
      refine ⟨n, hn, List.forall_mem_cons.mpr ⟨fun k hk => ?_, hl⟩⟩
      rw [hlower] at hk
      cases hk
    | some k =>
      refine ⟨min n (k - 1), (min_le_left _ _).trans hn, List.forall_mem_cons.mpr ⟨?_, ?_⟩⟩
      · intro k' hk'
        rw [hlower] at hk'
        cases hk'
        have := min_le_right n (k - 1)
        omega
      · intro d hd k' hk'
        exact (min_le_left _ _).trans_lt (hl d hd k' hk')

theorem countP_eq_zero {l : List Interval} {n : ℤ} :
    l.countP (fun c => decide (c.Contains n)) = 0 ↔ ∀ c ∈ l, ¬ c.Contains n := by
  simp [List.countP_eq_zero]

theorem Covers.contains_start {start : Option ℤ} {l : List Interval} (h : Covers start l) {c : Interval}
    (hc : c ∈ l) {n : ℤ} (hn : c.Contains n) : ∀ s ∈ start, s ≤ n := by
  by_contra hlow
  have hzero := h n
  rw [if_neg hlow, countP_eq_zero] at hzero
  exact hzero c hc hn

theorem Covers.exists_of_start {start : Option ℤ} {l : List Interval} (h : Covers start l) {n : ℤ}
    (hn : ∀ s ∈ start, s ≤ n) : ∃ c ∈ l, c.Contains n := by
  by_contra hnone
  have hone := h n
  rw [if_pos hn, countP_eq_zero.mpr fun c hc hcn => hnone ⟨c, hc, hcn⟩] at hone
  cases hone

/-- The first of the sorted intervals begins at the start. -/
theorem Covers.lower_head {start : Option ℤ} {c : Interval} {l : List Interval} (h : Covers start (c :: l))
    (hsorted : (c :: l).Pairwise LowerLe) : c.lower = start := by
  have hle : ∀ d ∈ c :: l, d = c ∨ LowerLe c d := by
    intro d hd
    rcases List.mem_cons.mp hd with rfl | hd
    · exact .inl rfl
    · exact .inr ((List.pairwise_cons.mp hsorted).1 d hd)
  cases start with
  | none =>
    -- an integer below all lower ends is in an interval without one
    obtain ⟨n, -, hbelow⟩ := exists_below (c :: l) 0
    obtain ⟨d, hd, hdn⟩ := h.exists_of_start (n := n) (fun _ hs => by cases hs)
    have hdlower : d.lower = none := by
      cases hlower : d.lower with
      | none => rfl
      | some k =>
        have h1 := hbelow d hd k hlower
        have h2 := hdn.1 k hlower
        omega
    cases hlower : c.lower with
    | none => rfl
    | some k =>
      rcases hle d hd with rfl | hcd
      · rw [hdlower] at hlower
        cases hlower
      · obtain ⟨k', hk', -⟩ := hcd k hlower
        rw [hdlower] at hk'
        cases hk'
  | some s =>
    obtain ⟨d, hd, hdn⟩ := h.exists_of_start (n := s) (by rintro _ ⟨⟩; exact le_rfl)
    have hstart : ∀ e ∈ c :: l, ∃ k, e.lower = some k ∧ s ≤ k := by
      intro e he
      obtain ⟨m, hm⟩ := e.exists_contains
      cases hlower : e.lower with
      | none =>
        -- without a lower end it contains integers below the start
        have hcontains : e.Contains (min m (s - 1)) := by
          refine ⟨fun k hk => ?_, fun u hu => (min_le_left _ _).trans (hm.2 u hu)⟩
          rw [hlower] at hk
          cases hk
        have h1 := h.contains_start he hcontains s rfl
        have h2 := min_le_right m (s - 1)
        omega
      | some k =>
        have hcontains : e.Contains k := by
          refine ⟨fun k' hk' => ?_, fun u hu => e.nonempty k hlower u hu⟩
          rw [hlower] at hk'
          cases hk'
          exact le_rfl
        exact ⟨k, rfl, h.contains_start he hcontains s rfl⟩
    obtain ⟨k, hk, hsk⟩ := hstart c List.mem_cons_self
    obtain ⟨k', hk', hsk'⟩ := hstart d hd
    have hle' : k ≤ k' := by
      rcases hle d hd with rfl | hcd
      · rw [hk] at hk'
        cases hk'
        exact le_rfl
      · obtain ⟨k'', hk'', hkk⟩ := hcd k hk
        rw [hk'] at hk''
        cases hk''
        exact hkk
    have hks := hdn.1 k' hk'
    rw [hk]
    congr 1
    omega

/-- Behind an interval without an upper end there is no other one. -/
theorem Covers.eq_nil {start : Option ℤ} {c : Interval} {l : List Interval} (h : Covers start (c :: l))
    (hsorted : (c :: l).Pairwise LowerLe) (hupper : c.upper = none) : l = [] := by
  cases l with
  | nil => rfl
  | cons d l =>
    obtain ⟨n, hn⟩ := d.exists_contains
    have hcd := (List.pairwise_cons.mp hsorted).1 d List.mem_cons_self
    have hc : c.Contains n := by
      refine ⟨fun k hk => ?_, fun u hu => by rw [hupper] at hu; cases hu⟩
      obtain ⟨k', hk', hkk⟩ := hcd k hk
      exact hkk.trans (hn.1 k' hk')
    have hcount := h n
    rw [List.countP_cons, List.countP_cons, if_pos (decide_eq_true hc), if_pos (decide_eq_true hn)] at hcount
    split_ifs at hcount
    omega

/-! ## Covering and following -/

/-- What is left behind the first interval. -/
theorem covers_cons {start : Option ℤ} {c : Interval} {l : List Interval} {u : ℤ} (hlower : c.lower = start)
    (hupper : c.upper = some u) : Covers start (c :: l) ↔ Covers (some (u + 1)) l := by
  have hcontains : ∀ n, c.Contains n ↔ (∀ s ∈ start, s ≤ n) ∧ n ≤ u := by
    intro n
    unfold Contains
    rw [hlower, hupper]
    simp
  have hbelow : ∀ s ∈ start, s ≤ u := by
    rw [← hlower]
    exact fun s hs => c.nonempty s hs u hupper
  refine forall_congr' fun n => ?_
  rw [List.countP_cons]
  by_cases hle : n ≤ u
  · have hnot : ¬ ∀ s ∈ some (u + 1), s ≤ n := fun hall => by
      have := hall _ rfl
      omega
    rw [if_neg hnot]
    by_cases hs : ∀ s ∈ start, s ≤ n
    · rw [if_pos hs, if_pos (decide_eq_true ((hcontains n).mpr ⟨hs, hle⟩))]
      omega
    · have hc : ¬ c.Contains n := fun hcn => hs ((hcontains n).mp hcn).1
      rw [if_neg hs, if_neg (by simpa using hc), Nat.add_zero]
  · have hs : ∀ s ∈ start, s ≤ n := fun s hs => (hbelow s hs).trans (not_le.mp hle).le
    have hnext : ∀ s ∈ some (u + 1), s ≤ n := by
      rintro _ ⟨⟩
      omega
    have hc : ¬ c.Contains n := fun hcn => hle ((hcontains n).mp hcn).2
    rw [if_pos hs, if_pos hnext, if_neg (by simpa using hc), Nat.add_zero]

/-- **Sorted intervals cover the integers exactly once iff each begins where the one before it
ends.** -/
theorem covers_iff {start : Option ℤ} {c : Interval} {l : List Interval}
    (hsorted : (c :: l).Pairwise LowerLe) : Covers start (c :: l) ↔ Consecutive start (c :: l) := by
  induction l generalizing start c with
  | nil =>
    constructor
    · intro h
      refine ⟨h.lower_head hsorted, ?_⟩
      cases hupper : c.upper with
      | none => rfl
      | some u =>
        obtain ⟨d, hd, -⟩ := ((covers_cons (h.lower_head hsorted) hupper).mp h).exists_of_start
          (n := u + 1) (by rintro _ ⟨⟩; exact le_rfl)
        exact absurd hd List.not_mem_nil
    · rintro ⟨hlower, hupper⟩ n
      have hcontains : c.Contains n ↔ ∀ s ∈ start, s ≤ n := by
        unfold Contains
        rw [hlower, hupper]
        simp
      rw [List.countP_singleton]
      simp only [decide_eq_true_eq, hcontains]
  | cons d l ih =>
    have htail := (List.pairwise_cons.mp hsorted).2
    constructor
    · intro h
      have hlower := h.lower_head hsorted
      cases hupper : c.upper with
      | none => exact absurd (h.eq_nil hsorted hupper) (List.cons_ne_nil _ _)
      | some u => exact ⟨hlower, u, hupper, (ih htail).mp ((covers_cons hlower hupper).mp h)⟩
    · rintro ⟨hlower, u, hupper, h⟩
      exact (covers_cons hlower hupper).mpr ((ih htail).mpr h)

/-! ## Consecutive intervals -/

theorem Consecutive.lower_head {start : Option ℤ} {c : Interval} {l : List Interval}
    (h : Consecutive start (c :: l)) : c.lower = start := by
  cases l with
  | nil => exact h.1
  | cons d l => exact h.1

theorem Consecutive.upper_last {start : Option ℤ} {l : List Interval} (h : Consecutive start l) :
    ∀ d ∈ l.getLast?, d.upper = none := by
  induction l generalizing start with
  | nil => exact absurd h id
  | cons c l ih =>
    cases l with
    | nil =>
      rintro d ⟨⟩
      exact h.2
    | cons d l =>
      obtain ⟨-, u, -, h⟩ := h
      rw [List.getLast?_cons_cons]
      exact ih h

/-- Consecutive intervals lie one behind the other, and begin at the start or behind it. -/
theorem Consecutive.pairwise_before {start : Option ℤ} {c : Interval} {l : List Interval}
    (h : Consecutive start (c :: l)) :
    (c :: l).Pairwise Before ∧ ∀ s ∈ start, ∀ d ∈ c :: l, ∃ k, d.lower = some k ∧ s ≤ k := by
  induction l generalizing start c with
  | nil =>
    refine ⟨List.pairwise_singleton _ _, fun s hs d hd => ?_⟩
    cases List.mem_singleton.mp hd
    exact ⟨s, h.1.trans hs, le_rfl⟩
  | cons d l ih =>
    obtain ⟨hlower, u, hupper, h⟩ := h
    obtain ⟨hpairwise, hbehind⟩ := ih h
    constructor
    · refine List.pairwise_cons.mpr ⟨fun e he => ?_, hpairwise⟩
      obtain ⟨k, hk, hle⟩ := hbehind _ rfl e he
      exact ⟨u, hupper, k, hk, by omega⟩
    · intro s hs e he
      rcases List.mem_cons.mp he with rfl | he
      · exact ⟨s, hlower.trans hs, le_rfl⟩
      · obtain ⟨k, hk, hle⟩ := hbehind _ rfl e he
        have := c.nonempty s (hlower.trans hs) u hupper
        exact ⟨k, hk, by omega⟩

/-- Exactly one interval has no upper end, and none but the first has no lower one. -/
theorem Consecutive.countP_unbounded {start : Option ℤ} {c : Interval} {l : List Interval}
    (h : Consecutive start (c :: l)) :
    (c :: l).countP (fun d => d.upper.isNone) = 1 ∧ l.countP (fun d => d.lower.isNone) = 0 := by
  constructor
  · induction l generalizing start c with
    | nil => simp [h.2]
    | cons d l ih =>
      obtain ⟨-, u, hupper, h⟩ := h
      rw [List.countP_cons_of_neg (by simp [Option.mem_def.mp hupper]), ih h]
  · cases l with
    | nil => rfl
    | cons d l =>
      obtain ⟨-, u, -, h⟩ := h
      rw [List.countP_eq_zero]
      intro e he
      obtain ⟨k, hk, -⟩ := h.pairwise_before.2 _ rfl e he
      simp [hk]

end Interval

end WeatherBot.Common
