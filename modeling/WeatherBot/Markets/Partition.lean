import WeatherBot.Common.IntervalPartition
import WeatherBot.Markets.TemperatureIntervals

/-!
# Complete partitions

The constructor of `TemperatureMarketPartition` counts the tails of a market's buckets, sorts
them and compares neighbours.

* `consecutive_of_chain`, `checkAdjacent_of_consecutive`: the comparisons say that the buckets,
  as intervals of integers, are consecutive.
* `new_iff_complete`: **the constructor accepts exactly the complete partitions**.
-/

namespace WeatherBot.Markets

open WeatherBot.Common

namespace TemperatureMarketPartition

/-! ## Buckets as intervals of integers -/

/-- The integer of a whole-degree value. -/
def whole (d : Decimal) : ℤ := ⌊d.value⌋

theorem value_eq_whole {d : Decimal} (h : IsIntegral d) : d.value = whole d := by
  obtain ⟨n, hn⟩ := exists_int_of_isIntegral h
  rw [whole, hn, Int.floor_intCast]

/-- The integers of a bucket. -/
def interval (b : TemperatureBucket) : Interval where
  lower := b.lowerInclusive.map whole
  upper := b.upperInclusive.map whole
  nonempty := by
    intro l hl u hu
    obtain ⟨dl, hdl, rfl⟩ := Option.mem_map.mp hl
    obtain ⟨du, hdu, rfl⟩ := Option.mem_map.mp hu
    have hle := b.ordered dl hdl du hdu
    rw [Decimal.lt_iff, not_lt] at hle
    exact Int.floor_le_floor hle

/-- The degree is in the bucket. -/
def ContainsDegree (n : ℤ) (b : TemperatureBucket) : Prop :=
  (∀ l ∈ b.lowerInclusive, l.value ≤ n) ∧ ∀ u ∈ b.upperInclusive, (n : ℚ) ≤ u.value

instance (n : ℤ) (b : TemperatureBucket) : Decidable (ContainsDegree n b) :=
  inferInstanceAs (Decidable (_ ∧ _))

theorem contains_interval {n : ℤ} {b : TemperatureBucket} :
    (interval b).Contains n ↔ ContainsDegree n b := by
  unfold Interval.Contains ContainsDegree interval
  simp only [Option.mem_def, Option.map_eq_some_iff, forall_exists_index, and_imp,
    forall_apply_eq_imp_iff₂]
  refine and_congr (forall₂_congr fun l hl => ?_) (forall₂_congr fun u hu => ?_)
  · rw [value_eq_whole (b.integral_lower l hl)]
    exact Int.cast_le.symm
  · rw [value_eq_whole (b.integral_upper u hu)]
    exact Int.cast_le.symm

/-- The first bucket ends below the beginning of the second one. -/
def Below (a b : TemperatureBucket) : Prop := ∃ u ∈ a.upperInclusive, ∃ l ∈ b.lowerInclusive, u < l

theorem below_of_before {a b : TemperatureBucket} (h : (interval a).Before (interval b)) : Below a b := by
  obtain ⟨u, hu, l, hl, hlt⟩ := h
  obtain ⟨du, hdu, rfl⟩ := Option.mem_map.mp hu
  obtain ⟨dl, hdl, rfl⟩ := Option.mem_map.mp hl
  refine ⟨du, hdu, dl, hdl, ?_⟩
  rw [Decimal.lt_iff, value_eq_whole (a.integral_upper du hdu), value_eq_whole (b.integral_lower dl hdl)]
  exact_mod_cast hlt

theorem Below.ne {a b : TemperatureBucket} (h : Below a b) : a ≠ b := by
  rintro rfl
  obtain ⟨u, hu, l, hl, hlt⟩ := h
  exact a.ordered l hl u hu hlt

/-! ## Sorting -/

theorem sortLe_total (a b : TemperatureBucket) : a.SortLe b ∨ b.SortLe a := by
  unfold TemperatureBucket.SortLe
  cases a.lowerInclusive with
  | none => exact .inl True.intro
  | some l =>
    cases b.lowerInclusive with
    | none => exact .inr True.intro
    | some l' =>
      dsimp only
      rw [Decimal.le_iff, Decimal.le_iff]
      exact le_total _ _

theorem sortLe_trans {a b c : TemperatureBucket} (hab : a.SortLe b) (hbc : b.SortLe c) : a.SortLe c := by
  unfold TemperatureBucket.SortLe at *
  cases ha : a.lowerInclusive with
  | none => exact True.intro
  | some l =>
    cases hb : b.lowerInclusive with
    | none =>
      rw [ha, hb] at hab
      exact absurd hab id
    | some l' =>
      cases hc : c.lowerInclusive with
      | none =>
        rw [hb, hc] at hbc
        exact absurd hbc id
      | some l'' =>
        rw [ha, hb] at hab
        rw [hb, hc] at hbc
        dsimp only at hab hbc ⊢
        rw [Decimal.le_iff] at *
        exact hab.trans hbc

/-- The buckets in the order of `sort_key`. -/
def sorted (raw : List TemperatureBucket) : List TemperatureBucket :=
  raw.insertionSort TemperatureBucket.SortLe

theorem perm_sorted (raw : List TemperatureBucket) : (sorted raw).Perm raw :=
  List.perm_insertionSort _ raw

theorem pairwise_sorted (raw : List TemperatureBucket) :
    ((sorted raw).map interval).Pairwise Interval.LowerLe := by
  have : Std.Total TemperatureBucket.SortLe := ⟨sortLe_total⟩
  have : IsTrans TemperatureBucket TemperatureBucket.SortLe := ⟨fun _ _ _ => sortLe_trans⟩
  have hsorted := List.pairwise_insertionSort TemperatureBucket.SortLe raw
  refine List.pairwise_map.mpr (hsorted.imp ?_)
  intro a b hab l hl
  obtain ⟨da, hda, rfl⟩ := Option.mem_map.mp hl
  unfold TemperatureBucket.SortLe at hab
  rw [Option.mem_def.mp hda] at hab
  cases hb : b.lowerInclusive with
  | none =>
    rw [hb] at hab
    exact absurd hab id
  | some db =>
    rw [hb] at hab
    refine ⟨whole db, Option.mem_map.mpr ⟨db, hb, rfl⟩, ?_⟩
    exact Int.floor_le_floor ((Decimal.le_iff _ _).mp hab)

/-! ## Neighbours -/

/-- Adding one to an upper bound is exact. -/
def AddsExactly (raw : List TemperatureBucket) : Prop :=
  ∀ b ∈ raw, ∀ u ∈ b.upperInclusive, (u + 1).value = u.value + 1

theorem whole_of_value {d d' : Decimal} (h : IsIntegral d) (h' : IsIntegral d')
    (heq : d'.value = d.value + 1) : whole d' = whole d + 1 := by
  rw [value_eq_whole h, value_eq_whole h'] at heq
  exact_mod_cast heq

/-- Buckets that follow one another are consecutive intervals. -/
theorem consecutive_of_chain {b : TemperatureBucket} {l : List TemperatureBucket}
    (hexact : AddsExactly (b :: l)) (hchain : (b :: l).IsChain Adjacent)
    (hlast : ∀ c ∈ (b :: l).getLast?, c.upperInclusive = none) :
    Interval.Consecutive (interval b).lower ((b :: l).map interval) := by
  induction l generalizing b with
  | nil =>
    refine ⟨rfl, ?_⟩
    show (b.upperInclusive.map whole) = none
    rw [hlast b rfl]
    rfl
  | cons c l ih =>
    obtain ⟨⟨u, hu, lower, hlower, heq⟩, hrest⟩ := List.isChain_cons_cons.mp hchain
    rw [List.getLast?_cons_cons] at hlast
    have hnext := ih (fun d hd => hexact d (List.mem_cons_of_mem _ hd)) hrest hlast
    rw [hexact b List.mem_cons_self u hu] at heq
    have hwhole := whole_of_value (b.integral_upper u hu) (c.integral_lower lower hlower) heq
    have hstart : (interval c).lower = some (whole u + 1) := by
      show c.lowerInclusive.map whole = _
      rw [Option.mem_def.mp hlower, Option.map_some, hwhole]
    rw [hstart] at hnext
    exact ⟨rfl, whole u, Option.mem_map.mpr ⟨u, hu, rfl⟩, hnext⟩

/-- Consecutive buckets pass the comparisons. -/
theorem checkAdjacent_of_consecutive {start : Option ℤ} {b : TemperatureBucket} {l : List TemperatureBucket}
    (hexact : AddsExactly (b :: l)) (h : Interval.Consecutive start ((b :: l).map interval)) :
    checkAdjacent (b :: l) = .ok () := by
  induction l generalizing start b with
  | nil => rfl
  | cons c l ih =>
    obtain ⟨-, u, hu, h⟩ := h
    have hlower : (interval c).lower = some (u + 1) := h.lower_head
    obtain ⟨du, hdu, rfl⟩ := Option.mem_map.mp hu
    obtain ⟨dl, hdl, hwhole⟩ := Option.map_eq_some_iff.mp hlower
    have hvalue : dl.value = (du + 1).value := by
      rw [hexact b List.mem_cons_self du hdu, value_eq_whole (c.integral_lower dl hdl),
        value_eq_whole (b.integral_upper du hdu), hwhole]
      push_cast
      rfl
    have hpair : checkPair b c = .ok () := by
      unfold checkPair
      rw [Option.mem_def.mp hdu, hdl]
      dsimp only
      rw [raiseIf_of_not _ (by rw [Decimal.lt_iff, hvalue]; exact lt_irrefl _), ok_bind,
        raiseIf_of_not _ (by rw [Decimal.lt_iff, hvalue]; exact lt_irrefl _)]
    rw [checkAdjacent, hpair, ok_bind]
    exact ih (fun d hd => hexact d (List.mem_cons_of_mem _ hd)) h

/-! ## Complete partitions -/

/-- One unit, and every integer in exactly one of the buckets. -/
structure Complete (raw : List TemperatureBucket) : Prop where
  unit : ∃ unit, ∀ b ∈ raw, b.unit = unit
  covered : ∀ n : ℤ, raw.countP (fun b => decide (ContainsDegree n b)) = 1

theorem covers_iff_covered {raw l : List TemperatureBucket} (hp : l.Perm raw) :
    Interval.Covers none (l.map interval) ↔
      ∀ n : ℤ, raw.countP (fun b => decide (ContainsDegree n b)) = 1 := by
  refine forall_congr' fun n => ?_
  have hstart : ∀ s ∈ (none : Option ℤ), s ≤ n := fun _ hs => by cases hs
  rw [if_pos hstart, List.countP_map, hp.countP_eq]
  simp only [Function.comp_def, contains_interval]

theorem countP_interval (raw : List TemperatureBucket) :
    raw.countP TemperatureBucket.isLowerTail = (raw.map interval).countP (fun d => d.lower.isNone) ∧
      raw.countP TemperatureBucket.isUpperTail = (raw.map interval).countP (fun d => d.upper.isNone) := by
  rw [List.countP_map, List.countP_map]
  constructor <;>
    (refine List.countP_congr fun b _ => ?_; simp [TemperatureBucket.isLowerTail,
      TemperatureBucket.isUpperTail, interval])

theorem units_iff {raw : List TemperatureBucket} (hne : raw ≠ []) :
    (raw.map TemperatureBucket.unit).dedup.length = 1 ↔ ∃ unit, ∀ b ∈ raw, b.unit = unit := by
  constructor
  · intro h
    obtain ⟨unit, hunit⟩ := List.length_eq_one_iff.mp h
    refine ⟨unit, fun b hb => ?_⟩
    have hmem : b.unit ∈ (raw.map TemperatureBucket.unit).dedup :=
      List.mem_dedup.mpr (List.mem_map_of_mem hb)
    rw [hunit] at hmem
    exact List.mem_singleton.mp hmem
  · rintro ⟨unit, hunit⟩
    have hsubset : (raw.map TemperatureBucket.unit).dedup ⊆ [unit] := by
      intro u hu
      obtain ⟨b, hb, rfl⟩ := List.mem_map.mp (List.mem_dedup.mp hu)
      exact List.mem_singleton.mpr (hunit b hb)
    have hle := ((List.nodup_dedup _).subperm hsubset).length_le
    rw [List.length_singleton] at hle
    have hpos : 0 < (raw.map TemperatureBucket.unit).dedup.length := by
      rw [List.length_pos_iff, ne_eq, List.dedup_eq_nil, List.map_eq_nil_iff]
      exact hne
    omega

/-- The sorted buckets of a complete partition are consecutive. -/
theorem consecutive_of_covered {raw : List TemperatureBucket} (hne : raw ≠ [])
    (hcovered : ∀ n : ℤ, raw.countP (fun b => decide (ContainsDegree n b)) = 1) :
    Interval.Consecutive none ((sorted raw).map interval) := by
  have hcovers := (covers_iff_covered (perm_sorted raw)).mpr hcovered
  have hpairwise := pairwise_sorted raw
  cases hsorted : sorted raw with
  | nil =>
    have hlength := (perm_sorted raw).length_eq
    rw [hsorted] at hlength
    exact absurd (List.length_eq_zero_iff.mp hlength.symm) hne
  | cons b l =>
    rw [hsorted] at hcovers hpairwise
    exact (Interval.covers_iff hpairwise).mp hcovers

theorem covered_of_new {raw : List TemperatureBucket} {p : TemperatureMarketPartition}
    (hexact : AddsExactly raw) (h : new raw = .ok p) :
    ∀ n : ℤ, raw.countP (fun b => decide (ContainsDegree n b)) = 1 := by
  obtain ⟨hne, hchain, hfirst, hlast⟩ := chain_of_new h
  have hbuckets : p.buckets = sorted raw := by
    simp only [new, raiseIf_bind_eq_ok] at h
    obtain ⟨-, -, -, -, -, -, h⟩ := h
    obtain ⟨-, h⟩ := check_bind_eq_ok.mp h
    cases h
    rfl
  rw [hbuckets] at hne hchain hfirst hlast
  rw [← covers_iff_covered (perm_sorted raw)]
  have hpairwise := pairwise_sorted raw
  have hexactSorted : AddsExactly (sorted raw) := fun b hb => hexact b ((perm_sorted raw).mem_iff.mp hb)
  cases hsorted : sorted raw with
  | nil => exact absurd hsorted hne
  | cons b l =>
    rw [hsorted] at hchain hfirst hlast hpairwise hexactSorted
    have hstart : (interval b).lower = none := by
      show b.lowerInclusive.map whole = none
      rw [hfirst b rfl]
      rfl
    have hconsecutive := consecutive_of_chain hexactSorted hchain hlast
    rw [hstart] at hconsecutive
    exact (Interval.covers_iff hpairwise).mpr hconsecutive

/-- A complete partition passes every check of the constructor. -/
theorem new_of_complete {raw : List TemperatureBucket} (hlength : 2 ≤ raw.length)
    (hexact : AddsExactly raw) (h : Complete raw) : new raw = .ok ⟨sorted raw⟩ := by
  have hne : raw ≠ [] := List.ne_nil_of_length_pos (by omega)
  have hconsecutive := consecutive_of_covered hne h.covered
  have hexactSorted : AddsExactly (sorted raw) := fun b hb => hexact b ((perm_sorted raw).mem_iff.mp hb)
  obtain ⟨b, l, hsorted⟩ := List.exists_cons_of_ne_nil (l := sorted raw) fun hnil => by
    have := (perm_sorted raw).length_eq
    rw [hnil] at this
    exact hne (List.length_eq_zero_iff.mp this.symm)
  have hlast := hconsecutive.upper_last
  rw [hsorted] at hconsecutive hexactSorted hlast
  have hlower : (interval b).lower = none := hconsecutive.lower_head
  obtain ⟨hupperCount, hlowerCount⟩ := hconsecutive.countP_unbounded
  have hcounts := countP_interval (sorted raw)
  have hlowerOne : ((b :: l).map interval).countP (fun d => d.lower.isNone) = 1 := by
    rw [List.map_cons, List.countP_cons, hlowerCount, hlower]
    rfl
  rw [hsorted, hlowerOne] at hcounts
  have hlowerTails : raw.countP TemperatureBucket.isLowerTail = 1 := by
    rw [← (perm_sorted raw).countP_eq, hsorted]
    exact hcounts.1
  have hupperTails : raw.countP TemperatureBucket.isUpperTail = 1 := by
    rw [← (perm_sorted raw).countP_eq, hsorted, hcounts.2]
    exact hupperCount
  have hnodup : (raw.map TemperatureBucket.key).Nodup := by
    have hpairwise : (b :: l).Pairwise (· ≠ ·) := by
      have hbefore := hconsecutive.pairwise_before.1
      rw [← List.map_cons] at hbefore
      exact (List.pairwise_map.mp hbefore).imp fun hab => (below_of_before hab).ne
    have hraw : raw.Nodup := by
      rw [← (perm_sorted raw).nodup_iff, hsorted]
      exact hpairwise
    exact hraw.map fun _ _ hkey => TemperatureBucket.key_inj hkey
  have hends : ¬ ((∃ c ∈ (sorted raw).head?, c.isLowerTail = false) ∨
      ∃ c ∈ (sorted raw).getLast?, c.isUpperTail = false) := by
    rw [hsorted]
    rintro (⟨c, hc, htail⟩ | ⟨c, hc, htail⟩)
    · cases hc
      rw [TemperatureBucket.isLowerTail, ← Option.isNone_map (f := whole)] at htail
      rw [show b.lowerInclusive.map whole = none from hlower] at htail
      cases htail
    · have hnone := hlast (interval c) (by rw [List.getLast?_map]; exact Option.mem_map.mpr ⟨c, hc, rfl⟩)
      have hmap : c.upperInclusive.map whole = none := hnone
      rw [TemperatureBucket.isUpperTail, Option.map_eq_none_iff.mp hmap] at htail
      cases htail
  have hadjacent : checkAdjacent (sorted raw) = .ok () := by
    rw [hsorted]
    exact checkAdjacent_of_consecutive hexactSorted hconsecutive
  have hchecks : raw.insertionSort TemperatureBucket.SortLe = sorted raw := rfl
  rw [new, raiseIf_of_not _ (by omega), ok_bind,
    raiseIf_of_not _ (not_not.mpr ((units_iff hne).mpr h.unit)), ok_bind,
    raiseIf_of_not _ (not_not.mpr hlowerTails), ok_bind, raiseIf_of_not _ (not_not.mpr hupperTails), ok_bind,
    raiseIf_of_not _ (not_not.mpr hnodup), ok_bind]
  dsimp only
  rw [hchecks, raiseIf_of_not _ hends, ok_bind, hadjacent, ok_bind]
  rfl

/-- The bucket of a whole degree. -/
theorem bucketForReported_of_covered {raw : List TemperatureBucket} {p : TemperatureMarketPartition}
    (hp : p.buckets.Perm raw) {value : Decimal} {n : ℤ} (hvalue : value.value = n)
    (hcovered : raw.countP (fun b => decide (ContainsDegree n b)) = 1) :
    ∃ b ∈ raw, p.bucketForReported value = .ok b ∧ ∀ c ∈ raw, ContainsDegree n c ↔ c = b := by
  have hfilter : p.buckets.filterM (fun bucket => bucket.containsReported value) =
      .ok (p.buckets.filter fun b => decide (ContainsDegree n b)) := by
    refine filterM_eq_ok fun b _ => ?_
    obtain ⟨c, hcontains, hc⟩ := containsReported_eq (isIntegral_of_value hvalue) hvalue b
    rw [hcontains, Except.ok.injEq, Bool.eq_iff_iff, decide_eq_true_eq]
    exact hc
  have hone : (p.buckets.filter fun b => decide (ContainsDegree n b)).length = 1 := by
    rw [← List.countP_eq_length_filter, hp.countP_eq, hcovered]
  obtain ⟨b, hb⟩ := List.length_eq_one_iff.mp hone
  have hmem : ∀ c, c ∈ p.buckets ∧ ContainsDegree n c ↔ c = b := by
    intro c
    have hiff : c ∈ p.buckets.filter (fun b => decide (ContainsDegree n b)) ↔
        c ∈ p.buckets ∧ decide (ContainsDegree n c) = true := List.mem_filter
    rw [hb, List.mem_singleton, decide_eq_true_eq] at hiff
    exact hiff.symm
  refine ⟨b, hp.mem_iff.mp ((hmem b).mpr rfl).1, ?_, fun c hc => ?_⟩
  · rw [bucketForReported, hfilter, ok_bind, hb]
    rfl
  · rw [← hmem c, and_iff_right (hp.mem_iff.mpr hc)]

/-- **The constructor accepts exactly the complete partitions.** For two or more buckets in any
order, whose upper bounds are small enough that adding one is exact, it succeeds iff they have one
unit and every integer lies in exactly one of them; the same buckets are stored in increasing order,
and every whole-degree value is mapped to the one bucket that contains it. -/
theorem new_iff_complete {raw : List TemperatureBucket} (hlength : 2 ≤ raw.length)
    (hexact : AddsExactly raw) :
    ((∃ p, new raw = .ok p) ↔ Complete raw) ∧
      ∀ p, new raw = .ok p → p.buckets.Perm raw ∧ p.buckets.Pairwise Below ∧
        ∀ (value : Decimal) (n : ℤ), value.value = n →
          ∃ b ∈ raw, p.bucketForReported value = .ok b ∧ ∀ c ∈ raw, ContainsDegree n c ↔ c = b := by
  have hne : raw ≠ [] := List.ne_nil_of_length_pos (by omega)
  have hcomplete : ∀ p, new raw = .ok p → Complete raw := by
    intro p h
    refine ⟨?_, covered_of_new hexact h⟩
    simp only [new, raiseIf_bind_eq_ok, not_not] at h
    exact (units_iff hne).mp h.2.1
  refine ⟨⟨fun h => h.elim hcomplete, fun h => ⟨_, new_of_complete hlength hexact h⟩⟩, ?_⟩
  intro p h
  have hcovered := (hcomplete p h).covered
  have hp : p = ⟨sorted raw⟩ := by
    rw [new_of_complete hlength hexact (hcomplete p h)] at h
    exact (Except.ok.inj h).symm
  subst hp
  refine ⟨perm_sorted raw, ?_, fun value n hvalue =>
    bucketForReported_of_covered (perm_sorted raw) hvalue (hcovered n)⟩
  have hconsecutive := consecutive_of_covered hne hcovered
  show (sorted raw).Pairwise Below
  cases hsorted : sorted raw with
  | nil => exact .nil
  | cons b l =>
    rw [hsorted] at hconsecutive
    have hbefore := hconsecutive.pairwise_before.1
    rw [← List.map_cons] at hbefore
    exact (List.pairwise_map.mp hbefore).imp below_of_before

/-- The buckets below zero and from zero on, given in the other order; `3.0` is in the second. -/
theorem new_iff_complete_zero :
    Complete [Sample.fromZero, Sample.belowZero] ∧
      ∃ b ∈ [Sample.fromZero, Sample.belowZero],
        Sample.partition.bucketForReported ⟨false, 30, 1⟩ = .ok b ∧
          ∀ c ∈ [Sample.fromZero, Sample.belowZero], ContainsDegree 3 c ↔ c = b := by
  have hexact : AddsExactly [Sample.fromZero, Sample.belowZero] := by
    intro b hb u hu
    rcases List.mem_cons.mp hb with rfl | hb
    · cases hu
    · cases List.mem_singleton.mp hb
      cases hu
      decide +kernel
  have hnew : new [Sample.fromZero, Sample.belowZero] = .ok Sample.partition := by decide
  obtain ⟨hiff, hpartition⟩ := new_iff_complete (by decide) hexact
  exact ⟨hiff.mp ⟨_, hnew⟩, (hpartition _ hnew).2.2 _ 3 (by norm_num [Decimal.value, Decimal.signed])⟩

end TemperatureMarketPartition

end WeatherBot.Markets
