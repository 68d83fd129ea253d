import Mathlib.Algebra.BigOperators.Group.List.Basic
import Mathlib.Algebra.Order.Group.Abs
import Mathlib.Algebra.Order.Ring.Defs
import Mathlib.Tactic

/-!
# Sums over all pairs of a list

The distances between the items of a list, over an ordered ring.

* `weightedSum_of_sorted`: **in a sorted list, the weights `2i - (n - 1)` sum the
  distances of all unordered pairs.**
* `pairSum_le`: the triangle inequality over all pairs.
* `pairSum_perm`: the order of the items does not matter.
-/

namespace WeatherBot.Common

variable {K : Type} [CommRing K] [LinearOrder K] [IsStrictOrderedRing K]

/-- The distances from `y`. -/
def distanceSum (l : List K) (y : K) : K := (l.map fun x => |x - y|).sum

/-- The distances of all ordered pairs. -/
def pairSum (l : List K) : K := (l.map fun x => distanceSum l x).sum

/-- The items, each multiplied by twice its index, counted from `k`, minus `c`. -/
def weightedSum (k : ℕ) (c : K) (l : List K) : K :=
  ((l.zipIdx k).map fun p => (2 * (p.2 : K) - c) * p.1).sum

omit [IsStrictOrderedRing K] in
theorem distanceSum_perm {l l' : List K} (h : l.Perm l') (y : K) :
    distanceSum l y = distanceSum l' y :=
  (h.map _).sum_eq

omit [IsStrictOrderedRing K] in
theorem pairSum_perm {l l' : List K} (h : l.Perm l') : pairSum l = pairSum l' := by
  have hpoint : ∀ x, distanceSum l x = distanceSum l' x := distanceSum_perm h
  simp only [pairSum, hpoint]
  exact (h.map _).sum_eq

omit [LinearOrder K] [IsStrictOrderedRing K] in
theorem weightedSum_cons (k : ℕ) (c x : K) (l : List K) :
    weightedSum k c (x :: l) = (2 * k - c) * x + weightedSum (k + 1) c l := by
  rw [weightedSum, List.zipIdx_cons, List.map_cons, List.sum_cons]
  rfl

omit [LinearOrder K] [IsStrictOrderedRing K] in
theorem weightedSum_sub_one (k : ℕ) (c : K) (l : List K) :
    weightedSum k (c - 1) l = weightedSum k c l + l.sum := by
  induction l generalizing k with
  | nil => simp [weightedSum]
  | cons x l ih =>
    rw [weightedSum_cons, weightedSum_cons, ih, List.sum_cons]
    ring

/-- The distances of a smaller item from the items of a list. -/
theorem distanceSum_of_le {x : K} {l : List K} (h : ∀ y ∈ l, x ≤ y) :
    distanceSum l x = l.sum - l.length * x := by
  induction l with
  | nil => simp [distanceSum]
  | cons y l ih =>
    rw [List.forall_mem_cons] at h
    have hy : |y - x| = y - x := abs_of_nonneg (sub_nonneg.mpr h.1)
    have hl := ih h.2
    rw [distanceSum] at hl ⊢
    rw [List.map_cons, List.sum_cons, List.sum_cons, List.length_cons, hl, hy]
    push_cast
    ring

theorem pairSum_cons (x : K) (l : List K) : pairSum (x :: l) = 2 * distanceSum l x + pairSum l := by
  have hcons : ∀ y, distanceSum (x :: l) y = |x - y| + distanceSum l y := by
    intro y
    rw [distanceSum, distanceSum, List.map_cons, List.sum_cons]
  have hsplit : (l.map fun y => |x - y| + distanceSum l y).sum = distanceSum l x + pairSum l := by
    rw [List.sum_map_add, pairSum, distanceSum]
    simp only [abs_sub_comm]
  rw [pairSum, List.map_cons, List.sum_cons]
  simp only [hcons]
  rw [hsplit, sub_self, abs_zero]
  ring

/-- **The weights `2i - (n - 1)` of a sorted list sum the distances of its unordered pairs.** -/
theorem weightedSum_of_sorted {l : List K} (h : l.Pairwise (· ≤ ·)) (k : ℕ) :
    2 * weightedSum k ((l.length : K) - 1 + 2 * k) l = pairSum l := by
  induction l generalizing k with
  | nil => simp [weightedSum, pairSum]
  | cons x l ih =>
    rw [List.pairwise_cons] at h
    have hrest := ih h.2 (k + 1)
    have hshift : ((x :: l).length : K) - 1 + 2 * k = ((l.length : K) - 1 + 2 * ((k + 1 : ℕ) : K)) - 1 := by
      rw [List.length_cons]
      push_cast
      ring
    rw [weightedSum_cons, pairSum_cons, distanceSum_of_le h.1, ← hrest, hshift, weightedSum_sub_one]
    push_cast
    ring

/-- Twice the distances from `y`, once for each item, bound the distances of the pairs. -/
theorem pairSum_le (l : List K) (y : K) : pairSum l ≤ 2 * l.length * distanceSum l y := by
  have hpoint : ∀ x ∈ l, distanceSum l x ≤ distanceSum l y + l.length * |x - y| := by
    intro x _
    have hitem : ∀ z ∈ l, |z - x| ≤ |z - y| + |x - y| := by
      intro z _
      rw [abs_sub_comm x y]
      exact abs_sub_le z y x
    have hsum := List.sum_le_sum hitem
    rw [List.sum_map_add, List.map_const', List.sum_replicate, nsmul_eq_mul] at hsum
    exact hsum
  have hall := List.sum_le_sum hpoint
  rw [List.sum_map_add, List.map_const', List.sum_replicate, nsmul_eq_mul, List.sum_map_mul_left] at hall
  have hsame : (l.map fun x => |x - y|).sum = distanceSum l y := rfl
  rw [hsame] at hall
  calc pairSum l ≤ l.length * distanceSum l y + l.length * distanceSum l y := hall
    _ = 2 * l.length * distanceSum l y := by ring

end WeatherBot.Common
