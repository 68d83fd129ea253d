import Mathlib.Data.List.Induction
import Mathlib.Data.List.Nodup

/-!
# First occurrences

`firstBy key l` keeps of every key the first element of `l` that has it.

* `firstBy_append_singleton`: one more element at the end.
* `map_firstBy_nodup`, `mem_map_firstBy`: every key of `l`, once.
* `foldl_addFirst`: a list that goes on with another one.
* `firstBy_filter`: the elements with one first component of the key.
-/

namespace WeatherBot.Common

variable {α κ : Type} [DecidableEq κ]

/-- Append an element unless its key is there. -/
def addFirst (key : α → κ) (l : List α) (x : α) : List α :=
  if key x ∈ l.map key then l else l ++ [x]

/-- The elements whose key no earlier element has. -/
def firstBy (key : α → κ) (l : List α) : List α := l.foldl (addFirst key) []

@[simp] theorem firstBy_nil (key : α → κ) : firstBy key ([] : List α) = [] := rfl

theorem firstBy_append (key : α → κ) (l l' : List α) :
    firstBy key (l ++ l') = l'.foldl (addFirst key) (firstBy key l) := by
  rw [firstBy, List.foldl_append, firstBy]

theorem mem_map_addFirst {key : α → κ} {l : List α} {x : α} {k : κ} :
    k ∈ (addFirst key l x).map key ↔ k ∈ l.map key ∨ k = key x := by
  unfold addFirst
  split_ifs with h
  · constructor
    · exact Or.inl
    · rintro (hk | rfl)
      · exact hk
      · exact h
  · simp [eq_comm]

theorem map_addFirst_nodup {key : α → κ} {l : List α} (h : (l.map key).Nodup) (x : α) :
    ((addFirst key l x).map key).Nodup := by
  unfold addFirst
  split_ifs with hx
  · exact h
  · rw [List.map_append, List.map_singleton, List.nodup_append]
    refine ⟨h, List.nodup_singleton _, ?_⟩
    intro a ha b hb hab
    rw [List.mem_singleton] at hb
    exact hx (hb ▸ hab ▸ ha)

/-- The keys of the first occurrences are the keys of the list. -/
@[simp] theorem mem_map_firstBy {key : α → κ} {l : List α} {k : κ} :
    k ∈ (firstBy key l).map key ↔ k ∈ l.map key := by
  induction l using List.reverseRecOn with
  | nil => simp
  | append_singleton l x ih =>
    rw [firstBy_append, List.foldl_cons, List.foldl_nil, mem_map_addFirst, ih]
    simp [eq_comm]

/-- No key occurs twice. -/
theorem map_firstBy_nodup (key : α → κ) (l : List α) : ((firstBy key l).map key).Nodup := by
  induction l using List.reverseRecOn with
  | nil => exact List.nodup_nil
  | append_singleton l x ih =>
    rw [firstBy_append]
    exact map_addFirst_nodup ih x

/-- An element that is kept is the first of its key. -/
theorem find?_of_mem_firstBy {key : α → κ} {l : List α} {x : α} (h : x ∈ firstBy key l) :
    l.find? (fun y => key y = key x) = some x := by
  induction l using List.reverseRecOn with
  | nil => cases h
  | append_singleton l y ih =>
    rw [List.find?_append]
    rw [firstBy_append, List.foldl_cons, List.foldl_nil, addFirst] at h
    split_ifs at h with hy
    · exact Option.or_eq_some_iff.mpr (.inl (ih h))
    · rcases List.mem_append.mp h with h | h
      · exact Option.or_eq_some_iff.mpr (.inl (ih h))
      · obtain rfl := List.mem_singleton.mp h
        rw [mem_map_firstBy, List.mem_map, not_exists] at hy
        refine Option.or_eq_some_iff.mpr (.inr ⟨?_, ?_⟩)
        · rw [List.find?_eq_none]
          intro z hz
          rw [decide_eq_true_iff]
          exact fun hkey => hy z ⟨hz, hkey⟩
        · rw [List.find?_singleton]
          simp

/-- **One more element** is kept iff its key is new. -/
theorem firstBy_append_singleton (key : α → κ) (l : List α) (x : α) :
    firstBy key (l ++ [x]) = if key x ∈ l.map key then firstBy key l else firstBy key l ++ [x] := by
  rw [firstBy_append, List.foldl_cons, List.foldl_nil, addFirst]
  simp only [mem_map_firstBy]

/-- **A list goes on with the first occurrences of the keys it does not have.** -/
theorem foldl_addFirst (key : α → κ) (l l' : List α) :
    l'.foldl (addFirst key) l = l ++ firstBy key (l'.filter fun x => key x ∉ l.map key) := by
  induction l' using List.reverseRecOn with
  | nil => simp
  | append_singleton l' x ih =>
    have hmem : ∀ m : List α, key x ∈ (l ++ firstBy key m).map key ↔
        key x ∈ l.map key ∨ key x ∈ m.map key := by
      intro m
      rw [List.map_append, List.mem_append, mem_map_firstBy]
    rw [List.foldl_append, ih, List.foldl_cons, List.foldl_nil, List.filter_append]
    unfold addFirst
    simp only [hmem]
    by_cases hx : key x ∈ l.map key
    · rw [if_pos (.inl hx), List.filter_singleton, decide_eq_false (not_not.mpr hx), Bool.cond_false,
        List.append_nil]
    · rw [List.filter_singleton, decide_eq_true hx, Bool.cond_true, firstBy_append_singleton]
      simp only [hx, false_or]
      split_ifs
      · rfl
      · rw [List.append_assoc]

/-- Of a pair of keys, the elements with one first key are told apart by the second. -/
theorem firstBy_filter {ι : Type} [DecidableEq ι] (a : α → ι) (b : α → κ) (c : ι) (l : List α) :
    firstBy b (l.filter fun x => a x = c) =
      (firstBy (fun x => (a x, b x)) l).filter fun x => a x = c := by
  induction l using List.reverseRecOn with
  | nil => rfl
  | append_singleton l x ih =>
    rw [List.filter_append, List.filter_singleton, firstBy_append_singleton]
    by_cases hx : a x = c
    · subst hx
      have hmem : b x ∈ (l.filter fun y => a y = a x).map b ↔
          (a x, b x) ∈ l.map fun y => (a y, b y) := by
        simp only [List.mem_map, List.mem_filter, decide_eq_true_eq, Prod.mk.injEq]
        constructor
        · rintro ⟨y, ⟨hy, hay⟩, hby⟩
          exact ⟨y, hy, hay, hby⟩
        · rintro ⟨y, hy, hay, hby⟩
          exact ⟨y, ⟨hy, hay⟩, hby⟩
      rw [decide_eq_true rfl, Bool.cond_true, firstBy_append_singleton]
      simp only [hmem]
      split_ifs
      · exact ih
      · rw [List.filter_append, ih, List.filter_singleton, decide_eq_true rfl, Bool.cond_true]
    · rw [decide_eq_false hx, Bool.cond_false, List.append_nil, ih]
      split_ifs
      · rfl
      · rw [List.filter_append, List.filter_singleton, decide_eq_false hx, Bool.cond_false,
          List.append_nil]

end WeatherBot.Common
