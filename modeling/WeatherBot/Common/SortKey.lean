import Mathlib.Data.List.Sort

/-!
# Lists sorted by a key

What a list that is sorted by a key owes to the order it had before.

* `map_eq_of_perm`: the keys of sorted lists with the same members are the same.
* `eq_of_perm`: sorted lists with the same members are equal, where no two members
  have one key.
-/

namespace WeatherBot.Common.SortKey

variable {α β : Type} [LinearOrder β] {key : α → β} {l l' : List α}

/-- The keys of sorted lists with the same members are the same. -/
theorem map_eq_of_perm (hp : l.Perm l') (h : l.Pairwise fun a b => key a ≤ key b)
    (h' : l'.Pairwise fun a b => key a ≤ key b) : l.map key = l'.map key := by
  have hs : (l.map key).Pairwise (· ≤ ·) := List.pairwise_map.mpr h
  have hs' : (l'.map key).Pairwise (· ≤ ·) := List.pairwise_map.mpr h'
  exact (hp.map key).eq_of_pairwise' hs hs'

/-- Sorted lists with the same members are equal, where no two members have one key. -/
theorem eq_of_perm (hp : l.Perm l') (h : l.Pairwise fun a b => key a ≤ key b)
    (h' : l'.Pairwise fun a b => key a ≤ key b) (hnodup : (l.map key).Nodup) : l = l' := by
  refine hp.eq_of_pairwise (fun a b ha _ hab hba => ?_) h h'
  exact List.inj_on_of_nodup_map hnodup ha (hp.mem_iff.mpr ‹b ∈ l'›) (le_antisymm hab hba)

/-- A list is sorted by sorting it, and keeps its members. -/
theorem pairwise_sort (key : α → β) (l : List α) :
    (l.insertionSort fun a b => key a ≤ key b).Pairwise fun a b => key a ≤ key b := by
  have : Std.Total (α := α) fun a b => key a ≤ key b := ⟨fun a b => le_total (key a) (key b)⟩
  have : IsTrans α fun a b => key a ≤ key b := ⟨fun a b c hab hbc => hab.trans hbc⟩
  exact List.pairwise_insertionSort _ l

end WeatherBot.Common.SortKey
