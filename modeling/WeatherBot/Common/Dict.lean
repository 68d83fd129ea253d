import Mathlib.Tactic

/-!
# Insertion-ordered dictionaries

`Dict K V` is a list of key/value pairs with pairwise distinct keys, in the
order the keys were first inserted. `insert` keeps the place of a key that is
already present and puts a new key at the end.

Two dictionaries that agree on every lookup may still list their keys in
different orders; `get?` is what equality of dictionaries compares.

* `get?_insert`, `mem_insert`: what an insertion changes.
* `sumBy_insert`: a sum over the entries changes by the new entry minus the
  replaced one.
-/

namespace WeatherBot.Common

/-- A dictionary: pairs in insertion order, no key twice. -/
structure Dict (K V : Type) where
  entries : List (K × V)
  nodup : (entries.map Prod.fst).Nodup

namespace Dict

variable {K V : Type} [DecidableEq K]

/-! ## Association lists -/

/-- The value of the first pair with key `k`. -/
def assocGet : List (K × V) → K → Option V
  | [], _ => none
  | (k', v) :: l, k => if k' = k then some v else assocGet l k

/-- Replace the value of the first pair with key `k`, or append a new pair. -/
def assocSet : List (K × V) → K → V → List (K × V)
  | [], k, v => [(k, v)]
  | (k', v') :: l, k, v => if k' = k then (k, v) :: l else (k', v') :: assocSet l k v

theorem keys_assocSet (l : List (K × V)) (k : K) (v : V) :
    (assocSet l k v).map Prod.fst =
      if k ∈ l.map Prod.fst then l.map Prod.fst else l.map Prod.fst ++ [k] := by
  induction l with
  | nil => simp [assocSet]
  | cons p l ih =>
    obtain ⟨k', v'⟩ := p
    by_cases h : k' = k
    · subst h; simp [assocSet]
    · have h' : ¬ k = k' := fun e => h e.symm
      simp only [assocSet, h, if_false, List.map_cons, ih, List.mem_cons, h', false_or]
      split_ifs <;> simp

theorem assocGet_eq_some {l : List (K × V)} (hl : (l.map Prod.fst).Nodup) {k : K} {v : V} :
    assocGet l k = some v ↔ (k, v) ∈ l := by
  induction l with
  | nil => simp [assocGet]
  | cons p l ih =>
    obtain ⟨k', v'⟩ := p
    rw [List.map_cons, List.nodup_cons] at hl
    by_cases h : k' = k
    · subst h
      simp only [assocGet, if_true, Option.some.injEq, List.mem_cons, Prod.mk.injEq, true_and]
      constructor
      · rintro rfl; exact Or.inl rfl
      · rintro (rfl | hm)
        · rfl
        · exact absurd (List.mem_map_of_mem (f := Prod.fst) hm) hl.1
    · have h' : ¬ k = k' := fun e => h e.symm
      simp [assocGet, h, h', ih hl.2]

theorem assocGet_eq_none {l : List (K × V)} {k : K} :
    assocGet l k = none ↔ k ∉ l.map Prod.fst := by
  induction l with
  | nil => simp [assocGet]
  | cons p l ih =>
    obtain ⟨k', v'⟩ := p
    by_cases h : k' = k
    · subst h; simp [assocGet]
    · have h' : ¬ k = k' := fun e => h e.symm
      simp only [assocGet, h, if_false, ih, List.map_cons, List.mem_cons, h', false_or]

theorem assocGet_assocSet (l : List (K × V)) (k k' : K) (v : V) :
    assocGet (assocSet l k v) k' = if k = k' then some v else assocGet l k' := by
  induction l with
  | nil => simp [assocSet, assocGet]
  | cons p l ih =>
    obtain ⟨j, w⟩ := p
    by_cases hj : j = k
    · subst hj
      simp only [assocSet, if_true, assocGet]
      split_ifs <;> rfl
    · simp only [assocSet, hj, if_false, assocGet, ih]
      by_cases hk : k = k'
      · subst hk; simp [hj]
      · simp [hk]

/-! ## Dictionaries -/

/-- The empty dictionary. -/
def empty : Dict K V := ⟨[], List.nodup_nil⟩

/-- `d.get(k)`. -/
def get? (d : Dict K V) (k : K) : Option V := assocGet d.entries k

/-- `d[k] = v` on a copy of `d`. -/
def insert (d : Dict K V) (k : K) (v : V) : Dict K V where
  entries := assocSet d.entries k v
  nodup := by
    rw [keys_assocSet]
    split_ifs with h
    · exact d.nodup
    · exact List.Nodup.append d.nodup (List.nodup_singleton k) (by simpa using h)

/-- The keys, in insertion order. -/
def keys (d : Dict K V) : List K := d.entries.map Prod.fst

/-- The values, in insertion order of their keys. -/
def values (d : Dict K V) : List V := d.entries.map Prod.snd

@[simp] theorem get?_empty (k : K) : (empty : Dict K V).get? k = none := rfl

omit [DecidableEq K] in
@[simp] theorem entries_empty : (empty : Dict K V).entries = [] := rfl

theorem get?_eq_some {d : Dict K V} {k : K} {v : V} : d.get? k = some v ↔ (k, v) ∈ d.entries :=
  assocGet_eq_some d.nodup

theorem get?_eq_none {d : Dict K V} {k : K} : d.get? k = none ↔ ∀ v, (k, v) ∉ d.entries := by
  rw [get?, assocGet_eq_none]
  simp

theorem get?_insert (d : Dict K V) (k k' : K) (v : V) :
    (d.insert k v).get? k' = if k = k' then some v else d.get? k' :=
  assocGet_assocSet d.entries k k' v

@[simp] theorem get?_insert_self (d : Dict K V) (k : K) (v : V) : (d.insert k v).get? k = some v := by
  rw [get?_insert, if_pos rfl]

@[simp] theorem insert_insert (d : Dict K V) (k : K) (v w : V) :
    (d.insert k v).insert k w = d.insert k w := by
  have h : ∀ l : List (K × V), assocSet (assocSet l k v) k w = assocSet l k w := by
    intro l
    induction l with
    | nil => simp [assocSet]
    | cons p l ih =>
      obtain ⟨k', v'⟩ := p
      by_cases hk : k' = k
      · simp [assocSet, hk]
      · simp [assocSet, hk, ih]
  unfold insert
  simp only [h]

theorem get?_insert_of_ne (d : Dict K V) {k k' : K} (v : V) (h : k ≠ k') :
    (d.insert k v).get? k' = d.get? k' := by
  rw [get?_insert, if_neg h]

/-- The entries after an insertion: the new pair, and the old pairs with another key. -/
theorem mem_insert {d : Dict K V} {k : K} {v : V} {p : K × V} :
    p ∈ (d.insert k v).entries ↔ p = (k, v) ∨ (p ∈ d.entries ∧ p.1 ≠ k) := by
  obtain ⟨k', w⟩ := p
  rw [← get?_eq_some, ← get?_eq_some, get?_insert]
  by_cases h : k = k'
  · subst h
    simp [eq_comm]
  · have h' : k' ≠ k := fun e => h e.symm
    simp [h, h']

theorem mem_keys {d : Dict K V} {k : K} : k ∈ d.keys ↔ ∃ v, d.get? k = some v := by
  rw [keys, List.mem_map]
  constructor
  · rintro ⟨p, hp, rfl⟩
    exact ⟨p.2, get?_eq_some.mpr hp⟩
  · rintro ⟨v, hv⟩
    exact ⟨(k, v), get?_eq_some.mp hv, rfl⟩

theorem mem_keys_insert {d : Dict K V} {k k' : K} {v : V} :
    k' ∈ (d.insert k v).keys ↔ k' = k ∨ k' ∈ d.keys := by
  rw [mem_keys, mem_keys, get?_insert]
  split_ifs with h
  · simp [h]
  · have h' : k' ≠ k := fun e => h e.symm
    simp [h']

theorem entries_ne_nil_of_get? {d : Dict K V} {k : K} {v : V} (h : d.get? k = some v) :
    d.entries ≠ [] :=
  List.ne_nil_of_mem (get?_eq_some.mp h)

theorem entries_insert_ne_nil (d : Dict K V) (k : K) (v : V) : (d.insert k v).entries ≠ [] :=
  entries_ne_nil_of_get? (get?_insert_self d k v)

/-- A loop over the values does not see a replaced value that it treats as the new one. -/
theorem foldl_values_insert {σ : Type} {f : σ → V → σ} {d : Dict K V} {k : K} {v w : V}
    (hget : d.get? k = some v) (hf : ∀ s, f s v = f s w) (s : σ) :
    ((d.insert k w).entries.map Prod.snd).foldl f s = (d.entries.map Prod.snd).foldl f s := by
  have h : ∀ (l : List (K × V)) (s : σ), assocGet l k = some v →
      ((assocSet l k w).map Prod.snd).foldl f s = (l.map Prod.snd).foldl f s := by
    intro l
    induction l with
    | nil => intro s h; cases h
    | cons p l ih =>
      obtain ⟨k', v'⟩ := p
      intro s h
      by_cases hk : k' = k
      · rw [assocGet, if_pos hk, Option.some.injEq] at h
        subst h
        simp [assocSet, hk, hf]
      · rw [assocGet, if_neg hk] at h
        simp [assocSet, hk, ih _ h]
  exact h d.entries s hget

/-- What holds of the new pair and of every old pair holds of every pair. -/
theorem forall_mem_insert {d : Dict K V} {k : K} {v : V} {P : K × V → Prop}
    (hnew : P (k, v)) (hold : ∀ p ∈ d.entries, p.1 ≠ k → P p) :
    ∀ p ∈ (d.insert k v).entries, P p := by
  intro p hp
  rcases mem_insert.mp hp with rfl | ⟨hp, hne⟩
  · exact hnew
  · exact hold p hp hne

/-! ## Sums over the entries -/

section Sums

variable {M : Type} [AddCommGroup M]

/-- The sum of `f k v` over the entries. -/
def sumBy (f : K → V → M) (d : Dict K V) : M := (d.entries.map fun p => f p.1 p.2).sum

omit [DecidableEq K] in
@[simp] theorem sumBy_empty (f : K → V → M) : sumBy f (empty : Dict K V) = 0 := rfl

theorem sum_assocSet (f : K → V → M) (k : K) (v : V) (l : List (K × V)) :
    ((assocSet l k v).map fun p => f p.1 p.2).sum =
      (l.map fun p => f p.1 p.2).sum - ((assocGet l k).map (f k)).getD 0 + f k v := by
  induction l with
  | nil => simp [assocSet, assocGet]
  | cons p l ih =>
    obtain ⟨k', v'⟩ := p
    by_cases h : k' = k
    · subst h
      simp only [assocSet, assocGet, if_true, List.map_cons, List.sum_cons, Option.map_some,
        Option.getD_some]
      abel
    · simp only [assocSet, assocGet, h, if_false, List.map_cons, List.sum_cons, ih]
      abel

/-- An insertion changes a sum by the new entry minus the one it replaces. -/
theorem sumBy_insert (f : K → V → M) (d : Dict K V) (k : K) (v : V) :
    sumBy f (d.insert k v) = sumBy f d - ((d.get? k).map (f k)).getD 0 + f k v :=
  sum_assocSet f k v d.entries

theorem sumBy_insert_of_none (f : K → V → M) {d : Dict K V} {k : K} (h : d.get? k = none) (v : V) :
    sumBy f (d.insert k v) = sumBy f d + f k v := by
  rw [sumBy_insert, h]
  simp

theorem sumBy_insert_of_some (f : K → V → M) {d : Dict K V} {k : K} {w : V} (h : d.get? k = some w)
    (v : V) : sumBy f (d.insert k v) = sumBy f d - f k w + f k v := by
  rw [sumBy_insert, h]
  simp

omit [DecidableEq K] in
theorem sumBy_sub (f g : K → V → M) (d : Dict K V) :
    sumBy (fun k v => f k v - g k v) d = sumBy f d - sumBy g d := by
  unfold sumBy
  induction d.entries with
  | nil => simp
  | cons p l ih =>
    simp only [List.map_cons, List.sum_cons, ih]
    abel

omit [DecidableEq K] in
theorem sumBy_congr {f g : K → V → M} {d : Dict K V} (h : ∀ p ∈ d.entries, f p.1 p.2 = g p.1 p.2) :
    sumBy f d = sumBy g d := by
  unfold sumBy
  rw [List.map_congr_left h]

end Sums

omit [DecidableEq K] in
theorem sumBy_nonneg {f : K → V → ℤ} {d : Dict K V} (h : ∀ p ∈ d.entries, 0 ≤ f p.1 p.2) :
    0 ≤ sumBy f d := by
  unfold sumBy
  apply List.sum_nonneg
  intro x hx
  obtain ⟨p, hp, rfl⟩ := List.mem_map.mp hx
  exact h p hp

/-- One entry of a sum of nonnegative terms is at most the sum. -/
theorem le_sumBy {f : K → V → ℤ} {d : Dict K V} (h : ∀ p ∈ d.entries, 0 ≤ f p.1 p.2) {k : K} {v : V}
    (hk : d.get? k = some v) : f k v ≤ sumBy f d := by
  unfold sumBy
  have hmem := get?_eq_some.mp hk
  refine List.single_le_sum ?_ _ (List.mem_map_of_mem (f := fun p : K × V => f p.1 p.2) hmem)
  intro x hx
  obtain ⟨p, hp, rfl⟩ := List.mem_map.mp hx
  exact h p hp

end Dict

end WeatherBot.Common
