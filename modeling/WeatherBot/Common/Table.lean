import Mathlib.Tactic

/-!
# Tables of a database

A table is the list of its rows. `updateWhere` is `UPDATE … SET … WHERE …`, a
`RowChoice` is what `fetchone` gives of the rows that a `SELECT` finds.

* `mem_updateWhere`: a row of the updated table is an updated row or one that the
  condition leaves out.
* `map_updateWhere`: a column that the update does not set is kept.
* `eq_of_key`: rows of one key are one row.
-/

namespace WeatherBot.Common

variable {α κ : Type}

/-! ## Updates -/

/-- `UPDATE table SET … WHERE p`. -/
def updateWhere (p : α → Prop) [DecidablePred p] (set : α → α) (rows : List α) : List α :=
  rows.map fun r => if p r then set r else r

/-- `cursor.rowcount` of an update. -/
def rowCount (p : α → Prop) [DecidablePred p] (rows : List α) : ℕ := (rows.filter p).length

variable {p : α → Prop} [DecidablePred p] {set : α → α} {rows : List α}

theorem mem_updateWhere {r : α} :
    r ∈ updateWhere p set rows ↔ (∃ r₀ ∈ rows, p r₀ ∧ r = set r₀) ∨ (r ∈ rows ∧ ¬ p r) := by
  unfold updateWhere
  rw [List.mem_map]
  constructor
  · rintro ⟨r₀, hr₀, rfl⟩
    split_ifs with h
    · exact .inl ⟨r₀, hr₀, h, rfl⟩
    · exact .inr ⟨hr₀, h⟩
  · rintro (⟨r₀, hr₀, h, rfl⟩ | ⟨hr, h⟩)
    · exact ⟨r₀, hr₀, if_pos h⟩
    · exact ⟨r, hr, if_neg h⟩

/-- A column that the update does not set is kept. -/
theorem map_updateWhere (key : α → κ) (hkey : ∀ r, key (set r) = key r) :
    (updateWhere p set rows).map key = rows.map key := by
  rw [updateWhere, List.map_map]
  refine List.map_congr_left fun r _ => ?_
  rw [Function.comp_apply]
  split_ifs
  · exact hkey r
  · rfl

/-- An update that finds no row changes nothing. -/
theorem updateWhere_eq_self (set : α → α) (h : ∀ r ∈ rows, ¬ p r) : updateWhere p set rows = rows := by
  rw [updateWhere]
  conv_rhs => rw [← List.map_id rows]
  exact List.map_congr_left fun r hr => if_neg (h r hr)

theorem rowCount_eq_zero : rowCount p rows = 0 ↔ ∀ r ∈ rows, ¬ p r := by
  simp [rowCount, List.filter_eq_nil_iff]

/-- Rows of one key are one row. -/
theorem eq_of_key {key : α → κ} (h : (rows.map key).Nodup) {r r' : α} (hr : r ∈ rows)
    (hr' : r' ∈ rows) (hkey : key r = key r') : r = r' :=
  List.inj_on_of_nodup_map h hr hr' hkey

/-- A condition that only one row meets. -/
theorem rowCount_eq_one {key : α → κ} (hnodup : (rows.map key).Nodup) {r : α} (hr : r ∈ rows)
    (hp : p r) (h : ∀ r' ∈ rows, p r' → key r' = key r) : rowCount p rows = 1 := by
  induction rows with
  | nil => cases hr
  | cons x rows ih =>
    rw [List.map_cons, List.nodup_cons] at hnodup
    rw [List.forall_mem_cons] at h
    rcases List.mem_cons.mp hr with rfl | hr
    · have hrest : rows.filter p = [] := by
        rw [List.filter_eq_nil_iff]
        intro r' hr' hp'
        exact hnodup.1 (h.2 r' hr' (of_decide_eq_true hp') ▸ List.mem_map_of_mem hr')
      rw [rowCount, List.filter_cons_of_pos (by simpa using hp), hrest, List.length_singleton]
    · have hx : ¬ p x := fun hpx => hnodup.1 (h.1 hpx ▸ List.mem_map_of_mem hr)
      rw [rowCount, List.filter_cons_of_neg (by simpa using hx)]
      exact ih hnodup.2 hr h.2

/-- One more row with a new key. -/
theorem nodup_map_append_singleton {key : α → κ} (h : (rows.map key).Nodup) {r : α}
    (hr : key r ∉ rows.map key) : ((rows ++ [r]).map key).Nodup := by
  rw [List.map_append, List.map_singleton, ← List.concat_eq_append]
  exact h.concat hr

/-! ## Selecting one row -/

/-- Which of the rows that a `SELECT … ORDER BY … LIMIT 1` finds is fetched: a least one. Which of
several least ones is up to the database. -/
structure RowChoice (α : Type) (le : α → α → Prop) where
  fetchone : List α → Option α
  mem {l : List α} {r : α} (h : fetchone l = some r) : r ∈ l
  least {l : List α} {r : α} (h : fetchone l = some r) : ∀ r' ∈ l, le r r'
  none {l : List α} (h : fetchone l = none) : l = []

/-- Without `ORDER BY`, the first row is one. -/
def RowChoice.head : RowChoice α fun _ _ => True where
  fetchone := List.head?
  mem h := List.mem_of_head? h
  least _ _ _ := trivial
  none h := List.head?_eq_none_iff.mp h

/-- Under a total preorder, some row is least. -/
theorem exists_least {le : α → α → Prop} (total : ∀ a b, le a b ∨ le b a)
    (trans : ∀ a b c, le a b → le b c → le a c) {l : List α} (h : l ≠ []) :
    ∃ r ∈ l, ∀ r' ∈ l, le r r' := by
  have refl (a : α) : le a a := (total a a).elim id id
  induction l with
  | nil => exact absurd rfl h
  | cons x l ih =>
    by_cases hl : l = []
    · subst hl
      exact ⟨x, List.mem_cons_self, fun r' hr' => List.mem_singleton.mp hr' ▸ refl x⟩
    · obtain ⟨r, hr, hleast⟩ := ih hl
      rcases total x r with hx | hx
      · exact ⟨x, List.mem_cons_self,
          List.forall_mem_cons.mpr ⟨refl x, fun r' hr' => trans _ _ _ hx (hleast r' hr')⟩⟩
      · exact ⟨r, List.mem_cons_of_mem _ hr, List.forall_mem_cons.mpr ⟨hx, hleast⟩⟩

/-- The first of the least rows. -/
def RowChoice.first (le : α → α → Prop) [DecidableRel le] (total : ∀ a b, le a b ∨ le b a)
    (trans : ∀ a b c, le a b → le b c → le a c) : RowChoice α le where
  fetchone l := l.find? fun r => l.all fun r' => le r r'
  mem h := List.mem_of_find?_eq_some h
  least h r' hr' := by
    have hall := List.find?_some h
    exact of_decide_eq_true (List.all_eq_true.mp hall r' hr')
  none {l} h := by
    by_contra hl
    obtain ⟨r, hr, hleast⟩ := exists_least total trans hl
    exact List.find?_eq_none.mp h r hr
      (List.all_eq_true.mpr fun r' hr' => decide_eq_true (hleast r' hr'))

end WeatherBot.Common
