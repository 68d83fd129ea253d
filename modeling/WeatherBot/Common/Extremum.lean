import Mathlib.Tactic

/-!
# The least and the greatest of a list

`min` and `max` keep the first of the values whose key is extreme.

* `minBy_spec`, `maxBy_spec`: the value is one of the list and none has a smaller,
  or greater, key.
* `key_minBy_congr`, `key_maxBy_congr`: the extreme keys do not depend on the order.
-/

namespace WeatherBot.Common

variable {α κ : Type}

/-- What a loop keeps that keeps the better one of two values. -/
theorem foldl_choice (better : α → α → Prop) (hrefl : ∀ a, better a a)
    (htrans : ∀ a b c, better a b → better b c → better a c) {choose : α → α → α}
    (hchoose : ∀ a b, (choose a b = a ∨ choose a b = b) ∧ better (choose a b) a ∧ better (choose a b) b)
    (a : α) (l : List α) :
    l.foldl choose a ∈ a :: l ∧ ∀ b ∈ a :: l, better (l.foldl choose a) b := by
  induction l generalizing a with
  | nil =>
    refine ⟨List.mem_singleton_self _, fun b hb => ?_⟩
    rw [List.mem_singleton.mp hb]
    exact hrefl a
  | cons next l ih =>
    obtain ⟨hmem, hbest⟩ := ih (choose a next)
    obtain ⟨hchoice, hfirst, hnext⟩ := hchoose a next
    rw [List.foldl_cons]
    have hkept := hbest _ (List.mem_cons_self ..)
    constructor
    · rcases List.mem_cons.mp hmem with heq | hmem
      · rw [heq]
        rcases hchoice with h | h
        · rw [h]
          exact List.mem_cons_self ..
        · rw [h]
          exact List.mem_cons_of_mem _ (List.mem_cons_self ..)
      · exact List.mem_cons_of_mem _ (List.mem_cons_of_mem _ hmem)
    · intro b hb
      rcases List.mem_cons.mp hb with rfl | hb
      · exact htrans _ _ _ hkept hfirst
      · rcases List.mem_cons.mp hb with rfl | hb
        · exact htrans _ _ _ hkept hnext
        · exact hbest b (List.mem_cons_of_mem _ hb)

variable [LinearOrder κ] (key : α → κ)

/-- `min(values, key=key)`. -/
def minBy (a : α) (l : List α) : α := l.foldl (fun a b => if key b < key a then b else a) a

/-- `max(values, key=key)`. -/
def maxBy (a : α) (l : List α) : α := l.foldl (fun a b => if key a < key b then b else a) a

theorem minBy_spec (a : α) (l : List α) :
    minBy key a l ∈ a :: l ∧ ∀ b ∈ a :: l, key (minBy key a l) ≤ key b := by
  refine foldl_choice (fun a b => key a ≤ key b) (fun _ => le_rfl) (fun _ _ _ => le_trans) (fun a b => ?_) a l
  split_ifs with h
  · exact ⟨.inr rfl, h.le, le_rfl⟩
  · exact ⟨.inl rfl, le_rfl, not_lt.mp h⟩

theorem maxBy_spec (a : α) (l : List α) :
    maxBy key a l ∈ a :: l ∧ ∀ b ∈ a :: l, key b ≤ key (maxBy key a l) := by
  have htrans : ∀ a b c : α, key b ≤ key a → key c ≤ key b → key c ≤ key a :=
    fun _ _ _ hab hbc => hbc.trans hab
  refine foldl_choice (fun a b => key b ≤ key a) (fun _ => le_rfl) htrans (fun a b => ?_) a l
  split_ifs with h
  · exact ⟨.inr rfl, h.le, le_rfl⟩
  · exact ⟨.inl rfl, le_rfl, not_lt.mp h⟩

/-- Lists with the same members have the same least key. -/
theorem key_minBy_congr {a a' : α} {l l' : List α} (h : ∀ b, b ∈ a :: l ↔ b ∈ a' :: l') :
    key (minBy key a l) = key (minBy key a' l') := by
  obtain ⟨hmem, hle⟩ := minBy_spec key a l
  obtain ⟨hmem', hle'⟩ := minBy_spec key a' l'
  exact le_antisymm (hle _ ((h _).mpr hmem')) (hle' _ ((h _).mp hmem))

/-- Lists with the same members have the same greatest key. -/
theorem key_maxBy_congr {a a' : α} {l l' : List α} (h : ∀ b, b ∈ a :: l ↔ b ∈ a' :: l') :
    key (maxBy key a l) = key (maxBy key a' l') := by
  obtain ⟨hmem, hle⟩ := maxBy_spec key a l
  obtain ⟨hmem', hle'⟩ := maxBy_spec key a' l'
  exact le_antisymm (hle' _ ((h _).mp hmem)) (hle _ ((h _).mpr hmem'))

end WeatherBot.Common
