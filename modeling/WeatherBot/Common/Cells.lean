import Mathlib.Data.List.Chain

/-!
# Consecutive cells

A list of cells, each with a lower and an upper limit: a point is at or above the
lower limit of a cell (`low`), and at or below its upper one (`high`). Where every
cell begins where the one before it ends, exactly one contains the point.

* `Cells.exists_cell`: the cells before it end below the point, and those behind it
  begin above.
* `Cells.filter_eq`: the elements that contain the point are one cell.
* `Cells.same_cell_iff`: two points, or one point and two systems of limits, have
  the same cell iff they are on the same side of every lower limit.
-/

namespace WeatherBot.Common

variable {β : Type} {low high low' high' : β → Prop} {l : List β}

/-- Consecutive cells, the first and the last without an end, none of them empty. -/
structure Cells (low high : β → Prop) (l : List β) : Prop where
  nonempty : ∀ c ∈ l, low c ∨ high c
  adjacent : l.IsChain fun a b => high a ↔ ¬ low b
  first : ∀ c ∈ l.head?, low c
  last : ∀ c ∈ l.getLast?, high c

/-- The point is in the cell. -/
def InCell (low high : β → Prop) (c : β) : Prop := low c ∧ high c

/-- Behind a cell that begins above the point, all of them do. -/
theorem not_low_of_chain {c : β} (hchain : (c :: l).IsChain fun a b => high a ↔ ¬ low b)
    (hnonempty : ∀ b ∈ l, low b ∨ high b) (hc : high c) : ∀ b ∈ l, ¬ low b := by
  induction l generalizing c with
  | nil => exact fun b hb => absurd hb List.not_mem_nil
  | cons d l ih =>
    rw [List.isChain_cons_cons] at hchain
    have hd : ¬ low d := hchain.1.mp hc
    have hhigh : high d := (hnonempty d List.mem_cons_self).resolve_left hd
    intro b hb
    rcases List.mem_cons.mp hb with rfl | hb
    · exact hd
    · exact ih hchain.2 (fun b hb => hnonempty b (List.mem_cons_of_mem _ hb)) hhigh b hb

/-- **One cell contains the point**: the cells before it end below, and those behind it begin
above. -/
theorem Cells.exists_cell (h : Cells low high l) (hne : l ≠ []) :
    ∃ before c after, l = before ++ c :: after ∧ (∀ b ∈ before, low b ∧ ¬ high b) ∧ InCell low high c ∧
      ∀ b ∈ after, ¬ low b := by
  obtain ⟨hnonempty, hadjacent, hfirst, hlast⟩ := h
  induction l with
  | nil => exact absurd rfl hne
  | cons c l ih =>
    have hlow : low c := hfirst c rfl
    have hrest : ∀ b ∈ l, low b ∨ high b := fun b hb => hnonempty b (List.mem_cons_of_mem _ hb)
    by_cases hhigh : high c
    · exact ⟨[], c, l, rfl, by simp, ⟨hlow, hhigh⟩, not_low_of_chain hadjacent hrest hhigh⟩
    · cases l with
      | nil => exact absurd (hlast c rfl) hhigh
      | cons d l =>
        rw [List.isChain_cons_cons] at hadjacent
        have hd : low d := by
          by_contra hd
          exact hhigh (hadjacent.1.mpr hd)
        obtain ⟨before, c', after, heq, hbefore, hin, hafter⟩ := ih (List.cons_ne_nil _ _) hrest
          hadjacent.2 (by rintro b ⟨⟩; exact hd) (by rwa [List.getLast?_cons_cons] at hlast)
        refine ⟨c :: before, c', after, by rw [heq, List.cons_append], ?_, hin, hafter⟩
        exact List.forall_mem_cons.mpr ⟨⟨hlow, hhigh⟩, hbefore⟩

/-- The cell of the point, as the elements that contain it. -/
theorem Cells.filter_eq (h : Cells low high l) (hne : l ≠ []) {p : β → Bool}
    (hp : ∀ b ∈ l, p b = true ↔ InCell low high b) :
    ∃ c ∈ l, l.filter p = [c] ∧ ∀ b ∈ l, InCell low high b ↔ b = c := by
  obtain ⟨before, c, after, rfl, hbefore, hin, hafter⟩ := h.exists_cell hne
  have hmem : c ∈ before ++ c :: after := by simp
  have hno : ∀ b ∈ before ++ after, p b = false := by
    intro b hb
    have hb' : b ∈ before ++ c :: after := by
      rcases List.mem_append.mp hb with hb | hb
      · exact List.mem_append_left _ hb
      · exact List.mem_append_right _ (List.mem_cons_of_mem _ hb)
    by_contra htrue
    have hcell := (hp b hb').mp (eq_true_of_ne_false htrue)
    rcases List.mem_append.mp hb with hb | hb
    · exact (hbefore b hb).2 hcell.2
    · exact hafter b hb hcell.1
  refine ⟨c, hmem, ?_, fun b hb => ⟨fun hb' => ?_, fun heq => heq ▸ hin⟩⟩
  · have hnil : ∀ l' : List β, (∀ b ∈ l', p b = false) → l'.filter p = [] := fun l' hl' =>
      List.filter_eq_nil_iff.mpr fun b hb => by rw [hl' b hb]; exact Bool.false_ne_true
    rw [List.filter_append, List.filter_cons_of_pos ((hp c hmem).mpr hin),
      hnil before fun b hb => hno b (List.mem_append_left _ hb),
      hnil after fun b hb => hno b (List.mem_append_right _ hb), List.nil_append]
  · by_contra hne
    have hb0 : b ∈ before ++ after := by
      rcases List.mem_append.mp hb with hb | hb
      · exact List.mem_append_left _ hb
      · exact List.mem_append_right _ ((List.mem_cons.mp hb).resolve_left hne)
    exact Bool.false_ne_true ((hno b hb0).symm.trans ((hp b hb).mpr hb'))

/-- **The same cell contains the point under two systems of limits iff it is on the same side of every
lower limit.** -/
theorem Cells.same_cell_iff (h : Cells low high l) (h' : Cells low' high' l) (hne : l ≠ []) {c : β}
    (hc : ∀ b ∈ l, InCell low high b ↔ b = c) :
    (∀ b ∈ l, InCell low' high' b ↔ b = c) ↔ ∀ b ∈ l, low b ↔ low' b := by
  obtain ⟨before, d, after, heq, hbefore, hin, hafter⟩ := h.exists_cell hne
  have hd : d ∈ l := by rw [heq]; simp
  have hdc : d = c := (hc d hd).mp hin
  subst hdc
  constructor
  · intro hsame
    obtain ⟨before', d', after', heq', hbefore', hin', hafter'⟩ := h'.exists_cell hne
    have hd' : d' ∈ l := by rw [heq']; simp
    have hdd : d' = d := (hsame d' hd').mp hin'
    subst hdd
    -- the two decompositions are the same
    have hnot : d' ∉ before := fun hmem => (hbefore d' hmem).2 hin.2
    have hnot' : d' ∉ after := fun hmem => hafter d' hmem hin.1
    rw [heq] at heq'
    obtain ⟨rfl, -, rfl⟩ := (List.append_cons_inj_of_notMem hnot hnot').mp heq'
    intro b hb
    rw [heq, List.mem_append, List.mem_cons] at hb
    rcases hb with hb | rfl | hb
    · exact iff_of_true (hbefore b hb).1 (hbefore' b hb).1
    · exact iff_of_true hin.1 hin'.1
    · exact iff_of_false (hafter b hb) (hafter' b hb)
  · intro hside b hb
    rw [← hc b hb]
    refine and_congr (hside b hb).symm ?_
    -- the upper limit of a cell is the lower one of the next cell
    obtain ⟨front, back, rfl⟩ := List.append_of_mem hb
    cases back with
    | nil =>
      have hlast : b ∈ (front ++ [b]).getLast? := by rw [List.getLast?_append]; rfl
      exact iff_of_true (h'.last b hlast) (h.last b hlast)
    | cons e back =>
      have hadj := (@List.isChain_split _ _ _ front _).mp h.adjacent
      have hadj' := (@List.isChain_split _ _ _ front _).mp h'.adjacent
      have he : e ∈ front ++ b :: e :: back := by simp
      rw [(List.isChain_cons_cons.mp hadj.2).1, (List.isChain_cons_cons.mp hadj'.2).1, hside e he]

end WeatherBot.Common
