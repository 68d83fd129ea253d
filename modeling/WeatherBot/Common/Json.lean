import Mathlib.Tactic
import Mathlib.Data.String.Basic

/-!
# JSON values

The values that JSON texts denote, as `json.loads` returns them: an integer is
kept apart from any other number, whose text is kept. An object is the list of
its members in the order they were written.

* `sortKeys`: every object's members in the order of their keys, which is what
  `sort_keys=True` writes. `sortKeys_sortKeys`: sorting twice is sorting once.
* `Plain`: no object has a key twice, and no number is a float.
-/

namespace WeatherBot.Common

/-- A JSON value. -/
inductive Json where
  | null
  | bool (b : Bool)
  | int (n : ℤ)
  | float (text : String)
  | str (s : String)
  | arr (items : List Json)
  | obj (members : List (String × Json))

namespace Json

/-! ## Sorting the members of an object -/

/-- Put a member in front of the first one with a larger key. -/
def insertMember (p : String × Json) : List (String × Json) → List (String × Json)
  | [] => [p]
  | q :: l => if q.1 < p.1 then q :: insertMember p l else p :: q :: l

/-- Members in the order of their keys; members with one key keep their order. -/
def sortMembers (l : List (String × Json)) : List (String × Json) := l.foldr insertMember []

theorem perm_insertMember (p : String × Json) (l : List (String × Json)) :
    (insertMember p l).Perm (p :: l) := by
  induction l with
  | nil => exact List.Perm.refl _
  | cons q l ih =>
    unfold insertMember
    split_ifs
    · exact (List.Perm.cons q ih).trans (List.Perm.swap p q l)
    · exact List.Perm.refl _

theorem perm_sortMembers (l : List (String × Json)) : (sortMembers l).Perm l := by
  induction l with
  | nil => exact List.Perm.refl _
  | cons p l ih => exact (perm_insertMember p _).trans (List.Perm.cons p ih)

theorem mem_sortMembers {l : List (String × Json)} {p : String × Json} :
    p ∈ sortMembers l ↔ p ∈ l :=
  (perm_sortMembers l).mem_iff

/-- Members in increasing order of their keys. -/
def SortedMembers (l : List (String × Json)) : Prop := l.Pairwise fun p q => p.1 ≤ q.1

theorem sorted_insertMember {p : String × Json} {l : List (String × Json)} (h : SortedMembers l) :
    SortedMembers (insertMember p l) := by
  induction l with
  | nil => exact List.pairwise_singleton _ _
  | cons q l ih =>
    unfold SortedMembers at h
    rw [List.pairwise_cons] at h
    unfold insertMember
    split_ifs with hlt
    · refine List.pairwise_cons.mpr ⟨?_, ih h.2⟩
      intro r hr
      rcases List.mem_cons.mp ((perm_insertMember p l).mem_iff.mp hr) with rfl | hr
      · exact hlt.le
      · exact h.1 r hr
    · have hpq : p.1 ≤ q.1 := not_lt.mp hlt
      refine List.pairwise_cons.mpr ⟨?_, List.pairwise_cons.mpr h⟩
      intro r hr
      rcases List.mem_cons.mp hr with rfl | hr
      · exact hpq
      · exact hpq.trans (h.1 r hr)

theorem sorted_sortMembers (l : List (String × Json)) : SortedMembers (sortMembers l) := by
  induction l with
  | nil => exact List.Pairwise.nil
  | cons p l ih => exact sorted_insertMember ih

/-- Sorted members are not moved. -/
theorem sortMembers_of_sorted {l : List (String × Json)} (h : SortedMembers l) :
    sortMembers l = l := by
  induction l with
  | nil => rfl
  | cons p l ih =>
    unfold SortedMembers at h
    rw [List.pairwise_cons] at h
    show insertMember p (sortMembers l) = p :: l
    rw [ih h.2]
    cases l with
    | nil => rfl
    | cons q l =>
      rw [insertMember, if_neg]
      exact not_lt.mpr (h.1 q (List.mem_cons_self ..))

/-! ## Sorting everywhere in a value -/

mutual

/-- Every object's members in the order of their keys. -/
def sortKeys : Json → Json
  | null => null
  | bool b => bool b
  | int n => int n
  | float t => float t
  | str s => str s
  | arr items => arr (sortItems items)
  | obj members => obj (sortMembers (sortValues members))

def sortItems : List Json → List Json
  | [] => []
  | v :: l => sortKeys v :: sortItems l

def sortValues : List (String × Json) → List (String × Json)
  | [] => []
  | (k, v) :: l => (k, sortKeys v) :: sortValues l

end

theorem sortItems_eq_map (l : List Json) : sortItems l = l.map sortKeys := by
  induction l with
  | nil => rfl
  | cons v l ih => rw [sortItems, ih, List.map_cons]

theorem sortValues_eq_map (l : List (String × Json)) :
    sortValues l = l.map fun p => (p.1, sortKeys p.2) := by
  induction l with
  | nil => rfl
  | cons p l ih => rw [sortValues, ih, List.map_cons]

theorem keys_sortValues (l : List (String × Json)) :
    (sortValues l).map Prod.fst = l.map Prod.fst := by
  rw [sortValues_eq_map, List.map_map]
  rfl

theorem sortMembers_sortValues (l : List (String × Json)) :
    sortValues (sortMembers l) = sortMembers (sortValues l) := by
  have hins : ∀ (p : String × Json) (l : List (String × Json)),
      sortValues (insertMember p l) = insertMember (p.1, sortKeys p.2) (sortValues l) := by
    intro p l
    induction l with
    | nil => rfl
    | cons q l ih =>
      simp only [insertMember, sortValues]
      split_ifs
      · rw [sortValues, ih]
      · rfl
  induction l with
  | nil => rfl
  | cons p l ih =>
    show sortValues (insertMember p (sortMembers l)) = insertMember _ (sortMembers (sortValues l))
    rw [hins, ih]

mutual

/-- Sorting twice is sorting once. -/
theorem sortKeys_sortKeys : ∀ v : Json, v.sortKeys.sortKeys = v.sortKeys
  | null => rfl
  | bool _ => rfl
  | int _ => rfl
  | float _ => rfl
  | str _ => rfl
  | arr items => by
    rw [sortKeys, sortKeys, sortItems_sortItems items]
  | obj members => by
    rw [sortKeys, sortKeys, sortMembers_sortValues, sortValues_sortValues members,
      sortMembers_of_sorted (sorted_sortMembers _)]

theorem sortItems_sortItems : ∀ l : List Json, sortItems (sortItems l) = sortItems l
  | [] => rfl
  | v :: l => by
    rw [sortItems, sortItems, sortKeys_sortKeys v, sortItems_sortItems l]

theorem sortValues_sortValues : ∀ l : List (String × Json), sortValues (sortValues l) = sortValues l
  | [] => rfl
  | (k, v) :: l => by
    rw [sortValues, sortValues, sortKeys_sortKeys v, sortValues_sortValues l]

end

/-! ## What the sorted form of an object keeps -/

theorem nodup_keys_sorted {ms : List (String × Json)} (h : (ms.map Prod.fst).Nodup) :
    ((sortMembers (sortValues ms)).map Prod.fst).Nodup := by
  rw [((perm_sortMembers _).map Prod.fst).nodup_iff, keys_sortValues]
  exact h

theorem mem_sorted {ms : List (String × Json)} {p : String × Json} (h : p ∈ ms) :
    (p.1, p.2.sortKeys) ∈ sortMembers (sortValues ms) := by
  rw [mem_sortMembers, sortValues_eq_map]
  exact List.mem_map_of_mem (f := fun p => (p.1, p.2.sortKeys)) h

/-- Two values of one key in a list without repeated keys. -/
theorem eq_of_mem_of_nodup {l : List (String × Json)} (h : (l.map Prod.fst).Nodup) {k : String}
    {v w : Json} (hv : (k, v) ∈ l) (hw : (k, w) ∈ l) : v = w := by
  have := List.inj_on_of_nodup_map h hv hw rfl
  exact (Prod.mk.inj this).2

/-- Objects with one sorted form have the same members. -/
theorem member_of_sortKeys_eq {ms ms' : List (String × Json)}
    (h : (obj ms).sortKeys = (obj ms').sortKeys) (hnd : (ms'.map Prod.fst).Nodup) {k : String}
    {v w : Json} (hv : (k, v) ∈ ms) (hw : (k, w) ∈ ms') : v.sortKeys = w.sortKeys := by
  rw [sortKeys, sortKeys, obj.injEq] at h
  have hv := mem_sorted hv
  rw [h] at hv
  exact eq_of_mem_of_nodup (nodup_keys_sorted hnd) hv (mem_sorted hw)

theorem eq_of_sortMembers_eq {l l' : List (String × Json)} (hk : l.map Prod.fst = l'.map Prod.fst)
    (hnd : (l.map Prod.fst).Nodup) (h : l.Perm l') : l = l' := by
  induction l generalizing l' with
  | nil => exact (List.nil_perm.mp h).symm
  | cons p l ih =>
    cases l' with
    | nil => cases hk
    | cons p' l' =>
      rw [List.map_cons, List.map_cons, List.cons.injEq] at hk
      rw [List.map_cons, List.nodup_cons] at hnd
      have hp : p = p' := by
        rcases List.mem_cons.mp (h.mem_iff.mp (List.mem_cons_self ..)) with hp | hp
        · exact hp
        · rw [hk.2] at hnd
          exact absurd (List.mem_map_of_mem (f := Prod.fst) hp) hnd.1
      subst hp
      rw [ih hk.2 hnd.2 h.cons_inv]

/-- **Objects with the same keys in the same order and one sorted form agree member by member.** -/
theorem sortValues_of_sortKeys_eq {ms ms' : List (String × Json)}
    (h : (obj ms).sortKeys = (obj ms').sortKeys) (hk : ms.map Prod.fst = ms'.map Prod.fst)
    (hnd : (ms.map Prod.fst).Nodup) : sortValues ms = sortValues ms' := by
  rw [sortKeys, sortKeys, obj.injEq] at h
  have hperm : (sortValues ms).Perm (sortValues ms') :=
    (perm_sortMembers _).symm.trans (h ▸ perm_sortMembers _)
  refine eq_of_sortMembers_eq ?_ ?_ hperm
  · rw [keys_sortValues, keys_sortValues, hk]
  · rw [keys_sortValues]
    exact hnd

/-- Lists of texts are not changed by sorting. -/
theorem sortItems_map_str (l : List String) : sortItems (l.map str) = l.map str := by
  rw [sortItems_eq_map, List.map_map]
  rfl

/-! ## Plain values -/

mutual

/-- No object of the value has a key twice, and no number is a float. -/
def Plain : Json → Prop
  | null => True
  | bool _ => True
  | int _ => True
  | float _ => False
  | str _ => True
  | arr items => PlainItems items
  | obj members => (members.map Prod.fst).Nodup ∧ PlainValues members

def PlainItems : List Json → Prop
  | [] => True
  | v :: l => Plain v ∧ PlainItems l

def PlainValues : List (String × Json) → Prop
  | [] => True
  | (_, v) :: l => Plain v ∧ PlainValues l

end

theorem plainItems_iff {l : List Json} : PlainItems l ↔ ∀ v ∈ l, Plain v := by
  induction l with
  | nil => simp [PlainItems]
  | cons v l ih => rw [PlainItems, ih, List.forall_mem_cons]

theorem plainValues_iff {l : List (String × Json)} :
    PlainValues l ↔ ∀ p ∈ l, Plain p.2 := by
  induction l with
  | nil => simp [PlainValues]
  | cons p l ih => rw [PlainValues, ih, List.forall_mem_cons]

theorem plainValues_sortMembers {l : List (String × Json)} :
    PlainValues (sortMembers l) ↔ PlainValues l := by
  simp only [plainValues_iff, mem_sortMembers]

theorem nodup_keys_sortMembers {l : List (String × Json)} :
    ((sortMembers l).map Prod.fst).Nodup ↔ (l.map Prod.fst).Nodup :=
  ((perm_sortMembers l).map Prod.fst).nodup_iff

mutual

theorem plain_sortKeys : ∀ {v : Json}, v.Plain → v.sortKeys.Plain
  | null, _ => trivial
  | bool _, _ => trivial
  | int _, _ => trivial
  | str _, _ => trivial
  | arr items, h => by
    rw [Plain] at h
    rw [sortKeys, Plain]
    exact plainItems_sortItems h
  | obj members, h => by
    rw [Plain] at h
    rw [sortKeys, Plain, nodup_keys_sortMembers, keys_sortValues, plainValues_sortMembers]
    exact ⟨h.1, plainValues_sortValues h.2⟩

theorem plainItems_sortItems : ∀ {l : List Json}, PlainItems l → PlainItems (sortItems l)
  | [], _ => trivial
  | _ :: _, h => ⟨plain_sortKeys h.1, plainItems_sortItems h.2⟩

theorem plainValues_sortValues :
    ∀ {l : List (String × Json)}, PlainValues l → PlainValues (sortValues l)
  | [], _ => trivial
  | (_, _) :: _, h => ⟨plain_sortKeys h.1, plainValues_sortValues h.2⟩

end

end Json

end WeatherBot.Common
