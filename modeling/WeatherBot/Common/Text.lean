import Mathlib.Data.List.TakeWhile
import Mathlib.Tactic
import Mathlib.Data.String.Basic

/-!
# Text

* `strip`: surrounding white space removed, with white space as `str.isspace`
  defines it. `strip_strip`: stripping twice is stripping once.
* `CaseMapping`: what is used of a Unicode case mapping such as `str.upper` or
  `str.casefold`.
* `sortedSet`: `sorted(set(texts))`. `sortedSet_sortedSet`: sorting twice is
  sorting once.
* `padDigits`, `readDigits`: fixed-width decimal fields (`readDigits_pad`).
-/

namespace WeatherBot.Common

/-- What holds of each character of a fixed text, by testing them one by one. -/
theorem forall_mem_of_all {p : Char → Prop} [DecidablePred p] {l : List Char} (h : l.all p = true) :
    ∀ c ∈ l, p c := by
  intro c hc
  exact of_decide_eq_true (List.all_eq_true.mp h c hc)

/-! ## White space -/

/-- `str.isspace` of one character: bidirectional type WS, B or S, or category Zs. -/
def isSpace (c : Char) : Bool :=
  let n := c.toNat
  (9 ≤ n && n ≤ 13) || (28 ≤ n && n ≤ 32) || n == 0x85 || n == 0xa0 || n == 0x1680 ||
    (0x2000 ≤ n && n ≤ 0x200a) || n == 0x2028 || n == 0x2029 || n == 0x202f || n == 0x205f ||
    n == 0x3000

/-- `str.strip` on the characters of a string. -/
def stripChars (l : List Char) : List Char :=
  ((l.dropWhile isSpace).reverse.dropWhile isSpace).reverse

/-- `str.strip`. -/
def strip (s : String) : String := String.ofList (stripChars s.toList)

/-- `not s.strip()`. -/
def isBlank (s : String) : Bool := strip s == ""

theorem dropWhile_eq_self {p : Char → Bool} {l : List Char} (h : ∀ c, l.head? = some c → p c = false) :
    l.dropWhile p = l := by
  cases l with
  | nil => rfl
  | cons c l => rw [List.dropWhile_cons_of_neg]; simp [h c rfl]

theorem head_dropWhile {p : Char → Bool} (l : List Char) :
    ∀ c, (l.dropWhile p).head? = some c → p c = false := by
  intro c hc
  have := List.head?_dropWhile_not p l
  rw [hc] at this
  exact this

theorem stripChars_stripChars (l : List Char) : stripChars (stripChars l) = stripChars l := by
  set m := l.dropWhile isSpace with hm
  set r := (m.reverse.dropWhile isSpace).reverse with hr
  have hrl : stripChars l = r := rfl
  -- the first character of `r` is the first character of `m`
  have hpre : r <+: m := by
    have := List.dropWhile_suffix isSpace (l := m.reverse)
    rw [← List.reverse_prefix, List.reverse_reverse] at this
    exact this
  have hhead : r.dropWhile isSpace = r := by
    apply dropWhile_eq_self
    intro c hc
    apply head_dropWhile l c
    obtain ⟨t, ht⟩ := hpre
    rw [← hm, ← ht]
    cases hr' : r with
    | nil => rw [hr'] at hc; cases hc
    | cons d r' => rw [hr'] at hc; exact hc
  have htail : r.reverse.dropWhile isSpace = r.reverse := by
    apply dropWhile_eq_self
    intro c hc
    rw [hr, List.reverse_reverse] at hc
    exact head_dropWhile _ c hc
  rw [hrl]
  show ((r.dropWhile isSpace).reverse.dropWhile isSpace).reverse = r
  rw [hhead, htail, List.reverse_reverse]

/-- A text without white space is not changed. -/
theorem stripChars_eq_self {l : List Char} (h : ∀ c ∈ l, isSpace c = false) : stripChars l = l := by
  have hl : l.dropWhile isSpace = l :=
    dropWhile_eq_self fun c hc => h c (List.mem_of_mem_head? hc)
  have hr : l.reverse.dropWhile isSpace = l.reverse :=
    dropWhile_eq_self fun c hc => h c (List.mem_reverse.mp (List.mem_of_mem_head? hc))
  rw [stripChars, hl, hr, List.reverse_reverse]

theorem strip_strip (s : String) : strip (strip s) = strip s := by
  unfold strip
  rw [String.toList_ofList, stripChars_stripChars]

theorem isBlank_eq_false {s : String} : isBlank s = false ↔ strip s ≠ "" := by
  simp [isBlank]

theorem stripChars_eq_nil {l : List Char} (h : stripChars l = []) : ∀ c ∈ l, isSpace c = true := by
  intro c hc
  rw [stripChars, List.reverse_eq_nil_iff, List.dropWhile_eq_nil_iff] at h
  rw [← List.takeWhile_append_dropWhile (p := isSpace) (l := l), List.mem_append] at hc
  rcases hc with hc | hc
  · exact List.mem_takeWhile_imp hc
  · exact h c (List.mem_reverse.mpr hc)

/-- A text with a character that is not white space is not blank. -/
theorem isBlank_of_mem {s : String} {c : Char} (h : c ∈ s.toList) (hc : isSpace c = false) :
    isBlank s = false := by
  rw [isBlank_eq_false]
  intro hs
  have hnil : stripChars s.toList = [] := by
    have := congrArg String.toList hs
    rwa [strip, String.toList_ofList] at this
  rw [stripChars_eq_nil hnil c h] at hc
  cases hc

/-! ## Case mappings -/

/-- A Unicode case mapping: mapping twice is mapping once, no text becomes empty, and no white
space appears at the ends of a stripped text. -/
structure CaseMapping where
  map : String → String
  map_map : ∀ s, map (map s) = map s
  map_ne_empty : ∀ s, s ≠ "" → map s ≠ ""
  strip_map : ∀ s, strip s = s → strip (map s) = map s

namespace CaseMapping

variable (m : CaseMapping)

/-- `m` applied to a stripped text, as in `value.strip().upper()`. -/
def normalize (s : String) : String := m.map (strip s)

theorem strip_normalize (s : String) : strip (m.normalize s) = m.normalize s :=
  m.strip_map _ (strip_strip s)

end CaseMapping

/-! ### Letter by letter -/

theorem stripChars_map {f : Char → Char} (hf : ∀ c, isSpace (f c) = isSpace c) (l : List Char) :
    stripChars (l.map f) = (stripChars l).map f := by
  have h : isSpace ∘ f = isSpace := funext hf
  rw [stripChars, List.dropWhile_map, h, ← List.map_reverse, List.dropWhile_map, h,
    ← List.map_reverse, stripChars]

/-- A case mapping that maps each letter to one letter. -/
def CaseMapping.ofChar (f : Char → Char) (hidem : ∀ c, f (f c) = f c)
    (hspace : ∀ c, isSpace (f c) = isSpace c) : CaseMapping where
  map s := String.ofList (s.toList.map f)
  map_map s := by simp [Function.comp_def, hidem]
  map_ne_empty s hs h := by
    apply hs
    rw [← String.toList_inj] at h ⊢
    simpa using h
  strip_map s hs := by
    have hs' : stripChars s.toList = s.toList := by
      simpa [strip] using congrArg String.toList hs
    rw [strip, String.toList_ofList, stripChars_map hspace, hs']

theorem ascii_cases {P : Char → Prop} (hlow : ∀ n < 128, P (Char.ofNat n))
    (hhigh : ∀ c : Char, 128 ≤ c.toNat → P c) (c : Char) : P c := by
  rcases lt_or_ge c.toNat 128 with h | h
  · rw [← Char.ofNat_toNat c]
    exact hlow _ h
  · exact hhigh c h

theorem toUpper_of_le {c : Char} (h : 128 ≤ c.toNat) : c.toUpper = c := by
  apply dif_neg
  rintro ⟨-, hc⟩
  have : c.toNat ≤ 122 := hc
  omega

theorem toLower_of_le {c : Char} (h : 128 ≤ c.toNat) : c.toLower = c := by
  apply dif_neg
  rintro ⟨-, hc⟩
  have : c.toNat ≤ 90 := hc
  omega

/-- `str.upper` on ASCII texts. -/
def CaseMapping.asciiUpper : CaseMapping :=
  .ofChar Char.toUpper
    (ascii_cases (by decide) fun c h => by rw [toUpper_of_le h, toUpper_of_le h])
    (ascii_cases (by decide) fun c h => by rw [toUpper_of_le h])

/-- `str.lower` and `str.casefold` on ASCII texts. -/
def CaseMapping.asciiLower : CaseMapping :=
  .ofChar Char.toLower
    (ascii_cases (by decide) fun c h => by rw [toLower_of_le h, toLower_of_le h])
    (ascii_cases (by decide) fun c h => by rw [toLower_of_le h])

/-! ## Sorted sets -/

section SortedSet

variable {α : Type} [LinearOrder α]

/-- Put an element in its place, unless it is there already. -/
def insertSorted (a : α) : List α → List α
  | [] => [a]
  | b :: l => if b < a then b :: insertSorted a l else if a = b then b :: l else a :: b :: l

/-- `sorted(set(l))`. -/
def sortedSet (l : List α) : List α := l.foldr insertSorted []

theorem mem_insertSorted {a b : α} {l : List α} : b ∈ insertSorted a l ↔ b = a ∨ b ∈ l := by
  induction l with
  | nil => simp [insertSorted]
  | cons c l ih =>
    unfold insertSorted
    split_ifs with h1 h2
    · rw [List.mem_cons, ih, List.mem_cons]
      tauto
    · subst h2
      simp
    · simp

theorem mem_sortedSet {a : α} {l : List α} : a ∈ sortedSet l ↔ a ∈ l := by
  induction l with
  | nil => rfl
  | cons b l ih =>
    show a ∈ insertSorted b (sortedSet l) ↔ _
    rw [mem_insertSorted, ih, List.mem_cons]

theorem pairwise_insertSorted {a : α} {l : List α} (h : l.Pairwise (· < ·)) :
    (insertSorted a l).Pairwise (· < ·) := by
  induction l with
  | nil => exact List.pairwise_singleton _ _
  | cons b l ih =>
    have hb := List.pairwise_cons.mp h
    unfold insertSorted
    split_ifs with h1 h2
    · refine List.pairwise_cons.mpr ⟨?_, ih hb.2⟩
      intro c hc
      rcases mem_insertSorted.mp hc with rfl | hc
      · exact h1
      · exact hb.1 c hc
    · exact h
    · have hab : a < b := lt_of_le_of_ne (not_lt.mp h1) h2
      refine List.pairwise_cons.mpr ⟨?_, h⟩
      intro c hc
      rcases List.mem_cons.mp hc with rfl | hc
      · exact hab
      · exact hab.trans (hb.1 c hc)

theorem pairwise_sortedSet (l : List α) : (sortedSet l).Pairwise (· < ·) := by
  induction l with
  | nil => exact List.Pairwise.nil
  | cons a l ih => exact pairwise_insertSorted ih

/-- A strictly increasing list is not changed. -/
theorem sortedSet_of_pairwise {l : List α} (h : l.Pairwise (· < ·)) : sortedSet l = l := by
  induction l with
  | nil => rfl
  | cons a l ih =>
    have ha := List.pairwise_cons.mp h
    show insertSorted a (sortedSet l) = a :: l
    rw [ih ha.2]
    cases l with
    | nil => rfl
    | cons b l =>
      have hab : a < b := ha.1 b (List.mem_cons_self ..)
      rw [insertSorted, if_neg hab.asymm, if_neg hab.ne]

theorem sortedSet_sortedSet (l : List α) : sortedSet (sortedSet l) = sortedSet l :=
  sortedSet_of_pairwise (pairwise_sortedSet l)

end SortedSet

/-! ## Decimal digits -/

/-- The last `w` decimal digits of `n`. -/
def padDigits : ℕ → ℕ → List Char
  | 0, _ => []
  | w + 1, n => padDigits w (n / 10) ++ [Nat.digitChar (n % 10)]

@[simp] theorem length_padDigits (w n : ℕ) : (padDigits w n).length = w := by
  induction w generalizing n with
  | zero => rfl
  | succ w ih => simp [padDigits, ih]

theorem isDigit_padDigits (w n : ℕ) : ∀ c ∈ padDigits w n, c.isDigit = true := by
  induction w generalizing n with
  | zero => simp [padDigits]
  | succ w ih =>
    intro c hc
    rw [padDigits, List.mem_append, List.mem_singleton] at hc
    rcases hc with hc | rfl
    · exact ih _ c hc
    · rw [Nat.isDigit_digitChar, decide_eq_true_eq]
      exact Nat.mod_lt _ (by norm_num)

theorem ofDigitChars_padDigits_init (w n init : ℕ) :
    Nat.ofDigitChars 10 (padDigits w n) init = init * 10 ^ w + n % 10 ^ w := by
  induction w generalizing n with
  | zero => simp [padDigits, Nat.mod_one]
  | succ w ih =>
    rw [padDigits, Nat.ofDigitChars_append, ih,
      Nat.ofDigitChars_cons_digitChar_of_lt_ten (Nat.mod_lt _ (by norm_num)), Nat.ofDigitChars_nil,
      pow_succ, mul_comm (10 ^ w), Nat.mod_mul]
    ring

theorem ofDigitChars_padDigits (w n : ℕ) : Nat.ofDigitChars 10 (padDigits w n) 0 = n % 10 ^ w := by
  rw [ofDigitChars_padDigits_init, zero_mul, zero_add]

/-- Read a field of exactly `w` digits. -/
def readDigits (w : ℕ) (l : List Char) : Option (ℕ × List Char) :=
  if (l.take w).length = w ∧ (l.take w).all Char.isDigit then
    some (Nat.ofDigitChars 10 (l.take w) 0, l.drop w)
  else none

/-- Read the character `c`. -/
def readChar (c : Char) : List Char → Option (List Char)
  | [] => none
  | c' :: l => if c' = c then some l else none

@[simp] theorem readChar_self (c : Char) (l : List Char) : readChar c (c :: l) = some l := by
  simp [readChar]

theorem readDigits_pad {w n : ℕ} (h : n < 10 ^ w) (rest : List Char) :
    readDigits w (padDigits w n ++ rest) = some (n, rest) := by
  have ht : (padDigits w n ++ rest).take w = padDigits w n := by
    rw [List.take_append_of_le_length (by simp), List.take_of_length_le (by simp)]
  have hd : (padDigits w n ++ rest).drop w = rest := by
    rw [List.drop_append_of_le_length (by simp), List.drop_of_length_le (by simp), List.nil_append]
  rw [readDigits, ht, hd, if_pos, ofDigitChars_padDigits, Nat.mod_eq_of_lt h]
  exact ⟨by simp, List.all_eq_true.mpr (isDigit_padDigits w n)⟩

/-! ## Spans -/

/-- A run of characters with property `p` is cut off where it ends. -/
theorem takeWhile_append_of_all {p : Char → Bool} {l : List Char} (rest : List Char) (hl : ∀ c ∈ l, p c = true)
    (hrest : ∀ c, rest.head? = some c → p c = false) :
    (l ++ rest).takeWhile p = l ∧ (l ++ rest).dropWhile p = rest := by
  have hr : rest.takeWhile p = [] ∧ rest.dropWhile p = rest := by
    cases rest with
    | nil => exact ⟨rfl, rfl⟩
    | cons c rest => simp [hrest c rfl]
  rw [List.takeWhile_append_of_pos hl, List.dropWhile_append_of_pos hl, hr.1, hr.2, List.append_nil]
  exact ⟨rfl, rfl⟩

/-- The text before the first separator is determined. -/
theorem append_separator_inj {c : Char} {l l' rest rest' : List Char} (h : c ∉ l) (h' : c ∉ l')
    (heq : l ++ c :: rest = l' ++ c :: rest') : l = l' ∧ rest = rest' := by
  have hspan : ∀ {m : List Char} (r : List Char), c ∉ m →
      (m ++ c :: r).takeWhile (· ≠ c) = m ∧ (m ++ c :: r).dropWhile (· ≠ c) = c :: r := by
    intro m r hm
    refine takeWhile_append_of_all _ (fun d hd => ?_) (by simp)
    rw [decide_eq_true_eq]
    rintro rfl
    exact hm hd
  obtain ⟨htake, hdrop⟩ := hspan rest h
  obtain ⟨htake', hdrop'⟩ := hspan rest' h'
  rw [heq] at htake hdrop
  exact ⟨htake.symm.trans htake', (List.cons.inj (hdrop.symm.trans hdrop')).2⟩

end WeatherBot.Common
