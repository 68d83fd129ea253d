import Mathlib.Tactic

/-!
# Lines of a text

`str.splitlines`, which ends a line at more characters than a line feed, and the
newline translation of a file that is read as text.

* `splitlines_joinLines`: lines that have no line boundary inside are split back.
* `length_lt_splitlines`: **a line that has one is split into several.**
* `universalNewlines_eq_self`: a text without carriage returns is read as it is.
-/

namespace WeatherBot.Common

/-- A line boundary of `str.splitlines`. -/
def isLineBreak (c : Char) : Bool :=
  let n := c.toNat
  (10 ≤ n && n ≤ 13) || (28 ≤ n && n ≤ 30) || n == 0x85 || n == 0x2028 || n == 0x2029

/-- `str.splitlines()`. -/
def splitlines : List Char → List (List Char)
  | [] => []
  | '\r' :: '\n' :: l => [] :: splitlines l
  | c :: l =>
    if isLineBreak c then [] :: splitlines l
    else
      match splitlines l with
      | [] => [[c]]
      | line :: lines => (c :: line) :: lines

/-- Lines with a line feed after each. -/
def joinLines (lines : List (List Char)) : List Char := lines.flatMap (· ++ ['\n'])

theorem splitlines_cons {c : Char} (hc : c ≠ '\r') (l : List Char) :
    splitlines (c :: l) =
      if isLineBreak c then [] :: splitlines l
      else
        match splitlines l with
        | [] => [[c]]
        | line :: lines => (c :: line) :: lines := by
  rw [splitlines]
  rintro l' rfl -
  exact hc rfl

/-- **A line without line boundaries is split off.** -/
theorem splitlines_append {line : List Char} (h : ∀ c ∈ line, isLineBreak c = false)
    (rest : List Char) : splitlines (line ++ '\n' :: rest) = line :: splitlines rest := by
  induction line with
  | nil => rw [List.nil_append, splitlines_cons (by decide), if_pos (by decide)]
  | cons c line ih =>
    rw [List.forall_mem_cons] at h
    have hc : c ≠ '\r' := by
      rintro rfl
      exact absurd h.1 (by decide)
    rw [List.cons_append, splitlines_cons hc, if_neg (by rw [h.1]; decide), ih h.2]

theorem splitlines_joinLines {lines : List (List Char)}
    (h : ∀ line ∈ lines, ∀ c ∈ line, isLineBreak c = false) :
    splitlines (joinLines lines) = lines := by
  induction lines with
  | nil => rfl
  | cons line lines ih =>
    rw [List.forall_mem_cons] at h
    rw [joinLines, List.flatMap_cons, List.append_assoc, List.singleton_append,
      splitlines_append h.1]
    exact congrArg _ (ih h.2)

/-- There are at least as many lines as line boundaries. -/
theorem countP_le_splitlines {l : List Char} (h : '\r' ∉ l) :
    l.countP isLineBreak ≤ (splitlines l).length := by
  induction l with
  | nil => exact le_rfl
  | cons c l ih =>
    rw [List.mem_cons, not_or] at h
    have ih := ih h.2
    rw [splitlines_cons (Ne.symm h.1), List.countP_cons]
    split_ifs with hc
    · rw [List.length_cons]
      omega
    · cases hl : splitlines l with
      | nil =>
        rw [hl] at ih
        exact ih.trans (Nat.zero_le _)
      | cons line lines =>
        rw [hl] at ih
        exact ih

theorem countP_joinLines (lines : List (List Char)) :
    (joinLines lines).countP isLineBreak = lines.length + (lines.map (List.countP isLineBreak)).sum := by
  induction lines with
  | nil => rfl
  | cons line lines ih =>
    have hend : List.countP isLineBreak ['\n'] = 1 := by decide
    rw [joinLines, List.flatMap_cons, List.countP_append, List.countP_append, hend]
    rw [joinLines] at ih
    rw [ih, List.length_cons, List.map_cons, List.sum_cons]
    omega

/-- **A line boundary inside a line makes one more line.** -/
theorem length_lt_splitlines {lines : List (List Char)} (hr : '\r' ∉ joinLines lines)
    {line : List Char} (hline : line ∈ lines) {c : Char} (hc : c ∈ line) (hb : isLineBreak c = true) :
    lines.length < (splitlines (joinLines lines)).length := by
  have hcount := countP_le_splitlines hr
  rw [countP_joinLines] at hcount
  have hpos : 0 < line.countP isLineBreak := List.countP_pos_iff.mpr ⟨c, hc, hb⟩
  have hle : line.countP isLineBreak ≤ (lines.map (List.countP isLineBreak)).sum :=
    List.le_sum_of_mem (List.mem_map_of_mem hline)
  omega

/-! ## Reading as text -/

/-- The newline translation of `read_text`. -/
def universalNewlines : List Char → List Char
  | [] => []
  | '\r' :: '\n' :: l => '\n' :: universalNewlines l
  | c :: l => (if c = '\r' then '\n' else c) :: universalNewlines l

theorem universalNewlines_eq_self {l : List Char} (h : '\r' ∉ l) : universalNewlines l = l := by
  induction l with
  | nil => rfl
  | cons c l ih =>
    rw [List.mem_cons, not_or] at h
    have hc : c ≠ '\r' := Ne.symm h.1
    rw [universalNewlines, if_neg hc, ih h.2]
    rintro l' rfl -
    exact hc rfl

end WeatherBot.Common
