import WeatherBot.Common.DecimalValue
import Mathlib.Data.List.DropRight

/-!
# Decimals of any exponent, and their reduced form

A `Decimal` of the language has an integer exponent, and may be an infinity or a NaN.
The fixed-point text of a number depends on how it is written; the text of its reduced
form does not.

* `PyDecimal`: a `Decimal`, with its exponent as it is written.
* `Decimal.reduce`: the reduced form of a number. `Decimal.Reduced.eq_of_value`: a number
  has one.
* `Decimal.stripZeros_formatChars`: dropping the zeros of the text drops those of the number.
* `Decimal.getLast_formatChars`: a reduced number's text ends in no zero after the point.
* `PyDecimal.ofText_format`: reading a fixed-point text gives the number back.
-/

namespace WeatherBot.Common

/-- A `Decimal`: a sign, a coefficient and an exponent, an infinity or a NaN. -/
inductive PyDecimal where
  | finite (neg : Bool) (coeff : ℕ) (exponent : ℤ)
  | infinite (neg : Bool)
  | nan
deriving DecidableEq

namespace PyDecimal

/-- `value.is_finite()`. -/
def isFinite : PyDecimal → Bool
  | finite .. => true
  | _ => false

/-- The number that a finite `Decimal` stands for. -/
def value : PyDecimal → ℚ
  | finite neg coeff exponent => (if neg then -(coeff : ℚ) else coeff) * 10 ^ exponent
  | _ => 0

/-- The number without its positive exponent. -/
def fold : PyDecimal → Decimal
  | finite neg coeff exponent => .ofExponent neg coeff exponent
  | _ => .zero

/-- `format(value, "f")` of a finite `Decimal`: zeros are written for a positive exponent. -/
def format (d : PyDecimal) : String := d.fold.format

theorem value_fold {d : PyDecimal} (h : d.isFinite = true) : d.fold.value = d.value := by
  cases d with
  | finite neg coeff exponent => exact Decimal.value_ofExponent neg coeff exponent
  | infinite neg => cases h
  | nan => cases h

end PyDecimal

namespace Decimal

/-! ## Reduced numbers -/

/-- No zero ends the digits after the point, and zero has no sign. -/
structure Reduced (d : Decimal) : Prop where
  digits : d.scale ≠ 0 → ¬ 10 ∣ d.coeff
  sign : d.coeff = 0 → d.neg = false

/-- Zeros at the end of the digits after the point are dropped. -/
def trim (neg : Bool) : ℕ → ℕ → Decimal
  | coeff, 0 => ⟨neg, coeff, 0⟩
  | coeff, scale + 1 => if 10 ∣ coeff then trim neg (coeff / 10) scale else ⟨neg, coeff, scale + 1⟩

/-- The reduced form of a number. -/
def reduce (d : Decimal) : Decimal :=
  let t := trim d.neg d.coeff d.scale
  if t.coeff = 0 then zero else t

theorem digits_trim (neg : Bool) (coeff scale : ℕ) :
    (trim neg coeff scale).scale ≠ 0 → ¬ 10 ∣ (trim neg coeff scale).coeff := by
  induction scale generalizing coeff with
  | zero => simp [trim]
  | succ scale ih =>
    unfold trim
    split_ifs with h
    · exact ih _
    · exact fun _ => h

theorem value_trim (neg : Bool) (coeff scale : ℕ) :
    (trim neg coeff scale).value = (⟨neg, coeff, scale⟩ : Decimal).value := by
  induction scale generalizing coeff with
  | zero => rfl
  | succ scale ih =>
    unfold trim
    split_ifs with h
    · obtain ⟨c, rfl⟩ := h
      rw [ih, Nat.mul_div_cancel_left _ (by norm_num)]
      unfold value signed
      cases neg with
      | true =>
        push_cast
        rw [if_pos rfl, if_pos rfl, pow_succ]
        field_simp
      | false =>
        push_cast
        rw [pow_succ]
        field_simp
    · rfl

theorem reduced_reduce (d : Decimal) : d.reduce.Reduced := by
  unfold reduce
  dsimp only
  split_ifs with h
  · exact ⟨fun h0 => absurd rfl h0, fun _ => rfl⟩
  · exact ⟨digits_trim _ _ _, fun h0 => absurd h0 h⟩

theorem value_reduce (d : Decimal) : d.reduce.value = d.value := by
  have hvalue : (trim d.neg d.coeff d.scale).value = d.value := value_trim _ _ _
  unfold reduce
  dsimp only
  split_ifs with h
  · rw [← hvalue, value_of_coeff h]
    exact value_of_coeff rfl
  · exact hvalue

/-- The scale of a reduced number is the least that its value needs. -/
theorem Reduced.scale_le {a b : Decimal} (hb : b.Reduced) (h : a.value = b.value) : b.scale ≤ a.scale := by
  by_contra hlt
  obtain ⟨k, hk⟩ : ∃ k, b.scale = a.scale + (k + 1) := ⟨b.scale - a.scale - 1, by omega⟩
  have hcross : a.signed * 10 ^ b.scale = b.signed * 10 ^ a.scale := (numEq_iff_value a b).mpr h
  rw [hk, pow_add, ← mul_assoc, mul_right_comm] at hcross
  have hsigned : a.signed * 10 ^ (k + 1) = b.signed :=
    mul_right_cancel₀ (by positivity) hcross
  apply hb.digits (by omega)
  rw [← signed_natAbs, ← hsigned, pow_succ, Int.natAbs_mul, Int.natAbs_mul]
  exact Dvd.dvd.mul_left (Dvd.intro_left _ rfl) _

/-- **A number has one reduced form.** -/
theorem Reduced.eq_of_value {a b : Decimal} (ha : a.Reduced) (hb : b.Reduced) (h : a.value = b.value) :
    a = b := by
  have hscale : a.scale = b.scale := le_antisymm (ha.scale_le h.symm) (hb.scale_le h)
  have hsigned : a.signed = b.signed := by
    have hcross : a.signed * 10 ^ b.scale = b.signed * 10 ^ a.scale := (numEq_iff_value a b).mpr h
    rw [hscale] at hcross
    exact mul_right_cancel₀ (by positivity) hcross
  have hcoeff : a.coeff = b.coeff := by rw [← signed_natAbs, hsigned, signed_natAbs]
  obtain ⟨neg, coeff, scale⟩ := a
  obtain ⟨neg', coeff', scale'⟩ := b
  cases hscale
  cases hcoeff
  congr 1
  by_cases h0 : coeff = 0
  · exact (ha.sign h0).trans (hb.sign h0).symm
  · unfold signed at hsigned
    cases neg <;> cases neg' <;> simp_all

theorem reduce_eq_iff {a b : Decimal} : a.reduce = b.reduce ↔ a.value = b.value := by
  constructor
  · intro h
    rw [← value_reduce a, h, value_reduce]
  · intro h
    apply (reduced_reduce a).eq_of_value (reduced_reduce b)
    rw [value_reduce, value_reduce, h]

/-! ## The text of a reduced number -/

/-- `text.rstrip("0").rstrip(".")` of a text with a point. -/
def stripZeros (l : List Char) : List Char :=
  if '.' ∈ l then (l.rdropWhile (· = '0')).rdropWhile (· = '.') else l

/-- The sign and the digits before the point. -/
def wholeChars (neg : Bool) (n : ℕ) : List Char := (if neg then ['-'] else []) ++ Nat.toDigits 10 n

theorem formatChars_eq (d : Decimal) : d.formatChars = wholeChars d.neg (d.coeff / 10 ^ d.scale) ++
    if d.scale = 0 then [] else '.' :: padDigits d.scale d.coeff := rfl

theorem ne_point_of_mem_wholeChars {neg : Bool} {n : ℕ} {c : Char} (hc : c ∈ wholeChars neg n) : c ≠ '.' := by
  rcases List.mem_append.mp hc with hc | hc
  · split_ifs at hc
    · rw [List.mem_singleton.mp hc]
      decide
    · exact absurd hc List.not_mem_nil
  · exact (isDigit_of_not_sign (isDigit_toDigits _ c hc)).2.2

theorem point_mem_formatChars {d : Decimal} : '.' ∈ d.formatChars ↔ d.scale ≠ 0 := by
  rw [formatChars_eq, List.mem_append]
  constructor
  · rintro (h | h) h0
    · exact ne_point_of_mem_wholeChars h rfl
    · rw [if_pos h0] at h
      exact List.not_mem_nil h
  · intro h0
    right
    rw [if_neg h0]
    exact List.mem_cons_self

/-- The last digit after the point. -/
theorem formatChars_succ (neg : Bool) (coeff scale : ℕ) :
    formatChars ⟨neg, coeff, scale + 1⟩ = (formatChars ⟨neg, coeff / 10, scale⟩ ++
      if scale = 0 then ['.'] else []) ++ [Nat.digitChar (coeff % 10)] := by
  have hdiv : coeff / 10 ^ (scale + 1) = coeff / 10 / 10 ^ scale := by
    rw [Nat.div_div_eq_div_mul, pow_succ']
  rw [formatChars_eq, formatChars_eq]
  dsimp only
  rw [hdiv, if_neg (Nat.succ_ne_zero _), padDigits]
  by_cases h0 : scale = 0
  · subst h0
    simp [padDigits]
  · rw [if_neg h0, if_neg h0]
    simp

theorem digitChar_eq_zero {n : ℕ} (h : n < 10) : Nat.digitChar n = '0' ↔ n = 0 := by
  interval_cases n <;> decide

/-- **Dropping the zeros of the text drops those of the number.** -/
theorem stripZeros_formatChars (neg : Bool) (coeff scale : ℕ) :
    stripZeros (formatChars ⟨neg, coeff, scale⟩) = (trim neg coeff scale).formatChars := by
  induction scale generalizing coeff with
  | zero => rw [stripZeros, if_neg fun h => point_mem_formatChars.mp h rfl, trim]
  | succ scale ih =>
    have hpoint : '.' ∈ formatChars ⟨neg, coeff, scale + 1⟩ :=
      point_mem_formatChars.mpr (Nat.succ_ne_zero _)
    have hmod : coeff % 10 < 10 := Nat.mod_lt _ (by norm_num)
    rw [stripZeros, if_pos hpoint, formatChars_succ, trim]
    by_cases h : 10 ∣ coeff
    · have hlast : Nat.digitChar (coeff % 10) = '0' :=
        (digitChar_eq_zero hmod).mpr (Nat.mod_eq_zero_of_dvd h)
      rw [if_pos h, ← ih, hlast, List.rdropWhile_concat_pos _ _ _ (by decide), stripZeros]
      by_cases h0 : scale = 0
      · -- the point goes with the last zero
        have hnone : '.' ∉ formatChars ⟨neg, coeff / 10, scale⟩ :=
          fun hmem => point_mem_formatChars.mp hmem h0
        rw [if_pos h0, if_neg hnone, List.rdropWhile_concat_neg _ _ _ (by decide),
          List.rdropWhile_concat_pos _ _ _ (by decide), List.rdropWhile_eq_self_iff]
        intro hne hlastPoint
        have hmem := List.getLast_mem hne
        rw [of_decide_eq_true hlastPoint] at hmem
        exact hnone hmem
      · rw [if_neg h0, List.append_nil, if_pos (point_mem_formatChars.mpr h0)]
    · have hlast : Nat.digitChar (coeff % 10) ≠ '0' := fun heq =>
        h (Nat.dvd_of_mod_eq_zero ((digitChar_eq_zero hmod).mp heq))
      have hdigit : Nat.digitChar (coeff % 10) ≠ '.' := by
        have : (Nat.digitChar (coeff % 10)).isDigit = true := by
          rw [Nat.isDigit_digitChar, decide_eq_true_eq]
          exact hmod
        exact (isDigit_of_not_sign this).2.2
      rw [if_neg h, List.rdropWhile_concat_neg _ _ _ (by simpa using hlast),
        List.rdropWhile_concat_neg _ _ _ (by simp [hdigit]), formatChars_succ]

/-- A fixed-point text is made of digits, a minus and a point. -/
theorem mem_formatChars {d : Decimal} {c : Char} (hc : c ∈ d.formatChars) :
    c.isDigit = true ∨ c = '-' ∨ c = '.' := by
  rw [formatChars_eq] at hc
  rcases List.mem_append.mp hc with hc | hc
  · rcases List.mem_append.mp hc with hc | hc
    · split_ifs at hc
      · exact .inr (.inl (List.mem_singleton.mp hc))
      · exact absurd hc List.not_mem_nil
    · exact .inl (isDigit_toDigits _ c hc)
  · split_ifs at hc
    · exact absurd hc List.not_mem_nil
    · rcases List.mem_cons.mp hc with rfl | hc
      · exact .inr (.inr rfl)
      · exact .inl (isDigit_padDigits _ _ c hc)

/-- **The text of a reduced number ends in no point, and in no zero after a point.** -/
theorem getLast_formatChars {d : Decimal} (h : d.Reduced) {c : Char} (hc : d.formatChars.getLast? = some c) :
    c ≠ '.' ∧ ('.' ∈ d.formatChars → c ≠ '0') := by
  obtain ⟨neg, coeff, scale⟩ := d
  cases scale with
  | zero =>
    have hmem : c ∈ wholeChars neg (coeff / 10 ^ 0) := by
      have := List.mem_of_mem_getLast? hc
      rwa [formatChars_eq, if_pos rfl, List.append_nil] at this
    exact ⟨ne_point_of_mem_wholeChars hmem, fun hpoint => absurd rfl (point_mem_formatChars.mp hpoint)⟩
  | succ scale =>
    have hmod : coeff % 10 < 10 := Nat.mod_lt _ (by norm_num)
    rw [formatChars_succ, List.getLast?_concat, Option.some.injEq] at hc
    subst hc
    have hdigit : (Nat.digitChar (coeff % 10)).isDigit = true := by
      rw [Nat.isDigit_digitChar, decide_eq_true_eq]
      exact hmod
    refine ⟨(isDigit_of_not_sign hdigit).2.2, fun _ heq => ?_⟩
    exact h.digits (Nat.succ_ne_zero _) (Nat.dvd_of_mod_eq_zero ((digitChar_eq_zero hmod).mp heq))

end Decimal

/-! ## Reading -/

/-- A number without a positive exponent. -/
def Decimal.toPy (d : Decimal) : PyDecimal := .finite d.neg d.coeff (-d.scale)

namespace PyDecimal

@[simp] theorem fold_toPy (d : Decimal) : d.toPy.fold = d := by
  simp [Decimal.toPy, fold, Decimal.ofExponent]

/-- The words for an infinity and for a NaN. -/
def readWord (l : List Char) : Option PyDecimal :=
  let (neg, l) := Decimal.readSign l
  let l := l.map Char.toLower
  let digits := (if l.head? = some 's' then l.tail else l).drop 3
  if l = "inf".toList ∨ l = "infinity".toList then some (.infinite neg)
  else if (l.take 3 = "nan".toList ∨ l.take 4 = "snan".toList) ∧ digits.all Char.isDigit then some .nan
  else none

/-- `Decimal(text)`; underscores are dropped, and a positive exponent is folded. -/
def ofText (s : String) : Option PyDecimal :=
  let l := (stripChars s.toList).filter (· ≠ '_')
  if l.any isSpace then none
  else match Decimal.ofText (String.ofList l) with
    | some d => some d.toPy
    | none => readWord l

/-- **Reading a number's fixed-point text gives the number back.** -/
theorem ofText_format (d : Decimal) : ofText d.format = some d.toPy := by
  have hspace := Decimal.not_space_formatChars d
  have hplain : ∀ c ∈ d.formatChars, decide (c ≠ '_') = true := by
    intro c hc
    rw [decide_eq_true_eq]
    rintro rfl
    rcases Decimal.mem_formatChars hc with h | h | h <;> revert h <;> decide
  have hnone : d.formatChars.any isSpace = false := by
    rw [List.any_eq_false]
    exact fun c hc => by simp [hspace c hc]
  have hread := Decimal.ofText_format d
  rw [Decimal.format] at hread
  unfold ofText
  rw [Decimal.format, String.toList_ofList, stripChars_eq_self hspace, List.filter_eq_self.mpr hplain]
  dsimp only
  rw [hnone, if_neg Bool.false_ne_true, hread]

end PyDecimal

end WeatherBot.Common
