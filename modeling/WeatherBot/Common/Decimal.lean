import WeatherBot.Common.Text

/-!
# Rounding in a 28-digit decimal context

Decimal arithmetic on integer coefficients. A `Decimal` operation computes the
exact result and then rounds its coefficient half-even to the context
precision; `quantize` rounds half-even to a fixed exponent.

* `roundDiv`: half-even rounding of `n / d`, with its error (`roundDiv_error`)
  and monotonicity (`roundDiv_mono`).
* `ctxRound`: a coefficient rounded to `precision` significant digits. It is
  exact below `10 ^ precision` (`ctxRound_of_lt`), monotone (`ctxRound_mono`)
  and off by at most half a unit of the digits it drops (`ctxRound_error`).
* `divRound`: a quotient rounded to `precision` significant digits.
-/

namespace WeatherBot.Common

/-! ## Half-even division -/

/-- `n / d` rounded to the nearest integer, ties to even. -/
def roundDiv (n d : ℤ) : ℤ :=
  let q := n / d
  let r := n % d
  if 2 * r < d then q else if d < 2 * r then q + 1 else if q % 2 = 0 then q else q + 1

theorem roundDiv_eq_or (n d : ℤ) : roundDiv n d = n / d ∨ roundDiv n d = n / d + 1 := by
  unfold roundDiv
  dsimp only
  split_ifs <;> simp

/-- The rounding error is at most half a unit. -/
theorem roundDiv_error (n : ℤ) {d : ℤ} (hd : 0 < d) :
    2 * n - d ≤ 2 * (d * roundDiv n d) ∧ 2 * (d * roundDiv n d) ≤ 2 * n + d := by
  have hn := Int.mul_ediv_add_emod n d
  have h0 := Int.emod_nonneg n hd.ne'
  have h1 := Int.emod_lt_of_pos n hd
  unfold roundDiv
  dsimp only
  split_ifs <;> constructor <;> (try rw [mul_add]) <;> omega

theorem roundDiv_mono {n m d : ℤ} (hd : 0 < d) (h : n ≤ m) : roundDiv n d ≤ roundDiv m d := by
  have hq : n / d ≤ m / d := Int.ediv_le_ediv hd h
  rcases Int.lt_or_eq_of_le hq with hlt | heq
  · rcases roundDiv_eq_or n d with hn | hn <;> rcases roundDiv_eq_or m d with hm | hm <;> omega
  · -- same quotient: the remainders are ordered as the numerators are
    have hr : n % d ≤ m % d := by
      have hn := Int.mul_ediv_add_emod n d
      have hm := Int.mul_ediv_add_emod m d
      rw [heq] at hn
      omega
    unfold roundDiv
    dsimp only
    rw [heq]
    split_ifs <;> omega

theorem roundDiv_zero {d : ℤ} (hd : 0 < d) : roundDiv 0 d = 0 := by
  unfold roundDiv
  simp [hd]

/-- An exact quotient is not changed. -/
theorem roundDiv_mul_self (a : ℤ) {d : ℤ} (hd : 0 < d) : roundDiv (a * d) d = a := by
  unfold roundDiv
  simp [Int.mul_ediv_cancel a hd.ne', hd]

theorem roundDiv_nonneg {n d : ℤ} (hd : 0 < d) (h : 0 ≤ n) : 0 ≤ roundDiv n d := by
  have := roundDiv_mono hd h
  rwa [roundDiv_zero hd] at this

/-! ## The context precision -/

/-- The precision of the default context. -/
def precision : ℕ := 28

/-- Coefficients below `contextLimit` need no rounding. -/
def contextLimit : ℤ := 10 ^ precision

/-- The digits of `n` beyond the context precision. -/
def excessDigits (n : ℤ) : ℕ := Nat.log 10 n.natAbs + 1 - precision

/-- A coefficient rounded half-even to `precision` significant digits, at its own exponent. -/
def ctxRound (n : ℤ) : ℤ :=
  if n.natAbs < 10 ^ precision then n
  else roundDiv n (10 ^ excessDigits n) * 10 ^ excessDigits n

theorem ctxRound_of_lt {n : ℤ} (h : n.natAbs < 10 ^ precision) : ctxRound n = n := by
  rw [ctxRound, if_pos h]

@[simp] theorem ctxRound_zero : ctxRound 0 = 0 := ctxRound_of_lt (by norm_num [precision])

theorem excessDigits_of_lt {n : ℤ} (h : n.natAbs < 10 ^ precision) : excessDigits n = 0 := by
  rcases Nat.eq_zero_or_pos n.natAbs with h0 | h0
  · simp [excessDigits, h0, precision]
  · have := Nat.log_lt_of_lt_pow h0.ne' h
    unfold excessDigits
    omega

/-- One formula for both branches. -/
theorem ctxRound_eq (n : ℤ) :
    ctxRound n = roundDiv n (10 ^ excessDigits n) * 10 ^ excessDigits n := by
  by_cases h : n.natAbs < 10 ^ precision
  · rw [ctxRound_of_lt h, excessDigits_of_lt h, pow_zero, mul_one]
    have := roundDiv_mul_self n one_pos
    rw [mul_one] at this
    exact this.symm
  · rw [ctxRound, if_neg h]

theorem ctxRound_nonneg {n : ℤ} (h : 0 ≤ n) : 0 ≤ ctxRound n := by
  rw [ctxRound_eq]
  have := roundDiv_nonneg (d := 10 ^ excessDigits n) (by positivity) h
  positivity

/-- The error is at most half a unit of the dropped digits. -/
theorem ctxRound_error (n : ℤ) :
    2 * n - 10 ^ excessDigits n ≤ 2 * ctxRound n ∧ 2 * ctxRound n ≤ 2 * n + 10 ^ excessDigits n := by
  have := roundDiv_error n (d := 10 ^ excessDigits n) (by positivity)
  rw [ctxRound_eq, mul_comm (roundDiv _ _)]
  exact this

theorem excessDigits_mono {n m : ℤ} (hn : 0 ≤ n) (h : n ≤ m) : excessDigits n ≤ excessDigits m := by
  unfold excessDigits
  have : Nat.log 10 n.natAbs ≤ Nat.log 10 m.natAbs := Nat.log_mono_right (by omega)
  omega

/-- A number that is a multiple of the dropped power of ten is not changed. -/
theorem ctxRound_of_dvd {n : ℤ} (h : (10 : ℤ) ^ excessDigits n ∣ n) : ctxRound n = n := by
  obtain ⟨a, ha⟩ := h
  rw [ctxRound_eq]
  generalize excessDigits n = k at *
  rw [ha, mul_comm (10 ^ k) a, roundDiv_mul_self _ (by positivity)]

theorem lt_pow_excessDigits {n : ℤ} (hn : 0 ≤ n) : n < 10 ^ (excessDigits n + precision) := by
  have h1 : n.natAbs < 10 ^ (Nat.log 10 n.natAbs + 1) := Nat.lt_pow_succ_log_self (by norm_num) _
  have h2 : (10 : ℕ) ^ (Nat.log 10 n.natAbs + 1) ≤ 10 ^ (excessDigits n + precision) :=
    Nat.pow_le_pow_right (by norm_num) (by unfold excessDigits; omega)
  zify at h1 h2
  rw [abs_of_nonneg hn] at h1
  linarith

theorem pow_le_of_excessDigits {n : ℤ} (hn : 0 ≤ n) (hk : 0 < excessDigits n) :
    10 ^ (excessDigits n + (precision - 1)) ≤ n := by
  have h0 : n.natAbs ≠ 0 := by
    intro h
    simp [excessDigits, h, precision] at hk
  have h1 : 10 ^ Nat.log 10 n.natAbs ≤ n.natAbs := Nat.pow_log_le_self 10 h0
  have h2 : (10 : ℕ) ^ (excessDigits n + (precision - 1)) ≤ 10 ^ Nat.log 10 n.natAbs :=
    Nat.pow_le_pow_right (by norm_num) (by unfold excessDigits precision at *; omega)
  zify at h1 h2
  rw [abs_of_nonneg hn] at h1
  linarith

/-- Rounding to the context precision is monotone on nonnegative coefficients. -/
theorem ctxRound_mono {n m : ℤ} (hn : 0 ≤ n) (h : n ≤ m) : ctxRound n ≤ ctxRound m := by
  rcases Nat.eq_or_lt_of_le (excessDigits_mono hn h) with heq | hlt
  · -- the same digits are dropped
    rw [ctxRound_eq, ctxRound_eq, heq]
    exact mul_le_mul_of_nonneg_right (roundDiv_mono (by positivity) h) (by positivity)
  · -- a power of ten lies between the two results
    set k := excessDigits n with hk
    have hn' : n ≤ 10 ^ precision * 10 ^ k := by
      have := lt_pow_excessDigits hn
      rw [← hk, pow_add, mul_comm] at this
      exact this.le
    have hm' : 10 ^ (precision - 1) * 10 ^ excessDigits m ≤ m := by
      have := pow_le_of_excessDigits (hn.trans h) (by omega)
      rw [pow_add, mul_comm] at this
      exact this
    have h1 : ctxRound n ≤ 10 ^ precision * 10 ^ k := by
      rw [ctxRound_eq, ← hk]
      apply mul_le_mul_of_nonneg_right _ (by positivity)
      have := roundDiv_mono (d := 10 ^ k) (by positivity) hn'
      rwa [roundDiv_mul_self _ (by positivity)] at this
    have h2 : 10 ^ (precision - 1) * 10 ^ excessDigits m ≤ ctxRound m := by
      rw [ctxRound_eq]
      apply mul_le_mul_of_nonneg_right _ (by positivity)
      have := roundDiv_mono (d := 10 ^ excessDigits m) (by positivity) hm'
      rwa [roundDiv_mul_self _ (by positivity)] at this
    have h3 : (10 : ℤ) ^ precision * 10 ^ k ≤ 10 ^ (precision - 1) * 10 ^ excessDigits m := by
      rw [← pow_add, ← pow_add]
      exact pow_le_pow_right₀ (by norm_num) (by unfold precision; omega)
    linarith

/-! ## Division -/

/-- The number of decimal digits of a positive coefficient. -/
def numDigits (n : ℤ) : ℕ := Nat.log 10 n.natAbs + 1

/-- The exponent shift `s` for which `a * 10 ^ s / b` has `precision` digits before the point,
for `0 < a < b`. -/
def divShift (a b : ℤ) : ℕ :=
  let s := precision + numDigits b - numDigits a
  if contextLimit ≤ a * 10 ^ s / b then s - 1 else s

/-- The coefficient of `a / b` rounded half-even to `precision` significant digits; its exponent
is `-divShift a b`. -/
def divRound (a b : ℤ) : ℤ := roundDiv (a * 10 ^ divShift a b) b

theorem divRound_nonneg {a b : ℤ} (ha : 0 ≤ a) (hb : 0 < b) : 0 ≤ divRound a b :=
  roundDiv_nonneg hb (by positivity)

/-! ## Decimal numbers -/

/-- A finite `Decimal`: a sign, a coefficient and the number of digits after the point. A positive
exponent is folded into the coefficient, as the format `f` writes it. -/
structure Decimal where
  neg : Bool
  coeff : ℕ
  scale : ℕ
deriving DecidableEq, Repr

namespace Decimal

/-- The signed coefficient. -/
def signed (d : Decimal) : ℤ := if d.neg then -d.coeff else d.coeff

/-- The decimal number of `n` units of `10 ^ (-scale)`. -/
def ofScaled (n : ℤ) (scale : ℕ) : Decimal := ⟨n < 0, n.natAbs, scale⟩

@[simp] theorem signed_ofScaled (n : ℤ) (scale : ℕ) : (ofScaled n scale).signed = n := by
  unfold signed ofScaled
  dsimp only
  by_cases h : n < 0
  · simp only [h, decide_true, if_true]; omega
  · simp only [h, decide_false, Bool.false_eq_true, if_false]; omega

/-- `a == b`: equality of the numbers, whatever their scales. -/
def NumEq (a b : Decimal) : Prop := a.signed * 10 ^ b.scale = b.signed * 10 ^ a.scale

instance (a b : Decimal) : Decidable (NumEq a b) :=
  inferInstanceAs (Decidable (a.signed * 10 ^ b.scale = b.signed * 10 ^ a.scale))

/-- `a < b` and `a <= b`: the order of the numbers, whatever their scales. -/
instance : LT Decimal := ⟨fun a b => a.signed * 10 ^ b.scale < b.signed * 10 ^ a.scale⟩

instance : LE Decimal := ⟨fun a b => a.signed * 10 ^ b.scale ≤ b.signed * 10 ^ a.scale⟩

instance (a b : Decimal) : Decidable (a < b) :=
  inferInstanceAs (Decidable (a.signed * 10 ^ b.scale < b.signed * 10 ^ a.scale))

instance (a b : Decimal) : Decidable (a ≤ b) :=
  inferInstanceAs (Decidable (a.signed * 10 ^ b.scale ≤ b.signed * 10 ^ a.scale))

/-- `Decimal("0")` and `Decimal("1")`. -/
def zero : Decimal := ⟨false, 0, 0⟩

def one : Decimal := ⟨false, 1, 0⟩

/-- The number in units of `10 ^ (-scale)`, rounded half-even. -/
def rescale (d : Decimal) (scale : ℕ) : ℤ :=
  if d.scale ≤ scale then d.signed * 10 ^ (scale - d.scale)
  else roundDiv d.signed (10 ^ (d.scale - scale))

@[simp] theorem rescale_ofScaled (n : ℤ) (scale : ℕ) : (ofScaled n scale).rescale scale = n := by
  rw [rescale, if_pos (show (ofScaled n scale).scale ≤ scale from le_rfl), signed_ofScaled]
  simp [ofScaled]

/-- `a / b` for `0 < a < b`. -/
def quotient (a b : ℤ) : Decimal := ofScaled (divRound a b) (divShift a b)

/-! ### Text -/

/-- The characters of `format(d, "f")`. -/
def formatChars (d : Decimal) : List Char :=
  (if d.neg then ['-'] else []) ++ Nat.toDigits 10 (d.coeff / 10 ^ d.scale) ++
    if d.scale = 0 then [] else '.' :: padDigits d.scale d.coeff

/-- `format(d, "f")`. -/
def format (d : Decimal) : String := String.ofList d.formatChars

/-- A leading sign; `true` for a minus. -/
def readSign : List Char → Bool × List Char
  | '-' :: l => (true, l)
  | '+' :: l => (false, l)
  | l => (false, l)

/-- The digits after a point. -/
def readFraction : List Char → List Char × List Char
  | '.' :: l => (l.takeWhile Char.isDigit, l.dropWhile Char.isDigit)
  | l => ([], l)

/-- The exponent at the end of a number. -/
def readExponent : List Char → Option ℤ
  | [] => some 0
  | c :: l =>
    if c = 'e' ∨ c = 'E' then
      let (neg, digits) := readSign l
      if digits ≠ [] ∧ digits.all Char.isDigit then
        let n : ℤ := Nat.ofDigitChars 10 digits 0
        some (if neg then -n else n)
      else none
    else none

/-- The decimal with coefficient `coeff` and exponent `exponent`. -/
def ofExponent (neg : Bool) (coeff : ℕ) (exponent : ℤ) : Decimal :=
  ⟨neg, coeff * 10 ^ exponent.toNat, (-exponent).toNat⟩

/-- `Decimal(text)` for the text of a finite number. -/
def ofText (s : String) : Option Decimal := do
  let (neg, l) := readSign (stripChars s.toList)
  let digits := l.takeWhile Char.isDigit
  let (fraction, l) := readFraction (l.dropWhile Char.isDigit)
  let exponent ← readExponent l
  if digits = [] ∧ fraction = [] then none
  else some (ofExponent neg (Nat.ofDigitChars 10 (digits ++ fraction) 0) (exponent - fraction.length))

theorem isDigit_toDigits (n : ℕ) : ∀ c ∈ Nat.toDigits 10 n, c.isDigit = true :=
  fun _ hc => Nat.isDigit_of_mem_toDigits (by norm_num) (by norm_num) hc

theorem isDigit_of_not_sign {c : Char} (h : c.isDigit = true) : c ≠ '-' ∧ c ≠ '+' ∧ c ≠ '.' := by
  refine ⟨?_, ?_, ?_⟩ <;> (rintro rfl; revert h; decide)

theorem isSpace_of_isDigit {c : Char} (h : c.isDigit = true) : isSpace c = false := by
  rw [Char.isDigit, Bool.and_eq_true, decide_eq_true_eq, decide_eq_true_eq] at h
  have h1 : 48 ≤ c.toNat := h.1
  have h2 : c.toNat ≤ 57 := h.2
  unfold isSpace
  simp only [Bool.or_eq_false_iff, Bool.and_eq_false_iff, decide_eq_false_iff_not, beq_eq_false_iff_ne]
  omega

theorem not_space_formatChars (d : Decimal) : ∀ c ∈ d.formatChars, isSpace c = false := by
  intro c hc
  unfold formatChars at hc
  simp only [List.mem_append] at hc
  rcases hc with (hc | hc) | hc
  · split_ifs at hc
    · rw [List.mem_singleton.mp hc]; decide
    · exact absurd hc List.not_mem_nil
  · exact isSpace_of_isDigit (isDigit_toDigits _ c hc)
  · split_ifs at hc
    · exact absurd hc List.not_mem_nil
    · rcases List.mem_cons.mp hc with rfl | hc
      · decide
      · exact isSpace_of_isDigit (isDigit_padDigits _ _ c hc)

theorem isBlank_format (d : Decimal) : isBlank d.format = false := by
  obtain ⟨c, hc⟩ := List.exists_mem_of_ne_nil _ (Nat.toDigits_ne_nil (b := 10) (n := d.coeff / 10 ^ d.scale))
  have hmem : c ∈ d.formatChars := by
    rw [formatChars, List.mem_append, List.mem_append]
    exact .inl (.inr hc)
  exact isBlank_of_mem (by rwa [format, String.toList_ofList]) (not_space_formatChars d c hmem)

/-- The sign is read off, whether it was written or not. -/
theorem readSign_append {neg : Bool} {l : List Char} (hl : ∀ c, l.head? = some c → c.isDigit = true) :
    readSign ((if neg then ['-'] else []) ++ l) = (neg, l) := by
  cases neg with
  | true => rfl
  | false =>
    cases l with
    | nil => rfl
    | cons c l =>
      obtain ⟨h1, h2, -⟩ := isDigit_of_not_sign (hl c rfl)
      rw [if_neg Bool.false_ne_true, List.nil_append, readSign]
      · exact fun l' e => h1 (List.cons.inj e).1
      · exact fun l' e => h2 (List.cons.inj e).1

/-- **Reading a number's text gives the number back, with its sign and its scale.** -/
theorem ofText_format (d : Decimal) : ofText d.format = some d := by
  obtain ⟨neg, coeff, scale⟩ := d
  set int := Nat.toDigits 10 (coeff / 10 ^ scale) with hint
  set frac : List Char := if scale = 0 then [] else '.' :: padDigits scale coeff with hfrac
  have hint0 : int ≠ [] := Nat.toDigits_ne_nil
  have hdigit : ∀ c ∈ int, c.isDigit = true := isDigit_toDigits _
  have hfracHead : ∀ c, frac.head? = some c → c.isDigit = false := by
    intro c hc
    rw [hfrac] at hc
    split_ifs at hc
    · cases hc
    · cases hc; decide
  have hsign : readSign ((if neg then ['-'] else []) ++ (int ++ frac)) = (neg, int ++ frac) := by
    apply readSign_append
    intro c hc
    rw [List.head?_append_of_ne_nil _ hint0] at hc
    exact hdigit c (List.mem_of_mem_head? hc)
  have hcut := takeWhile_append_of_all _ hdigit hfracHead
  have hread : readFraction frac = (if scale = 0 then [] else padDigits scale coeff, []) := by
    rw [hfrac]
    split_ifs
    · rfl
    · have := takeWhile_append_of_all [] (isDigit_padDigits scale coeff) (by simp)
      rw [List.append_nil] at this
      rw [readFraction, this.1, this.2]
  have hval : Nat.ofDigitChars 10 (int ++ if scale = 0 then [] else padDigits scale coeff) 0 = coeff := by
    rw [Nat.ofDigitChars_append, Nat.ofDigitChars_ten_toDigits]
    split_ifs with h0
    · subst h0; simp
    · rw [ofDigitChars_padDigits_init]
      exact Nat.div_add_mod' coeff _
  unfold ofText format
  rw [String.toList_ofList, stripChars_eq_self (not_space_formatChars _)]
  have hchars : formatChars ⟨neg, coeff, scale⟩ = (if neg then ['-'] else []) ++ (int ++ frac) := by
    rw [formatChars, List.append_assoc]
  rw [hchars, hsign]
  simp only [hcut.1, hcut.2, hread, readExponent, Option.bind_eq_bind, Option.bind_some, hint0,
    false_and, if_false, hval]
  have hlen : (if scale = 0 then [] else padDigits scale coeff).length = scale := by
    split_ifs with h0
    · simp [h0]
    · simp
  rw [hlen, ofExponent]
  simp

theorem format_inj {a b : Decimal} (h : a.format = b.format) : a = b := by
  have := congrArg ofText h
  rwa [ofText_format, ofText_format, Option.some.injEq] at this

end Decimal

end WeatherBot.Common
