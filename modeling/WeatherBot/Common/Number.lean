import WeatherBot.Common.DecimalContext
import Mathlib.Data.Rat.Floor

/-!
# Number types

The quoting and sizing code is generic over the numbers it computes with: the
operators come from the type, and a `NumberContext` adds what depends on the
arithmetic context.

* `Decimal.context`: `Decimal` in the default context.
* `Exact.context`: exact rational arithmetic.
* `Exact.truncSix_le`, `Exact.roundSix_truncSix`: rounding toward zero, and then to
  nearest, which changes nothing.
-/

namespace WeatherBot.Common

/-- What is used of a number type besides its operators. -/
structure NumberContext (α : Type) where
  /-- `x.next_minus()`. -/
  nextMinus : α → α
  /-- `x.quantize(Decimal("0.000001"), rounding=ROUND_DOWN)`; `none` is an `InvalidOperation`. -/
  truncSix : α → Option α
  /-- `x.quantize(Decimal("0.000001"), rounding=ROUND_HALF_EVEN)`. -/
  roundSix : α → Option α
  /-- `str(x)`. -/
  str : α → String
  /-- `format(x, "f")`. -/
  format : α → String

section

variable {α : Type}

/-- `a == b`. -/
def NumEq [LE α] (a b : α) : Prop := a ≤ b ∧ b ≤ a

instance [LE α] [DecidableLE α] (a b : α) : Decidable (NumEq a b) :=
  inferInstanceAs (Decidable (_ ∧ _))

/-- `min(a, b)`. -/
def pyMin [LT α] [DecidableLT α] (a b : α) : α := if b < a then b else a

/-- `max(a, b)`. -/
def pyMax [LT α] [DecidableLT α] (a b : α) : α := if a < b then b else a

theorem numEq_refl [Preorder α] (a : α) : NumEq a a := ⟨le_rfl, le_rfl⟩

theorem numEq_iff [PartialOrder α] {a b : α} : NumEq a b ↔ a = b := le_antisymm_iff.symm

@[simp] theorem pyMin_eq [LinearOrder α] (a b : α) : pyMin a b = min a b := by
  unfold pyMin
  split_ifs with h
  · rw [min_eq_right h.le]
  · rw [min_eq_left (not_lt.mp h)]

@[simp] theorem pyMax_eq [LinearOrder α] (a b : α) : pyMax a b = max a b := by
  unfold pyMax
  split_ifs with h
  · rw [max_eq_right h.le]
  · rw [max_eq_left (not_lt.mp h)]

end

/-! ## Decimal numbers -/

namespace Decimal

instance : Zero Decimal := ⟨zero⟩

instance : One Decimal := ⟨one⟩

instance : Add Decimal := ⟨add⟩

instance : Mul Decimal := ⟨mul⟩

instance : Div Decimal := ⟨truediv⟩

/-- `-d`, exactly. -/
def negate (d : Decimal) : Decimal := { d with neg := !d.neg }

instance : Sub Decimal := ⟨fun a b => add a b.negate⟩

/-- The smallest exponent of the context, less one. -/
def belowEtiny : ℤ := -1000027

/-- `d.next_minus()`: the largest number of 28 digits below `d`. -/
def nextMinus (d : Decimal) : Decimal :=
  if d.coeff = 0 then ofExponent true 1 (belowEtiny + 1)
  else
    let shift : ℤ := precision - numDigits d.coeff
    let scaled := d.coeff * 10 ^ shift.toNat
    let divisor := 10 ^ (-shift).toNat
    if d.neg then ofExponent true (scaled / divisor + 1) (d.exponent - shift)
    else if scaled % divisor ≠ 0 then ofExponent false (scaled / divisor) (d.exponent - shift)
    else if scaled / divisor = 10 ^ (precision - 1) then
      ofExponent false (10 ^ precision - 1) (d.exponent - shift - 1)
    else ofExponent false (scaled / divisor - 1) (d.exponent - shift)

/-- The number of a signed coefficient at six places, unless it has too many digits. -/
def atSix (neg : Bool) (coeff : ℕ) : Option Decimal :=
  if coeff < 10 ^ precision then some ⟨neg, coeff, 6⟩ else none

/-- `quantize` toward zero. -/
def truncSix (d : Decimal) : Option Decimal :=
  atSix d.neg (if d.scale ≤ 6 then d.coeff * 10 ^ (6 - d.scale) else d.coeff / 10 ^ (d.scale - 6))

/-- `quantize` to the nearest number, ties to even. -/
def roundSix (d : Decimal) : Option Decimal := atSix d.neg (d.rescale 6).natAbs

/-- `str(d)`: scientific notation where there are more than five zeros after the point. -/
def str (d : Decimal) : String :=
  let digits := Nat.toDigits 10 d.coeff
  let leftDigits : ℤ := digits.length - d.scale
  if -6 < leftDigits then d.format
  else
    (if d.neg then "-" else "") ++ String.ofList (digits.take 1) ++
      (if digits.length = 1 then "" else "." ++ String.ofList (digits.drop 1)) ++
      "E-" ++ toString (leftDigits - 1).natAbs

/-- `Decimal` in the default context. -/
def context : NumberContext Decimal where
  nextMinus := nextMinus
  truncSix := truncSix
  roundSix := roundSix
  str := str
  format := format

end Decimal

/-! ## Rational numbers -/

namespace Exact

/-- The number of millionths in one. -/
def million : ℚ := 1000000

theorem million_pos : 0 < million := by norm_num [million]

/-- Rounding toward zero to six places. -/
def truncSix (x : ℚ) : ℚ := if x < 0 then ⌈x * million⌉ / million else ⌊x * million⌋ / million

/-- Rounding to six places, ties to even. -/
def roundSix (x : ℚ) : ℚ := roundDiv (x.num * 1000000) x.den / million

theorem truncSix_le {x : ℚ} (hx : 0 ≤ x) : truncSix x ≤ x := by
  rw [truncSix, if_neg hx.not_gt, div_le_iff₀ million_pos]
  exact Int.floor_le _

theorem truncSix_nonneg {x : ℚ} (hx : 0 ≤ x) : 0 ≤ truncSix x := by
  rw [truncSix, if_neg hx.not_gt]
  have : (0 : ℤ) ≤ ⌊x * million⌋ := Int.floor_nonneg.mpr (mul_nonneg hx million_pos.le)
  exact div_nonneg (by exact_mod_cast this) million_pos.le

theorem roundSix_nonneg {x : ℚ} (hx : 0 ≤ x) : 0 ≤ roundSix x := by
  have hden : (0 : ℤ) < x.den := by exact_mod_cast x.den_pos
  have hnum : 0 ≤ x.num * 1000000 := mul_nonneg (Rat.num_nonneg.mpr hx) (by norm_num)
  have : (0 : ℤ) ≤ roundDiv (x.num * 1000000) x.den := roundDiv_nonneg hden hnum
  exact div_nonneg (by exact_mod_cast this) million_pos.le

/-- A number with six places. -/
def HasSix (x : ℚ) : Prop := ∃ n : ℤ, x = n / million

theorem hasSix_zero : HasSix 0 := ⟨0, by simp⟩

theorem hasSix_truncSix (x : ℚ) : HasSix (truncSix x) := by
  unfold truncSix
  split_ifs
  · exact ⟨_, rfl⟩
  · exact ⟨_, rfl⟩

/-- A number with six places is not rounded. -/
theorem roundSix_of_hasSix {x : ℚ} (h : HasSix x) : roundSix x = x := by
  obtain ⟨n, rfl⟩ := h
  set x : ℚ := n / million with hx
  have hden : (0 : ℤ) < x.den := by exact_mod_cast x.den_pos
  have hnum : x.num * 1000000 = n * x.den := by
    have hmul : x * million = n := by rw [hx, div_mul_cancel₀ _ million_pos.ne']
    have hxd : (x.num : ℚ) = x * x.den := (Rat.mul_den_eq_num x).symm
    have : (x.num : ℚ) * 1000000 = n * x.den := by
      rw [hxd, ← hmul, million]
      ring
    exact_mod_cast this
  rw [roundSix, hnum, roundDiv_mul_self _ hden]

theorem roundSix_truncSix (x : ℚ) : roundSix (truncSix x) = truncSix x :=
  roundSix_of_hasSix (hasSix_truncSix x)

/-- Rational numbers, with any predecessor function. -/
def context (nextMinus : ℚ → ℚ) : NumberContext ℚ where
  nextMinus := nextMinus
  truncSix x := some (truncSix x)
  roundSix x := some (roundSix x)
  str := toString
  format := toString

end Exact

end WeatherBot.Common
