import WeatherBot.Common.Decimal

/-!
# Arithmetic of decimal numbers

`+`, `*` and `/` of `Decimal` in the default context: the exact result, rounded
half-even to 28 digits. Exponents are unbounded. As in `Decimal` itself, a
positive exponent is folded into the coefficient.
-/

namespace WeatherBot.Common

namespace Decimal

/-- `_fix`: a coefficient and an exponent, rounded to the context precision. -/
def fix (neg : Bool) (coeff : ℕ) (exponent : ℤ) : Decimal :=
  if coeff < 10 ^ precision then ofExponent neg coeff exponent
  else
    let excess := excessDigits coeff
    let rounded := (roundDiv coeff (10 ^ excess)).toNat
    if rounded < 10 ^ precision then ofExponent neg rounded (exponent + excess)
    else ofExponent neg (rounded / 10) (exponent + excess + 1)

/-- The exponent. -/
def exponent (d : Decimal) : ℤ := -d.scale

/-- `a * b`. -/
def mul (a b : Decimal) : Decimal :=
  fix (a.neg != b.neg) (a.coeff * b.coeff) (a.exponent + b.exponent)

/-- Drop trailing zeros of an exact quotient while its exponent is below the ideal one. -/
def dropZeros : ℕ → ℕ → ℤ → ℕ × ℤ
  | 0, coeff, exponent => (coeff, exponent)
  | n + 1, coeff, exponent =>
    if coeff % 10 = 0 then dropZeros n (coeff / 10) (exponent + 1) else (coeff, exponent)

/-- `a / b` for `b ≠ 0`. -/
def truediv (a b : Decimal) : Decimal :=
  let neg := a.neg != b.neg
  let ideal := a.exponent - b.exponent
  if a.coeff = 0 then fix neg 0 ideal
  else
    let shift : ℤ := (numDigits b.coeff : ℤ) - numDigits a.coeff + precision + 1
    let numerator := a.coeff * 10 ^ shift.toNat
    let divisor := b.coeff * 10 ^ (-shift).toNat
    let quotient := numerator / divisor
    if numerator % divisor ≠ 0 then
      -- a sticky digit: the quotient is not a tie
      fix neg (if quotient % 5 = 0 then quotient + 1 else quotient) (ideal - shift)
    else
      let (coeff, exponent) := dropZeros shift.toNat quotient (ideal - shift)
      fix neg coeff exponent

/-- The number at a smaller exponent. -/
def padded (d : Decimal) (exponent : ℤ) : ℤ := d.signed * 10 ^ (d.exponent - exponent).toNat

/-- `a + b`. -/
def add (a b : Decimal) : Decimal :=
  let e := min a.exponent b.exponent
  if a.coeff = 0 ∧ b.coeff = 0 then fix (a.neg && b.neg) 0 e
  else if a.coeff = 0 then
    let e := max e (b.exponent - precision - 1)
    fix b.neg (b.padded e).natAbs e
  else if b.coeff = 0 then
    let e := max e (a.exponent - precision - 1)
    fix a.neg (a.padded e).natAbs e
  else
    let sum := a.padded e + b.padded e
    fix (sum < 0) sum.natAbs e

end Decimal

end WeatherBot.Common
