import WeatherBot.Common.Decimal

/-!
# Floats and transcendental functions

What a program takes from `float`, `math` and `decimal`, as a record of functions
over a carrier `F`. Nothing is assumed of them but that they are functions of
their arguments. An operation that can raise returns an `Except`.
-/

namespace WeatherBot.Common

/-- The operations of `float` values. -/
structure Numerics (ε F : Type) where
  /-- A literal of the source. -/
  lit : String → F
  pi : F
  /-- `float(text)` of the text of a JSON number. -/
  ofText : String → F
  /-- `repr(x)`. -/
  repr : F → String
  /-- `float(n)`, or an `int` as an operand. -/
  ofInt : ℤ → Except ε F
  /-- `float(d)`. -/
  ofDecimal : Decimal → F
  /-- `int(x)`. -/
  toInt : F → Except ε ℤ
  /-- `m / n` of two `int` values. -/
  ratio : ℤ → ℤ → Except ε F
  add : F → F → F
  sub : F → F → F
  mul : F → F → F
  neg : F → F
  abs : F → F
  div : F → F → Except ε F
  /-- `x ** y`. -/
  pow : F → F → Except ε F
  lt : F → F → Bool
  le : F → F → Bool
  isFinite : F → Bool
  /-- `math.isclose(x, y, abs_tol=t)`. -/
  isClose : F → F → F → Bool
  sqrt : F → Except ε F
  exp : F → Except ε F
  log : F → Except ε F
  erf : F → F
  /-- `sum(xs)`. -/
  sum : List F → F
  /-- `d ** 2` of a `Decimal`; `none` is a `DecimalException`. -/
  decimalSquare : Decimal → Option Decimal
  /-- `d.sqrt()` of a `Decimal`; `none` is a `DecimalException`. -/
  decimalSqrt : Decimal → Option Decimal

namespace Numerics

variable {ε F : Type} (f : Numerics ε F)

/-- `x / n` for a number of items `n`. -/
def divCount (x : F) (n : ℕ) : Except ε F := do
  let d ← f.ofInt n
  f.div x d

/-- `x ** n`. -/
def powInt (x : F) (n : ℕ) : Except ε F := do
  let e ← f.ofInt n
  f.pow x e

/-- `max(x, y)`. -/
def max (x y : F) : F := if f.lt x y then y else x

/-- `math.isfinite(x) and x >= 0`, of a value that is not a NaN. -/
def finiteNonneg (x : F) : Bool := f.isFinite x && !f.lt x (f.lit "0")

end Numerics

end WeatherBot.Common
