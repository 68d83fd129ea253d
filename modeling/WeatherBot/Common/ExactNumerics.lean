import WeatherBot.Common.DecimalValue
import WeatherBot.Common.Except
import WeatherBot.Common.Numerics

/-!
# Exact rational numbers

Numerics whose elementary operations are those of the rational numbers. Nothing is
said of the transcendental functions.
-/

namespace WeatherBot.Common

namespace Numerics

variable {ε : Type}

/-- The elementary operations are exact. -/
structure Exact (f : Numerics ε ℚ) : Prop where
  lit : ∀ {text d}, Decimal.ofText text = some d → f.lit text = d.value
  ofInt : ∀ n : ℤ, f.ofInt n = .ok (n : ℚ)
  ofDecimal : ∀ d, f.ofDecimal d = d.value
  ratio : ∀ m n : ℤ, n ≠ 0 → f.ratio m n = .ok (m / n)
  add : ∀ x y, f.add x y = x + y
  sub : ∀ x y, f.sub x y = x - y
  mul : ∀ x y, f.mul x y = x * y
  abs : ∀ x, f.abs x = |x|
  div : ∀ x y, y ≠ 0 → f.div x y = .ok (x / y)
  lt : ∀ x y, f.lt x y = decide (x < y)
  isFinite : ∀ x, f.isFinite x = true
  sum : ∀ xs, f.sum xs = xs.sum

namespace Exact

variable {f : Numerics ε ℚ} (hf : f.Exact)

include hf

theorem lit_zero : f.lit "0" = 0 := by
  rw [hf.lit (d := ⟨false, 0, 0⟩) (by decide)]
  decide +kernel

theorem divCount (x : ℚ) {n : ℕ} (hn : n ≠ 0) : f.divCount x n = .ok (x / n) := by
  rw [Numerics.divCount, hf.ofInt, ok_bind, hf.div _ _ (by exact_mod_cast hn)]
  norm_cast

theorem finiteNonneg (x : ℚ) : f.finiteNonneg x = true ↔ 0 ≤ x := by
  rw [Numerics.finiteNonneg, hf.isFinite, hf.lt, hf.lit_zero]
  simp

end Exact

end Numerics

end WeatherBot.Common
