import WeatherBot.Common.Decimal

/-!
# Seconds as floats

`timedelta.total_seconds()` divides a number of microseconds by a million. The
quotient is rounded half-even to 53 significant bits; a float is its value here.

* `totalSeconds`: the quotient; `fixedThree`: its text with three digits.
-/

namespace WeatherBot.Common

/-- The bits of a float's significand, without the leading one. -/
def significandBits : ℕ := 52

/-- The binary digits kept before rounding: a microsecond has more than 53 of them. -/
def guardBits : ℕ := 73

/-- A positive number of microseconds, in seconds, rounded to 53 bits. -/
def secondsOf (micros : ℕ) : ℚ :=
  let scaled := micros * 2 ^ guardBits / 1000000
  let dropped := Nat.log 2 scaled - significandBits
  roundDiv (micros * 2 ^ guardBits) (1000000 * 2 ^ dropped) * 2 ^ dropped / 2 ^ guardBits

/-- `timedelta.total_seconds()`. -/
def totalSeconds (micros : ℤ) : ℚ :=
  if micros < 0 then -secondsOf micros.natAbs else secondsOf micros.natAbs

/-- `f"{seconds:.3f}"` of a float that is not negative. -/
def fixedThree (seconds : ℚ) : String :=
  (Decimal.ofScaled (roundDiv (seconds.num * 1000) seconds.den) 3).format

end WeatherBot.Common
