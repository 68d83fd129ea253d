import WeatherBot.Common.Cells
import WeatherBot.Common.Except
import WeatherBot.Common.ReducedDecimal
import WeatherBot.Domain.Basic
import Mathlib.Data.List.Sort

/-!
# Temperature buckets

`markets/temperature.py`: the settlement buckets of a temperature market, and
the bucket that a point forecast falls in.

* `TemperatureMarketPartition.chain_of_new`: the buckets of a market follow one
  another, from the lower tail to the upper one.
-/

namespace WeatherBot.Markets

open WeatherBot.Common
open WeatherBot.Domain

/-- `TemperatureMarketError`, or an exception of another class. -/
inductive TemperatureError where
  | temperatureMarketError (message : String)
  | raised (error : Error)
deriving DecidableEq

/-- `TemperatureUnit`. -/
inductive TemperatureUnit where
  | fahrenheit
  | celsius
deriving DecidableEq

/-- `unit.value`. -/
def TemperatureUnit.value : TemperatureUnit → String
  | .fahrenheit => "F"
  | .celsius => "C"

theorem TemperatureUnit.plain_value (unit : TemperatureUnit) :
    ∀ c ∈ unit.value.toList, c ≠ ':' ∧ isSpace c = false := by
  cases unit <;> exact forall_mem_of_all (by decide)

/-! ## Whole degrees -/

/-- `value.to_integral_value()`. -/
def toIntegralValue (d : Decimal) : Decimal := ⟨d.neg, (roundDiv d.coeff (10 ^ d.scale)).natAbs, 0⟩

/-- A whole-degree value. -/
def IsIntegral (d : Decimal) : Prop := Decimal.NumEq d (toIntegralValue d)

instance (d : Decimal) : Decidable (IsIntegral d) := inferInstanceAs (Decidable (Decimal.NumEq _ _))

/-- The error of `_require_integral` (`temperature.py`, 62-65). -/
def notIntegral (label : String) : TemperatureError :=
  .temperatureMarketError (label ++ " must be a whole-degree settlement value")

/-- `value.quantize(Decimal("1"), rounding=ROUND_HALF_UP)`: ties away from zero; `none` is an
`InvalidOperation`. -/
def quantizeHalfUp (d : Decimal) : Option Decimal :=
  let coeff := (2 * d.coeff + 10 ^ d.scale) / (2 * 10 ^ d.scale)
  if coeff < 10 ^ precision then some ⟨d.neg, coeff, 0⟩ else none

/-- `_decimal` of a `Decimal` (`temperature.py`, 48-59). -/
def decimalOf (value : PyDecimal) (label : String) : Except TemperatureError Decimal := do
  raiseIf (value.isFinite = false) (.temperatureMarketError (label ++ " must be finite"))
  return value.fold

/-- `format(d, "g")`. -/
def formatGeneral (d : Decimal) : String := d.str.map fun c => if c = 'E' then 'e' else c

/-! ## Buckets -/

/-- `TemperatureBucket` (`temperature.py`, 72-109), with what its constructor checks. -/
@[ext] structure TemperatureBucket where
  unit : TemperatureUnit
  lowerInclusive : Option Decimal
  upperInclusive : Option Decimal
  bounded : lowerInclusive ≠ none ∨ upperInclusive ≠ none
  integral_lower : ∀ l ∈ lowerInclusive, IsIntegral l
  integral_upper : ∀ u ∈ upperInclusive, IsIntegral u
  ordered : ∀ l ∈ lowerInclusive, ∀ u ∈ upperInclusive, ¬ u < l
deriving DecidableEq

namespace TemperatureBucket

/-- `__post_init__`. -/
def new (unit : TemperatureUnit) (lower upper : Option Decimal) :
    Except TemperatureError TemperatureBucket := do
  let ⟨bounded⟩ ← ensure (lower ≠ none ∨ upper ≠ none)
    (.temperatureMarketError "bucket requires at least one bound")
  let ⟨integralLower⟩ ← ensure (∀ l ∈ lower, IsIntegral l) (notIntegral "lower bound")
  let ⟨integralUpper⟩ ← ensure (∀ u ∈ upper, IsIntegral u) (notIntegral "upper bound")
  let ⟨ordered⟩ ← ensure (∀ l ∈ lower, ∀ u ∈ upper, ¬ u < l)
    (.temperatureMarketError "bucket lower bound exceeds upper bound")
  return ⟨unit, lower, upper, bounded, integralLower, integralUpper, ordered⟩

/-- The checks of `__post_init__` on one bound. -/
def boundOf (bound : Option PyDecimal) (label : String) : Except TemperatureError (Option Decimal) :=
  match bound with
  | none => return none
  | some value => do
    let value ← decimalOf value label
    raiseIf (¬ IsIntegral value) (notIntegral label)
    return some value

/-- `TemperatureBucket(unit, lower, upper)`, whatever the exponents of the bounds. -/
def ofDecimals (unit : TemperatureUnit) (lower upper : Option PyDecimal) :
    Except TemperatureError TemperatureBucket := do
  raiseIf (lower = none ∧ upper = none) (.temperatureMarketError "bucket requires at least one bound")
  let lower ← boundOf lower "lower bound"
  let upper ← boundOf upper "upper bound"
  new unit lower upper

/-- `lower_tail`. -/
def lowerTail (maximum : PyDecimal) (unit : TemperatureUnit) :
    Except TemperatureError TemperatureBucket := do
  let maximum ← decimalOf maximum "maximum"
  ofDecimals unit none (some maximum.toPy)

/-- `upper_tail`. -/
def upperTail (minimum : PyDecimal) (unit : TemperatureUnit) :
    Except TemperatureError TemperatureBucket := do
  let minimum ← decimalOf minimum "minimum"
  ofDecimals unit (some minimum.toPy) none

/-- `bounded`. -/
def boundedBy (lower upper : PyDecimal) (unit : TemperatureUnit) :
    Except TemperatureError TemperatureBucket := do
  let lower ← decimalOf lower "lower"
  let upper ← decimalOf upper "upper"
  ofDecimals unit (some lower.toPy) (some upper.toPy)

theorem new_self (b : TemperatureBucket) : new b.unit b.lowerInclusive b.upperInclusive = .ok b := by
  simp only [new, ensure_bind_eq_ok]
  exact ⟨b.bounded, b.integral_lower, b.integral_upper, b.ordered, rfl⟩

/-- A bucket is constructed from its own bounds. -/
theorem ofDecimals_self (b : TemperatureBucket) :
    ofDecimals b.unit (b.lowerInclusive.map Decimal.toPy) (b.upperInclusive.map Decimal.toPy) = .ok b := by
  have hbound : ∀ (bound : Option Decimal) (label : String), (∀ d ∈ bound, IsIntegral d) →
      boundOf (bound.map Decimal.toPy) label = .ok bound := by
    intro bound label h
    cases bound with
    | none => rfl
    | some d =>
      show (decimalOf d.toPy label >>= fun value => _) = _
      rw [decimalOf, PyDecimal.fold_toPy, raiseIf_of_not _ (by simp [Decimal.toPy, PyDecimal.isFinite]),
        ok_bind, pure_eq_ok, ok_bind, raiseIf_of_not _ (not_not.mpr (h d rfl))]
      rfl
  have hsome : ¬ (b.lowerInclusive.map Decimal.toPy = none ∧ b.upperInclusive.map Decimal.toPy = none) := by
    rw [Option.map_eq_none_iff, Option.map_eq_none_iff, not_and_or]
    exact b.bounded
  rw [ofDecimals, raiseIf_of_not _ hsome, ok_bind, hbound _ _ b.integral_lower, ok_bind,
    hbound _ _ b.integral_upper, ok_bind, new_self]

/-- `is_lower_tail`. -/
def isLowerTail (b : TemperatureBucket) : Bool := b.lowerInclusive.isNone

/-- `is_upper_tail`. -/
def isUpperTail (b : TemperatureBucket) : Bool := b.upperInclusive.isNone

/-- `Decimal("0.5")`. -/
def half : Decimal := ⟨false, 5, 1⟩

/-- `continuous_lower`. -/
def continuousLower (b : TemperatureBucket) : Option Decimal := b.lowerInclusive.map (· - half)

/-- `continuous_upper`. -/
def continuousUpper (b : TemperatureBucket) : Option Decimal := b.upperInclusive.map (· + half)

/-- `key`. -/
def key (b : TemperatureBucket) : String :=
  b.unit.value ++ ":" ++ (b.lowerInclusive.map Decimal.format).getD "-inf" ++ ":" ++
    (b.upperInclusive.map Decimal.format).getD "inf"

/-- `contains_reported` (`temperature.py`, 193-200). -/
def containsReported (b : TemperatureBucket) (reported : Decimal) : Except TemperatureError Bool := do
  raiseIf (¬ IsIntegral reported) (notIntegral "reported temperature")
  if ∃ l ∈ b.lowerInclusive, reported < l then return false
  else return decide (∀ u ∈ b.upperInclusive, reported ≤ u)

/-- `sort_key(a) <= sort_key(b)`. -/
def SortLe (a b : TemperatureBucket) : Prop :=
  match a.lowerInclusive, b.lowerInclusive with
  | none, _ => True
  | some _, none => False
  | some l, some l' => l ≤ l'

instance : DecidableRel SortLe := fun a b => by
  unfold SortLe
  split <;> infer_instance

/-! ### Keys -/

/-- The text of a lower bound in a key. -/
def lowerText (b : TemperatureBucket) : String := (b.lowerInclusive.map Decimal.format).getD "-inf"

/-- The text of an upper bound in a key. -/
def upperText (b : TemperatureBucket) : String := (b.upperInclusive.map Decimal.format).getD "inf"

theorem toList_key (b : TemperatureBucket) : b.key.toList =
    b.unit.value.toList ++ ':' :: (b.lowerText.toList ++ ':' :: b.upperText.toList) := by
  unfold TemperatureBucket.key
  rw [String.toList_append, String.toList_append, String.toList_append, String.toList_append]
  show _ ++ [':'] ++ _ ++ [':'] ++ _ = _
  rw [List.append_assoc, List.append_assoc, List.append_assoc]
  rfl

/-- What is written for a bound has no colon and no white space. -/
theorem plain_boundText {bound : Option Decimal} {word : String}
    (hword : ∀ c ∈ word.toList, c ≠ ':' ∧ isSpace c = false) :
    ∀ c ∈ ((bound.map Decimal.format).getD word).toList, c ≠ ':' ∧ isSpace c = false := by
  cases bound with
  | none => exact hword
  | some d =>
    intro c hc
    have hmem : c ∈ d.formatChars := by
      rwa [Option.map_some, Option.getD_some, Decimal.format, String.toList_ofList] at hc
    refine ⟨?_, Decimal.not_space_formatChars d c hmem⟩
    rintro rfl
    rcases Decimal.mem_formatChars hmem with h | h | h <;> revert h <;> decide

theorem plain_lowerText (b : TemperatureBucket) :
    ∀ c ∈ b.lowerText.toList, c ≠ ':' ∧ isSpace c = false :=
  plain_boundText (forall_mem_of_all (by decide))

theorem plain_upperText (b : TemperatureBucket) :
    ∀ c ∈ b.upperText.toList, c ≠ ':' ∧ isSpace c = false :=
  plain_boundText (forall_mem_of_all (by decide))

theorem format_ne_word (d : Decimal) : d.format ≠ "-inf" ∧ d.format ≠ "inf" := by
  have hletter : 'i' ∉ d.formatChars := by
    intro h
    rcases Decimal.mem_formatChars h with h | h | h <;> revert h <;> decide
  have hlist : d.format.toList = d.formatChars := String.toList_ofList
  constructor <;> (intro h; apply hletter; rw [← hlist, h]; decide)

/-- **Buckets with one key are equal.** -/
theorem key_inj {b b' : TemperatureBucket} (h : b.key = b'.key) : b = b' := by
  have hlists : b.key.toList = b'.key.toList := congrArg String.toList h
  rw [toList_key, toList_key] at hlists
  obtain ⟨hunit, hrest⟩ := append_separator_inj (fun hc => (TemperatureUnit.plain_value _ _ hc).1 rfl)
    (fun hc => (TemperatureUnit.plain_value _ _ hc).1 rfl) hlists
  obtain ⟨hlower, hupper⟩ := append_separator_inj (fun hc => (b.plain_lowerText _ hc).1 rfl)
    (fun hc => (b'.plain_lowerText _ hc).1 rfl) hrest
  have hbound : ∀ {word : String}, (∀ d : Decimal, d.format ≠ word) → ∀ {x y : Option Decimal},
      (x.map Decimal.format).getD word = (y.map Decimal.format).getD word → x = y := by
    intro word hword x y hxy
    cases x with
    | none =>
      cases y with
      | none => rfl
      | some d => exact absurd hxy.symm (hword d)
    | some d =>
      cases y with
      | none => exact absurd hxy (hword d)
      | some e => exact congrArg some (Decimal.format_inj hxy)
  ext1
  · have hvalue : b.unit.value = b'.unit.value := String.toList_injective hunit
    cases hu : b.unit <;> cases hu' : b'.unit <;> rw [hu, hu'] at hvalue <;>
      first | rfl | exact absurd hvalue (by decide)
  · exact hbound (fun d => (format_ne_word d).1) (String.toList_injective hlower)
  · exact hbound (fun d => (format_ne_word d).2) (String.toList_injective hupper)

end TemperatureBucket

/-! ## Partitions -/

/-- `TemperatureMarketPartition`. -/
structure TemperatureMarketPartition where
  buckets : List TemperatureBucket
deriving DecidableEq

namespace TemperatureMarketPartition

/-- The body of the loop over `pairwise(ordered)` (`temperature.py`, 297-311). -/
def checkPair (previous current : TemperatureBucket) : Except TemperatureError Unit :=
  match previous.upperInclusive, current.lowerInclusive with
  | some previousUpper, some currentLower => do
    let expected := previousUpper + 1
    raiseIf (currentLower < expected) (.temperatureMarketError ("temperature buckets overlap at " ++
      formatGeneral currentLower ++ "°" ++ current.unit.value))
    raiseIf (expected < currentLower) (.temperatureMarketError
      ("temperature buckets leave a gap before " ++ formatGeneral currentLower ++ "°" ++
        current.unit.value))
  | _, _ => .error (.temperatureMarketError "tail bucket appears inside the outcome set")

/-- The loop over `pairwise(ordered)`. -/
def checkAdjacent : List TemperatureBucket → Except TemperatureError Unit
  | previous :: current :: rest => do
    checkPair previous current
    checkAdjacent (current :: rest)
  | _ => return ()

/-- `__post_init__` (`temperature.py`, 275-313). -/
def new (buckets : List TemperatureBucket) : Except TemperatureError TemperatureMarketPartition := do
  raiseIf (buckets.length < 2)
    (.temperatureMarketError "temperature market requires at least two buckets")
  raiseIf ((buckets.map TemperatureBucket.unit).dedup.length ≠ 1)
    (.temperatureMarketError "temperature market mixes units")
  raiseIf (buckets.countP TemperatureBucket.isLowerTail ≠ 1)
    (.temperatureMarketError "temperature market requires exactly one lower tail")
  raiseIf (buckets.countP TemperatureBucket.isUpperTail ≠ 1)
    (.temperatureMarketError "temperature market requires exactly one upper tail")
  raiseIf (¬ (buckets.map TemperatureBucket.key).Nodup)
    (.temperatureMarketError "temperature market contains duplicate buckets")
  let ordered := buckets.insertionSort TemperatureBucket.SortLe
  raiseIf ((∃ b ∈ ordered.head?, b.isLowerTail = false) ∨ ∃ b ∈ ordered.getLast?, b.isUpperTail = false)
    (.temperatureMarketError "temperature tails do not bound the full outcome set")
  checkAdjacent ordered
  return ⟨ordered⟩

/-- `bucket_for_reported` (`temperature.py`, 318-327). -/
def bucketForReported (p : TemperatureMarketPartition) (value : Decimal) :
    Except TemperatureError TemperatureBucket := do
  let containing ← p.buckets.filterM fun bucket => bucket.containsReported value
  match containing with
  | [bucket] => return bucket
  | _ => .error (.temperatureMarketError ("reported temperature maps to " ++
      toString containing.length ++ " buckets instead of one"))

/-- `bucket_for_forecast` (`temperature.py`, 329-335). -/
def bucketForForecast (p : TemperatureMarketPartition) (value : Decimal) :
    Except TemperatureError TemperatureBucket :=
  match quantizeHalfUp value with
  | some reported => p.bucketForReported reported
  | none => .error (.raised ⟨.invalidOperation,
      "quantize result has too many digits for current context"⟩)

/-! ## What an accepted partition is -/

/-- The second bucket begins one degree above the end of the first. -/
def Adjacent (a b : TemperatureBucket) : Prop :=
  ∃ u ∈ a.upperInclusive, ∃ l ∈ b.lowerInclusive, l.value = (u + 1).value

theorem chain_of_checkAdjacent {buckets : List TemperatureBucket} {u : Unit}
    (h : checkAdjacent buckets = .ok u) : buckets.IsChain Adjacent := by
  induction buckets with
  | nil => exact .nil
  | cons previous buckets ih =>
    cases buckets with
    | nil => exact .singleton _
    | cons current rest =>
      rw [checkAdjacent, check_bind_eq_ok] at h
      obtain ⟨hpair, hrest⟩ := h
      refine List.isChain_cons_cons.mpr ⟨?_, ih hrest⟩
      unfold checkPair at hpair
      split at hpair
      · rename_i previousUpper currentLower hupper hlower
        rw [raiseIf_bind_eq_ok, raiseIf_eq_ok, Decimal.lt_iff, Decimal.lt_iff, not_lt, not_lt] at hpair
        exact ⟨_, hupper, _, hlower, le_antisymm hpair.2 hpair.1⟩
      · cases hpair

/-- **The buckets of a market follow one another**, from the lower tail to the upper one. -/
theorem chain_of_new {raw : List TemperatureBucket} {p : TemperatureMarketPartition}
    (h : new raw = .ok p) :
    p.buckets ≠ [] ∧ p.buckets.IsChain Adjacent ∧ (∀ b ∈ p.buckets.head?, b.lowerInclusive = none) ∧
      ∀ b ∈ p.buckets.getLast?, b.upperInclusive = none := by
  simp only [new, raiseIf_bind_eq_ok, not_or, not_exists, not_and, Bool.not_eq_false] at h
  obtain ⟨hlength, -, -, -, -, ⟨hfirst, hlast⟩, h⟩ := h
  obtain ⟨hadjacent, h⟩ := check_bind_eq_ok.mp h
  cases h
  refine ⟨?_, chain_of_checkAdjacent hadjacent, fun b hb => ?_, fun b hb => ?_⟩
  · intro hnil
    have hlen := List.length_insertionSort TemperatureBucket.SortLe raw
    have : (raw.insertionSort TemperatureBucket.SortLe).length = 0 := congrArg List.length hnil
    omega
  · exact Option.isNone_iff_eq_none.mp (hfirst b hb)
  · exact Option.isNone_iff_eq_none.mp (hlast b hb)

end TemperatureMarketPartition

end WeatherBot.Markets
