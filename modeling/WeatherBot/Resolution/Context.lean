import WeatherBot.Forecasting.Loader
import WeatherBot.Ledger.Run
import WeatherBot.Markets.Temperature

/-!
# Resolution contexts

`resolution/context.py`: the context in which a market is resolved, recovered from the
metadata that its orders were decided with.

* `bucketFromKey_self`: the key of a bucket is read back as that bucket.
* `bucketFromKey_key`: **a key names its bucket**, and the context of a market names the
  bucket of every order that was filled in it.
-/

namespace WeatherBot.Markets

open WeatherBot.Common
open WeatherBot.Domain

/-- `TemperatureUnit.parse`: only `f` and `c` become `F` and `C` in upper case. -/
def TemperatureUnit.parse (rt : Runtime) (value : String) : Except TemperatureError TemperatureUnit :=
  let normalized := strip value
  if normalized = "F" ∨ normalized = "f" then return .fahrenheit
  else if normalized = "C" ∨ normalized = "c" then return .celsius
  else throw (.temperatureMarketError ("unsupported temperature unit: " ++ rt.repr value))

/-- `a == b` of optional decimals: they are equal as numbers. -/
def SameBound : Option Decimal → Option Decimal → Prop
  | none, none => True
  | some a, some b => Decimal.NumEq a b
  | _, _ => False

instance (a b : Option Decimal) : Decidable (SameBound a b) := by
  unfold SameBound
  split <;> infer_instance

/-- `a == b` of buckets. -/
def TemperatureBucket.PyEq (a b : TemperatureBucket) : Prop :=
  a.unit = b.unit ∧ SameBound a.lowerInclusive b.lowerInclusive ∧
    SameBound a.upperInclusive b.upperInclusive

instance (a b : TemperatureBucket) : Decidable (a.PyEq b) :=
  inferInstanceAs (Decidable (_ ∧ _ ∧ _))

theorem SameBound.refl (a : Option Decimal) : SameBound a a := by
  cases a with
  | none => exact True.intro
  | some d => exact rfl

theorem TemperatureBucket.PyEq.refl (b : TemperatureBucket) : b.PyEq b :=
  ⟨rfl, SameBound.refl _, SameBound.refl _⟩

theorem SameBound.symm {a b : Option Decimal} (h : SameBound a b) : SameBound b a := by
  cases a <;> cases b
  · exact True.intro
  · exact h
  · exact h
  · exact Eq.symm h

theorem TemperatureBucket.PyEq.symm {a b : TemperatureBucket} (h : a.PyEq b) : b.PyEq a :=
  ⟨h.1.symm, h.2.1.symm, h.2.2.symm⟩

end WeatherBot.Markets

namespace WeatherBot.Resolution

open WeatherBot.Common
open WeatherBot.Domain
open WeatherBot.Markets

/-- `ResolutionContextError`, or an exception of another class. -/
inductive ContextError where
  | resolutionContextError (message : String)
  | marketCalendarError (message : String)
  | marketIdentityError (message : String)
  | raised (error : Error)
deriving DecidableEq

/-- `raise ResolutionContextError(str(exc)) from exc`. -/
def ContextError.ofTemperature : TemperatureError → ContextError
  | .temperatureMarketError message => .resolutionContextError message
  | .raised error => .raised error

/-! ## Keys of buckets -/

/-- `_text` of a text. -/
def text (value label : String) : Except ContextError String := do
  raiseIf (isBlank value = true) (.resolutionContextError (label ++ " must be a non-blank string"))
  return strip value

/-- `Decimal(value)` of any text. -/
def readDecimal (py : Forecasting.TextReaders) (value : String) : Option PyDecimal :=
  match PyDecimal.ofText value with
  | some result => some result
  | none =>
    match py.decimal value with
    | .finite d => some d.toPy
    | .special => some .nan
    | .invalid => none

/-- `_bound` (`context.py`, 36-45). -/
def bound (py : Forecasting.TextReaders) (value label : String) :
    Except ContextError (Option PyDecimal) :=
  if value = "-inf" ∨ value = "inf" then return none
  else match readDecimal py value with
    | none => throw (.resolutionContextError (label ++ " is not decimal"))
    | some result => do
      raiseIf (¬ (result.isFinite = true ∧ IsIntegral result.fold))
        (.resolutionContextError (label ++ " must be a finite whole degree"))
      return some result

/-- The bucket that a key's three parts name. -/
def bucketOfParts (rt : Runtime) (py : Forecasting.TextReaders) (unitText lowerText upperText : String) :
    Except ContextError TemperatureBucket := do
  let unit ← (TemperatureUnit.parse rt unitText).mapError .ofTemperature
  let lower ← bound py lowerText "bucket lower bound"
  let upper ← bound py upperText "bucket upper bound"
  if lowerText = "-inf" then
    match upper with
    | none => throw (.resolutionContextError "lower-tail bucket requires an upper bound")
    | some upper => (TemperatureBucket.lowerTail upper unit).mapError .ofTemperature
  else if upperText = "inf" then
    match lower with
    | none => throw (.resolutionContextError "upper-tail bucket requires a lower bound")
    | some lower => (TemperatureBucket.upperTail lower unit).mapError .ofTemperature
  else
    match lower, upper with
    | some lower, some upper => (TemperatureBucket.boundedBy lower upper unit).mapError .ofTemperature
    | _, _ => throw (.resolutionContextError "bounded bucket requires finite bounds")

/-- `bucket_from_key` (`context.py`, 48-68). -/
def bucketFromKey (rt : Runtime) (py : Forecasting.TextReaders) (value : String) :
    Except ContextError TemperatureBucket := do
  let value ← text value "bucket_key"
  match (value.toList.splitOn ':').map String.ofList with
  | [unitText, lowerText, upperText] => bucketOfParts rt py unitText lowerText upperText
  | _ => throw (.resolutionContextError "bucket_key must contain unit, lower, and upper")

/-! ## Contexts -/

/-- `ResolutionContext`. -/
structure ResolutionContext where
  marketId : String
  conditionId : String
  marketDate : Date
  marketTimezone : String
  bucket : TemperatureBucket
  declaredResolutionSource : Option String
deriving DecidableEq

/-- `_text(metadata.get(key), label=key)`. -/
def metadataText (metadata : List (String × Json)) (key : String) : Except ContextError String :=
  match Dict.assocGet metadata key with
  | some (.str value) => text value key
  | _ => throw (.resolutionContextError (key ++ " must be a non-blank string"))

/-- `_optional_text(metadata.get(key), label=key)`. -/
def metadataOptionalText (metadata : List (String × Json)) (key : String) :
    Except ContextError (Option String) :=
  match Dict.assocGet metadata key with
  | none | some .null | some (.str "") => return none
  | _ => some <$> metadataText metadata key

/-- A hexadecimal digit of either case. -/
def isHexDigit (c : Char) : Bool := c.isDigit || ('a' ≤ c && c ≤ 'f') || ('A' ≤ c && c ≤ 'F')

/-- `ConditionId(value).value` of a stripped text (`markets/identity.py`, 39-48). -/
def conditionId (value : String) : Except ContextError String := do
  raiseIf (¬ (value.toList.take 2 = ['0', 'x'] ∧ value.toList.length = 66 ∧
      (value.toList.drop 2).all isHexDigit = true))
    (.marketIdentityError "condition id must be a 32-byte 0x-prefixed hexadecimal identifier")
  return value.map Char.toLower

/-- `_context_from_metadata` (`context.py`, 71-94). -/
def contextFromMetadata (rt : Runtime) (py : Forecasting.TextReaders) (marketId : String)
    (metadata : List (String × Json)) : Except ContextError ResolutionContext := do
  let conditionId ← conditionId (← metadataText metadata "condition_id")
  let dateText ← metadataText metadata "market_date"
  let marketTimezone ← metadataText metadata "market_timezone"
  raiseIf (rt.zoneKnown marketTimezone = false)
    (.marketCalendarError ("unknown IANA timezone: " ++ rt.repr marketTimezone))
  match py.readDate dateText with
  | none => throw (.marketCalendarError ("market date is not ISO-8601: " ++ rt.repr dateText))
  | some marketDate => do
    let bucket ← bucketFromKey rt py (← metadataText metadata "bucket_key")
    let declaredResolutionSource ← metadataOptionalText metadata "declared_resolution_source"
    return { marketId, conditionId, marketDate, marketTimezone, bucket, declaredResolutionSource }

/-- `context == first`. -/
def ResolutionContext.PyEq (a b : ResolutionContext) : Prop :=
  a.marketId = b.marketId ∧ a.conditionId = b.conditionId ∧ a.marketDate = b.marketDate ∧
    a.marketTimezone = b.marketTimezone ∧ a.bucket.PyEq b.bucket ∧
    a.declaredResolutionSource = b.declaredResolutionSource

instance (a b : ResolutionContext) : Decidable (a.PyEq b) :=
  inferInstanceAs (Decidable (_ ∧ _ ∧ _ ∧ _ ∧ _ ∧ _))

/-- A committed decision claim: its intent and its metadata. -/
structure DecisionClaim where
  intentId : Option String
  metadata : List (String × Json)

/-- The intents of the market whose orders are filled. -/
def relevantIntents (state : LedgerState) (marketId : String) : List String :=
  (state.orders.entries.filter fun entry =>
    entry.2.intent.marketId = marketId ∧ 0 < entry.2.filledQuantity.val).map
      fun entry => entry.2.intent.intentId

/-- The claims of the market's filled intents. -/
def relevantClaims (state : LedgerState) (claims : List DecisionClaim) (marketId : String) :
    List DecisionClaim :=
  claims.filter fun claim => ∃ intentId ∈ claim.intentId, intentId ∈ relevantIntents state marketId

/-- `context_for_market` (`context.py`, 100-131). -/
def contextForMarket (rt : Runtime) (py : Forecasting.TextReaders) (state : LedgerState)
    (claims : List DecisionClaim) (marketId : String) : Except ContextError ResolutionContext := do
  raiseIf (relevantIntents state marketId = []) (.resolutionContextError
    ("market " ++ marketId ++ " has no filled order intent carrying resolution context"))
  let contexts ← (relevantClaims state claims marketId).mapM fun claim =>
    contextFromMetadata rt py marketId claim.metadata
  match contexts with
  | [] => throw (.resolutionContextError
      ("market " ++ marketId ++ " has no committed decision metadata"))
  | first :: rest => do
    raiseIf (∃ context ∈ rest, ¬ context.PyEq first) (.resolutionContextError
      ("market " ++ marketId ++ " has conflicting resolution context across orders"))
    return first

/-! ## Reading a key back -/

theorem not_space_key (b : TemperatureBucket) : ∀ c ∈ b.key.toList, isSpace c = false := by
  intro c hc
  rw [TemperatureBucket.toList_key, List.mem_append, List.mem_cons, List.mem_append, List.mem_cons] at hc
  rcases hc with hc | rfl | hc | rfl | hc
  · exact (TemperatureUnit.plain_value _ c hc).2
  · decide
  · exact (b.plain_lowerText c hc).2
  · decide
  · exact (b.plain_upperText c hc).2

/-- **A key is split into the unit and the two bounds.** -/
theorem parts_key (b : TemperatureBucket) : (b.key.toList.splitOn ':').map String.ofList =
    [b.unit.value, b.lowerText, b.upperText] := by
  have hunit : ':' ∉ b.unit.value.toList := fun h => (TemperatureUnit.plain_value _ _ h).1 rfl
  have hlower : ':' ∉ b.lowerText.toList := fun h => (b.plain_lowerText _ h).1 rfl
  have hupper : ':' ∉ b.upperText.toList := fun h => (b.plain_upperText _ h).1 rfl
  rw [TemperatureBucket.toList_key, List.splitOn_append_cons_self_of_not_mem hunit,
    List.splitOn_append_cons_self_of_not_mem hlower, List.splitOn_eq_singleton hupper]
  simp only [List.map_cons, List.map_nil, String.ofList_toList]

theorem parse_value (rt : Runtime) (unit : TemperatureUnit) :
    TemperatureUnit.parse rt unit.value = .ok unit := by
  have hstrip : strip unit.value = unit.value := by
    rw [strip, stripChars_eq_self fun c hc => (unit.plain_value c hc).2, String.ofList_toList]
  unfold TemperatureUnit.parse
  rw [hstrip]
  cases unit <;> rfl

theorem readDecimal_format (py : Forecasting.TextReaders) (d : Decimal) :
    readDecimal py d.format = some d.toPy := by
  rw [readDecimal, PyDecimal.ofText_format]

theorem bound_format (py : Forecasting.TextReaders) {d : Decimal} (h : IsIntegral d) (label : String) :
    bound py d.format label = .ok (some d.toPy) := by
  have hword : ¬ (d.format = "-inf" ∨ d.format = "inf") :=
    not_or.mpr ⟨(TemperatureBucket.format_ne_word d).1, (TemperatureBucket.format_ne_word d).2⟩
  have hwhole : ¬ ¬ (d.toPy.isFinite = true ∧ IsIntegral d.toPy.fold) := by
    rw [not_not, PyDecimal.fold_toPy]
    exact ⟨rfl, h⟩
  rw [bound, if_neg hword, readDecimal_format]
  dsimp only
  rw [raiseIf_of_not _ hwhole]
  rfl

theorem decimalOf_toPy (d : Decimal) (label : String) : decimalOf d.toPy label = .ok d := by
  rw [decimalOf, PyDecimal.fold_toPy, raiseIf_of_not _ (by simp [Decimal.toPy, PyDecimal.isFinite])]
  rfl

/-- The parts of a key name its bucket, whichever bounds it has. -/
theorem bucketOfParts_self (rt : Runtime) (py : Forecasting.TextReaders) (b : TemperatureBucket) :
    bucketOfParts rt py b.unit.value b.lowerText b.upperText = .ok b := by
  have hself := TemperatureBucket.ofDecimals_self b
  obtain ⟨unit, lower, upper, bounded, hlower, hupper, ordered⟩ := b
  unfold bucketOfParts TemperatureBucket.lowerText TemperatureBucket.upperText
  dsimp only at hself ⊢
  rw [parse_value, Except.mapError, ok_bind]
  cases lower with
  | none =>
    cases upper with
    | none => exact absurd rfl (bounded.resolve_left fun h => h rfl)
    | some u =>
      rw [Option.map_none, Option.getD_none, Option.map_some, Option.getD_some, bound_format py (hupper u rfl)]
      show Except.mapError _ (TemperatureBucket.lowerTail u.toPy unit) = _
      rw [TemperatureBucket.lowerTail, decimalOf_toPy, ok_bind]
      exact mapError_eq_ok.mpr hself
  | some l =>
    rw [Option.map_some, Option.getD_some, bound_format py (hlower l rfl), ok_bind]
    cases upper with
    | none =>
      have hinf : bound py "inf" "bucket upper bound" = .ok none := rfl
      rw [Option.map_none, Option.getD_none, hinf, ok_bind, if_neg (TemperatureBucket.format_ne_word l).1, if_pos rfl]
      show Except.mapError _ (TemperatureBucket.upperTail l.toPy unit) = _
      rw [TemperatureBucket.upperTail, decimalOf_toPy, ok_bind]
      exact mapError_eq_ok.mpr hself
    | some u =>
      rw [Option.map_some, Option.getD_some, bound_format py (hupper u rfl), ok_bind,
        if_neg (TemperatureBucket.format_ne_word l).1, if_neg (TemperatureBucket.format_ne_word u).2]
      show Except.mapError _ (TemperatureBucket.boundedBy l.toPy u.toPy unit) = _
      rw [TemperatureBucket.boundedBy, decimalOf_toPy, ok_bind, decimalOf_toPy, ok_bind]
      exact mapError_eq_ok.mpr hself

theorem bucketFromKey_self (rt : Runtime) (py : Forecasting.TextReaders) (b : TemperatureBucket) :
    bucketFromKey rt py b.key = .ok b := by
  have hstrip : strip b.key = b.key := by
    rw [strip, stripChars_eq_self (not_space_key b), String.ofList_toList]
  have hblank : isBlank b.key = false := by
    have hcolon : ':' ∈ b.key.toList := by
      rw [TemperatureBucket.toList_key]
      exact List.mem_append_right _ List.mem_cons_self
    exact isBlank_of_mem hcolon (not_space_key b _ hcolon)
  rw [bucketFromKey, text, hblank, raiseIf_of_not _ Bool.false_ne_true, ok_bind, pure_eq_ok, ok_bind,
    hstrip, parts_key]
  exact bucketOfParts_self rt py b

/-! ## The bucket of a context -/

theorem bucket_of_contextFromMetadata {rt : Runtime} {py : Forecasting.TextReaders} {marketId : String}
    {metadata : List (String × Json)} {context : ResolutionContext}
    (h : contextFromMetadata rt py marketId metadata = .ok context)
    {b : TemperatureBucket} (hkey : Dict.assocGet metadata "bucket_key" = some (.str b.key)) :
    context.bucket = b := by
  have htext : metadataText metadata "bucket_key" >>= bucketFromKey rt py = .ok b := by
    have hstrip : strip b.key = b.key := by
      rw [strip, stripChars_eq_self (not_space_key b), String.ofList_toList]
    have hself := bucketFromKey_self rt py b
    obtain ⟨value, hvalue, -⟩ := bind_eq_ok.mp hself
    obtain ⟨hblank, -⟩ := raiseIf_bind_eq_ok.mp hvalue
    rw [metadataText, hkey]
    dsimp only
    rw [text, raiseIf_of_not _ hblank, ok_bind, pure_eq_ok, ok_bind, hstrip]
    exact hself
  simp only [contextFromMetadata] at h
  obtain ⟨_, -, h⟩ := bind_eq_ok.mp h
  obtain ⟨_, -, h⟩ := bind_eq_ok.mp h
  obtain ⟨_, -, h⟩ := bind_eq_ok.mp h
  obtain ⟨_, -, h⟩ := bind_eq_ok.mp h
  obtain ⟨-, h⟩ := raiseIf_bind_eq_ok.mp h
  split at h
  · cases h
  · obtain ⟨_, hvalue, h⟩ := bind_eq_ok.mp h
    obtain ⟨bucket, hbucket, h⟩ := bind_eq_ok.mp h
    obtain ⟨_, -, h⟩ := bind_eq_ok.mp h
    cases h
    rw [hvalue, ok_bind, hbucket] at htext
    exact Except.ok.inj htext

/-- The context of a market agrees with the metadata of every order that was filled in it. -/
theorem bucket_of_contextForMarket {rt : Runtime} {py : Forecasting.TextReaders} {state : LedgerState}
    {claims : List DecisionClaim} {marketId : String} {context : ResolutionContext}
    (h : contextForMarket rt py state claims marketId = .ok context) {claim : DecisionClaim}
    (hclaim : claim ∈ relevantClaims state claims marketId) {b : TemperatureBucket}
    (hkey : Dict.assocGet claim.metadata "bucket_key" = some (.str b.key)) : context.bucket.PyEq b := by
  obtain ⟨-, h⟩ := raiseIf_bind_eq_ok.mp h
  obtain ⟨contexts, hcontexts, h⟩ := bind_eq_ok.mp h
  obtain ⟨context', hmem, hcontext'⟩ := exists_of_mapM_eq_ok hcontexts hclaim
  have hbucket := bucket_of_contextFromMetadata hcontext' hkey
  cases contexts with
  | nil => cases h
  | cons first rest =>
    obtain ⟨hsame, h⟩ := raiseIf_bind_eq_ok.mp h
    cases h
    rcases List.mem_cons.mp hmem with rfl | hrest
    · rw [hbucket]
      exact .refl b
    · have hpy : context'.PyEq context := not_not.mp fun hne => hsame ⟨context', hrest, hne⟩
      rw [← hbucket]
      exact hpy.2.2.2.2.1.symm

/-- **Keys name buckets.** The key of a bucket, whose bounds may have any exponent, is read back as
that bucket; buckets with one key are equal; and the context of a market names the bucket of every
order that was filled in it. -/
theorem bucketFromKey_key (rt : Runtime) (py : Forecasting.TextReaders) :
    (∀ unit lower upper b, TemperatureBucket.ofDecimals unit lower upper = .ok b →
      bucketFromKey rt py b.key = .ok b) ∧
    (∀ b b' : TemperatureBucket, b.key = b'.key → b = b') ∧
    ∀ state claims marketId context, contextForMarket rt py state claims marketId = .ok context →
      ∀ claim ∈ relevantClaims state claims marketId, ∀ b : TemperatureBucket,
        Dict.assocGet claim.metadata "bucket_key" = some (.str b.key) → context.bucket.PyEq b :=
  ⟨fun _ _ _ b _ => bucketFromKey_self rt py b, fun _ _ => TemperatureBucket.key_inj,
    fun _ _ _ _ h _ hclaim _ hkey => bucket_of_contextForMarket h hclaim hkey⟩

namespace Sample

open WeatherBot.Ledger.Sample

/-- From ten degrees below zero, written `-1E+1`, to `4.0`. -/
def coldBucket : Except TemperatureError TemperatureBucket :=
  TemperatureBucket.ofDecimals .celsius (some (.finite true 1 1)) (some (.finite false 40 (-1)))

/-- A market with a filled order. -/
def filledState : LedgerState := okOr (Domain.replay .utc (roundTrip.take 4) "USD") (.fresh "USD")

/-- A library that reads no other texts. -/
def asciiReaders : Forecasting.TextReaders := ⟨id, fun _ => .invalid, fun _ => none, fun _ => .invalid⟩

def coldClaim : DecisionClaim where
  intentId := some "buy"
  metadata := [("condition_id", .str (String.ofList ('0' :: 'x' :: List.replicate 64 'A'))),
    ("market_date", .str "2026-01-02"), ("market_timezone", .str "UTC"),
    ("bucket_key", .str "C:-10:4.0")]

end Sample

theorem bucketFromKey_key_cold : ∃ b context, Sample.coldBucket = .ok b ∧ b.key = "C:-10:4.0" ∧
    bucketFromKey .utc Sample.asciiReaders b.key = .ok b ∧
    contextForMarket .utc Sample.asciiReaders Sample.filledState [Sample.coldClaim] "market" = .ok context ∧
    context.bucket.PyEq b := by
  obtain ⟨b, hb⟩ := exists_of_isOk (x := Sample.coldBucket) (by decide)
  obtain ⟨context, hcontext⟩ := exists_of_isOk
    (x := contextForMarket .utc Sample.asciiReaders Sample.filledState [Sample.coldClaim] "market") (by decide +kernel)
  have hkey : b.key = "C:-10:4.0" := by
    have : Sample.coldBucket.map TemperatureBucket.key = .ok "C:-10:4.0" := by decide
    rw [hb] at this
    exact Except.ok.inj this
  obtain ⟨hread, -, hnames⟩ := bucketFromKey_key .utc Sample.asciiReaders
  refine ⟨b, context, hb, hkey, hread _ _ _ b hb, hcontext, ?_⟩
  have hclaim : Sample.coldClaim ∈ relevantClaims Sample.filledState [Sample.coldClaim] "market" :=
    List.mem_filter.mpr ⟨List.mem_singleton_self _, by decide⟩
  refine hnames _ _ _ _ hcontext Sample.coldClaim hclaim b ?_
  rw [hkey]
  rfl

end WeatherBot.Resolution
