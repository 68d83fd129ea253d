import WeatherBot.Domain.Evidence

/-!
# Producer signals

`producer/model.py` and `CalibratedProbability` of `forecasting/runtime.py`. A
constructor `new` makes the checks of `__post_init__` in their order and returns
the normalized record.

* `HermesSignal.new_self`: a signal is constructed from its own fields.
* `HermesSignal.toMapping`: the record that is written to the signal log.
* `makeSignalId`: the identity of a signal, a hash of its stable fields.
-/

namespace WeatherBot.Producer

open WeatherBot.Common
open WeatherBot.Domain

/-! ## Checked values -/

/-- `_utc`. -/
def utc (value : DateTime) : Except Error DateTime :=
  match value.astimezoneUtc with
  | some t => return t
  | none => throw ⟨.overflowError, "date value out of range"⟩

theorem utc_eq_ok {value t : DateTime} : utc value = .ok t ↔ value.astimezoneUtc = some t := by
  unfold utc
  cases value.astimezoneUtc <;> simp

/-- A datetime in UTC is not changed. -/
theorem utc_self {value t : DateTime} (h : utc value = .ok t) : utc t = .ok t :=
  utc_eq_ok.mpr (DateTime.astimezoneUtc_of_utc (DateTime.utcoffset_astimezoneUtc (utc_eq_ok.mp h)))

/-- The checks of `_nonblank` on labelled texts. -/
def requireNonblank (texts : List (String × String)) : Except Error Unit :=
  forM texts fun text => do
    let _ ← requireText text.2 text.1
    return ()

theorem requireNonblank_eq_ok {texts : List (String × String)} :
    requireNonblank texts = .ok () ↔ ∀ text ∈ texts, isBlank text.2 = false := by
  unfold requireNonblank
  rw [forM_eq_ok]
  refine forall₂_congr fun text _ => ?_
  rw [bind_eq_ok]
  constructor
  · rintro ⟨_, h, -⟩
    exact (requireText_eq_ok.mp h).1
  · intro h
    exact ⟨_, requireText_eq_ok.mpr ⟨h, rfl⟩, rfl⟩

theorem isBlank_strip (s : String) : isBlank (strip s) = isBlank s := by
  rw [isBlank, isBlank, strip_strip]

/-! ## Calibrated probabilities -/

/-- `CALIBRATION_LEAD_DAYS`. -/
def calibrationLeadDays : List ℤ := [0, 1, 2]

/-- `CalibratedProbability` (`runtime.py`, 115-134). -/
structure CalibratedProbability where
  modelProbability : Decimal
  modelVersion : String
  artifactSha256 : String
  citySlug : String
  climateRegion : String
  leadDays : ℤ
  weatherFingerprint : String
  bucketKey : String
  forecastSource : String
  calibrationGroupKey : String
  fallbackLevel : String
  distributionType : String
  calibrationSampleCount : ℤ
  trainingCutoff : Date
deriving DecidableEq

namespace CalibratedProbability

/-- The texts that must not be blank. -/
def texts (c : CalibratedProbability) : List (String × String) :=
  [("model_version", c.modelVersion), ("artifact_sha256", c.artifactSha256),
    ("city_slug", c.citySlug), ("climate_region", c.climateRegion),
    ("weather_fingerprint", c.weatherFingerprint), ("bucket_key", c.bucketKey),
    ("forecast_source", c.forecastSource), ("calibration_group_key", c.calibrationGroupKey),
    ("fallback_level", c.fallbackLevel), ("distribution_type", c.distributionType)]

/-- `CalibratedProbability.__post_init__`. The texts are checked and kept as they are. -/
def new (c : CalibratedProbability) : Except Error CalibratedProbability := do
  requireNonblank c.texts
  raiseIf (c.leadDays ∉ calibrationLeadDays)
    (.valueError ("lead_days=" ++ toString c.leadDays ++
      " is outside calibrated lead set (0, 1, 2)"))
  raiseIf (c.calibrationSampleCount ≤ 0) (.valueError "calibration_sample_count must be positive")
  raiseIf (c.modelProbability < .zero ∨ .one < c.modelProbability)
    (.valueError "model_probability must be between zero and one inclusive")
  return c

theorem new_eq_ok {c d : CalibratedProbability} : new c = .ok d ↔
    ((∀ text ∈ c.texts, isBlank text.2 = false) ∧ c.leadDays ∈ calibrationLeadDays ∧
      0 < c.calibrationSampleCount ∧ ¬ (c.modelProbability < .zero ∨ .one < c.modelProbability)) ∧
      d = c := by
  rw [new, check_bind_eq_ok, requireNonblank_eq_ok, raiseIf_bind_eq_ok, raiseIf_bind_eq_ok,
    raiseIf_bind_eq_ok, not_not, not_le, pure_eq_ok, Except.ok.injEq, and_assoc, and_assoc,
    and_assoc, eq_comm (a := c)]

/-- `CalibratedProbability.audit_metadata`. -/
def auditMetadata (c : CalibratedProbability) : Json :=
  .obj [("model_probability", .str c.modelProbability.format), ("model_version", .str c.modelVersion),
    ("artifact_sha256", .str c.artifactSha256), ("city_slug", .str c.citySlug),
    ("climate_region", .str c.climateRegion), ("lead_days", .int c.leadDays),
    ("weather_fingerprint", .str c.weatherFingerprint), ("bucket_key", .str c.bucketKey),
    ("forecast_source", .str c.forecastSource),
    ("calibration_group_key", .str c.calibrationGroupKey),
    ("fallback_level", .str c.fallbackLevel), ("distribution_type", .str c.distributionType),
    ("calibration_sample_count", .int c.calibrationSampleCount),
    ("training_cutoff", .str c.trainingCutoff.isoformat)]

/-- `CalibratedProbability.calibration_fingerprint`. -/
def calibrationFingerprint (rt : Runtime) (c : CalibratedProbability) : String :=
  rt.sha256Json c.auditMetadata

end CalibratedProbability

/-! ## Market references -/

/-- `SignalMarketReference` (`model.py`, 95-108). -/
structure SignalMarketReference where
  kind : String
  orderBookHash : String
  observedAtUtc : DateTime
  referenceNotional : Decimal
  bestBid : Decimal
  bestAsk : Decimal
  averageReferencePrice : Decimal
  allInReferencePrice : Decimal
  worstReferencePrice : Decimal
  probabilityEdge : Decimal
  expectedReturn : Decimal
  quoteFingerprint : String
deriving DecidableEq

namespace SignalMarketReference

/-- The order and sign checks of `SignalMarketReference.__post_init__`. -/
def checkPrices (r : SignalMarketReference) : Except Error Unit := do
  raiseIf (r.referenceNotional ≤ .zero) (.valueError "reference_notional must be positive")
  raiseIf (¬ (.zero < r.bestBid ∧ r.bestBid < r.bestAsk ∧ r.bestAsk < .one))
    (.valueError "market reference requires a valid uncrossed best bid/ask")
  raiseIf (¬ (r.bestAsk ≤ r.averageReferencePrice ∧ r.averageReferencePrice ≤ r.worstReferencePrice))
    (.valueError "average reference price must lie between best ask and worst price")
  raiseIf (¬ (r.averageReferencePrice ≤ r.allInReferencePrice ∧ r.allInReferencePrice < .one))
    (.valueError "all-in reference price must be at least the average price and below one")
  raiseIf (.one ≤ r.worstReferencePrice) (.valueError "worst reference price must be below one")
  raiseIf (r.probabilityEdge ≤ .zero ∨ r.expectedReturn ≤ .zero)
    (.valueError "accepted market reference must retain positive edge and expected return")

/-- `SignalMarketReference.__post_init__`. A `Decimal` is finite here, so `_decimal_text` does not
raise. -/
def new (r : SignalMarketReference) : Except Error SignalMarketReference := do
  let kind ← requireText r.kind "reference kind"
  raiseIf (kind ≠ "executable_read_only") (.valueError "unsupported market-reference kind")
  let orderBookHash ← requireText r.orderBookHash "order_book_hash"
  let quoteFingerprint ← requireText r.quoteFingerprint "quote_fingerprint"
  let observedAtUtc ← utc r.observedAtUtc
  checkPrices r
  return { r with kind, orderBookHash, quoteFingerprint, observedAtUtc }

/-- A market reference with stripped texts, in UTC, that passes the checks is constructed from its own
fields. -/
theorem new_of_stripped {r : SignalMarketReference} (hkind : r.kind = "executable_read_only")
    (horderBook : Stripped r.orderBookHash) (hquote : Stripped r.quoteFingerprint)
    (hutc : utc r.observedAtUtc = .ok r.observedAtUtc) (hprices : checkPrices r = .ok ()) :
    new r = .ok r := by
  have hread : Stripped "executable_read_only" := stripped_ofList (by decide) (by decide)
  rw [← hkind] at hread
  have hknown : ¬ (r.kind ≠ "executable_read_only") := not_not.mpr hkind
  rw [new, requireText_self hread, ok_bind, raiseIf_of_not _ hknown, ok_bind,
    requireText_self horderBook, ok_bind, requireText_self hquote, ok_bind, hutc, ok_bind, hprices,
    ok_bind]
  rfl

/-- A market reference is constructed from its own fields. -/
theorem new_self {r s : SignalMarketReference} (h : new r = .ok s) : new s = .ok s := by
  simp only [new, bind_eq_ok, requireText_eq_ok, raiseIf_eq_ok] at h
  obtain ⟨_, ⟨hk, rfl⟩, _, hkind, _, ⟨ho, rfl⟩, _, ⟨hq, rfl⟩, t, ht, _, hprices, h⟩ := h
  cases h
  simp only [new, bind_eq_ok, requireText_eq_ok, raiseIf_eq_ok, isBlank_strip, strip_strip]
  exact ⟨_, ⟨hk, rfl⟩, (), hkind, _, ⟨ho, rfl⟩, _, ⟨hq, rfl⟩, t, utc_self ht, (), hprices, rfl⟩

/-- `SignalMarketReference.identity_mapping`. -/
def identityMapping (r : SignalMarketReference) : List (String × Json) :=
  [("kind", .str r.kind), ("order_book_hash", .str r.orderBookHash),
    ("observed_at_utc", .str r.observedAtUtc.isoformat),
    ("reference_notional", .str r.referenceNotional.format),
    ("best_bid", .str r.bestBid.format), ("best_ask", .str r.bestAsk.format),
    ("average_reference_price", .str r.averageReferencePrice.format),
    ("all_in_reference_price", .str r.allInReferencePrice.format),
    ("worst_reference_price", .str r.worstReferencePrice.format),
    ("probability_edge", .str r.probabilityEdge.format),
    ("expected_return", .str r.expectedReturn.format)]

/-- `SignalMarketReference.to_mapping`. -/
def toMapping (r : SignalMarketReference) : List (String × Json) :=
  r.identityMapping ++ [("quote_fingerprint", .str r.quoteFingerprint)]

end SignalMarketReference

/-! ## Signal identity -/

/-- The arguments of `make_signal_id`. -/
structure SignalIdentity where
  producerId : String
  strategyId : String
  strategyVersion : String
  policyFingerprint : String
  venue : String
  eventId : String
  marketId : String
  conditionId : String
  outcome : String
  tokenId : String
  classification : String
  marketDate : Date
  calibrationFingerprint : String
  weatherFingerprint : String
  marketReference : SignalMarketReference

/-- `payload` of `make_signal_id`. -/
def SignalIdentity.payload (i : SignalIdentity) : Json :=
  .obj [("contract", .str "hermes.signal"), ("schema_version", .str "1"),
    ("producer_id", .str i.producerId), ("strategy_id", .str i.strategyId),
    ("strategy_version", .str i.strategyVersion), ("policy_fingerprint", .str i.policyFingerprint),
    ("venue", .str i.venue), ("event_id", .str i.eventId), ("market_id", .str i.marketId),
    ("condition_id", .str i.conditionId), ("outcome", .str i.outcome), ("token_id", .str i.tokenId),
    ("classification", .str i.classification), ("market_date", .str i.marketDate.isoformat),
    ("calibration_fingerprint", .str i.calibrationFingerprint),
    ("weather_fingerprint", .str i.weatherFingerprint),
    ("market_reference", .obj i.marketReference.identityMapping)]

/-- `make_signal_id`. -/
def makeSignalId (rt : Runtime) (i : SignalIdentity) : String :=
  "hsig_" ++ rt.sha256Json i.payload

/-! ## Signals -/

/-- `HermesSignal` (`model.py`, 173-210). -/
structure HermesSignal where
  signalId : String
  producerId : String
  strategyId : String
  strategyVersion : String
  policyFingerprint : String
  generatedAtUtc : DateTime
  venue : String
  eventId : String
  marketId : String
  conditionId : String
  outcome : String
  tokenId : String
  question : String
  citySlug : String
  cityName : String
  climateRegion : String
  leadDays : ℤ
  marketDate : Date
  marketTimezone : String
  bucketKey : String
  bucketLabel : String
  forecastTemperatureF : Decimal
  modelProbability : Decimal
  classification : String
  marketReference : SignalMarketReference
  modelVersion : String
  artifactSha256 : String
  calibrationFingerprint : String
  weatherFingerprint : String
  forecastSource : String
  calibrationGroupKey : String
  fallbackLevel : String
  distributionType : String
  calibrationSampleCount : ℤ
  trainingCutoff : Date
  contract : String
  schemaVersion : String
deriving DecidableEq

namespace HermesSignal

/-- The texts that `__post_init__` strips, with their labels. -/
def texts (s : HermesSignal) : List (String × String) :=
  [("signal_id", s.signalId), ("producer_id", s.producerId), ("strategy_id", s.strategyId),
    ("strategy_version", s.strategyVersion), ("policy_fingerprint", s.policyFingerprint),
    ("venue", s.venue), ("event_id", s.eventId), ("market_id", s.marketId),
    ("condition_id", s.conditionId), ("outcome", s.outcome), ("token_id", s.tokenId),
    ("question", s.question), ("city_slug", s.citySlug), ("city_name", s.cityName),
    ("climate_region", s.climateRegion), ("market_timezone", s.marketTimezone),
    ("bucket_key", s.bucketKey), ("bucket_label", s.bucketLabel),
    ("classification", s.classification), ("model_version", s.modelVersion),
    ("artifact_sha256", s.artifactSha256), ("calibration_fingerprint", s.calibrationFingerprint),
    ("weather_fingerprint", s.weatherFingerprint), ("forecast_source", s.forecastSource),
    ("calibration_group_key", s.calibrationGroupKey), ("fallback_level", s.fallbackLevel),
    ("distribution_type", s.distributionType)]

/-- The signal with those texts stripped. -/
def stripTexts (s : HermesSignal) : HermesSignal :=
  { s with
    signalId := strip s.signalId, producerId := strip s.producerId,
    strategyId := strip s.strategyId, strategyVersion := strip s.strategyVersion,
    policyFingerprint := strip s.policyFingerprint, venue := strip s.venue,
    eventId := strip s.eventId, marketId := strip s.marketId, conditionId := strip s.conditionId,
    outcome := strip s.outcome, tokenId := strip s.tokenId, question := strip s.question,
    citySlug := strip s.citySlug, cityName := strip s.cityName,
    climateRegion := strip s.climateRegion, marketTimezone := strip s.marketTimezone,
    bucketKey := strip s.bucketKey, bucketLabel := strip s.bucketLabel,
    classification := strip s.classification, modelVersion := strip s.modelVersion,
    artifactSha256 := strip s.artifactSha256,
    calibrationFingerprint := strip s.calibrationFingerprint,
    weatherFingerprint := strip s.weatherFingerprint, forecastSource := strip s.forecastSource,
    calibrationGroupKey := strip s.calibrationGroupKey, fallbackLevel := strip s.fallbackLevel,
    distributionType := strip s.distributionType }

theorem stripTexts_eq_self {s : HermesSignal} (h : ∀ text ∈ s.texts, Stripped text.2) :
    s.stripTexts = s := by
  simp only [texts, List.forall_mem_cons, Stripped] at h
  simp only [stripTexts, h]

@[simp] theorem stripTexts_stripTexts (s : HermesSignal) : s.stripTexts.stripTexts = s.stripTexts := by
  simp only [stripTexts, strip_strip]

/-- The calibrated probability that the signal carries. -/
def calibrated (s : HermesSignal) : CalibratedProbability where
  modelProbability := s.modelProbability
  modelVersion := s.modelVersion
  artifactSha256 := s.artifactSha256
  citySlug := s.citySlug
  climateRegion := s.climateRegion
  leadDays := s.leadDays
  weatherFingerprint := s.weatherFingerprint
  bucketKey := s.bucketKey
  forecastSource := s.forecastSource
  calibrationGroupKey := s.calibrationGroupKey
  fallbackLevel := s.fallbackLevel
  distributionType := s.distributionType
  calibrationSampleCount := s.calibrationSampleCount
  trainingCutoff := s.trainingCutoff

/-- The fields that its identifier is made of. -/
def identity (s : HermesSignal) : SignalIdentity where
  producerId := s.producerId
  strategyId := s.strategyId
  strategyVersion := s.strategyVersion
  policyFingerprint := s.policyFingerprint
  venue := s.venue
  eventId := s.eventId
  marketId := s.marketId
  conditionId := s.conditionId
  outcome := s.outcome
  tokenId := s.tokenId
  classification := s.classification
  marketDate := s.marketDate
  calibrationFingerprint := s.calibrationFingerprint
  weatherFingerprint := s.weatherFingerprint
  marketReference := s.marketReference

/-- The checks of `__post_init__` after the texts are stripped, up to the timestamp. -/
def checkContract (s : HermesSignal) : Except Error Unit := do
  raiseIf (s.contract ≠ "hermes.signal") (.valueError "unsupported Hermes signal contract")
  raiseIf (s.schemaVersion ≠ "1") (.valueError "unsupported Hermes signal schema_version")
  raiseIf (s.classification ≠ "accepted")
    (.valueError "HermesSignal v1 only represents accepted producer signals")

/-- The checks of `__post_init__` after the timestamp. -/
def checkProvenance (rt : Runtime) (s : HermesSignal) : Except Error Unit := do
  raiseIf (s.modelProbability ≤ .zero ∨ .one ≤ s.modelProbability)
    (.valueError "model_probability must be between zero and one")
  raiseIf (s.calibrationSampleCount ≤ 0) (.valueError "calibration_sample_count must be positive")
  let calibrated ← CalibratedProbability.new s.calibrated
  raiseIf (s.calibrationFingerprint ≠ calibrated.calibrationFingerprint rt)
    (.valueError "calibration_fingerprint does not match signal provenance")
  raiseIf (s.signalId ≠ makeSignalId rt s.identity)
    (.valueError "signal_id does not match canonical signal identity")

/-- `HermesSignal.__post_init__`. -/
def new (rt : Runtime) (s : HermesSignal) : Except Error HermesSignal := do
  requireNonblank s.texts
  let s := s.stripTexts
  checkContract s
  let generatedAtUtc ← utc s.generatedAtUtc
  let s := { s with generatedAtUtc }
  checkProvenance rt s
  return s

theorem texts_stripTexts (s : HermesSignal) :
    s.stripTexts.texts = s.texts.map fun text => (text.1, strip text.2) := rfl

theorem nonblank_stripTexts {s : HermesSignal} (h : requireNonblank s.texts = .ok ()) :
    requireNonblank s.stripTexts.texts = .ok () := by
  rw [requireNonblank_eq_ok] at h ⊢
  rw [texts_stripTexts, List.forall_mem_map]
  intro text ht
  rw [isBlank_strip]
  exact h text ht

/-- A signal with stripped texts, in UTC, that passes the checks is constructed from its own fields. -/
theorem new_of_stripped {rt : Runtime} {s : HermesSignal} (htexts : ∀ text ∈ s.texts, Stripped text.2)
    (hcontract : checkContract s = .ok ()) (hutc : utc s.generatedAtUtc = .ok s.generatedAtUtc)
    (hprovenance : checkProvenance rt s = .ok ()) : new rt s = .ok s := by
  have hnonblank : requireNonblank s.texts = .ok () := by
    rw [requireNonblank_eq_ok]
    exact fun text htext => (htexts text htext).isBlank
  simp only [new, check_bind_eq_ok, stripTexts_eq_self htexts]
  refine ⟨hnonblank, hcontract, bind_eq_ok.mpr ⟨_, hutc, ?_⟩⟩
  exact check_bind_eq_ok.mpr ⟨hprovenance, rfl⟩

/-- What the constructor returns is stripped, in UTC, and passes its checks. -/
theorem new_eq_ok {rt : Runtime} {raw s : HermesSignal} (h : new rt raw = .ok s) :
    requireNonblank s.texts = .ok () ∧ s.stripTexts = s ∧ checkContract s = .ok () ∧
      utc s.generatedAtUtc = .ok s.generatedAtUtc ∧ checkProvenance rt s = .ok () := by
  simp only [new, check_bind_eq_ok] at h
  obtain ⟨htexts, hcontract, h⟩ := h
  obtain ⟨t, ht, h⟩ := bind_eq_ok.mp h
  obtain ⟨hprovenance, h⟩ := check_bind_eq_ok.mp h
  cases h
  have hstrip : ({ raw.stripTexts with generatedAtUtc := t } : HermesSignal).stripTexts =
      { raw.stripTexts with generatedAtUtc := t } := by
    simp only [stripTexts, strip_strip]
  exact ⟨nonblank_stripTexts htexts, hstrip, hcontract, utc_self ht, hprovenance⟩

theorem marketReference_new {rt : Runtime} {raw s : HermesSignal} (h : new rt raw = .ok s) :
    s.marketReference = raw.marketReference := by
  simp only [new, check_bind_eq_ok] at h
  obtain ⟨-, -, h⟩ := h
  obtain ⟨t, -, h⟩ := bind_eq_ok.mp h
  obtain ⟨-, h⟩ := check_bind_eq_ok.mp h
  cases h
  rfl

/-- **A signal is constructed from its own fields.** -/
theorem new_self {rt : Runtime} {raw s : HermesSignal} (h : new rt raw = .ok s) :
    new rt s = .ok s := by
  obtain ⟨htexts, hstrip, hcontract, hutc, hprovenance⟩ := new_eq_ok h
  simp only [new, check_bind_eq_ok, hstrip]
  refine ⟨htexts, hcontract, bind_eq_ok.mpr ⟨_, hutc, ?_⟩⟩
  exact check_bind_eq_ok.mpr ⟨hprovenance, rfl⟩

/-- A signal as its constructor, and that of its market reference, leave it. -/
structure Constructed (rt : Runtime) (s : HermesSignal) : Prop where
  reference : SignalMarketReference.new s.marketReference = .ok s.marketReference
  signal : new rt s = .ok s

/-- `HermesSignal.to_mapping`. -/
def toMapping (s : HermesSignal) : List (String × Json) :=
  [("contract", .str s.contract), ("schema_version", .str s.schemaVersion),
    ("signal_id", .str s.signalId), ("producer_id", .str s.producerId),
    ("strategy_id", .str s.strategyId), ("strategy_version", .str s.strategyVersion),
    ("policy_fingerprint", .str s.policyFingerprint),
    ("generated_at_utc", .str s.generatedAtUtc.isoformat), ("venue", .str s.venue),
    ("event_id", .str s.eventId), ("market_id", .str s.marketId),
    ("condition_id", .str s.conditionId), ("outcome", .str s.outcome), ("token_id", .str s.tokenId),
    ("question", .str s.question), ("city_slug", .str s.citySlug), ("city_name", .str s.cityName),
    ("climate_region", .str s.climateRegion), ("lead_days", .int s.leadDays),
    ("market_date", .str s.marketDate.isoformat), ("market_timezone", .str s.marketTimezone),
    ("bucket_key", .str s.bucketKey), ("bucket_label", .str s.bucketLabel),
    ("forecast_temperature_f", .str s.forecastTemperatureF.format),
    ("model_probability", .str s.modelProbability.format),
    ("classification", .str s.classification),
    ("market_reference", .obj s.marketReference.toMapping), ("model_version", .str s.modelVersion),
    ("artifact_sha256", .str s.artifactSha256),
    ("calibration_fingerprint", .str s.calibrationFingerprint),
    ("weather_fingerprint", .str s.weatherFingerprint), ("forecast_source", .str s.forecastSource),
    ("calibration_group_key", .str s.calibrationGroupKey), ("fallback_level", .str s.fallbackLevel),
    ("distribution_type", .str s.distributionType),
    ("calibration_sample_count", .int s.calibrationSampleCount),
    ("training_cutoff", .str s.trainingCutoff.isoformat)]

end HermesSignal

end WeatherBot.Producer
