import WeatherBot.Common.ReducedDecimal
import WeatherBot.Pip.Outbox

/-!
# The signal envelope

`pip/core.py`: the event of a signal, and the bytes that are signed for it.

* `canonicalText_eq`: the canonical text of a number is that of its reduced form.
* `wellWritten_canonicalText`: the grammar of canonical texts.
* `SameEconomics.envelope`, `SameEconomics.bytes_ne`: signals that differ only in how their
  numbers are written have one envelope, unless their identifiers depend on it.
* `canonicalDecimal_canonical`: **numbers have one canonical text exactly if they are equal**, and
  which numbers of a signal may be written otherwise.
-/

namespace WeatherBot.Pip

open WeatherBot.Common
open WeatherBot.Domain
open WeatherBot.Producer

/-! ## Canonical decimals -/

/-- `canonical_decimal` of a finite number (`core.py`, 55-62). -/
def canonicalText (value : Decimal) : String :=
  let text := value.formatChars
  let text := if '.' ∈ text then (text.rdropWhile (· = '0')).rdropWhile (· = '.') else text
  let text := if text = ['-', '0'] ∨ text = [] then ['0'] else text
  String.ofList (if text.head? = some '+' then text.tail else text)

/-- `canonical_decimal` (`core.py`, 51-62). -/
def canonicalDecimal (value : PyDecimal) : Except PipError String := do
  raiseIf (value.isFinite = false) (.pipExportError "PIP decimal values must be finite")
  return canonicalText value.fold

/-- **The canonical text of a number is that of its reduced form.** -/
theorem canonicalText_eq (d : Decimal) : canonicalText d = d.reduce.format := by
  have hstrip := Decimal.stripZeros_formatChars d.neg d.coeff d.scale
  unfold Decimal.stripZeros at hstrip
  unfold canonicalText Decimal.reduce
  dsimp only
  rw [hstrip]
  set t := Decimal.trim d.neg d.coeff d.scale with ht
  by_cases h0 : t.coeff = 0
  · -- a zero has no digits after the point
    have hscale : t.scale = 0 := by
      by_contra hne
      exact Decimal.digits_trim _ _ _ hne (by rw [← ht, h0]; exact dvd_zero 10)
    obtain ⟨neg, coeff, scale⟩ := t
    cases h0
    cases hscale
    rw [if_pos rfl]
    cases neg <;> decide
  · have hplus : t.formatChars.head? ≠ some '+' := by
      intro h
      rcases Decimal.mem_formatChars (List.mem_of_mem_head? h) with h | h | h <;> revert h <;> decide
    have hzero : ¬ (t.formatChars = ['-', '0'] ∨ t.formatChars = []) := by
      rintro (h | h)
      · have hminus : t.format = (⟨true, 0, 0⟩ : Decimal).format := by
          rw [Decimal.format, h]
          decide
        rw [Decimal.format_inj hminus] at h0
        exact h0 rfl
      · have hdigits := Nat.toDigits_ne_nil (b := 10) (n := t.coeff / 10 ^ t.scale)
        rw [Decimal.formatChars, List.append_eq_nil_iff, List.append_eq_nil_iff] at h
        exact hdigits h.1.2
    rw [if_neg h0, if_neg hzero, if_neg hplus, Decimal.format]

theorem canonicalText_eq_iff {a b : Decimal} : canonicalText a = canonicalText b ↔ a.value = b.value := by
  rw [canonicalText_eq, canonicalText_eq, ← Decimal.reduce_eq_iff]
  exact ⟨Decimal.format_inj, congrArg Decimal.format⟩

/-- A canonical text: no exponent, no leading plus, no zero at the end of the digits after the
point, no point at the end, and no minus before a single zero. -/
structure WellWritten (text : String) : Prop where
  exponent : 'e' ∉ text.toList ∧ 'E' ∉ text.toList
  plus : text.toList.head? ≠ some '+'
  zeros : '.' ∈ text.toList → text.toList.getLast? ≠ some '0'
  point : text.toList.getLast? ≠ some '.'
  minusZero : text ≠ "-0"

theorem wellWritten_canonicalText (d : Decimal) : WellWritten (canonicalText d) := by
  have hreduced := Decimal.reduced_reduce d
  have hlist : (canonicalText d).toList = d.reduce.formatChars := by
    rw [canonicalText_eq, Decimal.format, String.toList_ofList]
  have hchars : ∀ c ∈ d.reduce.formatChars, c ≠ 'e' ∧ c ≠ 'E' ∧ c ≠ '+' := by
    intro c hc
    refine ⟨?_, ?_, ?_⟩ <;>
      (rintro rfl; rcases Decimal.mem_formatChars hc with h | h | h <;> revert h <;> decide)
  constructor
  · rw [hlist]
    exact ⟨fun h => (hchars _ h).1 rfl, fun h => (hchars _ h).2.1 rfl⟩
  · rw [hlist]
    exact fun h => (hchars _ (List.mem_of_mem_head? h)).2.2 rfl
  · rw [hlist]
    exact fun hpoint h => (Decimal.getLast_formatChars hreduced h).2 hpoint rfl
  · rw [hlist]
    exact fun h => (Decimal.getLast_formatChars hreduced h).1 rfl
  · rw [canonicalText_eq]
    intro h
    have hminus : d.reduce = ⟨true, 0, 0⟩ := Decimal.format_inj (by rw [h]; decide)
    have hsign := hreduced.sign (by rw [hminus])
    rw [hminus] at hsign
    cases hsign

/-! ## Identifiers and timestamps -/

/-- `canonical_timestamp` (`core.py`, 65-68), with the year in four digits. -/
def canonicalTimestamp (value : DateTime) : Except PipError String := do
  let t ← (utc value).mapError .raised
  return String.ofList (t.date.isoChars ++ 'T' :: (padDigits 2 t.hour ++ ':' :: (padDigits 2 t.minute ++
    ':' :: (padDigits 2 t.second ++ '.' :: (padDigits 6 t.microsecond ++ ['Z'])))))

/-- `[a-z0-9]` up to `f`. -/
def isLowerHex (c : Char) : Bool := c.isDigit || ('a' ≤ c && c ≤ 'f')

/-- `_require_sha256`. -/
def requireSha256 (value label : String) : Except PipError String := do
  raiseIf (¬ (value.toList.length = 64 ∧ value.toList.all isLowerHex = true))
    (.pipExportError (label ++ " must be lowercase SHA-256 hex"))
  return value

/-- A letter or a digit, then at most `limit` more or `others`. -/
def isIdentifier (others : List Char) (limit : ℕ) : List Char → Bool
  | [] => false
  | c :: l => c.isAlphanum && l.length ≤ limit && l.all fun c => c.isAlphanum || others.contains c

/-- `_require_identifier`. -/
def requireIdentifier (value label : String) (others : List Char) (limit : ℕ) :
    Except PipError String := do
  raiseIf (isIdentifier others limit value.toList = false)
    (.pipExportError (label ++ " is not a valid PIP identifier"))
  return value

/-- `_IDENTIFIER_RE`. -/
def requirePipIdentifier (value label : String) : Except PipError String :=
  requireIdentifier value label ['.', '_', ':', '/', '@', '+', '-'] 255

/-- `_PRODUCER_RE`. -/
def requireProducer (value label : String) : Except PipError String :=
  requireIdentifier value label ['.', '_', '-'] 127

/-- `make_event_id`. -/
def makeEventId (rt : Runtime) (signal : HermesSignal) : String :=
  "pevt_" ++ rt.sha256 ("signal.created\x00" ++ signal.producerId ++ "\x00" ++ signal.signalId)

/-- `ProducerRelease`. -/
structure ProducerRelease where
  strategyVersion : String
  repository : String
  revision : String
  decisionCodeIdentity : String
  manifestSha256 : String

/-! ## Events -/

/-- `projection` of `_market_reference_evidence` (`core.py`, 136-170). -/
def evidenceProjection (signal : HermesSignal) (observedAt : String) : Json :=
  let reference := signal.marketReference
  .obj [("schema", .str "hermes.executable-market-reference.v1"),
    ("condition_id", .str signal.conditionId), ("token_id", .str signal.tokenId),
    ("observed_at", .str observedAt), ("kind", .str reference.kind),
    ("reference_notional", .str (canonicalText reference.referenceNotional)),
    ("best_bid", .str (canonicalText reference.bestBid)),
    ("best_ask", .str (canonicalText reference.bestAsk)),
    ("average_reference_price", .str (canonicalText reference.averageReferencePrice)),
    ("all_in_reference_price", .str (canonicalText reference.allInReferencePrice)),
    ("worst_reference_price", .str (canonicalText reference.worstReferencePrice)),
    ("probability_edge", .str (canonicalText reference.probabilityEdge)),
    ("expected_return", .str (canonicalText reference.expectedReturn)),
    ("provider_order_book_hash", .str reference.orderBookHash),
    ("quote_fingerprint", .str reference.quoteFingerprint)]

/-- `extension` of `signal_to_event`. -/
def extensionOf (signal : HermesSignal) : Json :=
  let reference := signal.marketReference
  .obj [
    ("source", .obj [("contract", .str signal.contract), ("schema_version", .str signal.schemaVersion),
      ("policy_fingerprint", .str signal.policyFingerprint), ("event_id", .str signal.eventId),
      ("gamma_market_id", .str signal.marketId), ("condition_id", .str signal.conditionId),
      ("token_id", .str signal.tokenId), ("outcome", .str signal.outcome),
      ("question", .str signal.question)]),
    ("location", .obj [("city_slug", .str signal.citySlug), ("city_name", .str signal.cityName),
      ("climate_region", .str signal.climateRegion),
      ("market_date", .str signal.marketDate.isoformat),
      ("market_timezone", .str signal.marketTimezone), ("lead_days", .int signal.leadDays)]),
    ("forecast", .obj [("temperature_f", .str (canonicalText signal.forecastTemperatureF)),
      ("bucket_key", .str signal.bucketKey), ("bucket_label", .str signal.bucketLabel)]),
    ("calibration", .obj [("calibration_fingerprint", .str signal.calibrationFingerprint),
      ("weather_fingerprint", .str signal.weatherFingerprint),
      ("forecast_source", .str signal.forecastSource),
      ("calibration_group_key", .str signal.calibrationGroupKey),
      ("fallback_level", .str signal.fallbackLevel),
      ("distribution_type", .str signal.distributionType),
      ("calibration_sample_count", .int signal.calibrationSampleCount),
      ("training_cutoff", .str signal.trainingCutoff.isoformat)]),
    ("market_reference", .obj [
      ("reference_notional", .str (canonicalText reference.referenceNotional)),
      ("best_bid", .str (canonicalText reference.bestBid)),
      ("best_ask", .str (canonicalText reference.bestAsk)),
      ("average_reference_price", .str (canonicalText reference.averageReferencePrice)),
      ("all_in_reference_price", .str (canonicalText reference.allInReferencePrice)),
      ("worst_reference_price", .str (canonicalText reference.worstReferencePrice)),
      ("expected_return", .str (canonicalText reference.expectedReturn)),
      ("order_book_hash", .str reference.orderBookHash),
      ("quote_fingerprint", .str reference.quoteFingerprint),
      ("evidence_schema", .str "hermes.executable-market-reference.v1")]),
    ("eligibility", .obj [("producer_public_claim", .str "not_asserted"),
      ("producer_paid_claim", .str "not_asserted")])]

/-- A digest of an artifact or of evidence. -/
def sha256Digest (hex : String) : Json := .obj [("algorithm", .str "sha256"), ("hex", .str hex)]

/-- The bounds of the probability and of the price, on the numbers read back from their texts. -/
def checkBounds (probability executablePrice : String) : Except PipError Unit := do
  raiseIf (∃ p ∈ Decimal.ofText probability, p ≤ .zero ∨ .one ≤ p)
    (.pipExportError "Hermes probability is outside SignalEnvelope v1 bounds")
  raiseIf (∃ p ∈ Decimal.ofText executablePrice, p < .zero ∨ .one < p)
    (.pipExportError "market reference value is outside SignalEnvelope v1 bounds")

/-- `signal_to_event` (`core.py`, 173-329). -/
def signalToEvent (rt : Runtime) (signal : HermesSignal) (keyId : String) (release : ProducerRelease) :
    Except PipError Json := do
  raiseIf (release.strategyVersion ≠ signal.strategyVersion)
    (.pipExportError "release manifest does not match Hermes signal strategy_version")
  let producerId ← requireProducer signal.producerId "producer_id"
  let eventId ← requirePipIdentifier (makeEventId rt signal) "event_id"
  let signalId ← requirePipIdentifier signal.signalId "signal_id"
  let keyId ← requirePipIdentifier (strip keyId) "key_id"
  let generatedAt ← canonicalTimestamp signal.generatedAtUtc
  let observedAt ← canonicalTimestamp signal.marketReference.observedAtUtc
  raiseIf (signal.generatedAtUtc.instant < signal.marketReference.observedAtUtc.instant)
    (.pipExportError "market reference cannot post-date signal generation")
  let modelDigest ← requireSha256 signal.artifactSha256 "model artifact digest"
  let policyDigest ← requireSha256 signal.policyFingerprint "producer policy digest"
  let referenceDigest := rt.sha256 (evidenceProjection signal observedAt).dumps
  let probability := canonicalText signal.modelProbability
  let executablePrice := canonicalText signal.marketReference.allInReferencePrice
  checkBounds probability executablePrice
  let strategyId ← requirePipIdentifier signal.strategyId "strategy_id"
  let venue ← requirePipIdentifier signal.venue "venue"
  let marketId ← requirePipIdentifier signal.conditionId "market_id"
  let outcomeId ← requirePipIdentifier signal.tokenId "outcome_id"
  return .obj [("contract", .str "pip.signal-envelope"), ("schema_version", .str "1"),
    ("event_type", .str "signal.created"), ("event_id", .str eventId), ("signal_id", .str signalId),
    ("strategy", .obj [("producer_id", .str producerId), ("strategy_id", .str strategyId),
      ("strategy_version", .str signal.strategyVersion)]),
    ("generated_at", .str generatedAt),
    ("market", .obj [("venue", .str venue), ("market_id", .str marketId),
      ("outcome_id", .str outcomeId)]),
    ("forecast", .obj [("probability", .str probability)]),
    ("market_references", .obj [("decision_book", .obj [("kind", .str "executable"),
      ("observed_at", .str observedAt), ("value", .str executablePrice),
      ("evidence_ref", .str "decision_book")])]),
    ("decision", .obj [("classification", .str signal.classification),
      ("edge", .str (canonicalText signal.marketReference.probabilityEdge))]),
    ("artifacts", .obj [
      ("model", .obj [("kind", .str "model"), ("id", .str "hermes_weatherbot.calibration_model"),
        ("version", .str signal.modelVersion), ("digest", sha256Digest modelDigest)]),
      ("producer_policy", .obj [("kind", .str "configuration"),
        ("id", .str "hermes_weatherbot.producer_policy"), ("version", .str signal.strategyVersion),
        ("digest", sha256Digest policyDigest)]),
      ("producer_release", .obj [("kind", .str "code"),
        ("id", .str "hermes_weatherbot.producer_release"), ("revision", .str release.revision),
        ("digest", sha256Digest release.manifestSha256),
        ("reference", .str ("github://" ++ release.repository ++ "@" ++ release.revision))])]),
    ("evidence", .obj [("mode", .str "live"),
      ("references", .obj [("decision_book", .obj [
        ("type", .str "hermes.executable_market_reference.v1"),
        ("digest", sha256Digest referenceDigest), ("observed_at", .str observedAt)])])]),
    ("extensions", .obj [(producerId ++ ":weather:v1", extensionOf signal)]),
    ("authentication", .obj [("key_id", .str keyId), ("algorithm", .str "ed25519"),
      ("encoding", .str "base64url")])]

/-! ## Signing -/

/-- What the export takes from other packages. -/
structure EnvelopeLibrary where
  /-- `rfc8785.dumps`; an error is the text of its exception. -/
  rfc8785 : Json → Except String (List UInt8)
  /-- `base64.urlsafe_b64encode` without padding. -/
  base64Url : List UInt8 → String
  /-- `hashlib.sha256` of bytes, in hexadecimal. -/
  sha256Bytes : List UInt8 → String

/-- `canonical_event_bytes`. -/
def canonicalEventBytes (lib : EnvelopeLibrary) (event : Json) : Except PipError (List UInt8) :=
  (lib.rfc8785 event).mapError fun exc =>
    .pipExportError ("RFC 8785 canonicalization failed: " ++ exc)

/-- `freeze_signal_envelope` with the signing operation of a private key (`core.py`, 380-414). -/
def freezeSignalEnvelope (rt : Runtime) (lib : EnvelopeLibrary) (signal : HermesSignal) (keyId : String)
    (sign : List UInt8 → List UInt8) (release : ProducerRelease) : Except PipError FrozenEnvelope := do
  let event ← signalToEvent rt signal keyId release
  let canonical ← canonicalEventBytes lib event
  let signature := sign canonical
  raiseIf (signature.length ≠ 64) (.pipExportError "PIP signer returned an invalid Ed25519 signature")
  let envelope : Json := .obj [("event", event), ("signature", .str (lib.base64Url signature))]
  let generated ← (utc signal.generatedAtUtc).mapError .raised
  return {
    producerId := signal.producerId
    eventId := makeEventId rt signal
    signalId := signal.signalId
    generatedAt := generated.instant
    keyId
    eventSha256 := lib.sha256Bytes canonical
    canonicalEventBytes := canonical
    envelopeBytes := encodeUtf8 envelope.dumps.toList }

/-- The bytes of an event with its signature. -/
def signedBytes (lib : EnvelopeLibrary) (event : Json) (signature : List UInt8) : List UInt8 :=
  encodeUtf8 (Json.obj [("event", event),
    ("signature", .str (lib.base64Url signature))]).dumps.toList

/-- What `freeze_signal_envelope` puts together. -/
theorem freezeSignalEnvelope_eq_ok {rt : Runtime} {lib : EnvelopeLibrary} {s : HermesSignal}
    {keyId : String} {sign : List UInt8 → List UInt8} {release : ProducerRelease} {f : FrozenEnvelope}
    (h : freezeSignalEnvelope rt lib s keyId sign release = .ok f) :
    ∃ event canonical generated, signalToEvent rt s keyId release = .ok event ∧
      canonicalEventBytes lib event = .ok canonical ∧
      f = ⟨s.producerId, makeEventId rt s, s.signalId, generated, keyId, lib.sha256Bytes canonical,
        canonical, signedBytes lib event (sign canonical)⟩ := by
  unfold freezeSignalEnvelope at h
  obtain ⟨event, hevent, h⟩ := bind_eq_ok.mp h
  obtain ⟨canonical, hcanonical, h⟩ := bind_eq_ok.mp h
  obtain ⟨-, h⟩ := raiseIf_bind_eq_ok.mp h
  obtain ⟨generated, -, h⟩ := bind_eq_ok.mp h
  exact ⟨event, canonical, generated.instant, hevent, hcanonical, (Except.ok.inj h).symm⟩

/-! ## One envelope for one signal -/

/-- References that differ only in how their numbers are written. -/
structure SameReference (r r' : SignalMarketReference) : Prop where
  kind : r.kind = r'.kind
  orderBookHash : r.orderBookHash = r'.orderBookHash
  observedAtUtc : r.observedAtUtc = r'.observedAtUtc
  quoteFingerprint : r.quoteFingerprint = r'.quoteFingerprint
  referenceNotional : r.referenceNotional.value = r'.referenceNotional.value
  bestBid : r.bestBid.value = r'.bestBid.value
  bestAsk : r.bestAsk.value = r'.bestAsk.value
  averageReferencePrice : r.averageReferencePrice.value = r'.averageReferencePrice.value
  allInReferencePrice : r.allInReferencePrice.value = r'.allInReferencePrice.value
  worstReferencePrice : r.worstReferencePrice.value = r'.worstReferencePrice.value
  probabilityEdge : r.probabilityEdge.value = r'.probabilityEdge.value
  expectedReturn : r.expectedReturn.value = r'.expectedReturn.value

/-- Signals that differ only in how their numbers are written, and in the identifiers that are
hashes of these texts. -/
structure SameEconomics (s s' : HermesSignal) : Prop where
  forecast : s.forecastTemperatureF.value = s'.forecastTemperatureF.value
  probability : s.modelProbability.value = s'.modelProbability.value
  reference : SameReference s.marketReference s'.marketReference
  rest : s' = { s with
    signalId := s'.signalId
    forecastTemperatureF := s'.forecastTemperatureF
    modelProbability := s'.modelProbability
    marketReference := s'.marketReference
    calibrationFingerprint := s'.calibrationFingerprint }

/-- The numbers that are hashed into the identifiers of the signals have the same texts. -/
structure SameDigits (s s' : HermesSignal) : Prop where
  probability : s.modelProbability.format = s'.modelProbability.format
  reference : s.marketReference.identityMapping = s'.marketReference.identityMapping

/-- The two documents are no collision of SHA-256. -/
def NoCollision (rt : Runtime) (v v' : Json) : Prop :=
  rt.sha256Json v = rt.sha256Json v' → v.sortKeys = v'.sortKeys

/-- `rfc8785` determines a document, up to the order of its keys. -/
def EnvelopeLibrary.Faithful (lib : EnvelopeLibrary) : Prop :=
  ∀ (v v' : Json) (bytes : List UInt8), v.Plain → v'.Plain → lib.rfc8785 v = .ok bytes →
    lib.rfc8785 v' = .ok bytes → v.sortKeys = v'.sortKeys

theorem SameReference.projection {s s' : HermesSignal} (h : SameReference s.marketReference s'.marketReference)
    (hcondition : s.conditionId = s'.conditionId) (htoken : s.tokenId = s'.tokenId) (observedAt : String) :
    evidenceProjection s observedAt = evidenceProjection s' observedAt := by
  unfold evidenceProjection
  dsimp only
  rw [hcondition, htoken, h.kind, h.orderBookHash, h.quoteFingerprint,
    canonicalText_eq_iff.mpr h.referenceNotional, canonicalText_eq_iff.mpr h.bestBid,
    canonicalText_eq_iff.mpr h.bestAsk, canonicalText_eq_iff.mpr h.averageReferencePrice,
    canonicalText_eq_iff.mpr h.allInReferencePrice, canonicalText_eq_iff.mpr h.worstReferencePrice,
    canonicalText_eq_iff.mpr h.probabilityEdge, canonicalText_eq_iff.mpr h.expectedReturn]

section SameEconomics

variable {s s' : HermesSignal}

/-- With the same identifiers, only the numbers are left. -/
theorem SameEconomics.rest_of (h : SameEconomics s s') (hid : s.signalId = s'.signalId)
    (hcalibration : s.calibrationFingerprint = s'.calibrationFingerprint) :
    s' = { s with
      forecastTemperatureF := s'.forecastTemperatureF
      modelProbability := s'.modelProbability
      marketReference := s'.marketReference } := by
  have hrest := h.rest
  rw [← hid, ← hcalibration] at hrest
  exact hrest

theorem SameEconomics.extension (h : SameEconomics s s')
    (hcalibration : s.calibrationFingerprint = s'.calibrationFingerprint) :
    extensionOf s = extensionOf s' := by
  have hr := h.reference
  rw [h.rest]
  unfold extensionOf
  dsimp only
  rw [hr.orderBookHash, hr.quoteFingerprint, canonicalText_eq_iff.mpr h.forecast,
    canonicalText_eq_iff.mpr hr.referenceNotional, canonicalText_eq_iff.mpr hr.bestBid,
    canonicalText_eq_iff.mpr hr.bestAsk, canonicalText_eq_iff.mpr hr.averageReferencePrice,
    canonicalText_eq_iff.mpr hr.allInReferencePrice, canonicalText_eq_iff.mpr hr.worstReferencePrice,
    canonicalText_eq_iff.mpr hr.expectedReturn, hcalibration]

/-- **The event of a signal depends on how its numbers are written only through its identifiers.** -/
theorem SameEconomics.event (h : SameEconomics s s') (hid : s.signalId = s'.signalId)
    (hcalibration : s.calibrationFingerprint = s'.calibrationFingerprint) (rt : Runtime) (keyId : String)
    (release : ProducerRelease) : signalToEvent rt s keyId release = signalToEvent rt s' keyId release := by
  have hrest := h.rest_of hid hcalibration
  have hproj : ∀ o, evidenceProjection s' o = evidenceProjection s o := fun o =>
    (h.reference.projection (by rw [hrest]) (by rw [hrest]) o).symm
  have hext := h.extension hcalibration
  have hevent : makeEventId rt s' = makeEventId rt s := by
    unfold makeEventId
    rw [hrest]
  have hobserved := h.reference.observedAtUtc
  have hprobability := canonicalText_eq_iff.mpr h.probability
  have hprice := canonicalText_eq_iff.mpr h.reference.allInReferencePrice
  have hedge := canonicalText_eq_iff.mpr h.reference.probabilityEdge
  unfold signalToEvent
  rw [hevent, hobserved, hprobability, hprice, hedge, hext, hrest]
  rw [hrest] at hproj
  simp only [hproj]

/-- **Equal economics under the same identifiers are signed in the same bytes.** -/
theorem SameEconomics.envelope (h : SameEconomics s s') (hid : s.signalId = s'.signalId)
    (hcalibration : s.calibrationFingerprint = s'.calibrationFingerprint) (rt : Runtime)
    (lib : EnvelopeLibrary) (keyId : String) (sign : List UInt8 → List UInt8) (release : ProducerRelease) :
    freezeSignalEnvelope rt lib s keyId sign release = freezeSignalEnvelope rt lib s' keyId sign release := by
  have hrest := h.rest_of hid hcalibration
  have hevent : makeEventId rt s' = makeEventId rt s := by
    unfold makeEventId
    rw [hrest]
  unfold freezeSignalEnvelope
  rw [h.event hid hcalibration rt keyId release, ← hevent, hrest]

/-! ### The identifiers -/

/-- The identifiers of a constructed signal are hashes of its fields. -/
theorem identifiers_of_constructed {rt : Runtime} (h : s.Constructed rt) :
    s.calibrationFingerprint = rt.sha256Json s.calibrated.auditMetadata ∧
      s.signalId = "hsig_" ++ rt.sha256Json s.identity.payload := by
  obtain ⟨-, -, -, -, hprovenance⟩ := HermesSignal.new_eq_ok h.signal
  unfold HermesSignal.checkProvenance at hprovenance
  obtain ⟨-, hprovenance⟩ := raiseIf_bind_eq_ok.mp hprovenance
  obtain ⟨-, hprovenance⟩ := raiseIf_bind_eq_ok.mp hprovenance
  obtain ⟨c, hc, hprovenance⟩ := bind_eq_ok.mp hprovenance
  obtain ⟨-, rfl⟩ := CalibratedProbability.new_eq_ok.mp hc
  obtain ⟨hfingerprint, hid⟩ := raiseIf_bind_eq_ok.mp hprovenance
  exact ⟨not_not.mp hfingerprint, not_not.mp (raiseIf_eq_ok.mp hid)⟩

/-- The same digits have the same identifiers. -/
theorem SameEconomics.identifiers {rt : Runtime} (h : SameEconomics s s') (hs : s.Constructed rt)
    (hs' : s'.Constructed rt) (hdigits : SameDigits s s') :
    s.signalId = s'.signalId ∧ s.calibrationFingerprint = s'.calibrationFingerprint := by
  obtain ⟨hcalibration, hid⟩ := identifiers_of_constructed hs
  obtain ⟨hcalibration', hid'⟩ := identifiers_of_constructed hs'
  have haudit : s.calibrated.auditMetadata = s'.calibrated.auditMetadata := by
    rw [h.rest]
    unfold CalibratedProbability.auditMetadata HermesSignal.calibrated
    dsimp only
    rw [hdigits.probability]
  have hsame : s.calibrationFingerprint = s'.calibrationFingerprint := by
    rw [hcalibration, hcalibration', haudit]
  have hpayload : s.identity.payload = s'.identity.payload := by
    rw [h.rest]
    unfold SignalIdentity.payload HermesSignal.identity
    dsimp only
    rw [hdigits.reference, hsame]
  exact ⟨by rw [hid, hid', hpayload], hsame⟩

theorem sortKeys_identityMapping {r r' : SignalMarketReference}
    (h : (Json.obj r.identityMapping).sortKeys = (Json.obj r'.identityMapping).sortKeys) :
    r.identityMapping = r'.identityMapping := by
  have hnodup : (r.identityMapping.map Prod.fst).Nodup := by simp [SignalMarketReference.identityMapping]
  -- every member is a text
  exact Json.sortValues_of_sortKeys_eq h rfl hnodup

/-- What one payload says about two identities. -/
theorem sortKeys_payload {i i' : SignalIdentity} (h : i.payload.sortKeys = i'.payload.sortKeys) :
    i.calibrationFingerprint = i'.calibrationFingerprint ∧
      i.marketReference.identityMapping = i'.marketReference.identityMapping := by
  unfold SignalIdentity.payload at h
  have hcalibration := Json.member_of_sortKeys_eq h (by simp)
    (v := .str i.calibrationFingerprint) (w := .str i'.calibrationFingerprint)
    (k := "calibration_fingerprint") (by simp) (by simp)
  have hreference := Json.member_of_sortKeys_eq h (by simp)
    (v := .obj i.marketReference.identityMapping) (w := .obj i'.marketReference.identityMapping)
    (k := "market_reference") (by simp) (by simp)
  exact ⟨Json.str.inj hcalibration, sortKeys_identityMapping hreference⟩

theorem sortKeys_auditMetadata {c c' : CalibratedProbability}
    (h : c.auditMetadata.sortKeys = c'.auditMetadata.sortKeys) :
    c.modelProbability.format = c'.modelProbability.format := by
  unfold CalibratedProbability.auditMetadata at h
  have hprobability := Json.member_of_sortKeys_eq h (by simp)
    (v := .str c.modelProbability.format) (w := .str c'.modelProbability.format)
    (k := "model_probability") (by simp) (by simp)
  exact Json.str.inj hprobability

/-- **Other digits have another identifier**, unless SHA-256 collides on them. -/
theorem signalId_ne {rt : Runtime} (hs : s.Constructed rt) (hs' : s'.Constructed rt)
    (hdigits : ¬ SameDigits s s')
    (haudit : NoCollision rt s.calibrated.auditMetadata s'.calibrated.auditMetadata)
    (hpayload : NoCollision rt s.identity.payload s'.identity.payload) : s.signalId ≠ s'.signalId := by
  obtain ⟨hcalibration, hid⟩ := identifiers_of_constructed hs
  obtain ⟨hcalibration', hid'⟩ := identifiers_of_constructed hs'
  intro heq
  rw [hid, hid', String.append_right_inj] at heq
  obtain ⟨hsame, hreference⟩ := sortKeys_payload (hpayload heq)
  have hfingerprint : s.calibrationFingerprint = s'.calibrationFingerprint := hsame
  rw [hcalibration, hcalibration'] at hfingerprint
  exact hdigits ⟨sortKeys_auditMetadata (haudit hfingerprint), hreference⟩

/-! ### The signed bytes -/

theorem requireIdentifier_ok {value label identifier : String} {others : List Char} {limit : ℕ}
    (h : requireIdentifier value label others limit = .ok identifier) : identifier = value := by
  obtain ⟨-, h⟩ := raiseIf_bind_eq_ok.mp h
  cases h
  rfl

/-- An event is plain JSON, with the identifier of its signal. -/
theorem signalToEvent_ok {rt : Runtime} {keyId : String} {release : ProducerRelease} {event : Json}
    (h : signalToEvent rt s keyId release = .ok event) : event.Plain ∧
      ∃ members, event = .obj members ∧ ("signal_id", .str s.signalId) ∈ members := by
  unfold signalToEvent at h
  obtain ⟨-, h⟩ := raiseIf_bind_eq_ok.mp h
  obtain ⟨producerId, -, h⟩ := bind_eq_ok.mp h
  obtain ⟨eventId, -, h⟩ := bind_eq_ok.mp h
  obtain ⟨signalId, hid, h⟩ := bind_eq_ok.mp h
  obtain rfl := requireIdentifier_ok hid
  obtain ⟨keyId, -, h⟩ := bind_eq_ok.mp h
  obtain ⟨generatedAt, -, h⟩ := bind_eq_ok.mp h
  obtain ⟨observedAt, -, h⟩ := bind_eq_ok.mp h
  obtain ⟨-, h⟩ := raiseIf_bind_eq_ok.mp h
  obtain ⟨modelDigest, -, h⟩ := bind_eq_ok.mp h
  obtain ⟨policyDigest, -, h⟩ := bind_eq_ok.mp h
  obtain ⟨-, h⟩ := check_bind_eq_ok.mp h
  obtain ⟨strategyId, -, h⟩ := bind_eq_ok.mp h
  obtain ⟨venue, -, h⟩ := bind_eq_ok.mp h
  obtain ⟨marketId, -, h⟩ := bind_eq_ok.mp h
  obtain ⟨outcomeId, -, h⟩ := bind_eq_ok.mp h
  cases h
  constructor
  · simp [Json.Plain, Json.PlainValues, extensionOf, sha256Digest]
  · exact ⟨_, rfl, by simp⟩

/-- **Signals with other identifiers are signed in other bytes.** -/
theorem bytes_ne {rt : Runtime} {lib : EnvelopeLibrary} (hlib : lib.Faithful)
    (hid : s.signalId ≠ s'.signalId) {keyId : String} {sign : List UInt8 → List UInt8}
    {release : ProducerRelease} {f f' : FrozenEnvelope}
    (h : freezeSignalEnvelope rt lib s keyId sign release = .ok f)
    (h' : freezeSignalEnvelope rt lib s' keyId sign release = .ok f') :
    f.canonicalEventBytes ≠ f'.canonicalEventBytes := by
  obtain ⟨event, bytes, -, hevent, hbytes, rfl⟩ := freezeSignalEnvelope_eq_ok h
  obtain ⟨event', bytes', -, hevent', hbytes', rfl⟩ := freezeSignalEnvelope_eq_ok h'
  obtain ⟨hplain, members, rfl, hmember⟩ := signalToEvent_ok hevent
  obtain ⟨hplain', members', rfl, hmember'⟩ := signalToEvent_ok hevent'
  intro heq
  obtain rfl : bytes = bytes' := heq
  have hsorted := hlib _ _ _ hplain hplain' (mapError_eq_ok.mp hbytes) (mapError_eq_ok.mp hbytes')
  have hnodup : (members'.map Prod.fst).Nodup := by
    rw [Json.Plain] at hplain'
    exact hplain'.1
  exact hid (Json.str.inj (Json.member_of_sortKeys_eq hsorted hnodup hmember hmember'))

end SameEconomics

/-- **Canonical decimals.** Two finite numbers, of any sign, coefficient and exponent, have one
canonical text iff they are equal; the text is read back as an equal number and is well written.
Signals that differ only in how their numbers are written are frozen in the same bytes if the numbers
that their identifiers are hashes of have the same digits, and else in other bytes, unless SHA-256
collides on these. -/
theorem canonicalDecimal_canonical :
    (∀ (neg neg' : Bool) (coeff coeff' : ℕ) (exponent exponent' : ℤ),
      canonicalDecimal (.finite neg coeff exponent) = canonicalDecimal (.finite neg' coeff' exponent') ↔
        (PyDecimal.finite neg coeff exponent).value = (PyDecimal.finite neg' coeff' exponent').value) ∧
    (∀ (neg : Bool) (coeff : ℕ) (exponent : ℤ), ∃ text d,
      canonicalDecimal (.finite neg coeff exponent) = .ok text ∧ PyDecimal.ofText text = some d ∧
        d.isFinite = true ∧ d.value = (PyDecimal.finite neg coeff exponent).value ∧ WellWritten text) ∧
    ∀ (rt : Runtime) (s s' : HermesSignal), s.Constructed rt → s'.Constructed rt → SameEconomics s s' →
      (SameDigits s s' → ∀ lib keyId sign release,
        freezeSignalEnvelope rt lib s keyId sign release =
          freezeSignalEnvelope rt lib s' keyId sign release) ∧
      (¬ SameDigits s s' → NoCollision rt s.calibrated.auditMetadata s'.calibrated.auditMetadata →
        NoCollision rt s.identity.payload s'.identity.payload →
        s.signalId ≠ s'.signalId ∧
        ∀ (lib : EnvelopeLibrary) keyId sign release f f', lib.Faithful →
          freezeSignalEnvelope rt lib s keyId sign release = .ok f →
          freezeSignalEnvelope rt lib s' keyId sign release = .ok f' →
          f.canonicalEventBytes ≠ f'.canonicalEventBytes) := by
  have hcanonical : ∀ (neg : Bool) (coeff : ℕ) (exponent : ℤ),
      canonicalDecimal (.finite neg coeff exponent) = .ok (canonicalText (.ofExponent neg coeff exponent)) :=
    fun _ _ _ => rfl
  have hvalue : ∀ (neg : Bool) (coeff : ℕ) (exponent : ℤ),
      (Decimal.ofExponent neg coeff exponent).value = (PyDecimal.finite neg coeff exponent).value :=
    fun neg coeff exponent => Decimal.value_ofExponent neg coeff exponent
  refine ⟨?_, ?_, fun rt s s' hs hs' hsame => ⟨fun hdigits => ?_, fun hdigits haudit hpayload => ?_⟩⟩
  · intro neg neg' coeff coeff' exponent exponent'
    rw [hcanonical, hcanonical, Except.ok.injEq, canonicalText_eq_iff, hvalue, hvalue]
  · intro neg coeff exponent
    set d := Decimal.ofExponent neg coeff exponent with hd
    refine ⟨canonicalText d, d.reduce.toPy, hcanonical _ _ _, ?_, rfl, ?_, wellWritten_canonicalText d⟩
    · rw [canonicalText_eq]
      exact PyDecimal.ofText_format _
    · have hfold := PyDecimal.value_fold (d := d.reduce.toPy) rfl
      rw [PyDecimal.fold_toPy] at hfold
      rw [← hfold, Decimal.value_reduce, hd, hvalue]
  · obtain ⟨hid, hcalibration⟩ := hsame.identifiers hs hs' hdigits
    exact fun lib keyId sign release => hsame.envelope hid hcalibration rt lib keyId sign release
  · have hid := signalId_ne hs hs' hdigits haudit hpayload
    exact ⟨hid, fun lib keyId sign release f f' hlib h h' => bytes_ne hlib hid h h'⟩

namespace Sample

/-- Signatures of zero bytes. -/
def envelopeLibrary : EnvelopeLibrary where
  rfc8785 event := .ok (encodeUtf8 event.dumps.toList)
  base64Url raw := String.ofList (List.replicate ((raw.length * 4 + 2) / 3) 'A')
  sha256Bytes _ := identityDigest

def producerRelease : ProducerRelease where
  strategyVersion := "v1"
  repository := "carabinshely/hermes_weatherbot"
  revision := "cccccccccccccccccccccccccccccccccccccccc"
  decisionCodeIdentity := "d1"
  manifestSha256 := identityDigest

/-- The identity of the sample with its best bid of 0.40 written `0.4`. -/
def bidDigest : String := "9c161ed9fd4ee94baf0700de67c0ac31120d3d62e6fb0defe38a65ae74e758ea"

/-- The text of the best bid in an identity. -/
def bestBidText (payload : List (String × Json)) : Option String :=
  match payload.find? fun m => m.1 = "market_reference" with
  | some (_, .obj members) =>
    match members.find? fun m => m.1 = "best_bid" with
    | some (_, .str text) => some text
    | _ => none
  | _ => none

/-- A runtime that hashes the documents of the two signals. -/
def bidHashes : Runtime :=
  { Runtime.utc with
    sha256 := fun s =>
      match s.toList.getLast? with
      | some '}' => "d398e8ce51a6ca9e7b08b8d3c81f61195a50f75a7db6e9900a33ebcc8de7f3bb"
      | some 'c' => "aeaae7daf17c739d6ac31bbe4ed8e03db2bf849eadba3e13c441d2c5808135b3"
      | _ => "3e5bc8ffbba305e88f890813b6491112eaad8cc2af50ea59f9dba856d91b0594"
    sha256Json := fun
      | .obj members =>
        if members.length = 14 then calibrationDigest
        else if bestBidText members = some "0.4" then bidDigest else identityDigest
      | _ => "" }

/-- The sample's signal with its numbers written otherwise. -/
def written (signalId : String) (forecast bestBid : Decimal) : HermesSignal :=
  { hermesSignal with
    signalId
    forecastTemperatureF := forecast
    marketReference := { reference with bestBid } }

/-- The sample's signal with its forecast of 40.5 written `40.50`. -/
def rewritten : HermesSignal := written ("hsig_" ++ identityDigest) ⟨false, 4050, 2⟩ ⟨false, 40, 2⟩

/-- The sample's signal with its best bid of 0.40 written `0.4`. -/
def rebid : HermesSignal := written ("hsig_" ++ bidDigest) ⟨false, 405, 1⟩ ⟨false, 4, 1⟩

theorem faithful_envelopeLibrary : envelopeLibrary.Faithful := by
  intro v v' bytes hplain hplain' h h'
  have hdumps : v.dumps = v'.dumps :=
    String.toList_inj.mp (encodeUtf8_inj ((Except.ok.inj h).trans (Except.ok.inj h').symm))
  have hloads := Json.loadsWith_dumps Json.keeps_lastValues hplain
  rw [hdumps, Json.loadsWith_dumps Json.keeps_lastValues hplain'] at hloads
  exact (Option.some.inj hloads).symm

/-- Such a signal is constructed if what is written otherwise passes. -/
theorem constructed_written {signalId : String} {forecast bestBid : Decimal}
    (hsignalId : Stripped signalId)
    (hprices : SignalMarketReference.checkPrices { reference with bestBid } = .ok ())
    (hprovenance : (written signalId forecast bestBid).checkProvenance bidHashes = .ok ()) :
    (written signalId forecast bestBid).Constructed bidHashes := by
  have hreference : SignalMarketReference.new { reference with bestBid } =
      .ok { reference with bestBid } :=
    SignalMarketReference.new_of_stripped rfl stripped_reference.1 stripped_reference.2 utc_reference hprices
  obtain ⟨-, -, hcontract, hutc, -⟩ := HermesSignal.new_eq_ok hermesSignal_new
  have htexts : ∀ text ∈ (written signalId forecast bestBid).texts, Stripped text.2 := by
    intro text htext
    rcases List.mem_cons.mp htext with rfl | htext
    · exact hsignalId
    · exact stripped_texts text (List.mem_cons_of_mem _ htext)
  exact ⟨hreference, HermesSignal.new_of_stripped htexts hcontract hutc hprovenance⟩

theorem constructed_forecast (forecast : Decimal) :
    (written ("hsig_" ++ identityDigest) forecast ⟨false, 40, 2⟩).Constructed bidHashes := by
  have hprovenance : hermesSignal.checkProvenance bidHashes = .ok () := by decide
  have hsignalId := stripped_texts ("signal_id", "hsig_" ++ identityDigest) (List.mem_cons_self ..)
  exact constructed_written hsignalId (by decide) hprovenance

theorem constructed_hermesSignal : hermesSignal.Constructed bidHashes :=
  constructed_forecast ⟨false, 405, 1⟩

theorem stripped_rebid : Stripped ("hsig_" ++ bidDigest) := by
  simp only [bidDigest, String.reduceAppend]
  exact stripped_ofList (by decide) (by decide)

theorem constructed_rebid : rebid.Constructed bidHashes :=
  constructed_written stripped_rebid (by decide) (by decide)

theorem value_bids : (⟨false, 40, 2⟩ : Decimal).value = (⟨false, 4, 1⟩ : Decimal).value := by
  norm_num [Decimal.value, Decimal.signed]

theorem value_forecasts : (⟨false, 405, 1⟩ : Decimal).value = (⟨false, 4050, 2⟩ : Decimal).value := by
  norm_num [Decimal.value, Decimal.signed]

theorem sameEconomics_rebid : SameEconomics hermesSignal rebid where
  forecast := rfl
  probability := rfl
  reference := ⟨rfl, rfl, rfl, rfl, rfl, value_bids, rfl, rfl, rfl, rfl, rfl, rfl⟩
  rest := rfl

theorem signalId_rebid : hermesSignal.signalId ≠ rebid.signalId := by decide

theorem not_sameDigits_rebid : ¬ SameDigits hermesSignal rebid := by
  rintro ⟨-, hreference⟩
  have hbid := congrArg (fun members => bestBidText [("market_reference", .obj members)]) hreference
  revert hbid
  decide

theorem noCollision_rebid :
    NoCollision bidHashes hermesSignal.identity.payload rebid.identity.payload := by
  have hne : bidHashes.sha256Json hermesSignal.identity.payload ≠
      bidHashes.sha256Json rebid.identity.payload := by decide
  exact fun h => absurd h hne

/-- The keys of the sample's exporter. -/
def frozen (signal : HermesSignal) : Except PipError FrozenEnvelope :=
  freezeSignalEnvelope bidHashes envelopeLibrary signal "k1" (fun _ => List.replicate 64 0) producerRelease

end Sample

/-- **A best bid of 0.40 and one of 0.4 are signed in different bytes**: the identifier of a signal is
a hash of the text of the number, which keeps its zeros. -/
theorem signed_bytes_of_bids :
    Sample.hermesSignal.Constructed Sample.bidHashes ∧ Sample.rebid.Constructed Sample.bidHashes ∧
      SameEconomics Sample.hermesSignal Sample.rebid ∧
      ∃ f f', Sample.frozen Sample.hermesSignal = .ok f ∧ Sample.frozen Sample.rebid = .ok f' ∧
        f.canonicalEventBytes ≠ f'.canonicalEventBytes := by
  obtain ⟨f, hf⟩ : ∃ f, Sample.frozen Sample.hermesSignal = .ok f :=
    exists_of_isOk (by decide +kernel)
  obtain ⟨f', hf'⟩ : ∃ f, Sample.frozen Sample.rebid = .ok f := exists_of_isOk (by decide +kernel)
  exact ⟨Sample.constructed_hermesSignal, Sample.constructed_rebid, Sample.sameEconomics_rebid, f, f', hf,
    hf', bytes_ne Sample.faithful_envelopeLibrary Sample.signalId_rebid hf hf'⟩

/-- `-0.00` and `0E+3` have one text; two writings of a forecast have one envelope, two writings of a
best bid have two identifiers. -/
theorem canonicalDecimal_canonical_sample :
    canonicalDecimal (.finite true 0 (-2)) = canonicalDecimal (.finite false 0 3) ∧
      Sample.frozen Sample.hermesSignal = Sample.frozen Sample.rewritten ∧
      Sample.hermesSignal.signalId ≠ Sample.rebid.signalId := by
  have hsame : SameEconomics Sample.hermesSignal Sample.rewritten :=
    ⟨Sample.value_forecasts, rfl, ⟨rfl, rfl, rfl, rfl, rfl, rfl, rfl, rfl, rfl, rfl, rfl, rfl⟩, rfl⟩
  obtain ⟨hiff, -, henvelope⟩ := canonicalDecimal_canonical
  refine ⟨(hiff _ _ _ _ _ _).mpr (by norm_num [PyDecimal.value]), ?_, ?_⟩
  · exact (henvelope _ _ _ Sample.constructed_hermesSignal (Sample.constructed_forecast _) hsame).1
      ⟨rfl, rfl⟩ _ _ _ _
  · exact ((henvelope _ _ _ Sample.constructed_hermesSignal Sample.constructed_rebid
      Sample.sameEconomics_rebid).2 Sample.not_sameDigits_rebid (fun _ => rfl)
        Sample.noCollision_rebid).1

end WeatherBot.Pip
