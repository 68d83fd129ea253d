import WeatherBot.Domain.Model

/-!
# Resolution and weather evidence

`MarketResolutionEvidence` (`domain/resolution.py`) and
`WeatherObservationEvidence` (`domain/observation.py`). Their constructors
normalize what they are given, so an evidence record is constructed from its own
fields (`new_self` below).
-/

namespace WeatherBot.Domain

open WeatherBot.Common

/-! ## Checked texts -/

/-- A character of `[0-9a-f]`. -/
def isLowerHex (c : Char) : Bool := ('0' ≤ c && c ≤ '9') || ('a' ≤ c && c ≤ 'f')

/-- `_SHA256.fullmatch`. -/
def isSha256 (s : String) : Bool := s.toList.length = 64 && s.toList.all isLowerHex

/-- `_CONDITION_ID.fullmatch`. -/
def isConditionId (s : String) : Bool :=
  match s.toList with
  | '0' :: 'x' :: l => l.length = 64 && l.all isLowerHex
  | _ => false

/-- `_require_url`. -/
def requireUrl (rt : Runtime) (value label : String) : Except Error String := do
  let normalized ← requireText value label
  raiseIf (rt.isHttpUrl normalized = false) (.valueError (label ++ " must be an HTTP(S) URL"))
  return normalized

/-- `_require_hash`. -/
def requireHash (rt : Runtime) (value label : String) : Except Error String := do
  let normalized ← requireText value label
  let normalized := rt.lower.map normalized
  raiseIf (isSha256 normalized = false) (.valueError (label ++ " must be a lowercase SHA-256 digest"))
  return normalized

/-- The checks of a time zone's name. -/
def requireZone (rt : Runtime) (value label : String) : Except Error String := do
  let name ← requireText value label
  raiseIf (rt.zoneKnown name = false) (.valueError ("unknown IANA timezone: " ++ rt.repr name))
  return name

/-- A text that is its own stripped form and is not blank. -/
def Stripped (s : String) : Prop := strip s = s ∧ s ≠ ""

theorem stripped_ofList {l : List Char} (h : stripChars l = l) (hne : l ≠ []) :
    Stripped (String.ofList l) := by
  refine ⟨by rw [strip, String.toList_ofList, h], ?_⟩
  intro hempty
  exact hne (by simpa using congrArg String.toList hempty)

theorem stripped_of_requireText {value label text : String}
    (h : requireText value label = .ok text) : Stripped text := by
  obtain ⟨hb, rfl⟩ := requireText_eq_ok.mp h
  exact ⟨strip_strip value, isBlank_eq_false.mp hb⟩

theorem Stripped.isBlank {s : String} (h : Stripped s) : Common.isBlank s = false := by
  rw [isBlank_eq_false, h.1]
  exact h.2

theorem requireText_self {s : String} (h : Stripped s) (label : String) :
    requireText s label = .ok s :=
  requireText_eq_ok.mpr ⟨h.isBlank, h.1.symm⟩

theorem requireUrl_eq_ok {rt : Runtime} {value label text : String}
    (h : requireUrl rt value label = .ok text) : Stripped text ∧ rt.isHttpUrl text = true := by
  rw [requireUrl, bind_eq_ok] at h
  obtain ⟨t, ht, h⟩ := h
  rw [raiseIf_bind_eq_ok] at h
  obtain ⟨hurl, h⟩ := h
  cases h
  exact ⟨stripped_of_requireText ht, by simpa using hurl⟩

theorem requireUrl_self {rt : Runtime} {s : String} (h : Stripped s) (hurl : rt.isHttpUrl s = true)
    (label : String) : requireUrl rt s label = .ok s := by
  rw [requireUrl, requireText_self h, ok_bind, raiseIf_bind_eq_ok, hurl]
  exact ⟨by decide, rfl⟩

theorem requireZone_eq_ok {rt : Runtime} {value label text : String}
    (h : requireZone rt value label = .ok text) : Stripped text ∧ rt.zoneKnown text = true := by
  rw [requireZone, bind_eq_ok] at h
  obtain ⟨t, ht, h⟩ := h
  rw [raiseIf_bind_eq_ok] at h
  obtain ⟨hzone, h⟩ := h
  cases h
  exact ⟨stripped_of_requireText ht, by simpa using hzone⟩

theorem requireZone_self {rt : Runtime} {s : String} (h : Stripped s) (hzone : rt.zoneKnown s = true)
    (label : String) : requireZone rt s label = .ok s := by
  rw [requireZone, requireText_self h, ok_bind, raiseIf_bind_eq_ok, hzone]
  exact ⟨by decide, rfl⟩

/-- A case-mapped text keeps its form. -/
theorem stripped_map {m : CaseMapping} {s : String} (h : Stripped s) :
    Stripped (m.map s) ∧ m.map (m.map s) = m.map s :=
  ⟨⟨m.strip_map s h.1, m.map_ne_empty s h.2⟩, m.map_map s⟩

/-- The normal form of a digest: stripped, in lower case, 64 hexadecimal digits. -/
def IsHash (rt : Runtime) (s : String) : Prop :=
  Stripped s ∧ rt.lower.map s = s ∧ isSha256 s = true

theorem requireHash_eq_ok {rt : Runtime} {value label text : String}
    (h : requireHash rt value label = .ok text) : IsHash rt text := by
  rw [requireHash, bind_eq_ok] at h
  obtain ⟨t, ht, h⟩ := h
  rw [raiseIf_bind_eq_ok] at h
  obtain ⟨hsha, h⟩ := h
  cases h
  obtain ⟨hs, hm⟩ := stripped_map (m := rt.lower) (stripped_of_requireText ht)
  exact ⟨hs, hm, by simpa using hsha⟩

theorem requireHash_self {rt : Runtime} {s : String} (h : IsHash rt s) (label : String) :
    requireHash rt s label = .ok s := by
  obtain ⟨hs, hm, hsha⟩ := h
  rw [requireHash, requireText_self hs, ok_bind, raiseIf_bind_eq_ok, hm, hsha]
  exact ⟨by decide, rfl⟩

theorem toNat_of_isLowerHex {c : Char} (h : isLowerHex c = true) :
    (48 ≤ c.toNat ∧ c.toNat ≤ 57) ∨ (97 ≤ c.toNat ∧ c.toNat ≤ 102) := by
  rw [isLowerHex, Bool.or_eq_true, Bool.and_eq_true, Bool.and_eq_true, decide_eq_true_eq,
    decide_eq_true_eq, decide_eq_true_eq, decide_eq_true_eq] at h
  exact h

/-- A hexadecimal digit in lower case is not white space, and is its own lower case. -/
theorem isSpace_toLower_of_isLowerHex {c : Char} (h : isLowerHex c = true) :
    isSpace c = false ∧ c.toLower = c := by
  revert h
  refine ascii_cases (P := fun c => isLowerHex c = true → isSpace c = false ∧ c.toLower = c)
    (by decide) ?_ c
  intro c hc h
  have := toNat_of_isLowerHex h
  omega

/-- Sixty-four hexadecimal digits in lower case are a digest in normal form. -/
theorem isHash_ofList {rt : Runtime} (hlower : rt.lower = .asciiLower) {l : List Char}
    (hlength : l.length = 64) (hhex : l.all isLowerHex = true) : IsHash rt (String.ofList l) := by
  have hdigits : ∀ c ∈ l, isSpace c = false ∧ c.toLower = c := fun c hc =>
    isSpace_toLower_of_isLowerHex (List.all_eq_true.mp hhex c hc)
  have hne : l ≠ [] := by
    rintro rfl
    cases hlength
  refine ⟨stripped_ofList (stripChars_eq_self fun c hc => (hdigits c hc).1) hne, ?_, ?_⟩
  · rw [hlower]
    show String.ofList ((String.ofList l).toList.map Char.toLower) = _
    rw [String.toList_ofList, List.map_congr_left fun c hc => (hdigits c hc).2, List.map_id']
  · rw [isSha256, String.toList_ofList, hhex, hlength]
    rfl

/-! ## Resolution evidence -/

/-- `ResolutionEvidenceStatus`. -/
inductive ResolutionEvidenceStatus where
  | verified
  | void
deriving DecidableEq, Repr

/-- `ResolutionEvidenceStatus.value`. -/
def ResolutionEvidenceStatus.value : ResolutionEvidenceStatus → String
  | .verified => "verified"
  | .void => "void"

/-- `ResolutionEvidenceStatus(text)`. -/
def ResolutionEvidenceStatus.ofValue : String → Option ResolutionEvidenceStatus
  | "verified" => some .verified
  | "void" => some .void
  | _ => none

theorem ResolutionEvidenceStatus.ofValue_value (s : ResolutionEvidenceStatus) :
    ofValue s.value = some s := by cases s <;> rfl

/-- `MarketResolutionEvidence` (`resolution.py`, 41-56). -/
structure MarketResolutionEvidence where
  marketId : String
  conditionId : String
  sourceName : String
  sourceUrl : String
  declaredResolutionSource : String
  retrievedAt : DateTime
  finalizedAt : DateTime
  marketDate : Date
  marketTimezone : String
  status : ResolutionEvidenceStatus
  resolutionValue : String
  payouts : List OutcomePayout
  payloadHash : String
deriving DecidableEq

namespace MarketResolutionEvidence

/-- The payout vector fits the status (`resolution.py`, 88-101). -/
def checkPayouts (status : ResolutionEvidenceStatus) (payouts : List OutcomePayout) :
    Except Error Unit := do
  raiseIf (payouts.length ≠ 2)
    (.invariantViolation "binary resolution evidence requires exactly two payouts")
  raiseIf (¬ (payouts.map OutcomePayout.outcomeId).Nodup)
    (.invariantViolation "resolution evidence contains duplicate outcome IDs")
  let values := payouts.map fun p => p.payout.val
  raiseIf (values.sum ≠ one)
    (.invariantViolation "binary resolution payouts must sum exactly to one")
  match status with
  | .void =>
    raiseIf (values ≠ [500000, 500000])
      (.invariantViolation "void evidence requires a 0.5/0.5 payout vector")
  | .verified =>
    raiseIf (values ≠ [0, one] ∧ values ≠ [one, 0])
      (.invariantViolation "verified evidence requires a 1/0 payout vector")

/-- `MarketResolutionEvidence.__post_init__` (`resolution.py`, 58-111). -/
def new (rt : Runtime) (e : MarketResolutionEvidence) : Except Error MarketResolutionEvidence := do
  raiseIf (isBlank e.marketId) (.valueError "market_id must not be blank")
  let conditionId ← requireText e.conditionId "condition_id"
  let conditionId := rt.lower.map conditionId
  raiseIf (isConditionId conditionId = false)
    (.valueError "condition_id must be a 32-byte hexadecimal identifier")
  let sourceName ← requireText e.sourceName "source_name"
  let sourceUrl ← requireUrl rt e.sourceUrl "source_url"
  let declaredSource ← requireUrl rt e.declaredResolutionSource "declared_resolution_source"
  raiseIf (e.retrievedAt.instant < e.finalizedAt.instant)
    (.invariantViolation "resolution finalization cannot occur after retrieval")
  let timezoneName ← requireZone rt e.marketTimezone "market_timezone"
  let resolutionValue ← requireText e.resolutionValue "resolution_value"
  let payloadHash ← requireHash rt e.payloadHash "payload_hash"
  checkPayouts e.status e.payouts
  return { e with
    conditionId := conditionId
    sourceName := sourceName
    sourceUrl := sourceUrl
    declaredResolutionSource := declaredSource
    marketTimezone := timezoneName
    resolutionValue := resolutionValue
    payloadHash := payloadHash }

/-- The values that the constructor returns. -/
structure Valid (rt : Runtime) (e : MarketResolutionEvidence) : Prop where
  marketId : isBlank e.marketId = false
  conditionId : Stripped e.conditionId ∧ rt.lower.map e.conditionId = e.conditionId ∧
    isConditionId e.conditionId = true
  sourceName : Stripped e.sourceName
  sourceUrl : Stripped e.sourceUrl ∧ rt.isHttpUrl e.sourceUrl = true
  declared : Stripped e.declaredResolutionSource ∧ rt.isHttpUrl e.declaredResolutionSource = true
  times : e.finalizedAt.instant ≤ e.retrievedAt.instant
  timezone : Stripped e.marketTimezone ∧ rt.zoneKnown e.marketTimezone = true
  resolutionValue : Stripped e.resolutionValue
  payloadHash : IsHash rt e.payloadHash
  payouts : checkPayouts e.status e.payouts = .ok ()

theorem valid_of_new {rt : Runtime} {e e' : MarketResolutionEvidence} (h : new rt e = .ok e') :
    Valid rt e' := by
  rw [new, raiseIf_bind_eq_ok] at h
  obtain ⟨hmarket, h⟩ := h
  obtain ⟨cond, hcond, h⟩ := bind_eq_ok.mp h
  rw [raiseIf_bind_eq_ok] at h
  obtain ⟨hcid, h⟩ := h
  obtain ⟨name, hname, h⟩ := bind_eq_ok.mp h
  obtain ⟨url, hurl, h⟩ := bind_eq_ok.mp h
  obtain ⟨declared, hdeclared, h⟩ := bind_eq_ok.mp h
  rw [raiseIf_bind_eq_ok] at h
  obtain ⟨htimes, h⟩ := h
  obtain ⟨zone, hzone, h⟩ := bind_eq_ok.mp h
  obtain ⟨value, hvalue, h⟩ := bind_eq_ok.mp h
  obtain ⟨hash, hhash, h⟩ := bind_eq_ok.mp h
  obtain ⟨u, hpay, h⟩ := bind_eq_ok.mp h
  cases h
  obtain ⟨hcs, hcm⟩ := stripped_map (m := rt.lower) (stripped_of_requireText hcond)
  exact {
    marketId := by simpa using hmarket
    conditionId := ⟨hcs, hcm, by simpa using hcid⟩
    sourceName := stripped_of_requireText hname
    sourceUrl := requireUrl_eq_ok hurl
    declared := requireUrl_eq_ok hdeclared
    times := not_lt.mp htimes
    timezone := requireZone_eq_ok hzone
    resolutionValue := stripped_of_requireText hvalue
    payloadHash := requireHash_eq_ok hhash
    payouts := hpay }

theorem new_self {rt : Runtime} {e : MarketResolutionEvidence} (h : Valid rt e) :
    new rt e = .ok e := by
  rw [new, raiseIf_bind_eq_ok, h.marketId, requireText_self h.conditionId.1, ok_bind,
    raiseIf_bind_eq_ok, h.conditionId.2.1, h.conditionId.2.2, requireText_self h.sourceName, ok_bind,
    requireUrl_self h.sourceUrl.1 h.sourceUrl.2, ok_bind,
    requireUrl_self h.declared.1 h.declared.2, ok_bind, raiseIf_bind_eq_ok,
    requireZone_self h.timezone.1 h.timezone.2, ok_bind, requireText_self h.resolutionValue, ok_bind,
    requireHash_self h.payloadHash, ok_bind, h.payouts]
  exact ⟨by decide, by decide, not_lt.mpr h.times, rfl⟩

/-- `==` of resolution evidence. -/
def PyEq (a b : MarketResolutionEvidence) : Prop :=
  a.retrievedAt.SameInstant b.retrievedAt ∧ a.finalizedAt.SameInstant b.finalizedAt ∧
    { a with retrievedAt := b.retrievedAt, finalizedAt := b.finalizedAt } = b

instance (a b : MarketResolutionEvidence) : Decidable (PyEq a b) :=
  inferInstanceAs (Decidable (_ ∧ _ ∧ _))

end MarketResolutionEvidence

/-! ## Weather observations -/

/-- `ObservationEvidenceStatus`. -/
inductive ObservationEvidenceStatus where
  | provisional
  | final
  | revised
deriving DecidableEq, Repr

namespace ObservationEvidenceStatus

/-- `ObservationEvidenceStatus.value`. -/
def value : ObservationEvidenceStatus → String
  | provisional => "provisional"
  | final => "final"
  | revised => "revised"

/-- `ObservationEvidenceStatus(text)`. -/
def ofValue : String → Option ObservationEvidenceStatus
  | "provisional" => some .provisional
  | "final" => some .final
  | "revised" => some .revised
  | _ => none

theorem ofValue_value (s : ObservationEvidenceStatus) : ofValue s.value = some s := by
  cases s <;> rfl

/-- `ObservationEvidenceStatus.learning_eligible`. -/
def learningEligible (s : ObservationEvidenceStatus) : Bool := s = .final || s = .revised

end ObservationEvidenceStatus

/-- `WeatherObservationEvidence` (`observation.py`, 52-69). -/
structure WeatherObservationEvidence where
  marketId : String
  sourceName : String
  sourceUrl : String
  stationId : String
  measurementBasis : String
  marketDate : Date
  marketTimezone : String
  temperature : Decimal
  unit : String
  retrievedAt : DateTime
  sourceTimestamp : Option DateTime
  sourceRevision : String
  status : ObservationEvidenceStatus
  payloadHash : String
  supersedesPayloadHash : Option String
deriving DecidableEq

namespace WeatherObservationEvidence

/-- `WeatherObservationEvidence.learning_eligible`. -/
def learningEligible (e : WeatherObservationEvidence) : Bool := e.status.learningEligible

/-- The source timestamp falls on the market date (`observation.py`, 97-102). -/
def checkTimestamp (rt : Runtime) (zone : String) (marketDate : Date) :
    Option DateTime → Except Error Unit
  | none => return ()
  | some timestamp =>
    match rt.localDate zone timestamp.instant with
    | none => throw ⟨.overflowError, "date value out of range"⟩
    | some localDate =>
      raiseIf (localDate ≠ marketDate)
        (.invariantViolation "source timestamp local date differs from the market date")

/-- The superseded hash (`observation.py`, 108-115). -/
def checkSupersedes (rt : Runtime) (payloadHash : String) :
    Option String → Except Error (Option String)
  | none => return none
  | some supersedes => do
    let supersedes ← requireHash rt supersedes "supersedes_payload_hash"
    raiseIf (supersedes = payloadHash)
      (.invariantViolation "an observation revision cannot supersede itself")
    return some supersedes

/-- `WeatherObservationEvidence.__post_init__` (`observation.py`, 71-132). -/
def new (rt : Runtime) (e : WeatherObservationEvidence) :
    Except Error WeatherObservationEvidence := do
  raiseIf (isBlank e.marketId) (.valueError "market_id must not be blank")
  let sourceName ← requireText e.sourceName "source_name"
  let sourceUrl ← requireUrl rt e.sourceUrl "source_url"
  let stationId ← requireText e.stationId "station_id"
  let measurementBasis ← requireText e.measurementBasis "measurement_basis"
  let timezoneName ← requireZone rt e.marketTimezone "market_timezone"
  let unit ← requireText e.unit "unit"
  let unit := rt.upper.map unit
  raiseIf (unit ≠ "C" ∧ unit ≠ "F") (.valueError "unit must be C or F")
  checkTimestamp rt timezoneName e.marketDate e.sourceTimestamp
  let sourceRevision ← requireText e.sourceRevision "source_revision"
  let payloadHash ← requireHash rt e.payloadHash "payload_hash"
  let supersedes ← checkSupersedes rt payloadHash e.supersedesPayloadHash
  raiseIf (e.status = .revised ∧ supersedes = none)
    (.invariantViolation "revised observation requires a superseded payload hash")
  raiseIf (e.status ≠ .revised ∧ supersedes ≠ none)
    (.invariantViolation "only revised observations may name a superseded payload hash")
  return { e with
    sourceName := sourceName
    sourceUrl := sourceUrl
    stationId := stationId
    measurementBasis := measurementBasis
    marketTimezone := timezoneName
    unit := unit
    sourceRevision := sourceRevision
    payloadHash := payloadHash
    supersedesPayloadHash := supersedes }

/-- The values that the constructor returns. -/
structure Valid (rt : Runtime) (e : WeatherObservationEvidence) : Prop where
  marketId : isBlank e.marketId = false
  sourceName : Stripped e.sourceName
  sourceUrl : Stripped e.sourceUrl ∧ rt.isHttpUrl e.sourceUrl = true
  stationId : Stripped e.stationId
  measurementBasis : Stripped e.measurementBasis
  timezone : Stripped e.marketTimezone ∧ rt.zoneKnown e.marketTimezone = true
  unit : Stripped e.unit ∧ rt.upper.map e.unit = e.unit ∧ (e.unit = "C" ∨ e.unit = "F")
  timestamp : checkTimestamp rt e.marketTimezone e.marketDate e.sourceTimestamp = .ok ()
  sourceRevision : Stripped e.sourceRevision
  payloadHash : IsHash rt e.payloadHash
  supersedes : ∀ s, e.supersedesPayloadHash = some s → IsHash rt s ∧ s ≠ e.payloadHash
  status : e.status = .revised ↔ e.supersedesPayloadHash ≠ none

theorem checkSupersedes_eq_ok {rt : Runtime} {payloadHash : String} {s s' : Option String}
    (h : checkSupersedes rt payloadHash s = .ok s') :
    ∀ t, s' = some t → IsHash rt t ∧ t ≠ payloadHash := by
  cases s with
  | none =>
    cases h
    exact nofun
  | some s =>
    rw [checkSupersedes] at h
    obtain ⟨t, ht, h⟩ := bind_eq_ok.mp h
    rw [raiseIf_bind_eq_ok] at h
    obtain ⟨hne, h⟩ := h
    cases h
    rintro _ ⟨⟩
    exact ⟨requireHash_eq_ok ht, hne⟩

theorem checkSupersedes_self {rt : Runtime} {payloadHash : String} {s : Option String}
    (h : ∀ t, s = some t → IsHash rt t ∧ t ≠ payloadHash) :
    checkSupersedes rt payloadHash s = .ok s := by
  cases s with
  | none => rfl
  | some t =>
    obtain ⟨ht, hne⟩ := h t rfl
    rw [checkSupersedes, requireHash_self ht, ok_bind, raiseIf_bind_eq_ok]
    exact ⟨hne, rfl⟩

theorem valid_of_new {rt : Runtime} {e e' : WeatherObservationEvidence} (h : new rt e = .ok e') :
    Valid rt e' := by
  rw [new, raiseIf_bind_eq_ok] at h
  obtain ⟨hmarket, h⟩ := h
  obtain ⟨name, hname, h⟩ := bind_eq_ok.mp h
  obtain ⟨url, hurl, h⟩ := bind_eq_ok.mp h
  obtain ⟨station, hstation, h⟩ := bind_eq_ok.mp h
  obtain ⟨basis, hbasis, h⟩ := bind_eq_ok.mp h
  obtain ⟨zone, hzone, h⟩ := bind_eq_ok.mp h
  obtain ⟨unit, hunit, h⟩ := bind_eq_ok.mp h
  rw [raiseIf_bind_eq_ok] at h
  obtain ⟨hcf, h⟩ := h
  obtain ⟨u, htimestamp, h⟩ := bind_eq_ok.mp h
  obtain ⟨revision, hrevision, h⟩ := bind_eq_ok.mp h
  obtain ⟨hash, hhash, h⟩ := bind_eq_ok.mp h
  obtain ⟨supersedes, hsupersedes, h⟩ := bind_eq_ok.mp h
  rw [raiseIf_bind_eq_ok, raiseIf_bind_eq_ok] at h
  obtain ⟨hrevised, hother, h⟩ := h
  cases h
  obtain ⟨hus, hum⟩ := stripped_map (m := rt.upper) (stripped_of_requireText hunit)
  have hunit' : rt.upper.map unit = "C" ∨ rt.upper.map unit = "F" := by
    by_contra hn
    exact hcf (not_or.mp hn)
  have hstatus : e.status = .revised ↔ supersedes ≠ none := by
    constructor
    · intro hr hn
      exact hrevised ⟨hr, hn⟩
    · intro hn
      by_contra hr
      exact hother ⟨hr, hn⟩
  exact {
    marketId := by simpa using hmarket
    sourceName := stripped_of_requireText hname
    sourceUrl := requireUrl_eq_ok hurl
    stationId := stripped_of_requireText hstation
    measurementBasis := stripped_of_requireText hbasis
    timezone := requireZone_eq_ok hzone
    unit := ⟨hus, hum, hunit'⟩
    timestamp := htimestamp
    sourceRevision := stripped_of_requireText hrevision
    payloadHash := requireHash_eq_ok hhash
    supersedes := checkSupersedes_eq_ok hsupersedes
    status := hstatus }

theorem new_self {rt : Runtime} {e : WeatherObservationEvidence} (h : Valid rt e) :
    new rt e = .ok e := by
  rw [new, raiseIf_bind_eq_ok, h.marketId, requireText_self h.sourceName, ok_bind,
    requireUrl_self h.sourceUrl.1 h.sourceUrl.2, ok_bind, requireText_self h.stationId, ok_bind,
    requireText_self h.measurementBasis, ok_bind, requireZone_self h.timezone.1 h.timezone.2, ok_bind,
    requireText_self h.unit.1, ok_bind, raiseIf_bind_eq_ok, h.unit.2.1, h.timestamp, ok_bind,
    requireText_self h.sourceRevision, ok_bind, requireHash_self h.payloadHash, ok_bind,
    checkSupersedes_self h.supersedes, ok_bind, raiseIf_bind_eq_ok, raiseIf_bind_eq_ok]
  have hunit : ¬ (e.unit ≠ "C" ∧ e.unit ≠ "F") := fun hn => h.unit.2.2.elim hn.1 hn.2
  have hrevised : ¬ (e.status = .revised ∧ e.supersedesPayloadHash = none) :=
    fun hn => h.status.mp hn.1 hn.2
  have hother : ¬ (e.status ≠ .revised ∧ e.supersedesPayloadHash ≠ none) :=
    fun hn => hn.1 (h.status.mpr hn.2)
  exact ⟨by decide, hunit, hrevised, hother, rfl⟩

/-- `==` of observations. -/
def PyEq (a b : WeatherObservationEvidence) : Prop :=
  a.temperature.NumEq b.temperature ∧ a.retrievedAt.SameInstant b.retrievedAt ∧
    a.sourceTimestamp.map DateTime.instant = b.sourceTimestamp.map DateTime.instant ∧
    { a with
      temperature := b.temperature
      retrievedAt := b.retrievedAt
      sourceTimestamp := b.sourceTimestamp } = b

instance (a b : WeatherObservationEvidence) : Decidable (PyEq a b) :=
  inferInstanceAs (Decidable (_ ∧ _ ∧ _ ∧ _))

/-- A revision has the source and the measurement of the payload it supersedes
(`reducers.py`, 382-391). -/
def SameIdentity (a b : WeatherObservationEvidence) : Prop :=
  a.sourceName = b.sourceName ∧ a.sourceUrl = b.sourceUrl ∧ a.stationId = b.stationId ∧
    a.measurementBasis = b.measurementBasis ∧ a.marketDate = b.marketDate ∧
    a.marketTimezone = b.marketTimezone ∧ a.unit = b.unit

instance (a b : WeatherObservationEvidence) : Decidable (SameIdentity a b) :=
  inferInstanceAs (Decidable (_ ∧ _ ∧ _ ∧ _ ∧ _ ∧ _ ∧ _))

end WeatherObservationEvidence

end WeatherBot.Domain
