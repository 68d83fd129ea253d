import WeatherBot.Forecasting.Loader
import WeatherBot.Persistence.RoundTrip

/-!
# Datasets are read back

* `recordFromMapping_toMapping`, `manifestFromMapping_payload`: a record and a
  manifest are read back from their mappings.
* `Separator`: a line boundary of `str.splitlines` that JSON does not escape. A
  record whose texts have one is split into several lines.
* `loadFiles_iff`: **a dataset that is built is read back, equal to what was
  written, iff no text of its input has a separator** and no two of the parity
  reports that it needs have one hash; else it is not read at all.
-/

namespace WeatherBot.Forecasting

open WeatherBot.Common
open WeatherBot.Domain
open WeatherBot.Persistence (Holds holds_sorted)
open CalibrationException (calibrationError)

variable {rt : Runtime} {py : TextReaders}

/-! ## Members of a parsed object -/

section Members

variable {data ms : List (String × Json)} (hd : Holds data ms)

include hd

theorem getValue_of_holds (key : String) {v : Json} (h : (key, v) ∈ ms) :
    getValue data key = v.sortKeys := by
  rw [getValue, hd.get h, Option.getD_some]

theorem text_of_holds (key : String) {t : String} (ht : Stripped t) (h : (key, .str t) ∈ ms)
    (label : String) : textOf (getValue data key) label = .ok t := by
  rw [getValue_of_holds hd key h]
  exact textOr_self ht label _

theorem digest_of_holds (key : String) {t : String} (ht : IsHash rt t) (h : (key, .str t) ∈ ms)
    (label : String) : digestOf rt (getValue data key) label = .ok t := by
  rw [getValue_of_holds hd key h]
  exact digestOr_self ht label _ _

theorem integer_of_holds (key : String) (n : ℤ) (h : (key, .int n) ∈ ms) (label : String) :
    integerOf (getValue data key) label = .ok n := by
  rw [getValue_of_holds hd key h]
  rfl

theorem boolean_of_holds (key : String) (b : Bool) (h : (key, .bool b) ∈ ms) (label : String) :
    booleanOf (getValue data key) label = .ok b := by
  rw [getValue_of_holds hd key h]
  rfl

theorem decimal_of_holds (key : String) (d : Decimal) (h : (key, .str d.format) ∈ ms)
    (label : String) : decimalOf py (getValue data key) label = .ok d := by
  rw [getValue_of_holds hd key h, Json.sortKeys, decimalOf, finiteDecimal, TextReaders.readDecimal,
    Decimal.ofText_format]
  rfl

theorem member_of_holds {α : Type} {ofValue : String → Option α} (key : String) {t : String} {a : α}
    (ht : Stripped t) (ha : ofValue t = some a) (h : (key, .str t) ∈ ms) (label problem : String) :
    memberOf ofValue (getValue data key) label problem = .ok a := by
  rw [memberOf, text_of_holds hd key ht h]
  dsimp only
  rw [ha]
  rfl

end Members

/-! ## Texts of dates and numbers -/

/-- A character of a date's, a time's or a number's text. -/
def IsFieldChar (c : Char) : Prop := c.isDigit = true ∨ c ∈ ['-', 'T', ':', '+', '.']

theorem IsFieldChar.ascii {c : Char} (h : IsFieldChar c) : c.toNat < 128 := by
  rcases h with h | h
  · exact Json.ascii_of_isDigit h
  · have hmarks : ∀ d ∈ ['-', 'T', ':', '+', '.'], d.toNat < 128 := forall_mem_of_all (by decide)
    exact hmarks c h

theorem IsFieldChar.not_space {c : Char} (h : IsFieldChar c) : isSpace c = false := by
  rcases h with h | h
  · exact Decimal.isSpace_of_isDigit h
  · have hmarks : ∀ d ∈ ['-', 'T', ':', '+', '.'], isSpace d = false := forall_mem_of_all (by decide)
    exact hmarks c h

theorem isFieldChar_digits (w n : ℕ) : ∀ c ∈ padDigits w n, IsFieldChar c :=
  fun c hc => .inl (isDigit_padDigits w n c hc)

theorem isFieldChar_date (d : Date) : ∀ c ∈ d.isoChars, IsFieldChar c := by
  intro c hc
  have hdash : IsFieldChar '-' := .inr (by decide)
  simp only [Date.isoChars, List.mem_append, List.mem_cons] at hc
  rcases hc with hc | rfl | hc | rfl | hc
  · exact isFieldChar_digits _ _ c hc
  · exact hdash
  · exact isFieldChar_digits _ _ c hc
  · exact hdash
  · exact isFieldChar_digits _ _ c hc

theorem isFieldChar_datetime (t : DateTime) : ∀ c ∈ t.isoChars, IsFieldChar c := by
  intro c hc
  have hcolon : IsFieldChar ':' := .inr (by decide)
  have hdot : IsFieldChar '.' := .inr (by decide)
  have hdigits := isFieldChar_digits
  simp only [DateTime.isoChars, DateTime.clockChars, DateTime.fractionChars, DateTime.offsetChars,
    DateTime.offsetHourMinute, DateTime.offsetSeconds, List.mem_append, List.mem_cons] at hc
  rcases hc with hc | rfl | (hc | rfl | hc | rfl | hc | hc) | hc | (hc | rfl | hc) | hc
  · exact isFieldChar_date _ c hc
  · exact .inr (by decide)
  · exact hdigits _ _ c hc
  · exact hcolon
  · exact hdigits _ _ c hc
  · exact hcolon
  · exact hdigits _ _ c hc
  · split_ifs at hc
    · cases hc
    · rcases List.mem_cons.mp hc with rfl | hc
      · exact hdot
      · exact hdigits _ _ c hc
  · subst hc
    split_ifs
    · exact .inr (by decide)
    · exact .inr (by decide)
  · exact hdigits _ _ c hc
  · exact hcolon
  · exact hdigits _ _ c hc
  · split_ifs at hc with h1 h2
    · cases hc
    · rw [List.append_nil, List.mem_cons] at hc
      rcases hc with rfl | hc
      · exact hcolon
      · exact hdigits _ _ c hc
    · rw [List.mem_cons, List.mem_append, List.mem_cons] at hc
      rcases hc with rfl | hc | rfl | hc
      · exact hcolon
      · exact hdigits _ _ c hc
      · exact hdot
      · exact hdigits _ _ c hc

theorem isFieldChar_decimal (d : Decimal) : ∀ c ∈ d.formatChars, IsFieldChar c := by
  intro c hc
  simp only [Decimal.formatChars, List.mem_append] at hc
  rcases hc with (hc | hc) | hc
  · split_ifs at hc
    · rw [List.mem_singleton.mp hc]
      exact .inr (by decide)
    · cases hc
  · exact .inl (Decimal.isDigit_toDigits _ c hc)
  · split_ifs at hc
    · cases hc
    · rcases List.mem_cons.mp hc with rfl | hc
      · exact .inr (by decide)
      · exact isFieldChar_digits _ _ c hc

/-- A text of such characters is stripped. -/
theorem stripped_of_field {l : List Char} (h : ∀ c ∈ l, IsFieldChar c) (hne : l ≠ []) :
    Stripped (String.ofList l) := by
  constructor
  · rw [strip, String.toList_ofList, stripChars_eq_self fun c hc => (h c hc).not_space]
  · intro e
    have := congrArg String.toList e
    rw [String.toList_ofList] at this
    exact hne this

theorem stripped_date (d : Date) : Stripped d.isoformat :=
  stripped_of_field (isFieldChar_date d) (List.ne_nil_of_mem d.dash_mem_isoChars)

theorem stripped_datetime (t : DateTime) : Stripped t.isoformat :=
  stripped_of_field (isFieldChar_datetime t)
    (List.ne_nil_of_mem (List.mem_append_left _ t.date.dash_mem_isoChars))

/-- A time's text has no `Z` to replace. -/
theorem replaceZulu_isoformat (t : DateTime) : replaceZulu t.isoformat = t.isoformat := by
  have hz : ∀ c ∈ t.isoChars, c ≠ 'Z' := by
    rintro c hc rfl
    rcases isFieldChar_datetime t _ hc with h | h
    · exact absurd h (by decide)
    · exact absurd h (by decide)
  have hflat : ∀ l : List Char, (∀ c ∈ l, c ≠ 'Z') →
      (l.flatMap fun c => if c = 'Z' then ['+', '0', '0', ':', '0', '0'] else [c]) = l := by
    intro l hl
    induction l with
    | nil => rfl
    | cons c l ih =>
      rw [List.forall_mem_cons] at hl
      rw [List.flatMap_cons, if_neg hl.1, ih hl.2, List.singleton_append]
  rw [replaceZulu, DateTime.isoformat, String.toList_ofList, hflat _ hz]

section Members

variable {data ms : List (String × Json)} (hd : Holds data ms)

include hd

theorem date_of_holds (key : String) (d : Date) (h : (key, .str d.isoformat) ∈ ms) (label : String) :
    dateOf py (getValue data key) label = .ok d := by
  rw [dateOf, text_of_holds hd key (stripped_date d) h, ok_bind, TextReaders.readDate,
    Date.fromisoformat_isoformat]
  rfl

theorem timestamp_of_holds (key : String) {t : DateTime} (ht : utcOf t = .ok t)
    (h : (key, .str t.isoformat) ∈ ms) (label : String) :
    timestampOf py (getValue data key) label = .ok t := by
  rw [timestampOf, text_of_holds hd key (stripped_datetime t) h, ok_bind, replaceZulu_isoformat,
    TextReaders.readDatetime, DateTime.fromisoformat_isoformat]
  exact ht

end Members

/-! ## Records -/

theorem stripped_forecastSource (s : ForecastSource) : Stripped s.value := by
  cases s
  exact ⟨by decide, by decide⟩

theorem stripped_captureMethod (m : ForecastCaptureMethod) : Stripped m.value := by
  cases m <;> exact ⟨by decide, by decide⟩

theorem stripped_season (s : Season) : Stripped s.value := by
  cases s <;> exact ⟨by decide, by decide⟩

theorem sampleFromMapping_toMapping {r : CalibrationDatasetRecord} (h : r.Valid rt)
    {data : List (String × Json)} (hd : Holds data r.toMapping) (row : String) :
    sampleFromMapping rt py data row r.sample.marketDate r.sample.forecastSource = .ok r.sample := by
  have hms := CalibrationDatasetRecord.toMapping.eq_1 r
  have hs := h.sample
  unfold sampleFromMapping
  simp only [
    text_of_holds hd "city" hs.city.1 (by simp [hms]),
    text_of_holds hd "climate_region" hs.climateRegion.1 (by simp [hms]),
    integer_of_holds hd "lead_days" r.sample.leadDays (by simp [hms]),
    decimal_of_holds hd "forecast_temperature_f" r.sample.forecastTemperatureF (by simp [hms]),
    decimal_of_holds hd "observed_temperature_f" r.sample.observedTemperatureF (by simp [hms]),
    timestamp_of_holds hd "forecast_as_of_utc" hs.forecastAsOf (by simp [hms]),
    timestamp_of_holds hd "observation_finalized_at_utc" hs.finalizedAt (by simp [hms]),
    text_of_holds hd "observation_source" hs.observationSource (by simp [hms]),
    text_of_holds hd "station_id" hs.stationId.1 (by simp [hms]),
    text_of_holds hd "measurement_basis" hs.measurementBasis (by simp [hms]),
    digest_of_holds hd "forecast_payload_sha256" hs.forecastPayload (by simp [hms]),
    digest_of_holds hd "observation_payload_sha256" hs.observationPayload (by simp [hms]), ok_bind]
  exact CalibrationSample.new_self hs

theorem fieldsFromMapping_toMapping {r : CalibrationDatasetRecord} (h : r.Valid rt)
    {data : List (String × Json)} (hd : Holds data r.toMapping) (row : String) :
    fieldsFromMapping rt py data row r.sample r.forecastCaptureMethod = .ok r := by
  have hms := CalibrationDatasetRecord.toMapping.eq_1 r
  unfold fieldsFromMapping
  simp only [
    text_of_holds hd "forecast_contract_id" h.forecastContract (by simp [hms]),
    text_of_holds hd "observation_contract_id" h.observationContract (by simp [hms]),
    text_of_holds hd "forecast_capture_contract_id" h.captureContract (by simp [hms]),
    text_of_holds hd "forecast_source_url" h.sourceUrl.1 (by simp [hms]),
    decimal_of_holds hd "forecast_latitude" r.forecastLatitude (by simp [hms]),
    decimal_of_holds hd "forecast_longitude" r.forecastLongitude (by simp [hms]),
    boolean_of_holds hd "forecast_bias_correction" r.forecastBiasCorrection (by simp [hms]),
    digest_of_holds hd "forecast_provenance_sha256" h.provenance (by simp [hms]), ok_bind]
  exact CalibrationDatasetRecord.new_self h

/-- **A record is read back from its mapping.** -/
theorem recordFromMapping_toMapping {r : CalibrationDatasetRecord} (h : r.Valid rt)
    {data : List (String × Json)} (hd : Holds data r.toMapping) (lineNumber : ℕ) :
    recordFromMapping rt py data lineNumber = .ok r := by
  have hms := CalibrationDatasetRecord.toMapping.eq_1 r
  unfold recordFromMapping
  simp only [
    date_of_holds hd "market_date" r.sample.marketDate (by simp [hms]),
    member_of_holds hd "forecast_source" (stripped_forecastSource r.sample.forecastSource)
      (ForecastSource.ofValue_value _) (by simp [hms]),
    member_of_holds hd "forecast_capture_method" (stripped_captureMethod r.forecastCaptureMethod)
      (ForecastCaptureMethod.ofValue_value _) (by simp [hms]),
    sampleFromMapping_toMapping h hd,
    text_of_holds hd "season" (stripped_season r.sample.season) (by simp [hms]), ok_bind]
  rw [raiseIf_of_not _ (not_not.mpr rfl), ok_bind]
  exact fieldsFromMapping_toMapping h hd _

theorem nodup_keys_record (r : CalibrationDatasetRecord) : (r.toMapping.map Prod.fst).Nodup := by
  rw [CalibrationDatasetRecord.toMapping]
  simp

theorem plain_record (r : CalibrationDatasetRecord) : (Json.obj r.toMapping).Plain := by
  refine ⟨nodup_keys_record r, ?_⟩
  rw [CalibrationDatasetRecord.toMapping]
  have hstr : ∀ t, (Json.str t).Plain := fun _ => trivial
  have hint : ∀ n, (Json.int n).Plain := fun _ => trivial
  have hbool : ∀ b, (Json.bool b).Plain := fun _ => trivial
  simp only [Json.PlainValues, hstr, hint, hbool, and_self]

/-- A record's line is an object with its members. -/
theorem loads_text (r : CalibrationDatasetRecord) :
    ∃ data, Json.loadsWith Json.lastValues r.text = some (.obj data) ∧ Holds data r.toMapping := by
  refine ⟨_, ?_, holds_sorted (nodup_keys_record r)⟩
  rw [CalibrationDatasetRecord.text, Json.loadsWith_dumps Json.keeps_lastValues (plain_record r),
    Json.sortKeys]

theorem text_ne_nil (r : CalibrationDatasetRecord) : r.text.toList ≠ [] := by
  rw [CalibrationDatasetRecord.text, Json.dumps, String.toList_ofList]
  exact List.ne_nil_of_length_pos (Json.write_length_pos (Json.plain_sortKeys (plain_record r)))

/-- **A record's line is read back.** -/
theorem readRow_text {r : CalibrationDatasetRecord} (h : r.Valid rt) (lineNumber : ℕ) :
    readRow rt py lineNumber r.text.toList = .ok r := by
  obtain ⟨data, hloads, hd⟩ := loads_text r
  rw [readRow, raiseIf_of_not _ (text_ne_nil r), ok_bind, String.ofList_toList, hloads]
  exact recordFromMapping_toMapping h hd lineNumber

theorem readRows_texts {records : List CalibrationDatasetRecord}
    (h : ∀ r ∈ records, CalibrationDatasetRecord.Valid rt r) (lineNumber : ℕ) :
    readRows rt py lineNumber (records.map fun r => r.text.toList) = .ok records := by
  induction records generalizing lineNumber with
  | nil => rfl
  | cons r records ih =>
    rw [List.forall_mem_cons] at h
    rw [List.map_cons, readRows, readRow_text h.1, ok_bind, ih h.2, ok_bind]
    rfl

theorem length_of_readRows {lines : List (List Char)} {records : List CalibrationDatasetRecord}
    {lineNumber : ℕ} (h : readRows rt py lineNumber lines = .ok records) :
    records.length = lines.length := by
  induction lines generalizing records lineNumber with
  | nil =>
    rw [← Except.ok.inj h]
    rfl
  | cons line lines ih =>
    rw [readRows] at h
    obtain ⟨r, -, h⟩ := bind_eq_ok.mp h
    obtain ⟨rest, hrest, h⟩ := bind_eq_ok.mp h
    rw [← Except.ok.inj h, List.length_cons, List.length_cons, ih hrest]

/-! ## Lines -/

/-- A line boundary of `str.splitlines` that JSON does not escape: U+0085, U+2028 and U+2029. -/
def IsSeparator (c : Char) : Prop := c.toNat = 0x85 ∨ c.toNat = 0x2028 ∨ c.toNat = 0x2029

theorem isLineBreak_iff {c : Char} (h : 0x20 ≤ c.toNat) : isLineBreak c = true ↔ IsSeparator c := by
  unfold isLineBreak IsSeparator
  simp only [Bool.or_eq_true, Bool.and_eq_true, decide_eq_true_eq, beq_iff_eq]
  omega

theorem IsSeparator.not_ascii {c : Char} (h : IsSeparator c) : 128 ≤ c.toNat := by
  unfold IsSeparator at h
  omega

/-- A text has a separator. -/
def HasSeparator (l : List String) : Prop := ∃ c, IsSeparator c ∧ Json.OccursIn c l

/-- The characters of a record's line are no control characters. -/
theorem le_toNat_text (r : CalibrationDatasetRecord) : ∀ c ∈ r.text.toList, 0x20 ≤ c.toNat := by
  rw [CalibrationDatasetRecord.text, Json.dumps, String.toList_ofList]
  exact Json.le_toNat_write _ (Json.plain_sortKeys (plain_record r))

theorem not_mem_of_field {c : Char} (hc : 128 ≤ c.toNat) {l : List Char}
    (h : ∀ d ∈ l, IsFieldChar d) : c ∉ (String.ofList l).toList := by
  rw [String.toList_ofList]
  exact Json.not_mem_ascii hc fun d hd => (h d hd).ascii

theorem not_mem_of_isHash {c : Char} (hc : 128 ≤ c.toNat) {s : String} (h : IsHash rt s) :
    c ∉ s.toList := by
  refine Json.not_mem_ascii hc fun d hd => ?_
  have hhex := h.2.2
  rw [isSha256, Bool.and_eq_true, List.all_eq_true] at hhex
  have := toNat_of_isLowerHex (hhex.2 d hd)
  omega

/-- **Beyond ASCII, a record's line has the characters of its free texts.** -/
theorem mem_text {r : CalibrationDatasetRecord} (h : r.Valid rt) {c : Char} (hc : 128 ≤ c.toNat) :
    c ∈ r.text.toList ↔ Json.OccursIn c r.texts := by
  have hkeys : ∀ p ∈ r.toMapping, c ∉ p.1.toList := by
    have hascii : ∀ k ∈ r.toMapping.map Prod.fst, (k.toList.all fun d => d.toNat < 128) = true := by
      rw [CalibrationDatasetRecord.toMapping]
      simp only [List.map_cons, List.map_nil]
      decide +kernel
    exact fun p hp => Json.not_mem_ascii hc (forall_mem_of_all (hascii _ (List.mem_map_of_mem hp)))
  have hvalues : Json.OccursIn c (Json.texts (.obj r.toMapping)) ↔
      ∃ p ∈ r.toMapping, Json.OccursIn c (Json.texts p.2) := by
    rw [Json.texts, Json.textsMembers_eq_flatMap]
    constructor
    · rintro ⟨s, hs, hcs⟩
      obtain ⟨p, hp, hs⟩ := List.mem_flatMap.mp hs
      rcases List.mem_cons.mp hs with rfl | hs
      · exact absurd hcs (hkeys p hp)
      · exact ⟨p, hp, s, hs, hcs⟩
    · rintro ⟨p, hp, s, hs, hcs⟩
      exact ⟨s, List.mem_flatMap.mpr ⟨p, hp, List.mem_cons_of_mem _ hs⟩, hcs⟩
  have hone : ∀ s, Json.OccursIn c (Json.texts (.str s)) ↔ c ∈ s.toList := by
    intro s
    rw [Json.texts, Json.occursIn_cons]
    exact or_iff_left Json.not_occursIn_nil
  have hint : ∀ n, Json.OccursIn c (Json.texts (.int n)) ↔ False :=
    fun _ => iff_of_false Json.not_occursIn_nil not_false
  have hbool : ∀ b, Json.OccursIn c (Json.texts (.bool b)) ↔ False :=
    fun _ => iff_of_false Json.not_occursIn_nil not_false
  have hsource : c ∉ r.sample.forecastSource.value.toList := by
    cases r.sample.forecastSource
    exact Json.not_mem_ascii hc (forall_mem_of_all (by decide))
  have hseason : c ∉ r.sample.season.value.toList := by
    cases r.sample.season <;> exact Json.not_mem_ascii hc (forall_mem_of_all (by decide))
  have hmethod : c ∉ r.forecastCaptureMethod.value.toList := by
    cases r.forecastCaptureMethod <;> exact Json.not_mem_ascii hc (forall_mem_of_all (by decide))
  have hdate : ∀ d : Date, c ∉ d.isoformat.toList := fun d =>
    not_mem_of_field hc (isFieldChar_date d)
  have htime : ∀ t : DateTime, c ∉ t.isoformat.toList := fun t =>
    not_mem_of_field hc (isFieldChar_datetime t)
  have hdecimal : ∀ d : Decimal, c ∉ d.format.toList := fun d =>
    not_mem_of_field hc (isFieldChar_decimal d)
  have hhash1 := not_mem_of_isHash hc h.sample.forecastPayload
  have hhash2 := not_mem_of_isHash hc h.sample.observationPayload
  have hhash3 := not_mem_of_isHash hc h.provenance
  rw [CalibrationDatasetRecord.text, Json.mem_dumps hc (plain_record r), hvalues,
    CalibrationDatasetRecord.texts, CalibrationSample.texts, CalibrationDatasetRecord.toMapping]
  simp only [List.exists_mem_cons_iff, hone, hint, hbool, hsource, hseason, hmethod, hdate, htime,
    hdecimal, hhash1, hhash2, hhash3, List.not_mem_nil, false_and, exists_false, false_or, or_false,
    Json.occursIn_append, Json.occursIn_cons, Json.not_occursIn_nil, or_assoc]

/-- A record's line has a line boundary iff its free texts have a separator. -/
theorem lineBreak_iff {r : CalibrationDatasetRecord} (h : r.Valid rt) :
    (∃ c ∈ r.text.toList, isLineBreak c = true) ↔ HasSeparator r.texts := by
  constructor
  · rintro ⟨c, hc, hb⟩
    have hs := (isLineBreak_iff (le_toNat_text r c hc)).mp hb
    exact ⟨c, hs, (mem_text h hs.not_ascii).mp hc⟩
  · rintro ⟨c, hs, hc⟩
    have hmem := (mem_text h hs.not_ascii).mpr hc
    exact ⟨c, hmem, (isLineBreak_iff (le_toNat_text r c hmem)).mpr hs⟩

theorem jsonl_toList (records : List CalibrationDatasetRecord) :
    (jsonl records).toList = joinLines (records.map fun r => r.text.toList) := by
  have hjoin : ∀ l : List String, (String.join l).toList = l.flatMap String.toList := by
    intro l
    simp [String.toList_join]
  rw [jsonl, hjoin, joinLines, List.flatMap_map, List.flatMap_map]
  refine List.flatMap_congr fun r _ => ?_
  rw [String.toList_append]
  rfl

theorem not_return_jsonl (records : List CalibrationDatasetRecord) : '\r' ∉ (jsonl records).toList := by
  rw [jsonl_toList, joinLines, List.mem_flatMap]
  rintro ⟨line, hline, hr⟩
  obtain ⟨r, -, rfl⟩ := List.mem_map.mp hline
  rw [List.mem_append, List.mem_singleton] at hr
  rcases hr with hr | hr
  · exact absurd (le_toNat_text r _ hr) (by decide)
  · exact absurd hr (by decide)

/-- **The lines of a file that has no separator are its records**; else there are more lines than
records. -/
theorem readRows_jsonl (py : TextReaders) {records : List CalibrationDatasetRecord}
    (h : ∀ r ∈ records, CalibrationDatasetRecord.Valid rt r) :
    ((∀ r ∈ records, ¬ HasSeparator r.texts) →
      readRows rt py 1 (splitlines (jsonl records).toList) = .ok records) ∧
    ((∃ r ∈ records, HasSeparator r.texts) → ∀ read,
      readRows rt py 1 (splitlines (jsonl records).toList) = .ok read →
        records.length < read.length) := by
  constructor
  · intro hclean
    rw [jsonl_toList, splitlines_joinLines]
    · exact readRows_texts h 1
    · intro line hline c hc
      obtain ⟨r, hr, rfl⟩ := List.mem_map.mp hline
      rw [← Bool.not_eq_true]
      intro hb
      exact hclean r hr ((lineBreak_iff (h r hr)).mp ⟨c, hc, hb⟩)
  · rintro ⟨r, hr, hs⟩ read hread
    obtain ⟨c, hc, hb⟩ := (lineBreak_iff (h r hr)).mpr hs
    have hret := not_return_jsonl records
    rw [jsonl_toList] at hret hread
    have := length_lt_splitlines hret (List.mem_map_of_mem hr) hc hb
    rw [List.length_map] at this
    rw [length_of_readRows hread]
    exact this

/-! ## Manifests -/

/-- The manifest of a dataset that is built. -/
structure ManifestValid (rt : Runtime) (m : CalibrationDatasetManifest) : Prop where
  contracts : Stripped m.forecastContractId ∧ Stripped m.observationContractId
  recordCount : 0 < m.recordCount
  dates : ¬ dateKey m.endDate < dateKey m.startDate
  captureContracts : m.captureContractIds ≠ [] ∧ m.captureContractIds.Pairwise (· < ·) ∧
    ∀ c ∈ m.captureContractIds, Stripped c
  parityReports : m.parityReportSha256s.Pairwise (· ≤ ·) ∧ ∀ h ∈ m.parityReportSha256s, IsHash rt h
  datasetSha256 : IsHash rt m.datasetSha256

theorem nodup_keys_payload (rt : Runtime) (m : CalibrationDatasetManifest) : ((m.payload rt).map Prod.fst).Nodup := by
  rw [CalibrationDatasetManifest.payload, CalibrationDatasetManifest.toMapping]
  simp

theorem plain_payload (rt : Runtime) (m : CalibrationDatasetManifest) : (Json.obj (m.payload rt)).Plain := by
  refine ⟨nodup_keys_payload rt m, ?_⟩
  have hitems : ∀ l : List String, (Json.arr (l.map .str)).Plain := by
    intro l
    rw [Json.Plain, Json.plainItems_iff, List.forall_mem_map]
    exact fun _ _ => trivial
  have hstr : ∀ t, (Json.str t).Plain := fun _ => trivial
  have hint : ∀ n, (Json.int n).Plain := fun _ => trivial
  rw [CalibrationDatasetManifest.payload, CalibrationDatasetManifest.toMapping]
  simp only [List.cons_append, List.nil_append, Json.PlainValues, hstr, hint, hitems, and_self]

/-- A list of texts that are read back one by one. -/
theorem tuple_of_holds {data ms : List (String × Json)} (hd : Holds data ms) (key : String)
    {l : List String} (h : (key, .arr (l.map .str)) ∈ ms) (hsorted : l.Pairwise (· ≤ ·))
    (item : Json → String → Except CalibrationException String) (label : String)
    (hitem : ∀ s ∈ l, item (.str s) label = .ok s) :
    sortedTuple item (getValue data key) label = do
      raiseIf (¬ l.Nodup) (calibrationError (label ++ " must be unique and sorted"))
      return l := by
  have hitems : (l.map Json.str).mapM (fun v => item v label) = .ok l := by
    have : ∀ m : List String, (∀ s ∈ m, item (.str s) label = .ok s) →
        (m.map Json.str).mapM (fun v => item v label) = .ok m := by
      intro m hm
      induction m with
      | nil => rfl
      | cons s m ih =>
        rw [List.forall_mem_cons] at hm
        rw [List.map_cons, List.mapM_cons, hm.1, ok_bind, ih hm.2, ok_bind]
        rfl
    exact this l hitem
  rw [sortedTuple, getValue_of_holds hd key h, Json.sortKeys, Json.sortItems_map_str, sequenceOf,
    pure_eq_ok, ok_bind, hitems, ok_bind]
  simp only [hsorted.insertionSort_eq, ne_eq, not_true_eq_false, or_false]

/-- **A manifest is read back, unless it has one parity report twice.** -/
theorem manifestFromMapping_payload (py : TextReaders) {m : CalibrationDatasetManifest} (hm : ManifestValid rt m)
    {data : List (String × Json)} (hd : Holds data (m.payload rt)) :
    (m.parityReportSha256s.Nodup → manifestFromMapping rt py data = .ok m) ∧
      (¬ m.parityReportSha256s.Nodup → ∃ e, manifestFromMapping rt py data = .error e) := by
  have hms : m.payload rt = m.toMapping ++ [("manifest_sha256", .str (m.manifestSha256 rt))] := rfl
  rw [CalibrationDatasetManifest.toMapping] at hms
  have hcapture := tuple_of_holds hd "capture_contract_ids" (l := m.captureContractIds)
    (by simp [hms]) (hm.captureContracts.2.1.imp fun h => h.le) textOf
    "manifest capture_contract_ids" (fun s hs => textOr_self (hm.captureContracts.2.2 s hs) _ _)
  have hdistinct : m.captureContractIds.Nodup := hm.captureContracts.2.1.imp fun h => h.ne
  rw [raiseIf_of_not _ (not_not.mpr hdistinct), ok_bind] at hcapture
  have hparity := tuple_of_holds hd "parity_report_sha256s" (l := m.parityReportSha256s)
    (by simp [hms]) hm.parityReports.1 (digestOf rt)
    "manifest parity_report_sha256s" (fun s hs => digestOr_self (hm.parityReports.2 s hs) _ _ _)
  unfold manifestFromMapping
  simp only [
    integer_of_holds hd "schema_version" 1 (by simp [hms]),
    integer_of_holds hd "record_count" m.recordCount (by simp [hms]), hcapture, hparity,
    date_of_holds hd "start_date" m.startDate (by simp [hms]),
    date_of_holds hd "end_date" m.endDate (by simp [hms]),
    text_of_holds hd "forecast_contract_id" hm.contracts.1 (by simp [hms]),
    text_of_holds hd "observation_contract_id" hm.contracts.2 (by simp [hms]),
    digest_of_holds hd "dataset_sha256" hm.datasetSha256 (by simp [hms]), ok_bind, pure_eq_ok]
  rw [raiseIf_of_not _ (not_not.mpr rfl), ok_bind, raiseIf_of_not _ (not_le.mpr hm.recordCount), ok_bind,
    raiseIf_of_not _ hm.captureContracts.1, ok_bind]
  constructor
  · intro hnodup
    rw [raiseIf_of_not _ (not_not.mpr hnodup), ok_bind, ok_bind, raiseIf_of_not _ hm.dates]
    rfl
  · intro hnodup
    rw [raiseIf, if_pos hnodup]
    exact ⟨_, rfl⟩

/-- The manifest's file is read back, unless it has one parity report twice. -/
theorem readManifest_toJson (py : TextReaders) (hsha : ∀ s, IsHash rt (rt.sha256 s)) {m : CalibrationDatasetManifest}
    (hm : ManifestValid rt m) :
    (m.parityReportSha256s.Nodup → readManifest rt py (m.toJson rt) = .ok m) ∧
      (¬ m.parityReportSha256s.Nodup → ∃ e, readManifest rt py (m.toJson rt) = .error e) := by
  have hd := holds_sorted (nodup_keys_payload rt m)
  have hloads := Json.loadsWith_dumpsIndent Json.keeps_lastValues
    (Json.readable_of_plain (plain_payload rt m)) "\n" (.inr rfl)
  rw [Json.sortKeys] at hloads
  generalize Json.sortMembers (Json.sortValues (m.payload rt)) = data at hd hloads
  have hmanifest := manifestFromMapping_payload py hm hd
  have hdigest := digest_of_holds hd "manifest_sha256" (t := m.manifestSha256 rt) (hsha _)
    (by rw [CalibrationDatasetManifest.payload]; simp) "manifest checksum"
  rw [readManifest, CalibrationDatasetManifest.toJson, hloads]
  dsimp only
  rw [mappingOf, pure_eq_ok, ok_bind]
  constructor
  · intro hnodup
    rw [hmanifest.1 hnodup, ok_bind, hdigest, ok_bind, raiseIf_of_not _ (not_not.mpr rfl)]
    rfl
  · intro hnodup
    obtain ⟨e, he⟩ := hmanifest.2 hnodup
    exact ⟨e, by rw [he, error_bind]⟩

theorem not_return_toJson (m : CalibrationDatasetManifest) : '\r' ∉ (m.toJson rt).toList := by
  rw [CalibrationDatasetManifest.toJson, String.toList_append, Json.dumpsIndent, String.toList_ofList,
    List.mem_append]
  rintro (hr | hr)
  · rcases Json.isWritten_writeIndent _ (Json.plain_sortKeys (plain_payload rt m)) 0 _ hr with h | h
    · exact absurd h (by decide)
    · exact absurd h (by decide)
  · exact absurd hr (by decide)

/-! ## The records and the manifest -/

section Alignment

variable {pairs : List (ForecastCalibrationEvidence × WeatherObservationEvidence)}
  {forecastContractId observationContractId : String} {reports : List ArchiveParityReport}
  {d : CalibrationDataset}
  (h : Built rt pairs forecastContractId observationContractId reports d)

include h

/-- The dates of the records, in their order. -/
theorem Built.dates : ∃ dates, d.records.map (·.sample.marketDate) = d.manifest.startDate :: dates ∧
    (d.manifest.startDate :: dates).getLast? = some d.manifest.endDate ∧
    (d.manifest.startDate :: dates).Pairwise fun a b => dateKey a ≤ dateKey b := by
  have hsorted : (d.records.map (·.sample.marketDate)).Pairwise fun a b => dateKey a ≤ dateKey b := by
    refine List.Pairwise.map _ (fun a b hab => ?_) h.sorted
    rcases (Prod.Lex.le_iff).mp hab with hlt | heq
    · exact hlt.le
    · exact heq.1.le
  have hhead := h.startDate
  have hlast := h.endDate
  rw [← List.head?_map] at hhead
  rw [← List.getLast?_map] at hlast
  cases hdates : d.records.map (·.sample.marketDate) with
  | nil =>
    rw [hdates] at hhead
    cases hhead
  | cons date dates =>
    rw [hdates] at hhead hlast hsorted
    rw [List.head?_cons, Option.some.injEq] at hhead
    subst hhead
    exact ⟨dates, rfl, hlast, hsorted⟩

omit h in
/-- In sorted dates the first is the earliest. -/
theorem foldl_earlier {date : Date} {dates : List Date}
    (h : (date :: dates).Pairwise fun a b => dateKey a ≤ dateKey b) :
    dates.foldl earlier date = date := by
  have hfirst := (List.pairwise_cons.mp h).1
  clear h
  induction dates with
  | nil => rfl
  | cons e dates ih =>
    rw [List.forall_mem_cons] at hfirst
    rw [List.foldl_cons, earlier, if_neg (not_lt.mpr hfirst.1)]
    exact ih hfirst.2

omit h in
/-- In sorted dates the last is the latest. -/
theorem foldl_later {date : Date} {dates : List Date}
    (h : (date :: dates).Pairwise fun a b => dateKey a ≤ dateKey b) :
    (date :: dates).getLast? = some (dates.foldl later date) := by
  induction dates generalizing date with
  | nil => rfl
  | cons e dates ih =>
    obtain ⟨hfirst, hrest⟩ := List.pairwise_cons.mp h
    have hlater : later date e = e := by
      rw [later]
      split_ifs with hlt
      · rfl
      · exact dateKey_inj (le_antisymm (hfirst e (List.mem_cons_self ..)) (not_lt.mp hlt))
    rw [List.getLast?_cons_cons, ih hrest, List.foldl_cons, hlater]

theorem Built.records_ne_nil : d.records ≠ [] := by
  intro hnil
  have := h.startDate
  rw [hnil] at this
  cases this

/-- A column that is constant makes a set of one element. -/
theorem Built.sortedSet_column {column : CalibrationDatasetRecord → String} {value : String}
    (hcolumn : ∀ r ∈ d.records, column r = value) : sortedSet (d.records.map column) = [value] := by
  have hmem : ∀ c, c ∈ sortedSet (d.records.map column) ↔ c = value := by
    intro c
    rw [mem_sortedSet, List.mem_map]
    constructor
    · rintro ⟨r, hr, rfl⟩
      exact hcolumn r hr
    · rintro rfl
      obtain ⟨r, hr⟩ := List.exists_mem_of_ne_nil _ h.records_ne_nil
      exact ⟨r, hr, hcolumn r hr⟩
  have hnodup : (sortedSet (d.records.map column)).Nodup :=
    (pairwise_sortedSet _).imp fun hlt => hlt.ne
  have hperm : (sortedSet (d.records.map column)).Perm [value] := by
    rw [List.perm_ext_iff_of_nodup hnodup (List.nodup_singleton value)]
    intro c
    rw [hmem, List.mem_singleton]
  exact List.perm_singleton.mp hperm

/-- The manifest fits the records. -/
theorem Built.validateAlignment : Forecasting.validateAlignment d = .ok () := by
  obtain ⟨dates, hdates, hlast, hsorted⟩ := h.dates
  have hend : dates.foldl later d.manifest.startDate = d.manifest.endDate := by
    rw [foldl_later hsorted] at hlast
    exact Option.some.inj hlast
  unfold Forecasting.validateAlignment
  rw [hdates]
  dsimp only
  rw [raiseIf_of_not, ok_bind, raiseIf_of_not, ok_bind, raiseIf_of_not, ok_bind, raiseIf_of_not]
  · exact not_not.mpr h.captureContracts.symm
  · exact not_not.mpr (h.sortedSet_column h.observationContract)
  · exact not_not.mpr (h.sortedSet_column h.forecastContract)
  · rw [foldl_earlier hsorted, hend]
    simp

/-- The manifest of a dataset that is built is readable. -/
theorem Built.manifestValid (hsha : ∀ s, IsHash rt (rt.sha256 s)) : ManifestValid rt d.manifest := by
  obtain ⟨dates, hdates, hlast, hsorted⟩ := h.dates
  obtain ⟨hashes, hparity, hhashes, -⟩ := h.parityReports
  have hmem : ∀ c ∈ d.manifest.captureContractIds,
      ∃ r ∈ d.records, r.forecastCaptureContractId = c := by
    intro c hc
    rw [h.captureContracts, mem_sortedSet] at hc
    exact List.mem_map.mp hc
  refine ⟨h.contracts, ?_, ?_, ⟨?_, ?_, ?_⟩, ⟨?_, ?_⟩, ?_⟩
  · rw [h.recordCount]
    exact_mod_cast List.length_pos_iff.mpr h.records_ne_nil
  · rw [foldl_later hsorted] at hlast
    have hend := List.mem_of_getLast? ((foldl_later hsorted).trans hlast)
    rcases List.mem_cons.mp hend with heq | hin
    · rw [heq]
      exact lt_irrefl _
    · exact not_lt.mpr ((List.pairwise_cons.mp hsorted).1 _ hin)
  · obtain ⟨r, hr⟩ := List.exists_mem_of_ne_nil _ h.records_ne_nil
    rw [h.captureContracts]
    exact List.ne_nil_of_mem (mem_sortedSet.mpr (List.mem_map_of_mem hr))
  · rw [h.captureContracts]
    exact pairwise_sortedSet _
  · intro c hc
    obtain ⟨r, hr, rfl⟩ := hmem c hc
    exact (h.valid r hr).captureContract
  · rw [hparity]
    exact List.pairwise_insertionSort _ _
  · intro hash hh
    rw [hparity, List.mem_insertionSort] at hh
    obtain ⟨r, rfl⟩ := hhashes hash hh
    exact hsha _
  · rw [h.datasetSha256]
    exact hsha _

end Alignment

/-! ## Whole datasets -/

theorem readText_of_not_return {s : String} (h : '\r' ∉ s.toList) : readText (.text s) = .ok s := by
  rw [readText, universalNewlines_eq_self h, String.ofList_toList]
  rfl

theorem getLast_jsonl {records : List CalibrationDatasetRecord} (h : records ≠ []) :
    (jsonl records).toList.getLast? = some '\n' := by
  obtain ⟨init, last, rfl⟩ := List.eq_nil_or_concat records |>.resolve_left h
  rw [jsonl_toList, joinLines, List.map_concat, List.concat_eq_append, List.flatMap_append,
    List.flatMap_singleton, ← List.append_assoc, List.getLast?_append]
  rfl

/-- A dataset whose texts have no separator and whose parity reports are distinct is read back; any
other one is not. -/
theorem Built.loadFiles (py : TextReaders) (hsha : ∀ s, IsHash rt (rt.sha256 s))
    {pairs : List (ForecastCalibrationEvidence × WeatherObservationEvidence)}
    {forecastContractId observationContractId : String} {reports : List ArchiveParityReport}
    {d : CalibrationDataset}
    (h : Built rt pairs forecastContractId observationContractId reports d) :
    ((∀ r ∈ d.records, ¬ HasSeparator r.texts) ∧ d.manifest.parityReportSha256s.Nodup →
      Forecasting.loadFiles rt py (writeCalibrationDataset rt d) = .ok d) ∧
    (¬ ((∀ r ∈ d.records, ¬ HasSeparator r.texts) ∧ d.manifest.parityReportSha256s.Nodup) →
      ∃ e, Forecasting.loadFiles rt py (writeCalibrationDataset rt d) = .error e) := by
  have hrows := readRows_jsonl py h.valid
  have hmanifest := readManifest_toJson py hsha (h.manifestValid hsha)
  have hrecordsText : readText (.text d.toJsonl) = .ok d.toJsonl :=
    readText_of_not_return (not_return_jsonl d.records)
  have hlast : d.toJsonl.toList.getLast? = some '\n' := getLast_jsonl h.records_ne_nil
  have hempty : ¬ d.toJsonl = "" := by
    intro hnil
    rw [hnil] at hlast
    cases hlast
  rw [Forecasting.loadFiles, writeCalibrationDataset]
  dsimp only
  rw [loadCalibrationDataset, hrecordsText, ok_bind, readText_of_not_return (not_return_toJson d.manifest), ok_bind]
  constructor
  · rintro ⟨hclean, hnodup⟩
    have hrecords : readRows rt py 1 (splitlines d.toJsonl.toList) = .ok d.records := hrows.1 hclean
    rw [hmanifest.1 hnodup, ok_bind, raiseIf_of_not _ hempty, ok_bind,
      raiseIf_of_not _ (not_not.mpr hlast), ok_bind, hrecords, ok_bind,
      raiseIf_of_not _ (not_not.mpr h.recordCount.symm), ok_bind]
    dsimp only
    rw [raiseIf_of_not _ (not_not.mpr rfl), ok_bind,
      raiseIf_of_not _ (not_not.mpr h.datasetSha256.symm), ok_bind, h.validateAlignment, ok_bind]
    rfl
  · intro hbad
    by_cases hnodup : d.manifest.parityReportSha256s.Nodup
    · have hdirty : ∃ r ∈ d.records, HasSeparator r.texts := by
        by_contra hclean
        refine hbad ⟨fun r hr hs => hclean ⟨r, hr, hs⟩, hnodup⟩
      rw [hmanifest.1 hnodup, ok_bind, raiseIf_of_not _ hempty, ok_bind,
        raiseIf_of_not _ (not_not.mpr hlast), ok_bind]
      cases hread : readRows rt py 1 (splitlines d.toJsonl.toList) with
      | error e => exact ⟨e, rfl⟩
      | ok records =>
        have hlt := hrows.2 hdirty records hread
        have hcount : (records.length : ℤ) ≠ d.manifest.recordCount := by
          rw [h.recordCount]
          omega
        rw [ok_bind, raiseIf, if_pos hcount]
        exact ⟨_, rfl⟩
    · obtain ⟨e, he⟩ := hmanifest.2 hnodup
      exact ⟨e, by rw [he, error_bind]⟩

/-- The condition on the input: no text that a record takes from it has a separator, and no two
of the parity reports that are needed have one hash. -/
def Readable (rt : Runtime)
    (pairs : List (ForecastCalibrationEvidence × WeatherObservationEvidence))
    (forecastContractId observationContractId : String) (reports : List ArchiveParityReport) : Prop :=
  (∀ pair ∈ pairs, ¬ HasSeparator (pairTexts rt forecastContractId observationContractId pair)) ∧
    DistinctReports rt pairs (strip forecastContractId) reports

theorem Built.readable_iff {pairs : List (ForecastCalibrationEvidence × WeatherObservationEvidence)}
    {forecastContractId observationContractId : String} {reports : List ArchiveParityReport}
    {d : CalibrationDataset}
    (h : Built rt pairs forecastContractId observationContractId reports d) :
    (∀ r ∈ d.records, ¬ HasSeparator r.texts) ∧ d.manifest.parityReportSha256s.Nodup ↔
      Readable rt pairs forecastContractId observationContractId reports := by
  obtain ⟨hashes, hparity, -, hnodup⟩ := h.parityReports
  rw [Readable, ← h.contractId, ← hnodup, hparity, (List.perm_insertionSort _ hashes).nodup_iff]
  refine and_congr_left' ⟨?_, ?_⟩
  · intro hclean pair hp hs
    obtain ⟨r, hr, htexts⟩ := (h.texts _).mpr ⟨pair, hp, rfl⟩
    exact hclean r hr (by rwa [htexts])
  · intro hclean r hr hs
    obtain ⟨pair, hp, htexts⟩ := (h.texts _).mp ⟨r, hr, rfl⟩
    exact hclean pair hp (by rwa [htexts])

/-- **The round trip, exactly.** A dataset that is built is read back from the files that are
written, equal to itself, iff its input is `Readable`; and if it is not, nothing is read back. -/
theorem loadFiles_write_iff (rt : Runtime) (py : TextReaders) (hsha : ∀ s, IsHash rt (rt.sha256 s))
    (pairs : List (ForecastCalibrationEvidence × WeatherObservationEvidence))
    (forecastContractId observationContractId : String) (reports : List ArchiveParityReport)
    (d : CalibrationDataset)
    (h : buildCalibrationDataset rt pairs forecastContractId observationContractId reports = .ok d) :
    (loadFiles rt py (writeCalibrationDataset rt d) = .ok d ↔
      Readable rt pairs forecastContractId observationContractId reports) ∧
    ((∃ d', loadFiles rt py (writeCalibrationDataset rt d) = .ok d') ↔
      Readable rt pairs forecastContractId observationContractId reports) := by
  have hbuilt := built_of_eq_ok h
  obtain ⟨hread, hfail⟩ := hbuilt.loadFiles py hsha
  rw [← hbuilt.readable_iff]
  have hiff : ∀ d', loadFiles rt py (writeCalibrationDataset rt d) = .ok d' →
      (∀ r ∈ d.records, ¬ HasSeparator r.texts) ∧ d.manifest.parityReportSha256s.Nodup := by
    intro d' hd'
    by_contra hbad
    obtain ⟨e, he⟩ := hfail hbad
    rw [he] at hd'
    cases hd'
  constructor
  · exact ⟨hiff d, hread⟩
  · constructor
    · rintro ⟨d', hd'⟩
      exact hiff d' hd'
    · intro hok
      exact ⟨d, hread hok⟩

/-! ### A dataset is built -/

/-- Records with different identities make a dataset. -/
theorem exists_build {pairs : List (ForecastCalibrationEvidence × WeatherObservationEvidence)}
    {forecastContractId observationContractId : String} {reports : List ArchiveParityReport}
    {accepted : AcceptedReports} {records : List CalibrationDatasetRecord} {hashes : List String}
    (hf : Stripped forecastContractId) (ho : Stripped observationContractId)
    (haccepted : reports.foldlM (acceptReport rt forecastContractId) Dict.empty = .ok accepted)
    (hrecords : pairs.mapM (recordOfPair rt forecastContractId observationContractId accepted) =
      .ok records)
    (hne : records ≠ []) (hidentities : checkIdentities rt [] (ordered records) = .ok ())
    (hhashes : ((sortedSet ((ordered records).map (·.forecastCaptureContractId))).filter
      (· ≠ forecastContractId)).mapM (reportShaAt rt accepted) = .ok hashes) :
    ∃ d, buildCalibrationDataset rt pairs forecastContractId observationContractId reports = .ok d ∧
      d.records = ordered records := by
  have hordered : ordered records ≠ [] := fun hnil =>
    hne (List.perm_nil.mp (hnil ▸ (List.perm_insertionSort _ records).symm))
  unfold buildCalibrationDataset
  rw [textOr_self hf, ok_bind, textOr_self ho, ok_bind, haccepted, ok_bind, hrecords, ok_bind]
  dsimp only
  rw [List.head?_eq_some_head hordered, List.getLast?_eq_some_getLast hordered]
  dsimp only
  rw [hidentities, ok_bind, hhashes]
  exact ⟨_, rfl, rfl⟩

namespace Sample

/-- The digests of the provenance of the sample's forecast, and of the files of its dataset with
the stations `KNYC` and `KN` U+2028 `YC`. -/
def provenanceDigest : String := "cdf08848754cce309c7054fcf72bebe98c2cd054ffb08c996dece92785cf3bc6"

def datasetDigest : String := "f7e14ddf1cb2faa97190d7852d288aabba6b60403b14cb7f83e823e8e9c76285"

def manifestDigest : String := "d87718db478fb9bf8081650162132bd39a80635fb9e2e8b9a26c5d527c250789"

def brokenDatasetDigest : String := "15eca549e62713c13c106ee5339407be7122cee64b4bc3891dfc0ee12d5d7ec7"

def brokenManifestDigest : String := "462158f542d3badaf11042a82c490912ad2a22930c124c837de848971c0cf458"

/-- A runtime that hashes the three documents of a dataset, told apart by their first key. -/
def hashes (dataset manifest : String) : Runtime :=
  { Runtime.utc with
    sha256 := fun s =>
      match s.toList.drop 2 with
      | 'b' :: _ => provenanceDigest
      | 'c' :: 'i' :: _ => dataset
      | _ => manifest }

/-- No text is read that the writer does not write. -/
def noTexts : TextReaders where
  floatText _ := ""
  decimal _ := .invalid
  date _ := none
  datetime _ := .invalid

def day : Date := Sample.secondOfMarch

def forecast : ForecastCalibrationEvidence where
  city := "nyc"
  climateRegion := "ne"
  forecast := ⟨⟨false, 405, 1⟩, day, "UTC", .openMeteoEcmwfIfs025, none⟩
  forecastAsOfUtc := Sample.noonOf Sample.firstOfMarch
  leadDays := 1
  sourceContractId := "fc1"
  captureContractId := "fc1"
  captureMethod := .production
  sourceUrl := "https://example.test/forecast"
  latitude := ⟨false, 407, 1⟩
  longitude := ⟨true, 739, 1⟩
  biasCorrection := false
  payloadSha256 := "aaaaaaaaaaaaaaaaaaaaaaaaaaaaaaaaaaaaaaaaaaaaaaaaaaaaaaaaaaaaaaaa"

def observation (stationId : String) : WeatherObservationEvidence where
  marketId := "m1"
  sourceName := "noaa"
  sourceUrl := "https://example.test/final"
  stationId := stationId
  measurementBasis := "daily high"
  marketDate := day
  marketTimezone := "UTC"
  temperature := ⟨false, 41, 0⟩
  unit := "F"
  retrievedAt := Sample.noonOf ⟨2026, 3, 3, by decide⟩
  sourceTimestamp := none
  sourceRevision := "r1"
  status := .final
  payloadHash := "bbbbbbbbbbbbbbbbbbbbbbbbbbbbbbbbbbbbbbbbbbbbbbbbbbbbbbbbbbbbbbbb"
  supersedesPayloadHash := none

/-- The sample of a station. -/
def sample (stationId : String) : CalibrationSample where
  city := "nyc"
  climateRegion := "ne"
  forecastSource := .openMeteoEcmwfIfs025
  marketDate := day
  leadDays := 1
  forecastTemperatureF := ⟨false, 405, 1⟩
  observedTemperatureF := ⟨false, 41, 0⟩
  forecastAsOfUtc := forecast.forecastAsOfUtc
  observationFinalizedAtUtc := (observation stationId).retrievedAt
  observationSource := "noaa"
  stationId := stationId
  measurementBasis := "daily high"
  forecastPayloadSha256 := forecast.payloadSha256
  observationPayloadSha256 := (observation stationId).payloadHash

/-- The sample of a station in capitals. -/
theorem sampleFromEvidence_station {stationId : String}
    (hstation : Stripped stationId ∧ CaseMapping.asciiUpper.map stationId = stationId) :
    calibrationSampleFromEvidence Runtime.utc forecast (observation stationId) =
      .ok (sample stationId) := by
  have hcity : Stripped "nyc" ∧ CaseMapping.asciiLower.map "nyc" = "nyc" :=
    ⟨⟨by decide, by decide⟩, by decide⟩
  have hregion : Stripped "ne" ∧ CaseMapping.asciiLower.map "ne" = "ne" :=
    ⟨⟨by decide, by decide⟩, by decide⟩
  have hbasis : Stripped "daily high" := ⟨by decide, by decide⟩
  have hsource : Stripped "noaa" := ⟨by decide, by decide⟩
  have hlead : (0 : ℤ) ≤ 1 ∧ (1 : ℤ) ≤ 7 := by decide
  have hbefore : forecast.forecastAsOfUtc.instant < (observation stationId).retrievedAt.instant := by
    show forecast.forecastAsOfUtc.instant < (observation "").retrievedAt.instant
    decide
  have hfahrenheit : fahrenheit Runtime.utc ⟨false, 41, 0⟩ "F" = .ok ⟨false, 41, 0⟩ := by
    decide
  have hvalid : CalibrationSample.Valid Runtime.utc (sample stationId) := {
    city := hcity
    climateRegion := hregion
    leadDays := hlead
    forecastAsOf := rfl
    finalizedAt := rfl
    predates := hbefore
    observationSource := hsource
    stationId := hstation
    measurementBasis := hbasis
    forecastPayload := isHash_ofList rfl rfl (by decide)
    observationPayload := isHash_ofList rfl rfl (by decide) }
  have hfinal : ¬ ((observation stationId).learningEligible = false) := Bool.noConfusion
  have hdate : ¬ ((observation stationId).marketDate ≠ forecast.forecast.marketDate) := not_not.mpr rfl
  have hzone : ¬ ((observation stationId).marketTimezone ≠ forecast.forecast.marketTimezone) :=
    not_not.mpr rfl
  have hfinalized : utcOf (observation stationId).retrievedAt = .ok (observation stationId).retrievedAt :=
    rfl
  rw [calibrationSampleFromEvidence, raiseIf_of_not _ hfinal, ok_bind, raiseIf_of_not _ hdate, ok_bind,
    raiseIf_of_not _ hzone, ok_bind, hfinalized, ok_bind, raiseIf_of_not _ (not_le.mpr hbefore), ok_bind]
  exact bind_eq_ok.mpr ⟨_, hfahrenheit, CalibrationSample.new_self hvalid⟩

theorem upper_station : Stripped "KNYC" ∧ CaseMapping.asciiUpper.map "KNYC" = "KNYC" :=
  ⟨⟨by decide, by decide⟩, by decide⟩

theorem isHash_hashes {dataset manifest : String}
    (hd : IsHash (hashes dataset manifest) dataset) (hm : IsHash (hashes dataset manifest) manifest)
    (s : String) : IsHash (hashes dataset manifest) ((hashes dataset manifest).sha256 s) := by
  show IsHash _ (match s.toList.drop 2 with
    | 'b' :: _ => provenanceDigest
    | 'c' :: 'i' :: _ => dataset
    | _ => manifest)
  split
  · exact isHash_ofList rfl rfl (by decide)
  · exact hd
  · exact hm

theorem isHash_plain (s : String) : IsHash (hashes datasetDigest manifestDigest)
    ((hashes datasetDigest manifestDigest).sha256 s) :=
  isHash_hashes (isHash_ofList rfl rfl (by decide)) (isHash_ofList rfl rfl (by decide)) s

theorem isHash_broken (s : String) : IsHash (hashes brokenDatasetDigest brokenManifestDigest)
    ((hashes brokenDatasetDigest brokenManifestDigest).sha256 s) :=
  isHash_hashes (isHash_ofList rfl rfl (by decide)) (isHash_ofList rfl rfl (by decide)) s

/-- The record of a station, whose forecast was captured under a contract. -/
def record (rt : Runtime) (capture stationId : String) : CalibrationDatasetRecord where
  sample := sample stationId
  forecastContractId := "fc1"
  observationContractId := "oc1"
  forecastCaptureContractId := capture
  forecastCaptureMethod := .production
  forecastSourceUrl := "https://example.test/forecast"
  forecastLatitude := forecast.latitude
  forecastLongitude := forecast.longitude
  forecastBiasCorrection := false
  forecastProvenanceSha256 := { forecast with captureContractId := capture }.provenanceSha256 rt

theorem stripped_contracts : Stripped "fc1" ∧ Stripped "oc1" :=
  ⟨⟨by decide, by decide⟩, ⟨by decide, by decide⟩⟩

theorem recordOfPair_sample {sha : String → String} (accepted : AcceptedReports)
    (hsha : ∀ s, IsHash Runtime.utc (sha s)) {capture stationId : String} (hcapture : Stripped capture)
    (haccepted : ¬ (capture ≠ "fc1" ∧ accepted.get? capture = none))
    (hstation : Stripped stationId ∧ CaseMapping.asciiUpper.map stationId = stationId) :
    recordOfPair { Runtime.utc with sha256 := sha } "fc1" "oc1" accepted
      ({ forecast with captureContractId := capture }, observation stationId) =
        .ok (record { Runtime.utc with sha256 := sha } capture stationId) := by
  have hurl : Stripped "https://example.test/forecast" := ⟨by decide, by decide⟩
  have hhttp : Runtime.utc.isHttpUrl "https://example.test/forecast" = true := by decide +kernel
  have hs : calibrationSampleFromEvidence { Runtime.utc with sha256 := sha }
      { forecast with captureContractId := capture } (observation stationId) = .ok (sample stationId) :=
    sampleFromEvidence_station hstation
  have hsource : ¬ (forecast.sourceContractId ≠ "fc1") := not_not.mpr rfl
  rw [recordOfPair]
  dsimp only
  rw [raiseIf_of_not _ hsource, ok_bind, raiseIf_of_not _ haccepted, ok_bind, hs, ok_bind]
  refine CalibrationDatasetRecord.new_self ?_
  constructor
  · exact (sampleFromEvidence_eq_ok hs).1
  · exact stripped_contracts.1
  · exact stripped_contracts.2
  · exact hcapture
  · exact ⟨hurl, hhttp⟩
  · dsimp only
    exact hsha _

/-- The dataset of a station is built. -/
theorem build_sample {dataset manifest stationId : String}
    (hsha : ∀ s, IsHash (hashes dataset manifest) ((hashes dataset manifest).sha256 s))
    (hstation : Stripped stationId ∧ CaseMapping.asciiUpper.map stationId = stationId) :
    ∃ d, buildCalibrationDataset (hashes dataset manifest) [(forecast, observation stationId)] "fc1"
      "oc1" [] = .ok d := by
  have hfresh : ¬ ("fc1" ≠ "fc1" ∧ (Dict.empty : AcceptedReports).get? "fc1" = none) := fun hn => hn.1 rfl
  have hrecord := recordOfPair_sample Dict.empty hsha stripped_contracts.1 hfresh hstation
  have hrecords : [(forecast, observation stationId)].mapM
      (recordOfPair (hashes dataset manifest) "fc1" "oc1" Dict.empty) =
        .ok [record (hashes dataset manifest) "fc1" stationId] := by
    rw [List.mapM_cons, List.mapM_nil]
    exact bind_eq_ok.mpr ⟨_, hrecord, rfl⟩
  have haccepted : ([] : List ArchiveParityReport).foldlM (acceptReport (hashes dataset manifest) "fc1")
      Dict.empty = .ok Dict.empty := rfl
  obtain ⟨d, hd, -⟩ := exists_build stripped_contracts.1 stripped_contracts.2 haccepted hrecords
    (List.cons_ne_nil _ _) rfl rfl
  exact ⟨d, hd⟩

/-- Texts in ASCII have no separator. -/
theorem readable_of_ascii {pairs : List (ForecastCalibrationEvidence × WeatherObservationEvidence)}
    {forecastContractId observationContractId : String}
    (h : (pairs.all fun pair => (pairTexts rt forecastContractId observationContractId pair).all fun s =>
      s.toList.all fun c => c.toNat < 128) = true) :
    Readable rt pairs forecastContractId observationContractId [] := by
  refine ⟨?_, fun r hr => absurd hr List.not_mem_nil⟩
  rintro pair hpair ⟨c, hc, s, hs, hmem⟩
  have hascii := List.all_eq_true.mp (List.all_eq_true.mp (List.all_eq_true.mp h pair hpair) s hs) c hmem
  exact absurd (decide_eq_true_eq.mp hascii) (not_lt.mpr hc.not_ascii)

end Sample

theorem loadFiles_write_iff_sample : ∃ d,
    buildCalibrationDataset (Sample.hashes Sample.datasetDigest Sample.manifestDigest)
      [(Sample.forecast, Sample.observation "KNYC")] "fc1" "oc1" [] = .ok d ∧
    loadFiles (Sample.hashes Sample.datasetDigest Sample.manifestDigest) Sample.noTexts
      (writeCalibrationDataset (Sample.hashes Sample.datasetDigest Sample.manifestDigest) d) = .ok d := by
  obtain ⟨d, hd⟩ := Sample.build_sample Sample.isHash_plain Sample.upper_station
  refine ⟨d, hd, (loadFiles_write_iff _ _ Sample.isHash_plain _ _ _ _ d hd).1.mpr ?_⟩
  exact Sample.readable_of_ascii (by decide +kernel)

/-- A station with a line separator in it: the dataset is built and cannot be read. -/
theorem not_loadFiles_separator : ∃ d,
    buildCalibrationDataset (Sample.hashes Sample.brokenDatasetDigest Sample.brokenManifestDigest)
      [(Sample.forecast, Sample.observation "KN\u2028YC")] "fc1" "oc1" [] = .ok d ∧
    ∃ e, loadFiles (Sample.hashes Sample.brokenDatasetDigest Sample.brokenManifestDigest)
      Sample.noTexts (writeCalibrationDataset
        (Sample.hashes Sample.brokenDatasetDigest Sample.brokenManifestDigest) d) = .error e := by
  have hbroken : Stripped "KN\u2028YC" ∧ CaseMapping.asciiUpper.map "KN\u2028YC" = "KN\u2028YC" :=
    ⟨⟨by decide, by decide⟩, by decide⟩
  obtain ⟨d, hd⟩ := Sample.build_sample Sample.isHash_broken hbroken
  have hbuilt := built_of_eq_ok hd
  refine ⟨d, hd, (hbuilt.loadFiles _ Sample.isHash_broken).2 ?_⟩
  rw [hbuilt.readable_iff]
  rintro ⟨hclean, -⟩
  refine hclean _ (List.mem_singleton_self _) ⟨'\u2028', .inr (.inl rfl), ?_⟩
  refine ⟨(Sample.hashes Sample.brokenDatasetDigest Sample.brokenManifestDigest).upper.normalize
    "KN\u2028YC", ?_, by decide⟩
  simp [pairTexts, Sample.observation]

end WeatherBot.Forecasting
