import WeatherBot.Common.Extremum
import WeatherBot.Forecasting.DatasetOrder

/-!
# The order of the rows

`load_calibration_dataset` writes the records that it read in the order in which
it read them, and compares that with the file. Nothing compares the rows with one
another.

* `lines_of_load`: what is loaded is one record for each line of the file.
* `load_rearranged`: **rows in another order, or more than once, are loaded**, with
  their count and their hashes written anew.
* `load_canonical_iff`: what is loaded is in the order in which a dataset is built,
  without a duplicate, iff the rows of the file are.
-/

namespace WeatherBot.Forecasting

open WeatherBot.Common
open WeatherBot.Domain
open WeatherBot.Persistence (Holds)

variable {rt : Runtime} {py : TextReaders}

/-! ## What is read is valid -/

theorem valid_of_recordFromMapping {raw : List (String × Json)} {lineNumber : ℕ}
    {r : CalibrationDatasetRecord} (h : recordFromMapping rt py raw lineNumber = .ok r) :
    CalibrationDatasetRecord.Valid rt r := by
  obtain ⟨marketDate, -, h⟩ := bind_eq_ok.mp h
  obtain ⟨source, -, h⟩ := bind_eq_ok.mp h
  obtain ⟨method, -, h⟩ := bind_eq_ok.mp h
  obtain ⟨sample, hsample, h⟩ := bind_eq_ok.mp h
  obtain ⟨season, -, h⟩ := bind_eq_ok.mp h
  obtain ⟨-, h⟩ := raiseIf_bind_eq_ok.mp h
  have hvalid : CalibrationSample.Valid rt sample := by
    unfold sampleFromMapping at hsample
    iterate 12 obtain ⟨_, -, hsample⟩ := bind_eq_ok.mp hsample
    exact CalibrationSample.valid_of_new hsample
  unfold fieldsFromMapping at h
  iterate 8 obtain ⟨_, -, h⟩ := bind_eq_ok.mp h
  exact (CalibrationDatasetRecord.new_eq_ok h).2.2.2.2.2 hvalid

theorem valid_of_readRow {lineNumber : ℕ} {line : List Char} {r : CalibrationDatasetRecord}
    (h : readRow rt py lineNumber line = .ok r) : CalibrationDatasetRecord.Valid rt r := by
  obtain ⟨-, h⟩ := raiseIf_bind_eq_ok.mp h
  cases hloads : Json.loadsWith Json.lastValues (String.ofList line) with
  | none =>
    rw [hloads] at h
    cases h
  | some decoded =>
    rw [hloads] at h
    obtain ⟨mapping, -, h⟩ := bind_eq_ok.mp h
    exact valid_of_recordFromMapping h

theorem valid_of_readRows {lines : List (List Char)} {lineNumber : ℕ}
    {records : List CalibrationDatasetRecord} (h : readRows rt py lineNumber lines = .ok records) :
    ∀ r ∈ records, CalibrationDatasetRecord.Valid rt r := by
  induction lines generalizing records lineNumber with
  | nil =>
    cases h
    intro r hr
    exact absurd hr List.not_mem_nil
  | cons line lines ih =>
    rw [readRows] at h
    obtain ⟨first, hfirst, h⟩ := bind_eq_ok.mp h
    obtain ⟨rest, hrest, h⟩ := bind_eq_ok.mp h
    cases h
    exact List.forall_mem_cons.mpr ⟨valid_of_readRow hfirst, ih hrest⟩

/-! ## The rows of a file -/

/-- The lines of a records file, as `read_text` and `splitlines` make them. -/
def fileLines (recordsFile : String) : List (List Char) :=
  splitlines (universalNewlines recordsFile.toList)

/-- **What is loaded is one record for each line of the file.** -/
theorem lines_of_load {recordsFile manifestFile : String} {d : CalibrationDataset}
    (h : loadCalibrationDataset rt py (.text recordsFile) (.text manifestFile) = .ok d) :
    fileLines recordsFile = d.records.map fun r => r.text.toList := by
  obtain ⟨recordsText, hrecordsText, h⟩ := bind_eq_ok.mp h
  cases hrecordsText
  obtain ⟨manifestText, -, h⟩ := bind_eq_ok.mp h
  obtain ⟨manifest, -, h⟩ := bind_eq_ok.mp h
  obtain ⟨-, h⟩ := raiseIf_bind_eq_ok.mp h
  obtain ⟨-, h⟩ := raiseIf_bind_eq_ok.mp h
  obtain ⟨records, hrecords, h⟩ := bind_eq_ok.mp h
  obtain ⟨-, h⟩ := raiseIf_bind_eq_ok.mp h
  obtain ⟨hcanonical, h⟩ := raiseIf_bind_eq_ok.mp h
  obtain ⟨-, h⟩ := raiseIf_bind_eq_ok.mp h
  obtain ⟨_, -, h⟩ := bind_eq_ok.mp h
  cases h
  have hjsonl : jsonl records = String.ofList (universalNewlines recordsFile.toList) :=
    not_not.mp hcanonical
  have hvalid := valid_of_readRows hrecords
  rw [← hjsonl] at hrecords
  -- a separator in a record would make more lines than records
  have hclean : ∀ r ∈ records, ¬ HasSeparator r.texts := by
    intro r hr hs
    exact lt_irrefl _ ((readRows_jsonl py hvalid).2 ⟨r, hr, hs⟩ records hrecords)
  rw [fileLines, ← String.toList_ofList (l := universalNewlines recordsFile.toList), ← hjsonl, jsonl_toList]
  refine splitlines_joinLines fun line hline c hc => ?_
  obtain ⟨r, hr, rfl⟩ := List.mem_map.mp hline
  rw [← Bool.not_eq_true]
  intro hb
  exact hclean r hr ((lineBreak_iff (hvalid r hr)).mp ⟨c, hc, hb⟩)

/-- The values of the sort in a row, as they stand in the file. -/
def rowKey (line : List Char) :
    Option ((ℕ ×ₗ ℕ ×ₗ ℕ) ×ₗ String ×ₗ ℤ ×ₗ String ×ₗ String) :=
  match Json.loadsWith Json.lastValues (String.ofList line) with
  | some (.obj row) =>
    match getValue row "market_date", getValue row "city", getValue row "lead_days",
      getValue row "station_id", getValue row "measurement_basis" with
    | .str date, .str city, .int leadDays, .str station, .str basis =>
      (Date.fromisoformat date).map fun d =>
        toLex (dateKey d, toLex (city, toLex (leadDays, toLex (station, basis))))
    | _, _, _, _, _ => none
  | _ => none

theorem rowKey_text (r : CalibrationDatasetRecord) : rowKey r.text.toList = some (sortKey r) := by
  obtain ⟨data, hloads, hd⟩ := loads_text r
  have hms := CalibrationDatasetRecord.toMapping.eq_1 r
  rw [rowKey, String.ofList_toList, hloads]
  dsimp only
  rw [getValue_of_holds hd "market_date" (v := .str r.sample.marketDate.isoformat) (by simp [hms]),
    getValue_of_holds hd "city" (v := .str r.sample.city) (by simp [hms]),
    getValue_of_holds hd "lead_days" (v := .int r.sample.leadDays) (by simp [hms]),
    getValue_of_holds hd "station_id" (v := .str r.sample.stationId) (by simp [hms]),
    getValue_of_holds hd "measurement_basis" (v := .str r.sample.measurementBasis) (by simp [hms])]
  simp only [Json.sortKeys, Date.fromisoformat_isoformat, Option.map_some]
  rfl

/-- Each row has a greater key than the rows above it. -/
def RowsInOrder (recordsFile : String) : Prop :=
  (fileLines recordsFile).Pairwise fun line line' =>
    ∃ key key', rowKey line = some key ∧ rowKey line' = some key' ∧ key < key'

/-- The records that `build_calibration_dataset` makes: in the order of their keys, no identity
twice. -/
def Canonical (records : List CalibrationDatasetRecord) : Prop :=
  records.Pairwise (fun a b => sortKey a < sortKey b) ∧
    (records.map CalibrationDatasetRecord.identity).Nodup

theorem canonical_iff {records : List CalibrationDatasetRecord} :
    Canonical records ↔ records.Pairwise fun a b => sortKey a < sortKey b := by
  refine and_iff_left_of_imp fun h => ?_
  rw [List.Nodup, List.pairwise_map]
  exact h.imp fun hlt heq => hlt.ne (identity_eq_iff_sortKey.mp heq)

/-- **What is loaded is in canonical order iff the rows of the file are in order.** -/
theorem load_canonical_iff (rt : Runtime) (py : TextReaders) (recordsFile manifestFile : String)
    (d : CalibrationDataset)
    (h : loadCalibrationDataset rt py (.text recordsFile) (.text manifestFile) = .ok d) :
    Canonical d.records ↔ RowsInOrder recordsFile := by
  rw [canonical_iff, RowsInOrder, lines_of_load h, List.pairwise_map]
  refine List.Pairwise.iff ?_
  intro a b
  rw [rowKey_text, rowKey_text]
  constructor
  · intro hlt
    exact ⟨_, _, rfl, rfl, hlt⟩
  · rintro ⟨_, _, ha, hb, hlt⟩
    rwa [← Option.some.inj ha, ← Option.some.inj hb] at hlt

/-! ## Rows that are rearranged -/

/-- Dates with the same members have the same bounds. -/
theorem foldl_earlier_congr {date date' : Date} {dates dates' : List Date}
    (h : ∀ e, e ∈ date :: dates ↔ e ∈ date' :: dates') :
    dates.foldl earlier date = dates'.foldl earlier date' :=
  dateKey_inj (key_minBy_congr dateKey h)

theorem foldl_later_congr {date date' : Date} {dates dates' : List Date}
    (h : ∀ e, e ∈ date :: dates ↔ e ∈ date' :: dates') :
    dates.foldl later date = dates'.foldl later date' :=
  dateKey_inj (key_maxBy_congr dateKey h)

/-- The columns of records with the same members have the same set. -/
theorem sortedSet_congr {l l' : List String} (h : ∀ s, s ∈ l ↔ s ∈ l') : sortedSet l = sortedSet l' := by
  have hnodup : (sortedSet l).Nodup := (pairwise_sortedSet l).imp fun hlt => hlt.ne
  have hnodup' : (sortedSet l').Nodup := (pairwise_sortedSet l').imp fun hlt => hlt.ne
  have hperm : (sortedSet l).Perm (sortedSet l') := by
    rw [List.perm_ext_iff_of_nodup hnodup hnodup']
    intro s
    rw [mem_sortedSet, mem_sortedSet, h]
  have hasymm : ∀ a b, a ∈ sortedSet l → b ∈ sortedSet l' → a < b → b < a → a = b :=
    fun a b _ _ hab hba => absurd hba hab.asymm
  exact hperm.eq_of_pairwise hasymm (pairwise_sortedSet l) (pairwise_sortedSet l')

/-- A manifest fits records with the same members. -/
theorem validateAlignment_congr {d d' : CalibrationDataset}
    (hrecords : ∀ r, r ∈ d.records ↔ r ∈ d'.records)
    (hforecast : d.manifest.forecastContractId = d'.manifest.forecastContractId)
    (hobservation : d.manifest.observationContractId = d'.manifest.observationContractId)
    (hcapture : d.manifest.captureContractIds = d'.manifest.captureContractIds)
    (hstart : d.manifest.startDate = d'.manifest.startDate)
    (hend : d.manifest.endDate = d'.manifest.endDate) :
    validateAlignment d = validateAlignment d' := by
  have hcolumn : ∀ {β : Type} (f : CalibrationDatasetRecord → β) (b : β),
      b ∈ d.records.map f ↔ b ∈ d'.records.map f := by
    intro β f b
    simp only [List.mem_map, hrecords]
  have hdates := hcolumn fun r => r.sample.marketDate
  unfold validateAlignment
  rw [sortedSet_congr (hcolumn (·.forecastContractId)), sortedSet_congr (hcolumn (·.observationContractId)),
    sortedSet_congr (hcolumn (·.forecastCaptureContractId)), hforecast, hobservation, hcapture, hstart, hend]
  generalize d.records.map (·.sample.marketDate) = dates at hdates ⊢
  generalize d'.records.map (·.sample.marketDate) = dates' at hdates ⊢
  cases dates with
  | nil =>
    cases dates' with
    | nil => rfl
    | cons date dates => exact absurd ((hdates date).mpr (List.mem_cons_self ..)) List.not_mem_nil
  | cons date dates =>
    cases dates' with
    | nil => exact absurd ((hdates date).mp (List.mem_cons_self ..)) List.not_mem_nil
    | cons date' dates' =>
      dsimp only
      rw [foldl_earlier_congr hdates, foldl_later_congr hdates]

/-- A dataset with its rows rearranged, and its count and its hash written anew. -/
def rearranged (rt : Runtime) (d : CalibrationDataset) (rows : List CalibrationDatasetRecord) :
    CalibrationDataset where
  records := rows
  manifest := { d.manifest with recordCount := rows.length, datasetSha256 := rt.sha256 (jsonl rows) }

/-- **Rows in any order, and more than once, are loaded.** -/
theorem load_rearranged (py : TextReaders) (hsha : ∀ s, IsHash rt (rt.sha256 s))
    {pairs : List (ForecastCalibrationEvidence × WeatherObservationEvidence)}
    {forecastContractId observationContractId : String} {reports : List ArchiveParityReport}
    {d : CalibrationDataset}
    (h : buildCalibrationDataset rt pairs forecastContractId observationContractId reports = .ok d)
    (hreadable : Readable rt pairs forecastContractId observationContractId reports)
    {rows : List CalibrationDatasetRecord} (hrows : ∀ r, r ∈ rows ↔ r ∈ d.records) :
    loadFiles rt py (writeCalibrationDataset rt (rearranged rt d rows)) = .ok (rearranged rt d rows) := by
  have hbuilt := built_of_eq_ok h
  obtain ⟨hclean, hnodup⟩ := hbuilt.readable_iff.mpr hreadable
  have hne : rows ≠ [] := by
    obtain ⟨r, hr⟩ := List.exists_mem_of_ne_nil _ hbuilt.records_ne_nil
    exact List.ne_nil_of_mem ((hrows r).mpr hr)
  have hvalid := hbuilt.manifestValid hsha
  have hmanifest : ManifestValid rt (rearranged rt d rows).manifest :=
    { hvalid with
      recordCount := Int.natCast_pos.mpr (List.length_pos_iff.mpr hne)
      datasetSha256 := hsha _ }
  have hread : readRows rt py 1 (splitlines (jsonl rows).toList) = .ok rows :=
    (readRows_jsonl py fun r hr => hbuilt.valid r ((hrows r).mp hr)).1
      fun r hr => hclean r ((hrows r).mp hr)
  have hlast : (jsonl rows).toList.getLast? = some '
' := getLast_jsonl hne
  have hempty : ¬ jsonl rows = "" := by
    intro hnil
    rw [hnil] at hlast
    cases hlast
  have halign : validateAlignment (rearranged rt d rows) = .ok () := by
    rw [← hbuilt.validateAlignment]
    exact validateAlignment_congr hrows rfl rfl rfl rfl rfl
  have hrecordsText : readText (.text (jsonl rows)) = .ok (jsonl rows) :=
    readText_of_not_return (not_return_jsonl rows)
  rw [loadFiles, writeCalibrationDataset]
  dsimp only
  rw [loadCalibrationDataset, CalibrationDataset.toJsonl, show (rearranged rt d rows).records = rows from rfl,
    hrecordsText, ok_bind, readText_of_not_return (not_return_toJson _), ok_bind,
    (readManifest_toJson py hsha hmanifest).1 hnodup, ok_bind, raiseIf_of_not _ hempty, ok_bind,
    raiseIf_of_not _ (not_not.mpr hlast), ok_bind, hread, ok_bind]
  -- the count, the records and the hash are the ones of the rows
  have hcount : ¬ (rows.length : ℤ) ≠ (rearranged rt d rows).manifest.recordCount := not_not.mpr rfl
  have hjsonl : ¬ jsonl rows ≠ jsonl rows := not_not.mpr rfl
  have hhash : ¬ rt.sha256 (jsonl rows) ≠ (rearranged rt d rows).manifest.datasetSha256 :=
    not_not.mpr rfl
  rw [raiseIf_of_not _ hcount, ok_bind]
  dsimp only
  rw [CalibrationDataset.toJsonl, raiseIf_of_not _ hjsonl, ok_bind, raiseIf_of_not _ hhash, ok_bind]
  show (validateAlignment (rearranged rt d rows) >>= _) = _
  rw [halign, ok_bind]
  rfl

namespace Sample

/-- The pairs of the stations `KNYC` and `KLGA`. -/
def stations : List (ForecastCalibrationEvidence × WeatherObservationEvidence) :=
  [(forecast, observation "KNYC"), (forecast, observation "KLGA")]

theorem readable_stations : Readable documentHash stations "fc1" "oc1" [] := readable_of_ascii (by decide +kernel)

theorem sortKey_stations : sortKey (record documentHash "fc1" "KLGA") <
    sortKey (record documentHash "fc1" "KNYC") := by decide

theorem ordered_stations : ordered [record documentHash "fc1" "KNYC", record documentHash "fc1" "KLGA"] =
    [record documentHash "fc1" "KLGA", record documentHash "fc1" "KNYC"] := by
  have hnot : ¬ sortKey (record documentHash "fc1" "KNYC") ≤ sortKey (record documentHash "fc1" "KLGA") :=
    not_le.mpr sortKey_stations
  simp only [ordered, List.insertionSort_cons, List.insertionSort_nil, List.orderedInsert, if_neg hnot]

/-- The dataset of the two stations is built, with `KLGA` first. -/
theorem build_stations : ∃ d a b, buildCalibrationDataset documentHash stations "fc1" "oc1" [] = .ok d ∧
    d.records = [a, b] ∧ sortKey a < sortKey b := by
  have hfresh : ¬ ("fc1" ≠ "fc1" ∧ (Dict.empty : AcceptedReports).get? "fc1" = none) := fun hn => hn.1 rfl
  have hfirst := recordOfPair_sample Dict.empty isHash_documents stripped_contracts.1 hfresh upper_station
  have hsecond := recordOfPair_sample Dict.empty isHash_documents stripped_contracts.1 hfresh upper_otherStation
  have hrecords : stations.mapM (recordOfPair documentHash "fc1" "oc1" Dict.empty) =
      .ok [record documentHash "fc1" "KNYC", record documentHash "fc1" "KLGA"] := by
    rw [stations, List.mapM_cons, List.mapM_cons, List.mapM_nil]
    exact bind_eq_ok.mpr ⟨_, hfirst, bind_eq_ok.mpr ⟨_, bind_eq_ok.mpr ⟨_, hsecond, rfl⟩, rfl⟩⟩
  have haccepted : ([] : List ArchiveParityReport).foldlM (acceptReport documentHash "fc1") Dict.empty =
      .ok Dict.empty := rfl
  have hidentities : checkIdentities documentHash []
      (ordered [record documentHash "fc1" "KNYC", record documentHash "fc1" "KLGA"]) = .ok () := by
    rw [ordered_stations]
    decide
  obtain ⟨hashes, hhashes⟩ := exists_of_isOk (x := ((sortedSet
    ((ordered [record documentHash "fc1" "KNYC", record documentHash "fc1" "KLGA"]).map
      (·.forecastCaptureContractId))).filter (· ≠ "fc1")).mapM (reportShaAt documentHash Dict.empty))
    (by rw [ordered_stations]; decide)
  obtain ⟨d, hd, hrecords⟩ := exists_build stripped_contracts.1 stripped_contracts.2 haccepted hrecords
    (List.cons_ne_nil _ _) hidentities hhashes
  exact ⟨d, _, _, hd, hrecords.trans ordered_stations, sortKey_stations⟩

/-- Its rows the other way round are not canonical. -/
theorem not_canonical_reverse {d : CalibrationDataset} {a b : CalibrationDatasetRecord}
    (hab : d.records = [a, b]) (hlt : sortKey a < sortKey b) : ¬ Canonical d.records.reverse := by
  intro hcanonical
  have hreverse := hcanonical.1
  rw [hab] at hreverse
  exact absurd ((List.pairwise_cons.mp hreverse).1 a (List.mem_singleton_self _)) hlt.asymm

end Sample

/-- The rows of two stations, in order and the other way round. -/
theorem load_canonical_iff_stations : ∃ d,
    buildCalibrationDataset Sample.documentHash Sample.stations "fc1" "oc1" [] = .ok d ∧
    RowsInOrder (writeCalibrationDataset Sample.documentHash d).records ∧
    ¬ RowsInOrder (writeCalibrationDataset Sample.documentHash
      (rearranged Sample.documentHash d d.records.reverse)).records := by
  obtain ⟨d, a, b, hd, hab, hlt⟩ := Sample.build_stations
  have hload : loadFiles Sample.documentHash Sample.noTexts (writeCalibrationDataset Sample.documentHash d) = .ok d :=
    ((built_of_eq_ok hd).loadFiles Sample.noTexts Sample.isHash_documentHash).1
      ((built_of_eq_ok hd).readable_iff.mpr Sample.readable_stations)
  have hreverse : loadFiles Sample.documentHash Sample.noTexts (writeCalibrationDataset Sample.documentHash
      (rearranged Sample.documentHash d d.records.reverse)) =
        .ok (rearranged Sample.documentHash d d.records.reverse) :=
    load_rearranged Sample.noTexts Sample.isHash_documentHash hd Sample.readable_stations
      fun r => List.mem_reverse
  refine ⟨d, hd, ?_, fun hrows => ?_⟩
  · refine (load_canonical_iff Sample.documentHash Sample.noTexts _ _ d hload).mp (canonical_iff.mpr ?_)
    rw [hab]
    exact List.pairwise_pair.mpr hlt
  · refine Sample.not_canonical_reverse hab hlt ?_
    exact (load_canonical_iff Sample.documentHash Sample.noTexts _ _ _ hreverse).mpr hrows

/-- The rows of two stations the other way round, and each of them twice. -/
theorem not_load_canonical : ∃ d,
    buildCalibrationDataset Sample.documentHash Sample.stations "fc1" "oc1" [] = .ok d ∧
    (loadFiles Sample.documentHash Sample.noTexts (writeCalibrationDataset Sample.documentHash
        (rearranged Sample.documentHash d d.records.reverse)) =
      .ok (rearranged Sample.documentHash d d.records.reverse) ∧
      ¬ Canonical (rearranged Sample.documentHash d d.records.reverse).records) ∧
    loadFiles Sample.documentHash Sample.noTexts (writeCalibrationDataset Sample.documentHash
        (rearranged Sample.documentHash d (d.records ++ d.records))) =
      .ok (rearranged Sample.documentHash d (d.records ++ d.records)) ∧
    ¬ ((rearranged Sample.documentHash d (d.records ++ d.records)).records.map
      CalibrationDatasetRecord.identity).Nodup := by
  obtain ⟨d, a, b, hd, hab, hlt⟩ := Sample.build_stations
  have hload : ∀ rows : List CalibrationDatasetRecord, (∀ r, r ∈ rows ↔ r ∈ d.records) →
      loadFiles Sample.documentHash Sample.noTexts (writeCalibrationDataset Sample.documentHash
        (rearranged Sample.documentHash d rows)) = .ok (rearranged Sample.documentHash d rows) :=
    fun _ => load_rearranged Sample.noTexts Sample.isHash_documentHash hd Sample.readable_stations
  refine ⟨d, hd, ⟨hload _ fun r => List.mem_reverse, ?_⟩, hload _ fun r => ?_, ?_⟩
  · exact Sample.not_canonical_reverse hab hlt
  · rw [List.mem_append, or_self]
  · intro hnodup
    rw [rearranged, hab] at hnodup
    exact (List.nodup_cons.mp hnodup).1 (by simp)

end WeatherBot.Forecasting
