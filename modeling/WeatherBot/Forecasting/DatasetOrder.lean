import WeatherBot.Forecasting.FitOrder
import WeatherBot.Forecasting.RoundTrip

/-!
# The order of the evidence

`build_calibration_dataset` reads its pairs and its parity reports one after the
other, and sorts the records that come out.

* `exists_accepted_iff`: the reports are taken in iff each of them is in order and
  two of one capture contract have one hash. Nothing of that depends on their order.
* `checkIdentities_eq_ok`: the loop over `seen` is passed iff the identities are
  different, and then the key of the sort tells the records apart.
* `buildCalibrationDataset_perm`: **the dataset does not depend on the order of the
  pairs and of the reports.**
-/

namespace WeatherBot.Forecasting

open WeatherBot.Common
open WeatherBot.Domain
open CalibrationException (calibrationError)

variable {rt : Runtime} {effectiveContract observationContract : String}

/-! ## Reports -/

/-- The reports that the loop takes in. -/
structure Consistent (rt : Runtime) (effectiveContract : String) (reports : List ArchiveParityReport) :
    Prop where
  reference : ∀ r ∈ reports, r.referenceContractId = effectiveContract
  compatible : ∀ r ∈ reports, r.compatible = true
  /-- Two reports of one capture contract have one hash. -/
  agree : ∀ r ∈ reports, ∀ r' ∈ reports, r.candidateContractId = r'.candidateContractId →
    r.reportSha256 rt = r'.reportSha256 rt

theorem Consistent.perm {reports reports' : List ArchiveParityReport} (hp : reports.Perm reports')
    (h : Consistent rt effectiveContract reports) : Consistent rt effectiveContract reports' where
  reference r hr := h.reference r (hp.mem_iff.mpr hr)
  compatible r hr := h.compatible r (hp.mem_iff.mpr hr)
  agree r hr r' hr' := h.agree r (hp.mem_iff.mpr hr) r' (hp.mem_iff.mpr hr')

/-- Consistent reports are all taken in. -/
theorem Consistent.exists_accepted {done rest : List ArchiveParityReport} {accepted : AcceptedReports}
    (h : Consistent rt effectiveContract (done ++ rest)) (hinv : Accepting rt done accepted) :
    ∃ accepted', rest.foldlM (acceptReport rt effectiveContract) accepted = .ok accepted' := by
  induction rest generalizing done accepted with
  | nil => exact ⟨accepted, rfl⟩
  | cons report rest ih =>
    have hmem : report ∈ done ++ report :: rest :=
      List.mem_append_right _ (List.mem_cons_self ..)
    have hstep : acceptReport rt effectiveContract accepted report =
        .ok (accepted.insert report.candidateContractId report) := by
      refine acceptReport_eq_ok.mpr ⟨h.reference _ hmem, h.compatible _ hmem, ?_, rfl⟩
      intro previous hget
      obtain ⟨hprevious, hcandidate⟩ := hinv.of_get hget
      exact h.agree _ (List.mem_append_left _ hprevious) _ hmem hcandidate
    rw [List.append_cons] at h
    obtain ⟨accepted', hrest⟩ := ih h (hinv.step hstep)
    exact ⟨accepted', foldlM_cons_eq_ok.mpr ⟨_, hstep, hrest⟩⟩

/-- The reports that were taken in are in order. -/
theorem checked_of_foldlM {reports : List ArchiveParityReport} {accepted accepted' : AcceptedReports}
    (h : reports.foldlM (acceptReport rt effectiveContract) accepted = .ok accepted') :
    ∀ r ∈ reports, r.referenceContractId = effectiveContract ∧ r.compatible = true := by
  induction reports generalizing accepted with
  | nil =>
    intro r hr
    exact absurd hr List.not_mem_nil
  | cons report reports ih =>
    obtain ⟨_, hstep, h⟩ := foldlM_cons_eq_ok.mp h
    obtain ⟨hreference, hcompatible, -⟩ := acceptReport_eq_ok.mp hstep
    intro r hr
    rcases List.mem_cons.mp hr with rfl | hr
    · exact ⟨hreference, hcompatible⟩
    · exact ih h r hr

/-- **When the reports are taken in.** -/
theorem exists_accepted_iff {reports : List ArchiveParityReport} :
    (∃ accepted, reports.foldlM (acceptReport rt effectiveContract) Dict.empty = .ok accepted) ↔
      Consistent rt effectiveContract reports := by
  constructor
  · rintro ⟨accepted, h⟩
    have hinv := accepting_foldlM h
    constructor
    · intro r hr
      exact (checked_of_foldlM h r hr).1
    · intro r hr
      exact (checked_of_foldlM h r hr).2
    · intro r hr r' hr' hcandidate
      -- both have the hash of the report that the dictionary has
      obtain ⟨s, hs, hsha⟩ := hinv.get_of r hr
      obtain ⟨s', hs', hsha'⟩ := hinv.get_of r' hr'
      rw [hcandidate, hs'] at hs
      rw [← hsha, ← hsha', Option.some.inj hs]
  · intro h
    rw [← List.nil_append reports] at h
    exact h.exists_accepted .empty

/-- Dictionaries that the rest of the code cannot tell apart. -/
def SameReports (rt : Runtime) (accepted accepted' : AcceptedReports) : Prop :=
  ∀ c, (accepted.get? c).map (ArchiveParityReport.reportSha256 rt) =
    (accepted'.get? c).map (ArchiveParityReport.reportSha256 rt)

/-- The dictionary has the reports, in whatever order they came. -/
theorem Accepting.same {reports reports' : List ArchiveParityReport}
    {accepted accepted' : AcceptedReports} (h : Accepting rt reports accepted)
    (h' : Accepting rt reports' accepted') (hp : reports.Perm reports') :
    SameReports rt accepted accepted' := by
  intro c
  cases hget : accepted.get? c with
  | none =>
    cases hget' : accepted'.get? c with
    | none => rfl
    | some r' =>
      obtain ⟨hmem, rfl⟩ := h'.of_get hget'
      obtain ⟨r, hr, -⟩ := h.get_of r' (hp.mem_iff.mpr hmem)
      rw [hget] at hr
      cases hr
  | some r =>
    obtain ⟨hmem, rfl⟩ := h.of_get hget
    obtain ⟨r', hr', hsha⟩ := h'.get_of r (hp.mem_iff.mp hmem)
    rw [hr', Option.map_some, Option.map_some, hsha]

theorem SameReports.get?_eq_none {accepted accepted' : AcceptedReports}
    (h : SameReports rt accepted accepted') (c : String) :
    accepted.get? c = none ↔ accepted'.get? c = none := by
  have hc := congrArg Option.isNone (h c)
  rw [Option.isNone_map, Option.isNone_map] at hc
  rw [← Option.isNone_iff_eq_none, ← Option.isNone_iff_eq_none, hc]

theorem SameReports.recordOfPair {accepted accepted' : AcceptedReports}
    (h : SameReports rt accepted accepted') :
    recordOfPair rt effectiveContract observationContract accepted =
      recordOfPair rt effectiveContract observationContract accepted' := by
  funext pair
  simp only [Forecasting.recordOfPair, h.get?_eq_none]

theorem SameReports.reportShaAt {accepted accepted' : AcceptedReports}
    (h : SameReports rt accepted accepted') :
    reportShaAt rt accepted = reportShaAt rt accepted' := by
  funext c
  have hc := h c
  unfold Forecasting.reportShaAt
  cases hget : accepted.get? c with
  | none =>
    rw [(h.get?_eq_none c).mp hget]
  | some r =>
    cases hget' : accepted'.get? c with
    | none =>
      rw [(h.get?_eq_none c).mpr hget'] at hget
      cases hget
    | some r' =>
      rw [hget, hget', Option.map_some, Option.map_some] at hc
      dsimp only
      rw [Option.some.inj hc]

/-! ## Records -/

/-- When the loop over `seen` is passed. -/
theorem checkIdentities_eq_ok {seen l : List CalibrationDatasetRecord} {u : Unit} :
    checkIdentities rt seen l = .ok u ↔
      (l.map CalibrationDatasetRecord.identity).Nodup ∧
        ∀ r ∈ l, ∀ s ∈ seen, s.identity ≠ r.identity := by
  induction l generalizing seen with
  | nil => exact iff_of_true rfl ⟨List.nodup_nil, fun _ hr => absurd hr List.not_mem_nil⟩
  | cons r l ih =>
    rw [checkIdentities, List.map_cons, List.nodup_cons, List.forall_mem_cons]
    cases hfind : seen.find? fun s => s.identity = r.identity with
    | none =>
      have hnew : ∀ s ∈ seen, s.identity ≠ r.identity := by
        intro s hs
        have := List.find?_eq_none.mp hfind s hs
        rwa [decide_eq_true_eq] at this
      dsimp only
      rw [ih]
      constructor
      · rintro ⟨hnodup, hseen⟩
        refine ⟨⟨?_, hnodup⟩, hnew, fun t ht s hs => hseen t ht s (List.mem_cons_of_mem _ hs)⟩
        intro hmem
        obtain ⟨t, ht, heq⟩ := List.mem_map.mp hmem
        exact hseen t ht r (List.mem_cons_self ..) heq.symm
      · rintro ⟨⟨hr, hnodup⟩, -, hseen⟩
        refine ⟨hnodup, fun t ht s hs => ?_⟩
        rcases List.mem_cons.mp hs with rfl | hs
        · exact fun heq => hr (List.mem_map.mpr ⟨t, ht, heq.symm⟩)
        · exact hseen t ht s hs
    | some existing =>
      -- the identity was seen: both branches raise
      have hmem := List.mem_of_find?_eq_some hfind
      have heq := List.find?_some hfind
      rw [decide_eq_true_eq] at heq
      refine iff_of_false ?_ fun h => h.2.1 existing hmem heq
      dsimp only
      split_ifs
      · exact nofun
      · exact nofun

/-- The key of the sort of the records is the one of their samples. -/
theorem identity_eq_iff_sortKey {a b : CalibrationDatasetRecord} :
    a.identity = b.identity ↔ sortKey a = sortKey b :=
  identity_eq_iff (a := a.sample) (b := b.sample)

theorem pairwise_ordered (l : List CalibrationDatasetRecord) :
    (ordered l).Pairwise fun a b => sortKey a ≤ sortKey b :=
  SortKey.pairwise_sort sortKey l

/-- Records with different identities are sorted in one way. -/
theorem ordered_eq_of_perm {records records' : List CalibrationDatasetRecord}
    (hp : records.Perm records')
    (hnodup : ((ordered records).map CalibrationDatasetRecord.identity).Nodup) :
    ordered records = ordered records' := by
  have hordered : (ordered records).Perm (ordered records') :=
    (List.perm_insertionSort _ _).trans (hp.trans (List.perm_insertionSort _ _).symm)
  refine SortKey.eq_of_perm hordered (pairwise_ordered records) (pairwise_ordered records') ?_
  rw [List.Nodup, List.pairwise_map] at *
  exact hnodup.imp fun hne heq => hne (identity_eq_iff_sortKey.mpr heq)

/-! ## Datasets -/

/-- A dataset that is built is built from its evidence in any order. -/
theorem build_eq_ok_of_perm
    {pairs pairs' : List (ForecastCalibrationEvidence × WeatherObservationEvidence)}
    {reports reports' : List ArchiveParityReport} (hpairs : pairs.Perm pairs')
    (hreports : reports.Perm reports') {forecastContractId observationContractId : String}
    {d : CalibrationDataset}
    (h : buildCalibrationDataset rt pairs forecastContractId observationContractId reports = .ok d) :
    buildCalibrationDataset rt pairs' forecastContractId observationContractId reports' = .ok d := by
  obtain ⟨effective, heffective, h⟩ := bind_eq_ok.mp h
  obtain ⟨observation, hobservation, h⟩ := bind_eq_ok.mp h
  obtain ⟨accepted, haccepted, h⟩ := bind_eq_ok.mp h
  obtain ⟨records, hrecords, h⟩ := bind_eq_ok.mp h
  -- the reports are taken in, and become the same dictionary
  have hconsistent := (exists_accepted_iff.mp ⟨accepted, haccepted⟩).perm hreports
  obtain ⟨accepted', haccepted'⟩ := exists_accepted_iff.mpr hconsistent
  have hsame := (accepting_foldlM haccepted).same (accepting_foldlM haccepted') hreports
  -- the pairs become the same records
  rw [hsame.recordOfPair] at hrecords
  obtain ⟨records', hrecords', hperm⟩ := exists_mapM_of_perm hpairs hrecords
  dsimp only at h
  have hnodup : ((ordered records).map CalibrationDatasetRecord.identity).Nodup := by
    cases hfirst : (ordered records).head? with
    | none =>
      rw [hfirst] at h
      cases h
    | some first =>
      cases hlast : (ordered records).getLast? with
      | none =>
        rw [hfirst, hlast] at h
        cases h
      | some last =>
        rw [hfirst, hlast] at h
        obtain ⟨_, hidentities, -⟩ := bind_eq_ok.mp h
        exact (checkIdentities_eq_ok.mp hidentities).1
  rw [buildCalibrationDataset, heffective, ok_bind, hobservation, ok_bind, haccepted', ok_bind,
    hrecords', ok_bind]
  dsimp only
  rw [← ordered_eq_of_perm hperm hnodup, ← hsame.reportShaAt]
  exact h

/-- **The dataset does not depend on the order of the pairs and of the reports**: it is refused in
every order or in none, and its records, in their order, its manifest and its hashes are the same. -/
theorem buildCalibrationDataset_perm (rt : Runtime)
    (pairs pairs' : List (ForecastCalibrationEvidence × WeatherObservationEvidence))
    (reports reports' : List ArchiveParityReport) (hpairs : pairs.Perm pairs')
    (hreports : reports.Perm reports') (forecastContractId observationContractId : String) :
    ((∃ e, buildCalibrationDataset rt pairs forecastContractId observationContractId reports =
        .error e) ↔
      ∃ e, buildCalibrationDataset rt pairs' forecastContractId observationContractId reports' =
        .error e) ∧
    ∀ d d', buildCalibrationDataset rt pairs forecastContractId observationContractId reports =
        .ok d →
      buildCalibrationDataset rt pairs' forecastContractId observationContractId reports' = .ok d' →
      d.records = d'.records ∧ d.manifest = d'.manifest ∧
        d.manifest.datasetSha256 = d'.manifest.datasetSha256 ∧
        d.manifest.manifestSha256 rt = d'.manifest.manifestSha256 rt := by
  constructor
  · cases h : buildCalibrationDataset rt pairs forecastContractId observationContractId reports with
    | ok d =>
      rw [build_eq_ok_of_perm hpairs hreports h]
    | error e =>
      cases h' : buildCalibrationDataset rt pairs' forecastContractId observationContractId reports' with
      | ok d =>
        rw [build_eq_ok_of_perm hpairs.symm hreports.symm h'] at h
        cases h
      | error e' => exact iff_of_true ⟨e, rfl⟩ ⟨e', rfl⟩
  · intro d d' h h'
    rw [build_eq_ok_of_perm hpairs hreports h] at h'
    cases h'
    exact ⟨rfl, rfl, rfl, rfl⟩

namespace Sample

def charAt (s : String) (n : ℕ) : Option Char := s.toList[n]?

/-- The digests of the documents of two stations and two archives, and of the files of two stations as
they are built, the other way round and each twice. -/
def documentDigest (s : String) : String :=
  -- the provenance of a forecast
  if charAt s 2 = some 'b' then
    if charAt s 48 = some 'p' then "7573d2872970b8c5cd5d4be8cbb91618f0bc7337871a70dab1f1daec7ff12fdc"
    else provenanceDigest
  -- a parity report
  else if charAt s 4 = some 'n' then
    if charAt s 26 = some 'p' then "fb459fb59c089194f0cd07cb98fb843e4a731bd8e4ce3e9b8e23e1258458fdba"
    else "f23189ac7c2729bb5fa70bdcf0ca727db10502b65f695c3d51dbf5ebd878bbb8"
  -- a records file
  else if charAt s 3 = some 'i' then
    if s.length = 1911 then "105297981f2aadb2c523aa2fd7ae6b7500e2a143b37c40f2acd084ba2f628da1"
    else if s.length = 3812 then "877f269cec1f629c86883a5f407f0b6896cb1b3d46abadfce8d25fa0ca251e51"
    else if charAt s 947 = some 'N' then "9875c7beab590dbe79404668ada2fbdd3ef780cde6ba5e06402a9ce92ac7ab51"
    else "8f18266fec4ef2ed68c5bb45ce153978423d25372ca9a49f50fc8deef417b842"
  -- a manifest
  else if charAt s 51 = some 'f' then "f74805a08076167f36ab20ec2bc43ad12a1728600373b9f7246aa5422dc17284"
  else if charAt s 51 = some '8' then "7c5b2e8b2fb29c97b71853fe093f10ea2d313731fcaf715a3030fedb9028d1bd"
  else if charAt s 51 = some '7' then "affaa571069a9e15ee5ca4ebbdcffe76406db72fc04800b7ea7acb3c549d8768"
  else "671d8f36963a7897f53a761075dcad33eefde82cb00878178ec921f80b76acac"

def documentHash : Runtime := { Runtime.utc with sha256 := documentDigest }

theorem isHash_documents (s : String) : IsHash Runtime.utc (documentDigest s) := by
  unfold documentDigest
  split_ifs <;> exact isHash_ofList rfl rfl (by decide)

theorem isHash_documentHash (s : String) : IsHash documentHash (documentHash.sha256 s) := isHash_documents s

def zero : PyFloat := ⟨0, "0.0"⟩

def one : PyFloat := ⟨1, "1.0"⟩

/-- An archive contract that passed parity. -/
def report (candidate : String) : ArchiveParityReport where
  referenceContractId := "fc1"
  candidateContractId := candidate
  policy := ⟨30, one, one, one⟩
  referenceCount := 30
  candidateCount := 30
  matchedCount := 30
  referenceCoverage := one
  meanErrorF := zero
  maeF := zero
  rmseF := zero
  maxAbsErrorF := zero
  matchedIdentitySha256 := provenanceDigest

/-- The forecast of the archive `previous`. -/
def archived : ForecastCalibrationEvidence := { forecast with captureContractId := "previous" }

theorem upper_otherStation : Stripped "KLGA" ∧ CaseMapping.asciiUpper.map "KLGA" = "KLGA" :=
  ⟨⟨by decide, by decide⟩, by decide⟩

def accepted : AcceptedReports :=
  okOr ([report "previous", report "hindcast"].foldlM (acceptReport documentHash "fc1") Dict.empty)
    Dict.empty

theorem build_archives : ∃ d, buildCalibrationDataset documentHash
    [(forecast, observation "KNYC"), (archived, observation "KLGA")] "fc1" "oc1"
    [report "previous", report "hindcast"] = .ok d := by
  have hprevious : Stripped "previous" := ⟨by decide, by decide⟩
  have hfirst := recordOfPair_sample accepted isHash_documents stripped_contracts.1
    (fun hn => hn.1 rfl) upper_station
  have hsecond := recordOfPair_sample accepted isHash_documents hprevious
    (by decide) upper_otherStation
  have hrecords : [(forecast, observation "KNYC"), (archived, observation "KLGA")].mapM
      (recordOfPair documentHash "fc1" "oc1" accepted) =
        .ok [record documentHash "fc1" "KNYC", record documentHash "previous" "KLGA"] := by
    rw [List.mapM_cons, List.mapM_cons, List.mapM_nil]
    exact bind_eq_ok.mpr ⟨_, hfirst, bind_eq_ok.mpr ⟨_, bind_eq_ok.mpr ⟨_, hsecond, rfl⟩, rfl⟩⟩
  obtain ⟨hashes, hhashes⟩ := exists_of_isOk (x := ((sortedSet
    ((ordered [record documentHash "fc1" "KNYC", record documentHash "previous" "KLGA"]).map
      (·.forecastCaptureContractId))).filter (· ≠ "fc1")).mapM (reportShaAt documentHash accepted))
    (by decide)
  obtain ⟨d, hd, -⟩ := exists_build stripped_contracts.1 stripped_contracts.2
    (eq_ok_okOr (by decide) _) hrecords (List.cons_ne_nil _ _) (by decide) hhashes
  exact ⟨d, hd⟩

end Sample

/-- Two stations and two archives, in both orders. -/
theorem buildCalibrationDataset_perm_stations : ∃ d d',
    buildCalibrationDataset Sample.documentHash
      [(Sample.forecast, Sample.observation "KNYC"), (Sample.archived, Sample.observation "KLGA")]
      "fc1" "oc1" [Sample.report "previous", Sample.report "hindcast"] = .ok d ∧
    buildCalibrationDataset Sample.documentHash
      [(Sample.archived, Sample.observation "KLGA"), (Sample.forecast, Sample.observation "KNYC")]
      "fc1" "oc1" [Sample.report "hindcast", Sample.report "previous"] = .ok d' ∧
    d.records = d'.records ∧ d.manifest = d'.manifest ∧
    d.manifest.datasetSha256 = d'.manifest.datasetSha256 ∧
    d.manifest.manifestSha256 Sample.documentHash = d'.manifest.manifestSha256 Sample.documentHash := by
  obtain ⟨d, hd⟩ := Sample.build_archives
  have hd' := build_eq_ok_of_perm (.swap ..) (.swap ..) hd
  exact ⟨d, d, hd, hd', (buildCalibrationDataset_perm _ _ _ _ _ (.swap ..) (.swap ..) _ _).2 d d hd hd'⟩

end WeatherBot.Forecasting
