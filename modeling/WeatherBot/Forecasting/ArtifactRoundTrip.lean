import WeatherBot.Common.SortKey
import WeatherBot.Forecasting.ArtifactLoader
import WeatherBot.Forecasting.FitOrder
import WeatherBot.Forecasting.RoundTrip

/-!
# Artifacts are read back

* `CalibrationGroup.Constructed`, `CalibrationArtifact.Constructed`: what the
  constructors accept; `CalibrationArtifact.Valid` is what they establish.
* `groupFromMapping_toMapping`, `artifactFromMapping_toMapping`: a group and an artifact
  are read back from their mappings, the artifact whatever other members the object has.
* `fromJson_toJson_and_checksum`: **an artifact that is constructed is read back from
  its text, and an accepted text states the checksum of the artifact that is read from
  it.** That need not be the checksum of the text's own payload, which may have further
  members (`not_checksum_of_payload`).
-/

namespace WeatherBot.Forecasting

open WeatherBot.Common
open WeatherBot.Domain
open WeatherBot.Persistence (Holds holds_sorted)
open CalibrationException (calibrationError)
open ArtifactField (optionalOf numberOf finiteNumber)

variable {F : Type} {rt : Runtime} {py : TextReaders} {f : Numerics CalibrationException F}

/-! ## What the constructors establish -/

theorem CalibrationGroupKey.valid_of_new {level : GroupLevel} {source : ForecastSource}
    {city climateRegion : Option String} {leadDays : Option ℤ} {season : Option Season}
    {k : CalibrationGroupKey} (h : new rt level source city climateRegion leadDays season = .ok k) :
    k.Valid rt := by
  have hplace : ∀ {place : Option String}, place.map rt.lower.normalize ≠ some "" →
      ∀ s ∈ place.map rt.lower.normalize, Stripped s ∧ rt.lower.map s = s := by
    intro place hne s hs
    obtain ⟨t, -, rfl⟩ := Option.map_eq_some_iff.mp hs
    refine ⟨⟨rt.lower.strip_normalize t, ?_⟩, ?_⟩
    · intro hempty
      exact hne (hs.trans (congrArg some hempty))
    · exact rt.lower.map_map _
  rw [new, raiseIf_bind_eq_ok, not_or] at h
  obtain ⟨hne, h⟩ := h
  obtain ⟨⟨hrange⟩, -, h⟩ := bind_eq_ok.mp h
  obtain ⟨⟨hdimensions⟩, -, h⟩ := bind_eq_ok.mp h
  obtain rfl := Except.ok.inj h
  exact ⟨hplace hne.1, hplace hne.2⟩

theorem CalibrationGroupKey.new_self {k : CalibrationGroupKey} (h : k.Valid rt) :
    new rt k.level k.forecastSource k.city k.climateRegion k.leadDays k.season = .ok k := by
  have hplace : ∀ {place : Option String}, (∀ s ∈ place, Stripped s ∧ rt.lower.map s = s) →
      place.map rt.lower.normalize = place ∧ place ≠ some "" := by
    rintro (- | s) hs
    · exact ⟨rfl, by rintro ⟨⟩⟩
    · obtain ⟨hstripped, hlower⟩ := hs s rfl
      refine ⟨?_, ?_⟩
      · rw [Option.map_some, CaseMapping.normalize, hstripped.1, hlower]
      · rintro ⟨⟩
        exact hstripped.2 rfl
  have hcity := hplace h.city
  have hregion := hplace h.climateRegion
  rw [new, hcity.1, hregion.1, raiseIf_of_not _ (not_or.mpr ⟨hcity.2, hregion.2⟩), ok_bind,
    ensure_bind_eq_ok]
  refine ⟨k.leadDays_range, ?_⟩
  rw [ensure_bind_eq_ok]
  exact ⟨k.dimensions, rfl⟩

/-- A group that the constructors accept, with its key and its diagnostics. -/
structure CalibrationGroup.Constructed (rt : Runtime) (f : Numerics CalibrationException F)
    (g : CalibrationGroup F) : Prop where
  key : ∃ city climateRegion, CalibrationGroupKey.new rt g.key.level g.key.forecastSource city
    climateRegion g.key.leadDays g.key.season = .ok g.key
  diagnostics : CalibrationDiagnostics.new f g.diagnostics = .ok g.diagnostics
  group : CalibrationGroup.new g = .ok g

/-- The diagnostics are finite. -/
theorem CalibrationDiagnostics.isFinite_of_new {d d' : CalibrationDiagnostics F}
    (h : new f d = .ok d') : f.isFinite d.jarqueBera = true ∧ f.isFinite d.normalityPValue = true ∧
      (∀ x ∈ d.normalSelectionCrps, f.isFinite x = true) ∧
      ∀ x ∈ d.empiricalSelectionCrps, f.isFinite x = true := by
  have hfinite : ∀ {x : F}, ¬ f.finiteNonneg x = false → f.isFinite x = true := by
    intro x hx
    rw [Bool.not_eq_false, Numerics.finiteNonneg, Bool.and_eq_true] at hx
    exact hx.1
  rw [new, check_bind_eq_ok, forM_eq_ok, raiseIf_bind_eq_ok, check_bind_eq_ok, forM_eq_ok] at h
  obtain ⟨hpair, -, hoptional, -⟩ := h
  simp only [List.forall_mem_cons, raiseIf_eq_ok, forM_eq_ok, Option.mem_toList] at hpair hoptional
  exact ⟨hfinite hpair.1, hfinite hpair.2.1, fun x hx => hfinite (hoptional.1 x hx),
    fun x hx => hfinite (hoptional.2.1 x hx)⟩

namespace CalibrationArtifact

/-- An artifact that the constructor accepts, of groups that are constructed. -/
def Constructed (rt : Runtime) (f : Numerics CalibrationException F) (a : CalibrationArtifact F) : Prop :=
  ∃ a₀ : CalibrationArtifact F, (∀ g ∈ a₀.groups, g.Constructed rt f) ∧ new rt a₀ = .ok a

/-- The fields of an artifact are as the constructor leaves them. -/
structure Valid (rt : Runtime) (a : CalibrationArtifact F) : Prop where
  schemaVersion : a.schemaVersion = 1
  modelVersion : Stripped a.modelVersion
  forecastContract : Stripped a.forecastContractId
  observationContract : Stripped a.observationContractId
  createdAt : utcOf a.createdAtUtc = .ok a.createdAtUtc
  training : ¬ dateKey a.trainingEnd < dateKey a.trainingStart
  cutoff : ¬ dateKey a.validationStart ≤ dateKey a.trainingEnd
  validation : ¬ dateKey a.validationEnd < dateKey a.validationStart
  datasetSha256 : IsHash rt a.datasetSha256
  minSampleCount : ¬ a.minSampleCount < 2
  groups_ne_nil : a.groups ≠ []
  distinct : (a.groups.map fun g => g.key.stableKey).Nodup
  trainingEnds : ¬ ∃ g ∈ a.groups, g.trainingEnd ≠ a.trainingEnd
  sorted : sortedGroups a.groups = a.groups

theorem perm_sortedGroups (groups : List (CalibrationGroup F)) : (sortedGroups groups).Perm groups :=
  List.perm_insertionSort _ groups

theorem sortedGroups_sortedGroups (groups : List (CalibrationGroup F)) :
    sortedGroups (sortedGroups groups) = sortedGroups groups := by
  refine List.Pairwise.insertionSort_eq ?_
  exact SortKey.pairwise_sort (fun g : CalibrationGroup F => g.key.stableKey) groups

theorem valid_of_new {a₀ a : CalibrationArtifact F} (h : new rt a₀ = .ok a) :
    a.Valid rt ∧ a.groups.Perm a₀.groups := by
  have hstripped : ∀ {s : String}, ¬ strip s = "" → Stripped (strip s) :=
    fun hs => ⟨strip_strip _, hs⟩
  rw [new, raiseIf_bind_eq_ok] at h
  obtain ⟨hschema, h⟩ := h
  dsimp only at h
  rw [raiseIf_bind_eq_ok, raiseIf_bind_eq_ok, raiseIf_bind_eq_ok] at h
  obtain ⟨hmodel, hforecast, hobservation, h⟩ := h
  obtain ⟨created, hcreated, h⟩ := bind_eq_ok.mp h
  rw [raiseIf_bind_eq_ok, raiseIf_bind_eq_ok, raiseIf_bind_eq_ok] at h
  obtain ⟨htraining, hcutoff, hvalidation, h⟩ := h
  obtain ⟨digest, hdigest, h⟩ := bind_eq_ok.mp h
  rw [raiseIf_bind_eq_ok, raiseIf_bind_eq_ok, raiseIf_bind_eq_ok, raiseIf_bind_eq_ok] at h
  obtain ⟨hcount, hgroups, hdistinct, hends, h⟩ := h
  have hperm := perm_sortedGroups a₀.groups
  obtain rfl := Except.ok.inj h
  refine ⟨?_, hperm⟩
  exact {
    schemaVersion := not_not.mp hschema
    modelVersion := hstripped hmodel
    forecastContract := hstripped hforecast
    observationContract := hstripped hobservation
    createdAt := utcOf_self hcreated
    training := htraining
    cutoff := hcutoff
    validation := hvalidation
    datasetSha256 := isHash_of_digestOr hdigest
    minSampleCount := hcount
    groups_ne_nil := fun hnil => hgroups (List.nil_perm.mp (hnil ▸ hperm))
    distinct := (hperm.map _).nodup_iff.mpr (not_not.mp hdistinct)
    trainingEnds := by
      rintro ⟨g, hg, hne⟩
      exact hends ⟨g, hperm.mem_iff.mp hg, hne⟩
    sorted := sortedGroups_sortedGroups a₀.groups }

theorem new_self {a : CalibrationArtifact F} (h : a.Valid rt) : new rt a = .ok a := by
  rw [new, raiseIf_of_not _ (not_not.mpr h.schemaVersion), ok_bind]
  dsimp only
  rw [h.modelVersion.1, h.forecastContract.1, h.observationContract.1,
    raiseIf_of_not _ h.modelVersion.2, ok_bind, raiseIf_of_not _ h.forecastContract.2, ok_bind,
    raiseIf_of_not _ h.observationContract.2, ok_bind, h.createdAt, ok_bind,
    raiseIf_of_not _ h.training, ok_bind, raiseIf_of_not _ h.cutoff, ok_bind,
    raiseIf_of_not _ h.validation, ok_bind, digestOr_self h.datasetSha256, ok_bind,
    raiseIf_of_not _ h.minSampleCount, ok_bind, raiseIf_of_not _ h.groups_ne_nil, ok_bind,
    raiseIf_of_not _ (not_not.mpr h.distinct), ok_bind, raiseIf_of_not _ h.trainingEnds, ok_bind,
    h.sorted]
  rfl

end CalibrationArtifact

/-! ## Members of a parsed object -/

/-- The texts of finite floats are read back. -/
def RoundTrips (f : Numerics CalibrationException F) : Prop :=
  ∀ x, f.isFinite x = true → Json.IsFloatText (f.repr x) ∧ f.ofText (f.repr x) = x

theorem optionalOf_of_ok {α : Type} {item : Json → String → Except CalibrationException α}
    {value : Json} {label : String} {a : α} (hvalue : value ≠ .null) (h : item value label = .ok a) :
    optionalOf item value label = .ok (some a) := by
  unfold optionalOf
  split
  · exact absurd rfl hvalue
  · rw [h]
    rfl

theorem numberOf_repr (hf : RoundTrips f) {x : F} (hx : f.isFinite x = true) (label : String) :
    numberOf f (.float (f.repr x)) label = .ok x := by
  rw [numberOf, (hf x hx).2, finiteNumber, raiseIf_of_not _ (by rw [hx]; decide), ok_bind]
  rfl

namespace ArtifactField

section Members

variable {data ms : List (String × Json)} (hd : Holds data ms)

include hd

theorem text_of_holds (key : String) {t : String} (ht : Stripped t) (h : (key, .str t) ∈ ms)
    (label : String) : textOf (getValue data key) label = .ok t := by
  rw [getValue_of_holds hd key h]
  exact textOr_self ht label _

theorem digest_of_holds (key : String) {t : String} (ht : IsHash rt t) (h : (key, .str t) ∈ ms)
    (label : String) : digestOf rt (getValue data key) label = .ok t := by
  rw [getValue_of_holds hd key h]
  exact digestOr_self ht label _ _

theorem date_of_holds (key : String) (d : Date) (h : (key, .str d.isoformat) ∈ ms) (label : String) :
    dateOf py (getValue data key) label = .ok d := by
  rw [dateOf, text_of_holds hd key (stripped_date d) h, ok_bind, TextReaders.readDate,
    Date.fromisoformat_isoformat]
  rfl

theorem timestamp_of_holds (key : String) {t : DateTime} (ht : utcOf t = .ok t)
    (h : (key, .str t.isoformat) ∈ ms) (label : String) :
    timestampOf py (getValue data key) label = .ok t := by
  rw [timestampOf, text_of_holds hd key (stripped_datetime t) h, ok_bind, replaceZulu_isoformat,
    TextReaders.readDatetime, DateTime.fromisoformat_isoformat]
  exact ht

theorem number_of_holds (hf : RoundTrips f) (key : String) {x : F} (hx : f.isFinite x = true)
    (h : (key, .float (f.repr x)) ∈ ms) (label : String) :
    numberOf f (getValue data key) label = .ok x := by
  rw [getValue_of_holds hd key h]
  exact numberOf_repr hf hx label

theorem optionalNumber_of_holds (hf : RoundTrips f) (key : String) {o : Option F}
    (ho : ∀ x ∈ o, f.isFinite x = true) (h : (key, CalibrationDiagnostics.optional f o) ∈ ms)
    (label : String) : optionalOf (numberOf f) (getValue data key) label = .ok o := by
  rw [getValue_of_holds hd key h]
  cases o with
  | none => rfl
  | some x => exact optionalOf_of_ok (by rintro ⟨⟩) (numberOf_repr hf (ho x rfl) label)

theorem optionalText_of_holds (key : String) {o : Option String} (ho : ∀ s ∈ o, Stripped s)
    (h : (key, CalibrationGroup.optionalText o) ∈ ms) (label : String) :
    optionalOf textOf (getValue data key) label = .ok o := by
  rw [getValue_of_holds hd key h]
  cases o with
  | none => rfl
  | some s => exact optionalOf_of_ok (by rintro ⟨⟩) (textOr_self (ho s rfl) label _)

theorem object_of_holds (key : String) {m : List (String × Json)} (h : (key, .obj m) ∈ ms)
    (label : String) :
    mappingOf (getValue data key) label = .ok (Json.sortMembers (Json.sortValues m)) := by
  rw [getValue_of_holds hd key h]
  rfl

end Members

end ArtifactField

/-! ## Groups -/

theorem stripped_level (l : GroupLevel) : Stripped l.value := by
  cases l <;> exact ⟨by decide, by decide⟩

theorem stripped_kind (k : DistributionKind) : Stripped k.value := by
  cases k <;> exact ⟨by decide, by decide⟩

theorem distributionFromMapping_toMapping (d : ResidualDistribution) {data : List (String × Json)}
    (hd : Holds data d.toMapping) : distributionFromMapping py data = .ok d := by
  unfold distributionFromMapping
  cases d with
  | normal d =>
    rw [ResidualDistribution.toMapping] at hd
    rw [member_of_holds hd "kind" (stripped_kind .normal) (DistributionKind.ofValue_value _)
      (by simp), ok_bind]
    dsimp only
    rw [decimal_of_holds hd "bias_f" d.biasF (by simp), ok_bind,
      decimal_of_holds hd "sigma_f" d.sigmaF (by simp), ok_bind,
      NormalResidualDistribution.new_self]
    rfl
  | empirical d =>
    rw [ResidualDistribution.toMapping] at hd
    have hitems : getValue data "residuals_f" =
        .arr (d.residualsF.map fun value => .str value.format) := by
      rw [getValue_of_holds hd "residuals_f" (v := .arr (d.residualsF.map fun value => .str value.format))
        (by simp), Json.sortKeys, Json.sortItems_eq_map, List.map_map]
      rfl
    have hread : (d.residualsF.map fun value => Json.str value.format).mapM
        (fun item => decimalOf py item "empirical residual") = .ok d.residualsF := by
      rw [List.mapM_map]
      refine mapM_eq_ok_self fun value _ => ?_
      rw [Function.comp_apply, decimalOf, finiteDecimal, TextReaders.readDecimal,
        Decimal.ofText_format]
      rfl
    rw [member_of_holds hd "kind" (stripped_kind .empirical) (DistributionKind.ofValue_value _)
      (by simp), ok_bind]
    dsimp only
    rw [hitems, sequenceOf, pure_eq_ok, ok_bind, hread, ok_bind,
      EmpiricalResidualDistribution.new_self]
    rfl

theorem diagnosticsFromMapping_toMapping (hf : RoundTrips f) {d : CalibrationDiagnostics F}
    (h : CalibrationDiagnostics.new f d = .ok d) {data : List (String × Json)}
    (hd : Holds data (d.toMapping f)) : diagnosticsFromMapping f data = .ok d := by
  obtain ⟨hjarque, hnormality, hnormal, hempirical⟩ := CalibrationDiagnostics.isFinite_of_new h
  rw [CalibrationDiagnostics.toMapping] at hd
  unfold diagnosticsFromMapping
  rw [ArtifactField.number_of_holds hd hf "jarque_bera" hjarque (by simp), ok_bind,
    ArtifactField.number_of_holds hd hf "normality_p_value" hnormality (by simp), ok_bind,
    ArtifactField.optionalNumber_of_holds hd hf "normal_selection_crps" hnormal (by simp), ok_bind,
    ArtifactField.optionalNumber_of_holds hd hf "empirical_selection_crps" hempirical (by simp), ok_bind]
  exact h

section Groups

variable (g : CalibrationGroup F)

theorem nodup_keys_distribution (d : ResidualDistribution) : (d.toMapping.map Prod.fst).Nodup := by
  cases d <;> simp [ResidualDistribution.toMapping]

theorem nodup_keys_diagnostics (d : CalibrationDiagnostics F) :
    ((d.toMapping f).map Prod.fst).Nodup := by
  simp [CalibrationDiagnostics.toMapping]

theorem nodup_keys_group : ((g.toMapping f).map Prod.fst).Nodup := by
  simp [CalibrationGroup.toMapping]

variable {g}

/-- **A group is read back from its mapping.** -/
theorem groupFromMapping_toMapping (hf : RoundTrips f) (h : g.Constructed rt f)
    {data : List (String × Json)} (hd : Holds data (g.toMapping f)) :
    groupFromMapping rt py f data = .ok g := by
  obtain ⟨city, climateRegion, hkey⟩ := h.key
  have hvalid := CalibrationGroupKey.valid_of_new hkey
  have hms := CalibrationGroup.toMapping.eq_1 f g
  have hlead : optionalOf integerOf (getValue data "lead_days") "group lead_days" =
      .ok g.key.leadDays := by
    cases hn : g.key.leadDays with
    | none => rw [getValue_of_holds hd "lead_days" (v := .null) (by simp [hms, hn])]; rfl
    | some n => rw [getValue_of_holds hd "lead_days" (v := .int n) (by simp [hms, hn])]; rfl
  have hseason : optionalOf
      (fun value label => memberOf Season.ofValue value label "unsupported calibration season")
      (getValue data "season") "group season" = .ok g.key.season := by
    rw [getValue_of_holds hd "season" (v := CalibrationGroup.optionalText (g.key.season.map Season.value))
      (by simp [hms])]
    cases g.key.season with
    | none => rfl
    | some s => cases s <;> rfl
  unfold groupFromMapping
  rw [member_of_holds hd "level" (stripped_level g.key.level) (GroupLevel.ofValue_value _) (by simp [hms]),
    ok_bind, member_of_holds hd "forecast_source" (stripped_forecastSource g.key.forecastSource)
      (ForecastSource.ofValue_value _) (by simp [hms]), ok_bind,
    ArtifactField.optionalText_of_holds hd "city" (fun s hs => (hvalid.city s hs).1) (by simp [hms]), ok_bind,
    ArtifactField.optionalText_of_holds hd "climate_region" (fun s hs => (hvalid.climateRegion s hs).1)
      (by simp [hms]), ok_bind, hlead, ok_bind, hseason, ok_bind,
    ArtifactField.object_of_holds hd "distribution" (m := g.distribution.toMapping) (by simp [hms]), ok_bind,
    distributionFromMapping_toMapping _ (holds_sorted (nodup_keys_distribution _)), ok_bind,
    ArtifactField.object_of_holds hd "diagnostics" (m := g.diagnostics.toMapping f) (by simp [hms]), ok_bind,
    diagnosticsFromMapping_toMapping hf h.diagnostics (holds_sorted (nodup_keys_diagnostics _)),
    ok_bind, CalibrationGroupKey.new_self hvalid, ok_bind,
    integer_of_holds hd "sample_count" g.sampleCount (by simp [hms]), ok_bind,
    ArtifactField.date_of_holds hd "training_end" g.trainingEnd (by simp [hms]), ok_bind]
  exact h.group

theorem parseGroup_toMapping (hf : RoundTrips f) (h : g.Constructed rt f) :
    parseGroup rt py f (Json.obj (g.toMapping f)).sortKeys = .ok g := by
  rw [parseGroup, Json.sortKeys, mappingOf, pure_eq_ok, ok_bind]
  exact groupFromMapping_toMapping hf h (holds_sorted (nodup_keys_group g))

end Groups

/-! ## Artifacts -/

section Artifacts

variable {a : CalibrationArtifact F}

theorem CalibrationArtifact.Constructed.valid (h : a.Constructed rt f) :
    a.Valid rt ∧ ∀ g ∈ a.groups, g.Constructed rt f := by
  obtain ⟨a₀, hgroups, hnew⟩ := h
  obtain ⟨hvalid, hperm⟩ := CalibrationArtifact.valid_of_new hnew
  exact ⟨hvalid, fun g hg => hgroups g (hperm.mem_iff.mp hg)⟩

/-- **An artifact is read back from an object that has the members of its payload**, and perhaps
others. -/
theorem artifactFromMapping_toMapping (py : TextReaders) (hf : RoundTrips f)
    (h : a.Constructed rt f) {data ms : List (String × Json)} (hd : Holds data ms)
    (hms : ∀ p ∈ a.payloadMapping f, p ∈ ms) : artifactFromMapping rt py f data = .ok a := by
  obtain ⟨hvalid, hgroups⟩ := h.valid
  rw [CalibrationArtifact.payloadMapping] at hms
  have hitems : getValue data "groups" =
      .arr (a.groups.map fun g => (Json.obj (g.toMapping f)).sortKeys) := by
    rw [getValue_of_holds hd "groups" (v := .arr (a.groups.map fun g => .obj (g.toMapping f)))
      (hms _ (by simp)), Json.sortKeys, Json.sortItems_eq_map, List.map_map]
    rfl
  have hread : (a.groups.map fun g => (Json.obj (g.toMapping f)).sortKeys).mapM
      (parseGroup rt py f) = .ok a.groups := by
    rw [List.mapM_map]
    exact mapM_eq_ok_self fun g hg => parseGroup_toMapping hf (hgroups g hg)
  unfold artifactFromMapping
  rw [integer_of_holds hd "schema_version" a.schemaVersion (hms _ (by simp)), ok_bind,
    ArtifactField.text_of_holds hd "model_version" hvalid.modelVersion (hms _ (by simp)), ok_bind,
    ArtifactField.timestamp_of_holds hd "created_at_utc" hvalid.createdAt (hms _ (by simp)), ok_bind,
    ArtifactField.text_of_holds hd "forecast_contract_id" hvalid.forecastContract
      (hms _ (by simp)), ok_bind,
    ArtifactField.text_of_holds hd "observation_contract_id" hvalid.observationContract
      (hms _ (by simp)), ok_bind,
    ArtifactField.date_of_holds hd "training_start" a.trainingStart (hms _ (by simp)), ok_bind,
    ArtifactField.date_of_holds hd "training_end" a.trainingEnd (hms _ (by simp)), ok_bind,
    ArtifactField.date_of_holds hd "validation_start" a.validationStart (hms _ (by simp)), ok_bind,
    ArtifactField.date_of_holds hd "validation_end" a.validationEnd (hms _ (by simp)), ok_bind,
    ArtifactField.digest_of_holds hd "dataset_sha256" hvalid.datasetSha256 (hms _ (by simp)), ok_bind,
    integer_of_holds hd "min_sample_count" a.minSampleCount (hms _ (by simp)), ok_bind, hitems,
    sequenceOf, pure_eq_ok, ok_bind, hread, ok_bind]
  exact CalibrationArtifact.new_self hvalid

/-- The envelope of a payload under the checksum of an artifact. -/
def envelopeOf (rt : Runtime) (f : Numerics CalibrationException F) (a : CalibrationArtifact F)
    (payload : List (String × Json)) : Json :=
  .obj [("artifact_sha256", .str (a.artifactSha256 f rt)), ("artifact", .obj payload)]

theorem readable_str (t : String) : (Json.str t).Readable := trivial

theorem readable_int (n : ℤ) : (Json.int n).Readable := trivial

theorem readable_float (hf : RoundTrips f) {x : F} (hx : f.isFinite x = true) :
    (Json.float (f.repr x)).Readable := (hf x hx).1

theorem readable_distribution (d : ResidualDistribution) : (Json.obj d.toMapping).Readable := by
  refine ⟨nodup_keys_distribution d, ?_⟩
  cases d with
  | normal d => simp only [ResidualDistribution.toMapping, Json.ReadableValues, readable_str, and_self]
  | empirical d =>
    have hitems : (Json.arr (d.residualsF.map fun value => .str value.format)).Readable := by
      rw [Json.Readable, Json.readableItems_iff, List.forall_mem_map]
      exact fun _ _ => trivial
    simp only [ResidualDistribution.toMapping, Json.ReadableValues, readable_str, hitems, and_self]

theorem readable_diagnostics (hf : RoundTrips f) {d : CalibrationDiagnostics F}
    (h : CalibrationDiagnostics.new f d = .ok d) : (Json.obj (d.toMapping f)).Readable := by
  obtain ⟨hjarque, hnormality, hnormal, hempirical⟩ := CalibrationDiagnostics.isFinite_of_new h
  have hoptional : ∀ {o : Option F}, (∀ x ∈ o, f.isFinite x = true) →
      (CalibrationDiagnostics.optional f o).Readable := by
    rintro (- | x) ho
    · trivial
    · exact readable_float hf (ho x rfl)
  refine ⟨nodup_keys_diagnostics d, ?_⟩
  simp only [CalibrationDiagnostics.toMapping, Json.ReadableValues, readable_float hf hjarque,
    readable_float hf hnormality, hoptional hnormal, hoptional hempirical, and_self]

theorem readable_group (hf : RoundTrips f) {g : CalibrationGroup F} (h : g.Constructed rt f) :
    (Json.obj (g.toMapping f)).Readable := by
  have htext : ∀ o, (CalibrationGroup.optionalText o).Readable := by
    rintro (- | s)
    · trivial
    · trivial
  refine ⟨nodup_keys_group g, ?_⟩
  simp only [CalibrationGroup.toMapping, Json.ReadableValues, readable_str, readable_int, htext,
    readable_distribution, readable_diagnostics hf h.diagnostics, true_and, and_true]
  cases g.key.leadDays with
  | none => trivial
  | some n => trivial

theorem readable_payload (hf : RoundTrips f) (h : a.Constructed rt f) :
    (Json.obj (a.payloadMapping f)).Readable := by
  have hgroups : (Json.arr (a.groups.map fun g => .obj (g.toMapping f))).Readable := by
    rw [Json.Readable, Json.readableItems_iff, List.forall_mem_map]
    exact fun g hg => readable_group hf (h.valid.2 g hg)
  refine ⟨by simp [CalibrationArtifact.payloadMapping], ?_⟩
  simp only [CalibrationArtifact.payloadMapping, Json.ReadableValues, readable_str, readable_int,
    hgroups, and_self]

theorem readable_envelopeOf {payload : List (String × Json)} (h : (Json.obj payload).Readable) :
    (envelopeOf rt f a payload).Readable := by
  refine ⟨by simp, ?_⟩
  simp only [Json.ReadableValues, readable_str, h, and_self]

/-- Such an envelope is read, and its payload has the canonical text of the one that was written. -/
theorem loads_envelopeOf {payload : List (String × Json)} (h : (Json.obj payload).Readable) :
    ∃ envelope payload', Json.loadsWith Json.lastValues ((envelopeOf rt f a payload).dumpsIndent ++ "\n") =
        some (.obj envelope) ∧ Holds payload' payload ∧
      getValue envelope "artifact_sha256" = .str (a.artifactSha256 f rt) ∧
      getValue envelope "artifact" = .obj payload' ∧
      (Json.obj payload').dumps = (Json.obj payload).dumps := by
  have hreadable : (envelopeOf rt f a payload).Readable := readable_envelopeOf h
  have hd := holds_sorted hreadable.1
  have hloads := Json.loadsWith_dumpsIndent Json.keeps_lastValues hreadable "\n" (.inr rfl)
  rw [Json.Readable] at h
  refine ⟨_, _, hloads, holds_sorted h.1, ?_, ?_, Json.dumps_sortKeys (.obj payload)⟩
  · exact getValue_of_holds hd "artifact_sha256" (v := .str (a.artifactSha256 f rt)) (by simp)
  · exact getValue_of_holds hd "artifact" (v := .obj payload) (by simp)

/-- **A text is accepted if its payload has the members of an artifact's payload under the
artifact's checksum**: that artifact is read. -/
theorem fromJson_envelopeOf (py : TextReaders) (hsha : ∀ s, IsHash rt (rt.sha256 s))
    (hf : RoundTrips f) (h : a.Constructed rt f) {payload : List (String × Json)}
    (hreadable : (Json.obj payload).Readable) (hms : ∀ p ∈ a.payloadMapping f, p ∈ payload) :
    calibrationArtifactFromJson rt py f ((envelopeOf rt f a payload).dumpsIndent ++ "\n") = .ok a := by
  obtain ⟨envelope, payload', hloads, hd, hstated, hpayload, -⟩ :=
    @loads_envelopeOf _ rt f a payload hreadable
  have hdigest : ArtifactField.digestOf rt (.str (a.artifactSha256 f rt)) "artifact checksum" =
      .ok (a.artifactSha256 f rt) := digestOr_self (hsha _) _ _ _
  rw [calibrationArtifactFromJson, hloads]
  dsimp only
  rw [mappingOf, pure_eq_ok, ok_bind, artifactFromEnvelope, hstated, hdigest, ok_bind, hpayload,
    mappingOf, pure_eq_ok, ok_bind, artifactFromMapping_toMapping py hf h hd hms, ok_bind,
    raiseIf_of_not _ (not_not.mpr rfl), ok_bind]
  rfl

/-- **An artifact that is constructed is read back from its text.** -/
theorem fromJson_toJson (py : TextReaders) (hsha : ∀ s, IsHash rt (rt.sha256 s)) (hf : RoundTrips f)
    (h : a.Constructed rt f) : calibrationArtifactFromJson rt py f (a.toJson f rt) = .ok a :=
  fromJson_envelopeOf py hsha hf h (readable_payload hf h) fun _ hp => hp

end Artifacts

/-- A digest that is read is the stripped text in lower case. -/
theorem ArtifactField.digestOf_eq_ok {value : Json} {label text : String}
    (h : ArtifactField.digestOf rt value label = .ok text) :
    ∃ stated, value = .str stated ∧ rt.lower.normalize stated = text := by
  cases value with
  | str stated =>
    rw [ArtifactField.digestOf, digestOr, bind_eq_ok] at h
    obtain ⟨t, ht, h⟩ := h
    obtain ⟨-, h⟩ := raiseIf_bind_eq_ok.mp h
    obtain ⟨-, rfl⟩ := textOr_eq_ok.mp ht
    exact ⟨stated, rfl, Except.ok.inj h⟩
  | null => cases h
  | bool b => cases h
  | int n => cases h
  | float t => cases h
  | arr items => cases h
  | obj members => cases h

theorem mappingOf_eq_ok {value : Json} {label : String} {members : List (String × Json)}
    (h : mappingOf value label = .ok members) : value = .obj members := by
  cases value with
  | obj ms => rw [Except.ok.inj h]
  | null => cases h
  | bool b => cases h
  | int n => cases h
  | float t => cases h
  | str s => cases h
  | arr items => cases h

/-- **An accepted text states the checksum of the artifact that is read from its payload.** -/
theorem checksum_of_fromJson {text : String} {a : CalibrationArtifact F}
    (h : calibrationArtifactFromJson rt py f text = .ok a) :
    ∃ envelope stated payload, Json.loadsWith Json.lastValues text = some (.obj envelope) ∧
      getValue envelope "artifact_sha256" = .str stated ∧
      getValue envelope "artifact" = .obj payload ∧ artifactFromMapping rt py f payload = .ok a ∧
      rt.lower.normalize stated = a.artifactSha256 f rt := by
  unfold calibrationArtifactFromJson at h
  split at h
  · cases h
  · rename_i decoded hloads
    obtain ⟨envelope, henvelope, hread⟩ := bind_eq_ok.mp h
    obtain rfl := mappingOf_eq_ok henvelope
    obtain ⟨expected, hexpected, h⟩ := bind_eq_ok.mp hread
    obtain ⟨payload, hpayload, h⟩ := bind_eq_ok.mp h
    obtain ⟨artifact, hartifact, h⟩ := bind_eq_ok.mp h
    obtain ⟨hsha, h⟩ := raiseIf_bind_eq_ok.mp h
    obtain rfl := Except.ok.inj h
    obtain ⟨stated, hstated, rfl⟩ := ArtifactField.digestOf_eq_ok hexpected
    exact ⟨envelope, stated, payload, hloads, hstated, mappingOf_eq_ok hpayload, hartifact,
      (not_not.mp hsha).symm⟩

/-! ## Whole texts -/

/-- **The round trip, and the checksum of an accepted text.** An artifact that is constructed is
read back from its text, and the result has the same text; a text that is accepted states, up to
white space and case, the checksum of the artifact that its payload is read as. -/
theorem fromJson_toJson_and_checksum (rt : Runtime) (py : TextReaders)
    (f : Numerics CalibrationException F) (hsha : ∀ s, IsHash rt (rt.sha256 s)) (hf : RoundTrips f) :
    (∀ a : CalibrationArtifact F, a.Constructed rt f →
      ∃ a', calibrationArtifactFromJson rt py f (a.toJson f rt) = .ok a' ∧ a' = a ∧
        a'.toJson f rt = a.toJson f rt) ∧
    ∀ (text : String) (a : CalibrationArtifact F),
      calibrationArtifactFromJson rt py f text = .ok a →
      ∃ envelope stated payload, Json.loadsWith Json.lastValues text = some (.obj envelope) ∧
        getValue envelope "artifact_sha256" = .str stated ∧
        getValue envelope "artifact" = .obj payload ∧ artifactFromMapping rt py f payload = .ok a ∧
        rt.lower.normalize stated = a.artifactSha256 f rt := by
  constructor
  · intro a h
    exact ⟨a, fromJson_toJson py hsha hf h, rfl, rfl⟩
  · intro text a h
    exact checksum_of_fromJson h

namespace ArtifactSample

/-- Numbers whose texts are read back: the finite ones are 0 and 1. -/
def numerics : Numerics CalibrationException ℚ :=
  { FitSample.numerics with
    repr := fun x => if x = 0 then "0.0" else "1.0"
    isFinite := fun x => decide (x = 0 ∨ x = 1) }

theorem roundTrips_numerics : RoundTrips numerics := by
  intro x hx
  rcases of_decide_eq_true hx with rfl | rfl
  · exact ⟨by rfl, by decide +kernel⟩
  · exact ⟨by rfl, by decide +kernel⟩

/-- A normal distribution of the city's winter days and an empirical one of its source. -/
def artifact : CalibrationArtifact ℚ where
  modelVersion := "v3"
  createdAtUtc := FitSample.request.createdAtUtc
  forecastContractId := "f"
  observationContractId := "o"
  trainingStart := FitSample.request.trainingStart
  trainingEnd := FitSample.request.trainingEnd
  validationStart := FitSample.request.validationStart
  validationEnd := FitSample.request.validationEnd
  datasetSha256 := FitSample.digest
  minSampleCount := 2
  groups := [{
    key := ⟨.citySourceLeadSeason, .openMeteoEcmwfIfs025, some "nyc", none, some 1, some .djf,
      by decide, by decide⟩
    sampleCount := 3
    distribution := .normal ⟨⟨true, 5, 1⟩, ⟨false, 125, 2⟩, by decide⟩
    trainingEnd := FitSample.request.trainingEnd
    diagnostics := ⟨0, 1, none, some 1⟩ }, {
    key := ⟨.source, .openMeteoEcmwfIfs025, none, none, none, none, by decide, by decide⟩
    sampleCount := 4
    distribution := .empirical ⟨[⟨true, 10, 1⟩, ⟨true, 1, 0⟩, ⟨false, 25, 1⟩], by decide, by decide⟩
    trainingEnd := FitSample.request.trainingEnd
    diagnostics := ⟨1, 0, some 0, none⟩ }]
  schemaVersion := 1

/-- The payload of the artifact with one more member. -/
def commented : List (String × Json) := ("comment", .null) :: artifact.payloadMapping numerics

def artifactDigest : String := "6f153bd8fad4183af6ced19c9ea071c7553694c80f20ba218399c01b9216ba53"

def commentedDigest : String := "31877c103fdcd63bbb5d4457579fdadb2ae5b5d807fddeff297a8e0bd6c44a3e"

/-- A runtime that hashes the two payloads, told apart by their first key. -/
def hashes : Runtime :=
  { Runtime.utc with
    sha256 := fun s =>
      if (s.toList.drop 3).head? = some 'o' then commentedDigest else artifactDigest }

theorem isHash_hashes (s : String) : IsHash hashes (hashes.sha256 s) := by
  show IsHash hashes (if (s.toList.drop 3).head? = some 'o' then commentedDigest else artifactDigest)
  split_ifs
  · exact isHash_ofList rfl rfl (by decide)
  · exact isHash_ofList rfl rfl (by decide)

theorem sha256_dumps (v : Json) : hashes.sha256 v.dumps =
    if (v.sortKeys.write.drop 3).head? = some 'o' then commentedDigest else artifactDigest := by
  show (if (v.dumps.toList.drop 3).head? = some 'o' then commentedDigest else artifactDigest) = _
  rw [Json.dumps, String.toList_ofList]

theorem constructed_artifact : artifact.Constructed hashes numerics := by
  refine ⟨artifact, ?_, by decide +kernel⟩
  have hcity : ∃ city climateRegion, CalibrationGroupKey.new hashes .citySourceLeadSeason
      .openMeteoEcmwfIfs025 city climateRegion (some 1) (some .djf) =
      .ok ⟨.citySourceLeadSeason, .openMeteoEcmwfIfs025, some "nyc", none, some 1, some .djf,
        by decide, by decide⟩ := ⟨some " NYC", none, by decide⟩
  have hsource : ∃ city climateRegion, CalibrationGroupKey.new hashes .source
      .openMeteoEcmwfIfs025 city climateRegion none none =
      .ok ⟨.source, .openMeteoEcmwfIfs025, none, none, none, none, by decide, by decide⟩ :=
    ⟨none, none, by decide⟩
  rw [artifact]
  simp only [List.forall_mem_cons]
  refine ⟨⟨hcity, by decide +kernel, by decide +kernel⟩,
    ⟨hsource, by decide +kernel, by decide +kernel⟩, by rintro _ ⟨⟩⟩

end ArtifactSample

open ArtifactSample in
/-- The text of the sample is read back, and states its checksum. -/
theorem fromJson_toJson_and_checksum_sample :
    (∃ a', calibrationArtifactFromJson hashes Sample.noTexts numerics (artifact.toJson numerics hashes) =
      .ok a' ∧ a' = artifact ∧ a'.toJson numerics hashes = artifact.toJson numerics hashes) ∧
    ∃ envelope stated payload,
      Json.loadsWith Json.lastValues (artifact.toJson numerics hashes) = some (.obj envelope) ∧
      getValue envelope "artifact_sha256" = .str stated ∧
      getValue envelope "artifact" = .obj payload ∧
      artifactFromMapping hashes Sample.noTexts numerics payload = .ok artifact ∧
      hashes.lower.normalize stated = artifact.artifactSha256 numerics hashes := by
  obtain ⟨hread, hchecksum⟩ := fromJson_toJson_and_checksum hashes Sample.noTexts numerics
    isHash_hashes roundTrips_numerics
  obtain ⟨a', ha', rfl, htext⟩ := hread artifact constructed_artifact
  exact ⟨⟨artifact, ha', rfl, htext⟩, hchecksum _ artifact ha'⟩

open ArtifactSample in
/-- A payload with a further member is accepted under the checksum of the payload without it. -/
theorem not_checksum_of_payload : ¬ ∀ (text : String) (a : CalibrationArtifact ℚ)
    (envelope payload : List (String × Json)) (stated : String),
    calibrationArtifactFromJson hashes Sample.noTexts numerics text = .ok a →
    Json.loadsWith Json.lastValues text = some (.obj envelope) →
    getValue envelope "artifact_sha256" = .str stated → getValue envelope "artifact" = .obj payload →
    hashes.sha256 (Json.obj payload).dumps = hashes.lower.normalize stated := by
  intro hall
  have hreadable : (Json.obj commented).Readable := by
    have hpayload := readable_payload roundTrips_numerics constructed_artifact
    rw [Json.Readable] at hpayload
    refine ⟨?_, trivial, hpayload.2⟩
    simp [commented, CalibrationArtifact.payloadMapping]
  have hread := fromJson_envelopeOf Sample.noTexts isHash_hashes roundTrips_numerics
    constructed_artifact hreadable fun p hp => List.mem_cons_of_mem _ hp
  obtain ⟨envelope, payload, hloads, -, hstated, hpayload, hdumps⟩ :=
    @loads_envelopeOf _ hashes numerics artifact commented hreadable
  have hsame := hall _ artifact envelope payload _ hread hloads hstated hpayload
  have hfirst : ((Json.obj commented).sortKeys.write.drop 3).head? = some 'o' := by decide +kernel
  have hother : ¬ ((Json.obj (artifact.payloadMapping numerics)).sortKeys.write.drop 3).head? =
      some 'o' := by decide +kernel
  rw [hdumps, CalibrationArtifact.artifactSha256, sha256_dumps, sha256_dumps, if_pos hfirst,
    if_neg hother] at hsame
  revert hsame
  decide +kernel

end WeatherBot.Forecasting
