import WeatherBot.Domain.Events

/-!
# Canonical content

Every field of an event enters its canonical form, so two events with one
canonical form are one event.

* `LedgerEvent.canonical_inj`: the canonical form determines the event.
* `Runtime.CollisionFree`: the hash of canonical JSON has no collisions.
* `fingerprint_inj`: then the fingerprint determines the event.
-/

namespace WeatherBot.Domain

open WeatherBot.Common
open WeatherBot.Common.Json

/-! ## Texts of values -/

theorem isoformat_inj {a b : DateTime} (h : a.isoformat = b.isoformat) : a = b := by
  have := congrArg DateTime.fromisoformat h
  rwa [DateTime.fromisoformat_isoformat, DateTime.fromisoformat_isoformat, Option.some.injEq] at this

theorem Date.isoformat_inj {a b : Date} (h : a.isoformat = b.isoformat) : a = b := by
  have := congrArg Date.fromisoformat h
  rwa [Date.fromisoformat_isoformat, Date.fromisoformat_isoformat, Option.some.injEq] at this

theorem Side.value_inj {a b : Side} (h : a.value = b.value) : a = b := by
  have := congrArg Side.ofValue h
  rwa [Side.ofValue_value, Side.ofValue_value, Option.some.injEq] at this

theorem ResolutionEvidenceStatus.value_inj {a b : ResolutionEvidenceStatus}
    (h : a.value = b.value) : a = b := by
  have := congrArg ResolutionEvidenceStatus.ofValue h
  rwa [ResolutionEvidenceStatus.ofValue_value, ResolutionEvidenceStatus.ofValue_value,
    Option.some.injEq] at this

theorem ObservationEvidenceStatus.value_inj {a b : ObservationEvidenceStatus}
    (h : a.value = b.value) : a = b := by
  have := congrArg ObservationEvidenceStatus.ofValue h
  rwa [ObservationEvidenceStatus.ofValue_value, ObservationEvidenceStatus.ofValue_value,
    Option.some.injEq] at this

theorem sortKeys_optionalText (o : Option String) : (optionalText o).sortKeys = optionalText o := by
  cases o <;> rfl

theorem optionalText_inj {a b : Option String} (h : optionalText a = optionalText b) : a = b := by
  cases a <;> cases b <;> simp_all [optionalText]

theorem map_isoformat_inj {a b : Option DateTime}
    (h : a.map DateTime.isoformat = b.map DateTime.isoformat) : a = b :=
  Option.map_injective (fun _ _ => isoformat_inj) h

/-- Lists are equal when their canonical forms are, item by item. -/
theorem map_canonical_inj {α : Type} {f : α → Json}
    (hf : ∀ a b, (f a).sortKeys = (f b).sortKeys → a = b) :
    ∀ {l l' : List α}, sortItems (l.map f) = sortItems (l'.map f) → l = l'
  | [], [], _ => rfl
  | [], _ :: _, h => by cases h
  | _ :: _, [], h => by cases h
  | a :: l, b :: l', h => by
    simp only [List.map_cons, sortItems, List.cons.injEq] at h
    rw [hf a b h.1, map_canonical_inj hf h.2]

/-! ## Records -/

theorem Money.canonical_inj {a b : Money} (h : a.canonical.sortKeys = b.canonical.sortKeys) :
    a = b := by
  have h := sortValues_of_sortKeys_eq h rfl (by simp)
  simp only [sortValues, sortKeys, List.cons.injEq, Prod.mk.injEq, str.injEq, true_and,
    and_true] at h
  exact Money.ext (Micros.text_inj h.1) h.2

theorem OutcomePayout.canonical_inj {a b : OutcomePayout}
    (h : a.canonical.sortKeys = b.canonical.sortKeys) : a = b := by
  have h := sortValues_of_sortKeys_eq h rfl (by simp)
  simp only [sortValues, sortKeys, List.cons.injEq, Prod.mk.injEq, str.injEq, true_and,
    and_true] at h
  exact OutcomePayout.ext h.1 (Micros.text_inj h.2)

theorem OrderIntent.canonical_inj {a b : OrderIntent}
    (h : a.canonical.sortKeys = b.canonical.sortKeys) : a = b := by
  have h := sortValues_of_sortKeys_eq h rfl (by simp)
  simp only [sortValues, sortKeys, List.cons.injEq, Prod.mk.injEq, str.injEq, true_and,
    and_true] at h
  obtain ⟨h1, h2, h3, h4, h5, h6, h7, h8, h9, h10⟩ := h
  cases a
  cases b
  simp only [OrderIntent.mk.injEq]
  exact ⟨h1, h2, h3, h4, h5, Side.value_inj h6, Micros.text_inj h7, Micros.text_inj h8,
    Money.canonical_inj h9, isoformat_inj h10⟩

theorem MarketResolution.canonical_inj {a b : MarketResolution}
    (h : a.canonical.sortKeys = b.canonical.sortKeys) : a = b := by
  have h := sortValues_of_sortKeys_eq h rfl (by simp)
  simp only [sortValues, sortKeys, List.cons.injEq, Prod.mk.injEq, str.injEq, arr.injEq, true_and,
    and_true] at h
  obtain ⟨h1, h2, h3⟩ := h
  cases a
  cases b
  simp only [MarketResolution.mk.injEq]
  exact ⟨h1, map_canonical_inj (fun _ _ => OutcomePayout.canonical_inj) h2, isoformat_inj h3⟩

theorem MarketResolutionEvidence.canonical_inj {a b : MarketResolutionEvidence}
    (h : a.canonical.sortKeys = b.canonical.sortKeys) : a = b := by
  have h := sortValues_of_sortKeys_eq h rfl (by simp)
  simp only [sortValues, sortKeys, List.cons.injEq, Prod.mk.injEq, str.injEq, arr.injEq, true_and,
    and_true] at h
  obtain ⟨h1, h2, h3, h4, h5, h6, h7, h8, h9, h10, h11, h12, h13⟩ := h
  cases a
  cases b
  simp only [MarketResolutionEvidence.mk.injEq]
  exact ⟨h1, h2, h3, h4, h5, isoformat_inj h6, isoformat_inj h7, Date.isoformat_inj h8, h9,
    ResolutionEvidenceStatus.value_inj h10, h11,
    map_canonical_inj (fun _ _ => OutcomePayout.canonical_inj) h12, h13⟩

theorem WeatherObservationEvidence.canonical_inj {a b : WeatherObservationEvidence}
    (h : a.canonical.sortKeys = b.canonical.sortKeys) : a = b := by
  have h := sortValues_of_sortKeys_eq h rfl (by simp)
  simp only [sortValues, sortKeys, sortKeys_optionalText, List.cons.injEq, Prod.mk.injEq,
    str.injEq, true_and, and_true] at h
  obtain ⟨h1, h2, h3, h4, h5, h6, h7, h8, h9, h10, h11, h12, h13, h14, h15⟩ := h
  cases a
  cases b
  simp only [WeatherObservationEvidence.mk.injEq]
  exact ⟨h1, h2, h3, h4, h5, Date.isoformat_inj h6, h7, Decimal.format_inj h8, h9,
    isoformat_inj h10, map_isoformat_inj (optionalText_inj h11), h12,
    ObservationEvidenceStatus.value_inj h13, h14, optionalText_inj h15⟩

theorem RiskScope.canonical_inj {a b : RiskScope}
    (h : a.canonical.sortKeys = b.canonical.sortKeys) : a = b := by
  have h := sortValues_of_sortKeys_eq h rfl (by simp)
  simp only [sortValues, sortKeys, sortItems_map_str, List.cons.injEq, Prod.mk.injEq, str.injEq,
    arr.injEq, true_and, and_true] at h
  obtain ⟨h1, h2, h3, h4, h5, h6⟩ := h
  cases a
  cases b
  simp only [RiskScope.mk.injEq]
  exact ⟨h1, h2, h3, h4, Date.isoformat_inj h5, List.map_injective_iff.mpr (fun _ _ => str.inj) h6⟩

theorem PositionValuation.canonical_inj {a b : PositionValuation}
    (h : a.canonical.sortKeys = b.canonical.sortKeys) : a = b := by
  have h := sortValues_of_sortKeys_eq h rfl (by simp)
  simp only [sortValues, sortKeys, List.cons.injEq, Prod.mk.injEq, str.injEq, true_and,
    and_true] at h
  obtain ⟨h1, h2, h3, h4, h5⟩ := h
  cases a
  cases b
  simp only [PositionValuation.mk.injEq]
  exact ⟨h1, h2, Micros.text_inj h3, Money.canonical_inj h4, isoformat_inj h5⟩

theorem PortfolioValuation.canonical_inj {a b : PortfolioValuation}
    (h : a.canonical.sortKeys = b.canonical.sortKeys) : a = b := by
  have h := sortValues_of_sortKeys_eq h rfl (by simp)
  simp only [sortValues, sortKeys, List.cons.injEq, Prod.mk.injEq, str.injEq, arr.injEq, true_and,
    and_true] at h
  obtain ⟨h1, h2, h3, h4⟩ := h
  cases a
  cases b
  simp only [PortfolioValuation.mk.injEq]
  exact ⟨map_canonical_inj (fun _ _ => PositionValuation.canonical_inj) h1, Money.canonical_inj h2,
    isoformat_inj h3, h4⟩

/-! ## Events -/

namespace LedgerEvent

/-- The class of an event. -/
def className : LedgerEvent → String
  | accountOpened _ => "AccountOpened"
  | orderIntentCreated _ => "OrderIntentCreated"
  | orderSubmitted _ => "OrderSubmitted"
  | orderAcknowledged _ => "OrderAcknowledged"
  | fillReceived _ => "FillReceived"
  | orderRejected _ => "OrderRejected"
  | orderCancelled _ => "OrderCancelled"
  | orderOutcomeUnknown _ => "OrderOutcomeUnknown"
  | weatherObservationRecorded _ => "WeatherObservationRecorded"
  | marketResolutionEvidenceRecorded _ => "MarketResolutionEvidenceRecorded"
  | marketResolved _ => "MarketResolved"
  | positionSettled _ => "PositionSettled"
  | riskScopeRegistered _ => "RiskScopeRegistered"
  | portfolioValuationRecorded _ => "PortfolioValuationRecorded"

/-- The canonical form names the class, and no key comes twice. -/
theorem canonical_eq (e : LedgerEvent) :
    ∃ fields, e.canonical = .obj (("__type__", .str ("weatherbot.domain.events." ++ e.className)) ::
      fields) ∧ (("__type__" :: fields.map Prod.fst).Nodup) := by
  cases e <;> exact ⟨_, rfl, by simp⟩

theorem className_of_canonical {a b : LedgerEvent}
    (h : a.canonical.sortKeys = b.canonical.sortKeys) : a.className = b.className := by
  obtain ⟨fa, ha, -⟩ := a.canonical_eq
  obtain ⟨fb, hb, hnd⟩ := b.canonical_eq
  rw [ha, hb] at h
  have := member_of_sortKeys_eq h hnd (List.mem_cons_self ..) (List.mem_cons_self ..)
  simp only [sortKeys, str.injEq] at this
  exact (String.append_right_inj _).mp this

/-- The canonical form of an event's base and of its own fields. -/
theorem base_canonical_inj {a b : DomainEvent} {className : String}
    {fields fields' : List (String × Json)}
    (h : (a.canonical className fields).sortKeys = (b.canonical className fields').sortKeys)
    (hk : fields.map Prod.fst = fields'.map Prod.fst)
    (hnd : ("__type__" :: "event_id" :: "occurred_at" :: fields.map Prod.fst).Nodup) :
    a = b ∧ sortValues fields = sortValues fields' := by
  have hkeys : (("__type__", str ("weatherbot.domain.events." ++ className)) ::
      ("event_id", str a.eventId) :: ("occurred_at", str a.occurredAt.isoformat) :: fields).map
        Prod.fst =
      (("__type__", str ("weatherbot.domain.events." ++ className)) ::
        ("event_id", str b.eventId) :: ("occurred_at", str b.occurredAt.isoformat) :: fields').map
        Prod.fst := by
    simp only [List.map_cons, hk]
  have h := sortValues_of_sortKeys_eq h hkeys hnd
  simp only [sortValues, sortKeys, List.cons.injEq, Prod.mk.injEq, str.injEq, true_and] at h
  obtain ⟨hid, htime, hfields⟩ := h
  refine ⟨?_, hfields⟩
  cases a
  cases b
  simp only [DomainEvent.mk.injEq]
  exact ⟨hid, isoformat_inj htime⟩

/-- **The canonical form determines the event.** -/
theorem canonical_inj {a b : LedgerEvent} (h : a.canonical.sortKeys = b.canonical.sortKeys) :
    a = b := by
  have hclass := className_of_canonical h
  cases a with
  | accountOpened a =>
    cases b <;> simp [className] at hclass
    rename_i b
    obtain ⟨hbase, hf⟩ := base_canonical_inj h rfl (by simp)
    simp only [sortValues, List.cons.injEq, Prod.mk.injEq, true_and, and_true] at hf
    cases a
    cases b
    simp only [accountOpened.injEq, AccountOpened.mk.injEq]
    exact ⟨hbase, Money.canonical_inj hf⟩
  | orderIntentCreated a =>
    cases b <;> simp [className] at hclass
    rename_i b
    obtain ⟨hbase, hf⟩ := base_canonical_inj h rfl (by simp)
    simp only [sortValues, List.cons.injEq, Prod.mk.injEq, true_and, and_true] at hf
    cases a
    cases b
    simp only [orderIntentCreated.injEq, OrderIntentCreated.mk.injEq]
    exact ⟨hbase, OrderIntent.canonical_inj hf⟩
  | orderSubmitted a =>
    cases b <;> simp [className] at hclass
    rename_i b
    obtain ⟨hbase, hf⟩ := base_canonical_inj h rfl (by simp)
    simp only [sortValues, sortKeys, str.injEq, List.cons.injEq, Prod.mk.injEq, true_and,
      and_true] at hf
    cases a
    cases b
    simp only [orderSubmitted.injEq, OrderSubmitted.mk.injEq]
    exact ⟨hbase, hf⟩
  | orderAcknowledged a =>
    cases b <;> simp [className] at hclass
    rename_i b
    obtain ⟨hbase, hf⟩ := base_canonical_inj h rfl (by simp)
    simp only [sortValues, sortKeys, str.injEq, List.cons.injEq, Prod.mk.injEq, true_and,
      and_true] at hf
    cases a
    cases b
    simp only [orderAcknowledged.injEq, OrderAcknowledged.mk.injEq]
    exact ⟨hbase, hf⟩
  | fillReceived a =>
    cases b <;> simp [className] at hclass
    rename_i b
    obtain ⟨hbase, hf⟩ := base_canonical_inj h rfl (by simp)
    simp only [sortValues, sortKeys, str.injEq, List.cons.injEq, Prod.mk.injEq, true_and,
      and_true] at hf
    obtain ⟨h1, h2, h3, h4, h5⟩ := hf
    cases a
    cases b
    simp only [fillReceived.injEq, FillReceived.mk.injEq]
    exact ⟨hbase, h1, h2, Micros.text_inj h3, Micros.text_inj h4, Money.canonical_inj h5⟩
  | orderRejected a =>
    cases b <;> simp [className] at hclass
    rename_i b
    obtain ⟨hbase, hf⟩ := base_canonical_inj h rfl (by simp)
    simp only [sortValues, sortKeys, str.injEq, List.cons.injEq, Prod.mk.injEq, true_and,
      and_true] at hf
    cases a
    cases b
    simp only [orderRejected.injEq, OrderRejected.mk.injEq]
    exact ⟨hbase, hf⟩
  | orderCancelled a =>
    cases b <;> simp [className] at hclass
    rename_i b
    obtain ⟨hbase, hf⟩ := base_canonical_inj h rfl (by simp)
    simp only [sortValues, sortKeys, str.injEq, List.cons.injEq, Prod.mk.injEq, true_and,
      and_true] at hf
    cases a
    cases b
    simp only [orderCancelled.injEq, OrderCancelled.mk.injEq]
    exact ⟨hbase, hf⟩
  | orderOutcomeUnknown a =>
    cases b <;> simp [className] at hclass
    rename_i b
    obtain ⟨hbase, hf⟩ := base_canonical_inj h rfl (by simp)
    simp only [sortValues, sortKeys, str.injEq, List.cons.injEq, Prod.mk.injEq, true_and,
      and_true] at hf
    cases a
    cases b
    simp only [orderOutcomeUnknown.injEq, OrderOutcomeUnknown.mk.injEq]
    exact ⟨hbase, hf⟩
  | weatherObservationRecorded a =>
    cases b <;> simp [className] at hclass
    rename_i b
    obtain ⟨hbase, hf⟩ := base_canonical_inj h rfl (by simp)
    simp only [sortValues, List.cons.injEq, Prod.mk.injEq, true_and, and_true] at hf
    cases a
    cases b
    simp only [weatherObservationRecorded.injEq, WeatherObservationRecorded.mk.injEq]
    exact ⟨hbase, WeatherObservationEvidence.canonical_inj hf⟩
  | marketResolutionEvidenceRecorded a =>
    cases b <;> simp [className] at hclass
    rename_i b
    obtain ⟨hbase, hf⟩ := base_canonical_inj h rfl (by simp)
    simp only [sortValues, List.cons.injEq, Prod.mk.injEq, true_and, and_true] at hf
    cases a
    cases b
    simp only [marketResolutionEvidenceRecorded.injEq, MarketResolutionEvidenceRecorded.mk.injEq]
    exact ⟨hbase, MarketResolutionEvidence.canonical_inj hf⟩
  | marketResolved a =>
    cases b <;> simp [className] at hclass
    rename_i b
    obtain ⟨hbase, hf⟩ := base_canonical_inj h rfl (by simp)
    simp only [sortValues, List.cons.injEq, Prod.mk.injEq, true_and, and_true] at hf
    cases a
    cases b
    simp only [marketResolved.injEq, MarketResolved.mk.injEq]
    exact ⟨hbase, MarketResolution.canonical_inj hf⟩
  | positionSettled a =>
    cases b <;> simp [className] at hclass
    rename_i b
    obtain ⟨hbase, hf⟩ := base_canonical_inj h rfl (by simp)
    simp only [sortValues, sortKeys, str.injEq, List.cons.injEq, Prod.mk.injEq, true_and,
      and_true] at hf
    obtain ⟨h1, h2, h3⟩ := hf
    cases a
    cases b
    simp only [positionSettled.injEq, PositionSettled.mk.injEq]
    exact ⟨hbase, h1, h2, Money.canonical_inj h3⟩
  | riskScopeRegistered a =>
    cases b <;> simp [className] at hclass
    rename_i b
    obtain ⟨hbase, hf⟩ := base_canonical_inj h rfl (by simp)
    simp only [sortValues, List.cons.injEq, Prod.mk.injEq, true_and, and_true] at hf
    cases a
    cases b
    simp only [riskScopeRegistered.injEq, RiskScopeRegistered.mk.injEq]
    exact ⟨hbase, RiskScope.canonical_inj hf⟩
  | portfolioValuationRecorded a =>
    cases b <;> simp [className] at hclass
    rename_i b
    obtain ⟨hbase, hf⟩ := base_canonical_inj h rfl (by simp)
    simp only [sortValues, List.cons.injEq, Prod.mk.injEq, true_and, and_true] at hf
    cases a
    cases b
    simp only [portfolioValuationRecorded.injEq, PortfolioValuationRecorded.mk.injEq]
    exact ⟨hbase, PortfolioValuation.canonical_inj hf⟩

end LedgerEvent

/-! ## Fingerprints -/

/-- SHA-256 of canonical JSON has no collisions. -/
def Runtime.CollisionFree (rt : Runtime) : Prop :=
  ∀ a b : Json, a.Plain → b.Plain → rt.sha256Json a.sortKeys = rt.sha256Json b.sortKeys →
    a.sortKeys = b.sortKeys

theorem plain_optionalText (o : Option String) : (optionalText o).Plain := by
  cases o <;> simp [optionalText, Plain]

theorem plain_arr_map {α : Type} {f : α → Json} (hf : ∀ a, (f a).Plain) (l : List α) :
    PlainItems (l.map f) := by
  rw [plainItems_iff]
  intro v hv
  obtain ⟨a, -, rfl⟩ := List.mem_map.mp hv
  exact hf a

theorem plain_map_str (l : List String) : PlainItems (l.map str) :=
  plain_arr_map (fun _ => by simp [Plain]) l

theorem Money.plain_canonical (m : Money) : m.canonical.Plain := by
  simp [Money.canonical, record, Plain, PlainValues]

theorem OutcomePayout.plain_canonical (p : OutcomePayout) : p.canonical.Plain := by
  simp [OutcomePayout.canonical, record, Plain, PlainValues]

theorem PositionValuation.plain_canonical (v : PositionValuation) : v.canonical.Plain := by
  simp [PositionValuation.canonical, record, Plain, PlainValues, Money.plain_canonical]

/-- A canonical form has no floats and no repeated keys. -/
theorem LedgerEvent.plain_canonical (e : LedgerEvent) : e.canonical.Plain := by
  cases e <;> simp [LedgerEvent.canonical, DomainEvent.canonical, record, Plain, PlainValues,
    Money.plain_canonical, OrderIntent.canonical, MarketResolution.canonical,
    MarketResolutionEvidence.canonical, WeatherObservationEvidence.canonical, RiskScope.canonical,
    PortfolioValuation.canonical, plain_optionalText, plain_map_str,
    plain_arr_map,
    OutcomePayout.plain_canonical, PositionValuation.plain_canonical]

/-- **Without collisions the fingerprint determines the event.** -/
theorem fingerprint_inj {rt : Runtime} (hrt : rt.CollisionFree) {a b : LedgerEvent}
    (h : fingerprint rt a.canonical = fingerprint rt b.canonical) : a = b :=
  LedgerEvent.canonical_inj (hrt _ _ a.plain_canonical b.plain_canonical h)

/-- The sample runtime hashes a value to its own text. -/
theorem Runtime.collisionFree_utc : Runtime.utc.CollisionFree := by
  intro a b ha hb h
  have htext : a.sortKeys.dumps = b.sortKeys.dumps := h
  have := congrArg loads htext
  rwa [loads_dumps (plain_sortKeys ha), loads_dumps (plain_sortKeys hb), sortKeys_sortKeys,
    sortKeys_sortKeys, Option.some.injEq] at this

end WeatherBot.Domain
