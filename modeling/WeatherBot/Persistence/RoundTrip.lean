import WeatherBot.Domain.Canonical
import WeatherBot.Persistence.Codec

/-!
# The codec reads back what it writes

* `Holds`: what a parsed object has of the members that were written; it stands
  between the encoder and the decoder.
* `uncheckedTexts`: the texts of an event that its constructor does not check
  and the decoder requires not to be blank.
* `decodeEvent_encodeEvent`: **decoding an encoded event returns that event iff
  none of those texts is blank**, and returns nothing else.
-/

namespace WeatherBot.Persistence

open WeatherBot.Common
open WeatherBot.Common.Json
open WeatherBot.Domain

variable {rt : Runtime}

/-! ## Members of a parsed object -/

/-- `data` has the members of `ms`, with sorted values, and no others. -/
structure Holds (data ms : List (String × Json)) : Prop where
  get : ∀ {k v}, (k, v) ∈ ms → Dict.assocGet data k = some v.sortKeys
  keys : ∀ k, k ∈ data.map Prod.fst ↔ k ∈ ms.map Prod.fst

/-- The sorted form of an object holds its members. -/
theorem holds_sorted {ms : List (String × Json)} (h : (ms.map Prod.fst).Nodup) :
    Holds (sortMembers (sortValues ms)) ms where
  get hv := (Dict.assocGet_eq_some (nodup_keys_sorted h)).mpr (mem_sorted hv)
  keys k := by
    rw [← keys_sortValues ms]
    exact ((perm_sortMembers _).map Prod.fst).mem_iff

section Fields

variable {data ms : List (String × Json)} (hd : Holds data ms)

include hd

theorem Holds.field (k : String) {v : Json} (h : (k, v) ∈ ms) :
    Persistence.field data k = .ok v.sortKeys := by
  rw [Persistence.field, hd.get h]
  rfl

theorem Holds.expectKeys (required : List String) (h : ms.map Prod.fst = required)
    (label : String) : Persistence.expectKeys rt data required label = .ok () := by
  subst h
  refine raiseIf_of_not _ (not_not.mpr ⟨?_, ?_⟩)
  · exact fun k hk => (hd.keys k).mp hk
  · exact fun k hk => (hd.keys k).mpr hk

/-- A text that must not be blank. -/
theorem Holds.textAt_bind {β : Type} (k : String) {t : String} (h : (k, .str t) ∈ ms) {label : String}
    {f : String → Except Error β} {b : β} :
    Persistence.textAt data k label >>= f = .ok b ↔ isBlank t = false ∧ f t = .ok b := by
  rw [Persistence.textAt, hd.field k h, ok_bind, sortKeys, text]
  cases isBlank t with
  | true => simp [raiseIf]
  | false => simp [raiseIf]

theorem Holds.textAt (k : String) {t : String} (ht : isBlank t = false) (h : (k, .str t) ∈ ms)
    (label : String) : Persistence.textAt data k label = .ok t := by
  rw [Persistence.textAt, hd.field k h, ok_bind, sortKeys, text, ht]
  rfl

theorem Holds.decimalAt (k : String) (d : Decimal) (h : (k, .str d.format) ∈ ms)
    (label : String) : Persistence.decimalAt data k label = .ok d := by
  rw [Persistence.decimalAt, hd.textAt k d.isBlank_format h, ok_bind, Decimal.ofText_format]
  rfl

theorem Holds.dateAt (k : String) (d : Date) (h : (k, .str d.isoformat) ∈ ms) (label : String) :
    Persistence.dateAt data k label = .ok d := by
  rw [Persistence.dateAt, hd.textAt k d.isBlank_isoformat h, ok_bind, Date.fromisoformat_isoformat]
  rfl

theorem Holds.datetimeAt (k : String) (t : DateTime) (h : (k, .str t.isoformat) ∈ ms)
    (label : String) : Persistence.datetimeAt data k label = .ok t := by
  rw [Persistence.datetimeAt, hd.textAt k t.isBlank_isoformat h, ok_bind, datetime,
    DateTime.fromisoformat_isoformat]
  rfl

theorem Holds.optionalTextAt (k : String) {o : Option String}
    (ho : ∀ t, o = some t → isBlank t = false) (h : (k, optionalText o) ∈ ms) (label : String) :
    Persistence.optionalTextAt data k label = .ok o := by
  rw [Persistence.optionalTextAt, hd.field k h, ok_bind]
  cases o with
  | none => rfl
  | some t =>
    rw [optionalText, sortKeys, optionalTextOf, text, ho t rfl]
    · rfl
    · intro h
      cases h

end Fields

/-! ## Arrays -/

/-- Items that are read back are read back as a list. -/
theorem decodeItems_map {α : Type} {decode : Json → String → Except Error α} {encode : α → Json}
    {l : List α} (h : ∀ x ∈ l, ∀ label, decode (encode x).sortKeys label = .ok x) (label : String)
    (n : ℕ) : decodeItems decode label n (sortItems (l.map encode)) = .ok l := by
  induction l generalizing n with
  | nil => rfl
  | cons x l ih =>
    rw [List.forall_mem_cons] at h
    rw [List.map_cons, sortItems, decodeItems, h.1, ok_bind, ih h.2, ok_bind]
    rfl

/-- Items of which some are refused. -/
theorem decodeItems_eq_ok {α : Type} {decode : Json → String → Except Error α} {encode : α → Json}
    {P : α → Prop} (h : ∀ x label y, decode (encode x).sortKeys label = .ok y ↔ P x ∧ y = x)
    (label : String) (n : ℕ) {l l' : List α} :
    decodeItems decode label n (sortItems (l.map encode)) = .ok l' ↔ (∀ x ∈ l, P x) ∧ l' = l := by
  induction l generalizing n l' with
  | nil =>
    rw [List.map_nil, sortItems, decodeItems]
    simp [eq_comm]
  | cons x l ih =>
    rw [List.map_cons, sortItems, decodeItems, bind_eq_ok_of_iff (h x _),
      bind_eq_ok_of_iff fun ys => ih (n + 1), List.forall_mem_cons, and_assoc, pure_eq_ok,
      Except.ok.injEq, eq_comm (a := x :: l)]

theorem Holds.itemsAt {α : Type} {data ms : List (String × Json)} (hd : Holds data ms)
    {decode : Json → String → Except Error α} {encode : α → Json} {l : List α} (k : String)
    (h : ∀ x ∈ l, ∀ label, decode (encode x).sortKeys label = .ok x)
    (hmem : (k, .arr (l.map encode)) ∈ ms) (label : String) :
    Persistence.itemsAt decode data k label = .ok l := by
  rw [Persistence.itemsAt, hd.field k hmem, ok_bind, sortKeys, sequence, pure_eq_ok, ok_bind]
  exact decodeItems_map h label 0

/-- An array of which some items are refused. -/
theorem Holds.itemsAt_bind {α β : Type} {data ms : List (String × Json)} (hd : Holds data ms)
    {decode : Json → String → Except Error α} {encode : α → Json} {P : α → Prop} {l : List α}
    (k : String) (h : ∀ x label y, decode (encode x).sortKeys label = .ok y ↔ P x ∧ y = x)
    (hmem : (k, .arr (l.map encode)) ∈ ms) {label : String} {f : List α → Except Error β} {b : β} :
    Persistence.itemsAt decode data k label >>= f = .ok b ↔ (∀ x ∈ l, P x) ∧ f l = .ok b := by
  rw [Persistence.itemsAt, hd.field k hmem, ok_bind, sortKeys, sequence, pure_eq_ok, ok_bind]
  exact bind_eq_ok_of_iff fun ys => decodeItems_eq_ok h label 0

/-! ## Records -/

theorem mapping_sortKeys (ms : List (String × Json)) (label : String) :
    mapping (Json.obj ms).sortKeys label = .ok (sortMembers (sortValues ms)) := by
  rw [sortKeys]
  rfl

/-- The head of every record decoder: it goes on with an object that holds the members. -/
theorem object_eq_ok {α : Type} {ms : List (String × Json)} {required : List String} {label : String}
    {f : List (String × Json) → Except Error α} {x : α} {P : Prop} (hnd : (ms.map Prod.fst).Nodup)
    (hr : ms.map Prod.fst = required) (h : ∀ data, Holds data ms → (f data = .ok x ↔ P)) :
    (mapping (Json.obj ms).sortKeys label >>= fun data =>
      expectKeys rt data required label >>= fun _ => f data) = .ok x ↔ P := by
  have hd := holds_sorted hnd
  rw [mapping_sortKeys, ok_bind, hd.expectKeys required hr, ok_bind]
  exact h _ hd

theorem object_ok {α : Type} {ms : List (String × Json)} {required : List String} {label : String}
    {f : List (String × Json) → Except Error α} {x : α} (hnd : (ms.map Prod.fst).Nodup)
    (hr : ms.map Prod.fst = required) (h : ∀ data, Holds data ms → f data = .ok x) :
    (mapping (Json.obj ms).sortKeys label >>= fun data =>
      expectKeys rt data required label >>= fun _ => f data) = .ok x :=
  (object_eq_ok hnd hr fun data hd => iff_true_intro (h data hd)).mpr trivial

/-- The normal form of a currency is not blank. -/
theorem isBlank_currency {m : Money} (h : m.Normal rt) : isBlank m.currency = false := by
  rw [isBlank_eq_false, ← h.1, rt.upper.strip_normalize, h.1]
  exact h.2

theorem Holds.moneyAt {data ms : List (String × Json)} (hd : Holds data ms) (k : String) {m : Money}
    (hm : m.Normal rt) (h : (k, moneyToData m) ∈ ms) (label : String) :
    Persistence.moneyAt rt data k label = .ok m := by
  rw [Persistence.moneyAt, hd.field k h, ok_bind]
  refine object_ok (by simp) rfl fun data hd => ?_
  rw [hd.decimalAt "amount" m.amount.toDecimal (by simp [Micros.text]), ok_bind,
    hd.textAt "currency" (isBlank_currency hm) (by simp), ok_bind, Money.new_self hm]

theorem isBlank_sideValue (s : Side) : isBlank s.value = false := by cases s <;> decide

theorem intentOf_toData {i : OrderIntent} (h : i.feeReserve.Normal rt) :
    intentOf rt (intentToData i).sortKeys = .ok i := by
  rw [intentOf]
  refine object_ok (by simp) rfl fun data hd => ?_
  rw [hd.textAt "side" (isBlank_sideValue i.side) (by simp), ok_bind, Side.ofValue_value, parsed,
    pure_eq_ok, ok_bind, hd.textAt "intent_id" i.intentId_text (by simp), ok_bind,
    hd.textAt "strategy_id" i.strategyId_text (by simp), ok_bind,
    hd.textAt "decision_id" i.decisionId_text (by simp), ok_bind,
    hd.textAt "market_id" i.marketId_text (by simp), ok_bind,
    hd.textAt "outcome_id" i.outcomeId_text (by simp), ok_bind,
    hd.decimalAt "quantity" i.quantity.toDecimal (by simp [Micros.text]), ok_bind,
    hd.decimalAt "limit_price" i.limitPrice.toDecimal (by simp [Micros.text]), ok_bind,
    hd.moneyAt "fee_reserve" h (by simp), ok_bind,
    hd.datetimeAt "created_at" i.createdAt (by simp), ok_bind, OrderIntent.new_self]

theorem riskScopeOf_toData {s : RiskScope} (h : s.Valid rt) :
    riskScopeOf rt (riskScopeToData s).sortKeys = .ok s := by
  have hgroup : ∀ g ∈ s.correlationGroups, ∀ label, text (Json.str g).sortKeys label = .ok g := by
    intro g hg label
    rw [sortKeys, text, (h.groups g hg).1.isBlank]
    rfl
  rw [riskScopeOf]
  refine object_ok (by simp) rfl fun data hd => ?_
  rw [hd.itemsAt "correlation_groups" hgroup (by simp), ok_bind,
    hd.textAt "market_id" h.marketId (by simp), ok_bind,
    hd.textAt "outcome_id" h.outcomeId (by simp), ok_bind,
    hd.textAt "event_id" h.eventId.isBlank (by simp), ok_bind,
    hd.textAt "city_key" h.cityKey.1.isBlank (by simp), ok_bind,
    hd.dateAt "market_date" s.marketDate (by simp), ok_bind, RiskScope.new_self h]

theorem positionValuationOf_toData {v : PositionValuation} (h : v.liquidationValue.Normal rt)
    (label : String) : positionValuationOf rt (positionValuationToData v).sortKeys label = .ok v := by
  rw [positionValuationOf]
  refine object_ok (by simp) rfl fun data hd => ?_
  rw [hd.textAt "market_id" v.marketId_text (by simp), ok_bind,
    hd.textAt "outcome_id" v.outcomeId_text (by simp), ok_bind,
    hd.decimalAt "quantity" v.quantity.toDecimal (by simp [Micros.text]), ok_bind,
    hd.moneyAt "liquidation_value" h (by simp), ok_bind,
    hd.datetimeAt "observed_at" v.observedAt (by simp), ok_bind, PositionValuation.new_self]

theorem portfolioValuationOf_toData {v : PortfolioValuation} (h : v.equity.Normal rt)
    (hmarks : ∀ mark ∈ v.positions, mark.liquidationValue.Normal rt) :
    portfolioValuationOf rt (portfolioValuationToData v).sortKeys = .ok v := by
  rw [portfolioValuationOf]
  refine object_ok (by simp) rfl fun data hd => ?_
  rw [hd.itemsAt "positions" (fun mark hm => positionValuationOf_toData (hmarks mark hm)) (by simp),
    ok_bind, hd.moneyAt "equity" h (by simp), ok_bind,
    hd.datetimeAt "assembled_at" v.assembledAt (by simp), ok_bind,
    hd.textAt "source" v.source_text.isBlank (by simp), ok_bind, PortfolioValuation.new_self]

theorem isBlank_observationStatus (s : ObservationEvidenceStatus) : isBlank s.value = false := by
  cases s <;> decide

theorem isBlank_resolutionStatus (s : ResolutionEvidenceStatus) : isBlank s.value = false := by
  cases s <;> decide

theorem optionalDatetime_isoformat (t : Option DateTime) (label : String) :
    optionalDatetime (t.map DateTime.isoformat) label = .ok t := by
  cases t with
  | none => rfl
  | some t =>
    rw [Option.map_some, optionalDatetime, datetime, DateTime.fromisoformat_isoformat]
    rfl

theorem observationOf_toData {e : WeatherObservationEvidence} (h : e.Valid rt) :
    observationOf rt (observationToData e).sortKeys = .ok e := by
  have htimestamp : ∀ t, e.sourceTimestamp.map DateTime.isoformat = some t → isBlank t = false := by
    intro t ht
    obtain ⟨u, -, rfl⟩ := Option.map_eq_some_iff.mp ht
    exact u.isBlank_isoformat
  have hsupersedes : ∀ t, e.supersedesPayloadHash = some t → isBlank t = false :=
    fun t ht => (h.supersedes t ht).1.1.isBlank
  rw [observationOf]
  refine object_ok (by simp) rfl fun data hd => ?_
  rw [hd.textAt "status" (isBlank_observationStatus e.status) (by simp), ok_bind,
    ObservationEvidenceStatus.ofValue_value, parsed, pure_eq_ok, ok_bind,
    hd.optionalTextAt "source_timestamp" htimestamp (by simp), ok_bind,
    hd.textAt "market_id" h.marketId (by simp), ok_bind,
    hd.textAt "source_name" h.sourceName.isBlank (by simp), ok_bind,
    hd.textAt "source_url" h.sourceUrl.1.isBlank (by simp), ok_bind,
    hd.textAt "station_id" h.stationId.isBlank (by simp), ok_bind,
    hd.textAt "measurement_basis" h.measurementBasis.isBlank (by simp), ok_bind,
    hd.dateAt "market_date" e.marketDate (by simp), ok_bind,
    hd.textAt "market_timezone" h.timezone.1.isBlank (by simp), ok_bind,
    hd.decimalAt "temperature" e.temperature (by simp), ok_bind,
    hd.textAt "unit" h.unit.1.isBlank (by simp), ok_bind,
    hd.datetimeAt "retrieved_at" e.retrievedAt (by simp), ok_bind,
    optionalDatetime_isoformat, ok_bind,
    hd.textAt "source_revision" h.sourceRevision.isBlank (by simp), ok_bind,
    hd.textAt "payload_hash" h.payloadHash.1.isBlank (by simp), ok_bind,
    hd.optionalTextAt "supersedes_payload_hash" hsupersedes (by simp), ok_bind,
    WeatherObservationEvidence.new_self h]

/-- The decoder refuses a payout whose outcome identifier is blank. -/
theorem payoutOf_toData (p : OutcomePayout) (label : String) (q : OutcomePayout) :
    payoutOf rt (payoutToData p).sortKeys label = .ok q ↔ isBlank p.outcomeId = false ∧ q = p := by
  rw [payoutOf]
  refine object_eq_ok (by simp) rfl fun data hd => ?_
  rw [hd.textAt_bind "outcome_id" (t := p.outcomeId) (by simp),
    hd.decimalAt "payout" p.payout.toDecimal (by simp [Micros.text]), ok_bind,
    OutcomePayout.new_self, Except.ok.injEq, eq_comm (a := p)]

/-- The outcome identifiers of a payout vector are not blank. -/
def PayoutsNamed (payouts : List OutcomePayout) : Prop := ∀ p ∈ payouts, isBlank p.outcomeId = false

instance (payouts : List OutcomePayout) : Decidable (PayoutsNamed payouts) :=
  inferInstanceAs (Decidable (∀ p ∈ payouts, isBlank p.outcomeId = false))

theorem evidenceOf_toData {e e' : MarketResolutionEvidence} (h : e.Valid rt) :
    evidenceOf rt (evidenceToData e).sortKeys = .ok e' ↔ PayoutsNamed e.payouts ∧ e' = e := by
  rw [evidenceOf]
  refine object_eq_ok (by simp) rfl fun data hd => ?_
  rw [hd.itemsAt_bind "payouts" payoutOf_toData (l := e.payouts) (by simp),
    hd.textAt "status" (isBlank_resolutionStatus e.status) (by simp), ok_bind,
    ResolutionEvidenceStatus.ofValue_value, parsed, pure_eq_ok, ok_bind,
    hd.textAt "market_id" h.marketId (by simp), ok_bind,
    hd.textAt "condition_id" h.conditionId.1.isBlank (by simp), ok_bind,
    hd.textAt "source_name" h.sourceName.isBlank (by simp), ok_bind,
    hd.textAt "source_url" h.sourceUrl.1.isBlank (by simp), ok_bind,
    hd.textAt "declared_resolution_source" h.declared.1.isBlank (by simp), ok_bind,
    hd.datetimeAt "retrieved_at" e.retrievedAt (by simp), ok_bind,
    hd.datetimeAt "finalized_at" e.finalizedAt (by simp), ok_bind,
    hd.dateAt "market_date" e.marketDate (by simp), ok_bind,
    hd.textAt "market_timezone" h.timezone.1.isBlank (by simp), ok_bind,
    hd.textAt "resolution_value" h.resolutionValue.isBlank (by simp), ok_bind,
    hd.textAt "payload_hash" h.payloadHash.1.isBlank (by simp), ok_bind,
    MarketResolutionEvidence.new_self h, Except.ok.injEq, eq_comm (a := e)]
  rfl

theorem resolutionOf_toData {r r' : MarketResolution} :
    resolutionOf rt (resolutionToData r).sortKeys = .ok r' ↔ PayoutsNamed r.payouts ∧ r' = r := by
  rw [resolutionOf]
  refine object_eq_ok (by simp) rfl fun data hd => ?_
  rw [hd.itemsAt_bind "payouts" payoutOf_toData (l := r.payouts) (by simp),
    hd.textAt "market_id" r.marketId_text (by simp), ok_bind,
    hd.datetimeAt "resolved_at" r.resolvedAt (by simp), ok_bind, MarketResolution.new_self,
    Except.ok.injEq, eq_comm (a := r)]
  rfl

/-! ## Events -/

/-- The texts that the decoder requires not to be blank and the constructor does not check. -/
def uncheckedTexts : LedgerEvent → List String
  | .orderSubmitted e => [e.intentId]
  | .orderAcknowledged e => [e.intentId]
  | .fillReceived e => [e.intentId]
  | .orderRejected e => [e.intentId]
  | .orderCancelled e => [e.intentId]
  | .orderOutcomeUnknown e => [e.intentId]
  | .marketResolutionEvidenceRecorded e => e.evidence.payouts.map OutcomePayout.outcomeId
  | .marketResolved e => e.resolution.payouts.map OutcomePayout.outcomeId
  | .positionSettled e => [e.marketId, e.outcomeId]
  | .accountOpened _ => []
  | .orderIntentCreated _ => []
  | .weatherObservationRecorded _ => []
  | .riskScopeRegistered _ => []
  | .portfolioValuationRecorded _ => []

/-- None of the unchecked texts is blank. -/
def Readable (event : LedgerEvent) : Prop := ∀ t ∈ uncheckedTexts event, isBlank t = false

instance (event : LedgerEvent) : Decidable (Readable event) :=
  inferInstanceAs (Decidable (∀ t ∈ uncheckedTexts event, isBlank t = false))

/-- The members of `_event_data`. -/
def eventMembers (event : LedgerEvent) : List (String × Json) :=
  ("event_id", .str event.eventId) :: ("occurred_at", .str event.occurredAt.isoformat) ::
    eventFields event

/-- The common part of an event is read back. -/
theorem Holds.common {data : List (String × Json)} {event : LedgerEvent}
    (hd : Holds data (eventMembers event)) (required : List String)
    (hr : (eventFields event).map Prod.fst = required) :
    Persistence.common rt data required = .ok (event.eventId, event.occurredAt) := by
  have hkeys : (eventMembers event).map Prod.fst = "event_id" :: "occurred_at" :: required := by
    rw [eventMembers, List.map_cons, List.map_cons, hr]
  rw [Persistence.common, hd.expectKeys _ hkeys, ok_bind,
    hd.textAt "event_id" event.base.eventId_text (by simp [eventMembers, LedgerEvent.eventId]),
    ok_bind, hd.datetimeAt "occurred_at" event.occurredAt (by simp [eventMembers]), ok_bind]
  rfl

/-- **The branch of an event reads the event back**, unless an unchecked text is blank. -/
theorem decodeData_eq_ok {data : List (String × Json)} {event event' : LedgerEvent}
    (hd : Holds data (eventMembers event)) (hc : event.Constructible rt) :
    decodeData rt data (eventType event) = .ok event' ↔ Readable event ∧ event' = event := by
  have hok : ∀ {e : LedgerEvent}, uncheckedTexts e = [] →
      ((Except.ok e : Except Error LedgerEvent) = .ok event' ↔ Readable e ∧ event' = e) := by
    intro e he
    rw [Readable, he, Except.ok.injEq, eq_comm]
    simp
  have hone : ∀ {e : LedgerEvent} {t : String}, uncheckedTexts e = [t] →
      (isBlank t = false ∧ (Except.ok e : Except Error LedgerEvent) = .ok event' ↔
        Readable e ∧ event' = e) := by
    intro e t he
    rw [Readable, he, Except.ok.injEq, eq_comm (a := e)]
    simp
  have hpayouts : ∀ {e : LedgerEvent} {payouts : List OutcomePayout},
      uncheckedTexts e = payouts.map OutcomePayout.outcomeId →
      (PayoutsNamed payouts ∧ (Except.ok e : Except Error LedgerEvent) = .ok event' ↔
        Readable e ∧ event' = e) := by
    intro e payouts he
    rw [Readable, he, List.forall_mem_map, Except.ok.injEq, eq_comm (a := e)]
    rfl
  cases event with
  | accountOpened e =>
    rw [eventType, decodeData, hd.common ["initial_cash"] rfl, ok_bind]
    dsimp only
    rw [hd.moneyAt "initial_cash" hc (by simp [eventMembers, eventFields]), ok_bind]
    show (AccountOpened.new e.eventId e.occurredAt e.initialCash >>= _) = _ ↔ _
    rw [AccountOpened.new_self, ok_bind]
    exact hok rfl
  | orderIntentCreated e =>
    rw [eventType, decodeData, hd.common ["intent"] rfl, ok_bind]
    dsimp only
    rw [hd.field "intent" (v := intentToData e.intent) (by simp [eventMembers, eventFields]), ok_bind,
      intentOf_toData hc, ok_bind]
    show (OrderIntentCreated.new e.eventId e.occurredAt e.intent >>= _) = _ ↔ _
    rw [OrderIntentCreated.new_self, ok_bind]
    exact hok rfl
  | orderSubmitted e =>
    rw [eventType, decodeData, hd.common ["intent_id", "backend_order_id"] rfl, ok_bind]
    dsimp only
    rw [hd.textAt_bind "intent_id" (t := e.intentId) (by simp [eventMembers, eventFields]),
      hd.textAt "backend_order_id" e.backendOrderId_text (by simp [eventMembers, eventFields]), ok_bind]
    show _ ∧ (OrderSubmitted.new e.eventId e.occurredAt e.intentId e.backendOrderId >>= _) = _ ↔ _
    rw [OrderSubmitted.new_self, ok_bind]
    exact hone rfl
  | orderAcknowledged e =>
    rw [eventType, decodeData, hd.common ["intent_id"] rfl, ok_bind]
    dsimp only
    rw [hd.textAt_bind "intent_id" (t := e.intentId) (by simp [eventMembers, eventFields])]
    show _ ∧ (OrderAcknowledged.new e.eventId e.occurredAt e.intentId >>= _) = _ ↔ _
    rw [OrderAcknowledged.new_self, ok_bind]
    exact hone rfl
  | fillReceived e =>
    rw [eventType, decodeData, hd.common ["intent_id", "fill_id", "quantity", "price", "fee"] rfl,
      ok_bind]
    dsimp only
    rw [hd.textAt_bind "intent_id" (t := e.intentId) (by simp [eventMembers, eventFields]),
      hd.textAt "fill_id" e.fillId_text (by simp [eventMembers, eventFields]), ok_bind,
      hd.decimalAt "quantity" e.quantity.toDecimal (by simp [eventMembers, eventFields, Micros.text]),
      ok_bind, hd.decimalAt "price" e.price.toDecimal
        (by simp [eventMembers, eventFields, Micros.text]),
      ok_bind, hd.moneyAt "fee" hc (by simp [eventMembers, eventFields]), ok_bind]
    show _ ∧ (FillReceived.new e.eventId e.occurredAt e.intentId e.fillId e.quantity.toDecimal
      e.price.toDecimal e.fee >>= _) = _ ↔ _
    rw [FillReceived.new_self, ok_bind]
    exact hone rfl
  | orderRejected e =>
    rw [eventType, decodeData, hd.common ["intent_id", "reason"] rfl, ok_bind]
    dsimp only
    rw [hd.textAt_bind "intent_id" (t := e.intentId) (by simp [eventMembers, eventFields]),
      hd.textAt "reason" e.reason_text (by simp [eventMembers, eventFields]), ok_bind]
    show _ ∧ (OrderRejected.new e.eventId e.occurredAt e.intentId e.reason >>= _) = _ ↔ _
    rw [OrderRejected.new_self, ok_bind]
    exact hone rfl
  | orderCancelled e =>
    rw [eventType, decodeData, hd.common ["intent_id", "reason"] rfl, ok_bind]
    dsimp only
    rw [hd.textAt_bind "intent_id" (t := e.intentId) (by simp [eventMembers, eventFields]),
      hd.textAt "reason" e.reason_text (by simp [eventMembers, eventFields]), ok_bind]
    show _ ∧ (OrderCancelled.new e.eventId e.occurredAt e.intentId e.reason >>= _) = _ ↔ _
    rw [OrderCancelled.new_self, ok_bind]
    exact hone rfl
  | orderOutcomeUnknown e =>
    rw [eventType, decodeData, hd.common ["intent_id", "reason"] rfl, ok_bind]
    dsimp only
    rw [hd.textAt_bind "intent_id" (t := e.intentId) (by simp [eventMembers, eventFields]),
      hd.textAt "reason" e.reason_text (by simp [eventMembers, eventFields]), ok_bind]
    show _ ∧ (OrderOutcomeUnknown.new e.eventId e.occurredAt e.intentId e.reason >>= _) = _ ↔ _
    rw [OrderOutcomeUnknown.new_self, ok_bind]
    exact hone rfl
  | weatherObservationRecorded e =>
    rw [eventType, decodeData, hd.common ["evidence"] rfl, ok_bind]
    dsimp only
    rw [hd.field "evidence" (v := observationToData e.evidence) (by simp [eventMembers, eventFields]), ok_bind,
      observationOf_toData hc, ok_bind]
    show (WeatherObservationRecorded.new e.eventId e.occurredAt e.evidence >>= _) = _ ↔ _
    rw [WeatherObservationRecorded.new_self, ok_bind]
    exact hok rfl
  | marketResolutionEvidenceRecorded e =>
    rw [eventType, decodeData, hd.common ["evidence"] rfl, ok_bind]
    dsimp only
    rw [hd.field "evidence" (v := evidenceToData e.evidence) (by simp [eventMembers, eventFields]), ok_bind,
      bind_eq_ok_of_iff fun _ => evidenceOf_toData hc]
    show _ ∧ (MarketResolutionEvidenceRecorded.new e.eventId e.occurredAt e.evidence >>= _) = _ ↔ _
    rw [MarketResolutionEvidenceRecorded.new_self, ok_bind]
    exact hpayouts rfl
  | marketResolved e =>
    rw [eventType, decodeData, hd.common ["resolution"] rfl, ok_bind]
    dsimp only
    rw [hd.field "resolution" (v := resolutionToData e.resolution) (by simp [eventMembers, eventFields]), ok_bind,
      bind_eq_ok_of_iff fun _ => resolutionOf_toData]
    show _ ∧ (MarketResolved.new e.eventId e.occurredAt e.resolution >>= _) = _ ↔ _
    rw [MarketResolved.new_self, ok_bind]
    exact hpayouts rfl
  | positionSettled e =>
    rw [eventType, decodeData, hd.common ["market_id", "outcome_id", "fee"] rfl, ok_bind]
    dsimp only
    rw [hd.textAt_bind "market_id" (t := e.marketId) (by simp [eventMembers, eventFields]),
      hd.textAt_bind "outcome_id" (t := e.outcomeId) (by simp [eventMembers, eventFields]),
      hd.moneyAt "fee" hc (by simp [eventMembers, eventFields]), ok_bind]
    show _ ∧ _ ∧ (PositionSettled.new e.eventId e.occurredAt e.marketId e.outcomeId e.fee >>= _) =
      _ ↔ _
    rw [PositionSettled.new_self, ok_bind, Readable, uncheckedTexts, List.forall_mem_cons,
      List.forall_mem_singleton, and_assoc, pure_eq_ok, Except.ok.injEq, eq_comm (b := event')]
  | riskScopeRegistered e =>
    rw [eventType, decodeData, hd.common ["scope"] rfl, ok_bind]
    dsimp only
    rw [hd.field "scope" (v := riskScopeToData e.scope) (by simp [eventMembers, eventFields]), ok_bind, riskScopeOf_toData hc.1,
      ok_bind]
    show (RiskScopeRegistered.new rt e.eventId e.occurredAt e.scope >>= _) = _ ↔ _
    rw [RiskScopeRegistered.new_self e hc.2, ok_bind]
    exact hok rfl
  | portfolioValuationRecorded e =>
    rw [eventType, decodeData, hd.common ["valuation"] rfl, ok_bind]
    dsimp only
    rw [hd.field "valuation" (v := portfolioValuationToData e.valuation) (by simp [eventMembers, eventFields]), ok_bind,
      portfolioValuationOf_toData hc.1 hc.2, ok_bind]
    show (PortfolioValuationRecorded.new e.eventId e.occurredAt e.valuation >>= _) = _ ↔ _
    rw [PortfolioValuationRecorded.new_self, ok_bind]
    exact hok rfl

/-! ## The payload -/

theorem plain_moneyToData (m : Money) : (moneyToData m).Plain := by
  simp [moneyToData, Plain, PlainValues]

theorem plain_payoutToData (p : OutcomePayout) : (payoutToData p).Plain := by
  simp [payoutToData, Plain, PlainValues]

theorem plain_positionValuationToData (v : PositionValuation) :
    (positionValuationToData v).Plain := by
  simp [positionValuationToData, Plain, PlainValues, plain_moneyToData]

/-- A payload has no floats and no repeated keys. -/
theorem plain_envelope (event : LedgerEvent) : (envelope event).Plain := by
  cases event <;> simp [envelope, eventData, eventFields, Plain, PlainValues, plain_moneyToData,
    intentToData, riskScopeToData, portfolioValuationToData, observationToData, evidenceToData,
    resolutionToData, plain_optionalText, plain_map_str, plain_arr_map, plain_payoutToData,
    plain_positionValuationToData]

theorem isBlank_eventType (t : EventType) : isBlank t.value = false := by
  cases t <;> decide

/-- **Decoding an encoded event** returns that event iff its unchecked texts are not blank, and
returns nothing else. -/
theorem decodeEvent_encodeEvent {event event' : LedgerEvent} (hc : event.Constructible rt) :
    decodeEvent rt (encodeEvent rt event).payloadJson = .ok event' ↔
      Readable event ∧ event' = event := by
  have hd : Holds _ [("event_schema_version", Json.int eventSchemaVersion),
    ("event_type", .str (eventType event).value), ("data", eventData event)] :=
    holds_sorted (by simp)
  have hload : loadJsonObject (encodeEvent rt event).payloadJson "event payload" =
      .ok (sortMembers (sortValues [("event_schema_version", Json.int eventSchemaVersion),
        ("event_type", .str (eventType event).value), ("data", eventData event)])) := by
    rw [loadJsonObject, encodeEvent, loads_dumps (plain_envelope event), envelope, sortKeys]
    rfl
  have hdata : Holds (sortMembers (sortValues (eventMembers event))) (eventMembers event) := by
    refine holds_sorted ?_
    cases event <;> simp [eventMembers, eventFields]
  rw [decodeEvent, hload, ok_bind, hd.expectKeys ["event_schema_version", "event_type", "data"] rfl, ok_bind,
    hd.field "event_schema_version" (v := .int eventSchemaVersion) (by simp), ok_bind, sortKeys,
    integer, pure_eq_ok, ok_bind, raiseIf_of_not _ (not_not.mpr rfl), ok_bind,
    hd.textAt "event_type" (isBlank_eventType (eventType event)) (by simp), ok_bind,
    hd.field "data" (v := eventData event) (by simp), ok_bind]
  show (mapping (Json.obj (eventMembers event)).sortKeys "event.data" >>= _) = _ ↔ _
  rw [mapping_sortKeys, ok_bind, decodeTyped, EventType.ofValue_value]
  exact decodeData_eq_ok hdata hc

end WeatherBot.Persistence
