import WeatherBot.Ledger.Run

/-!
# What a run never takes back

* `Recording`: what a reducer does to the observations, the resolution evidence
  and the resolutions.
* `Extends`: a state with everything that an earlier one recorded: event and
  fill identifiers, intents, observations, evidence, resolutions and settled
  positions.
* `extends_of_applyEvents`: every later state of a run extends the earlier ones.
-/

namespace WeatherBot.Ledger

open WeatherBot.Common
open WeatherBot.Domain

variable {rt : Runtime}

/-! ## Records of evidence -/

/-- The observations of a market. -/
def observationsOf (s : LedgerState) (marketId : String) : List WeatherObservationEvidence :=
  (s.weatherObservations.get? marketId).getD []

/-- The observations after one market's history is replaced. -/
theorem observationsOf_insert (s : LedgerState) (marketId : String)
    (history : List WeatherObservationEvidence) (k : String) :
    observationsOf { s with weatherObservations := s.weatherObservations.insert marketId history } k =
      if marketId = k then history else observationsOf s k := by
  rw [observationsOf, Dict.get?_insert]
  split_ifs
  · rfl
  · rfl

/-- The records of evidence are the same. -/
structure SameRecords (s next : LedgerState) : Prop where
  resolutions : next.resolutions = s.resolutions
  resolutionEvidence : next.resolutionEvidence = s.resolutionEvidence
  weatherObservations : next.weatherObservations = s.weatherObservations

theorem SameRecords.trans {s t u : LedgerState} (h : SameRecords s t) (h' : SameRecords t u) :
    SameRecords s u :=
  ⟨h'.1.trans h.1, h'.2.trans h.2, h'.3.trans h.3⟩

/-- What a reducer does to the records of evidence. -/
inductive Recording (s : LedgerState) : LedgerEvent → LedgerState → Prop
  | same (event : LedgerEvent) (next : LedgerState) (hsame : SameRecords s next) :
      Recording s event next
  | observation (e : WeatherObservationRecorded)
      (hnew : ∀ prior ∈ observationsOf s e.evidence.marketId,
        prior.payloadHash ≠ e.evidence.payloadHash)
      (hrevision : checkRevision (observationsOf s e.evidence.marketId) e.evidence = .ok ()) :
      Recording s (.weatherObservationRecorded e) { s with
        weatherObservations := s.weatherObservations.insert e.evidence.marketId
          (observationsOf s e.evidence.marketId ++ [e.evidence]) }
  | evidence (e : MarketResolutionEvidenceRecorded)
      (hnew : s.resolutionEvidence.get? e.evidence.marketId = none) :
      Recording s (.marketResolutionEvidenceRecorded e) { s with
        resolutionEvidence := s.resolutionEvidence.insert e.evidence.marketId e.evidence }
  | resolution (e : MarketResolved)
      (hnew : s.resolutions.get? e.resolution.marketId = none) :
      Recording s (.marketResolved e) { s with
        resolutions := s.resolutions.insert e.resolution.marketId e.resolution }

theorem sameRecords_of_releaseReservations {s s' : LedgerState} {o o' : OrderAggregate}
    (h : releaseReservations s o = .ok (s', o')) : SameRecords s s' := by
  rw [releaseReservations] at h
  cases hside : o.intent.side with
  | buy =>
    rw [hside] at h
    obtain ⟨r, -, h⟩ := bind_eq_ok.mp h
    cases h
    exact ⟨rfl, rfl, rfl⟩
  | sell =>
    rw [hside] at h
    obtain ⟨p, -, h⟩ := bind_eq_ok.mp h
    obtain ⟨-, h⟩ := raiseIf_bind_eq_ok.mp h
    obtain ⟨q, -, h⟩ := bind_eq_ok.mp h
    cases h
    exact ⟨rfl, rfl, rfl⟩

theorem sameRecords_of_reserveOrder {s s' : LedgerState} {o : OrderAggregate}
    (h : reserveOrder s o = .ok s') : SameRecords s s' := by
  rw [reserveOrder] at h
  cases hside : o.intent.side with
  | buy =>
    rw [hside] at h
    obtain ⟨a, -, h⟩ := bind_eq_ok.mp h
    obtain ⟨-, h⟩ := raiseIf_bind_eq_ok.mp h
    obtain ⟨r, -, h⟩ := bind_eq_ok.mp h
    cases h
    exact ⟨rfl, rfl, rfl⟩
  | sell =>
    rw [hside] at h
    obtain ⟨p, -, h⟩ := bind_eq_ok.mp h
    obtain ⟨-, h⟩ := raiseIf_bind_eq_ok.mp h
    obtain ⟨a, -, h⟩ := bind_eq_ok.mp h
    obtain ⟨-, h⟩ := raiseIf_bind_eq_ok.mp h
    obtain ⟨q, -, h⟩ := bind_eq_ok.mp h
    cases h
    exact ⟨rfl, rfl, rfl⟩

theorem sameRecords_of_intentCreated {s next : LedgerState} {e : OrderIntentCreated}
    (h : applyIntentCreated s e = .ok next) : SameRecords s next := by
  rw [applyIntentCreated] at h
  obtain ⟨u, -, h⟩ := bind_eq_ok.mp h
  cases hget : s.orders.get? e.intent.intentId with
  | some existing =>
    simp only [hget] at h
    split_ifs at h
    · cases h
      exact ⟨rfl, rfl, rfl⟩
  | none =>
    simp only [hget] at h
    obtain ⟨-, h⟩ := raiseIf_bind_eq_ok.mp h
    obtain ⟨order, -, h⟩ := bind_eq_ok.mp h
    obtain ⟨t, ht, h⟩ := bind_eq_ok.mp h
    cases h
    exact (sameRecords_of_reserveOrder ht).trans ⟨rfl, rfl, rfl⟩

theorem sameRecords_of_terminal {s next : LedgerState} {intentId reason : String}
    {target : OrderState} (h : applyTerminal s intentId target reason = .ok next) :
    SameRecords s next := by
  rw [applyTerminal] at h
  obtain ⟨order, -, h⟩ := bind_eq_ok.mp h
  obtain ⟨u, -, h⟩ := bind_eq_ok.mp h
  obtain ⟨⟨t, o⟩, ht, h⟩ := bind_eq_ok.mp h
  cases h
  exact (sameRecords_of_releaseReservations ht).trans ⟨rfl, rfl, rfl⟩

theorem sameRecords_of_buyFill {s s' : LedgerState} {o o' : OrderAggregate} {fill : FillReceived}
    {gross : Money} (h : applyBuyFill s o fill gross = .ok (s', o')) : SameRecords s s' := by
  rw [applyBuyFill] at h
  obtain ⟨reservation, -, h⟩ := bind_eq_ok.mp h
  obtain ⟨release, -, h⟩ := bind_eq_ok.mp h
  obtain ⟨debit, -, h⟩ := bind_eq_ok.mp h
  obtain ⟨-, h⟩ := raiseIf_bind_eq_ok.mp h
  obtain ⟨cash, -, h⟩ := bind_eq_ok.mp h
  obtain ⟨reservedCash, -, h⟩ := bind_eq_ok.mp h
  obtain ⟨-, h⟩ := raiseIf_bind_eq_ok.mp h
  obtain ⟨quantity, -, h⟩ := bind_eq_ok.mp h
  obtain ⟨costBasis, -, h⟩ := bind_eq_ok.mp h
  cases h
  exact ⟨rfl, rfl, rfl⟩

theorem sameRecords_of_sellFill {s s' : LedgerState} {o o' : OrderAggregate} {fill : FillReceived}
    {gross : Money} (h : applySellFill s o fill gross = .ok (s', o')) : SameRecords s s' := by
  rw [applySellFill] at h
  obtain ⟨-, h⟩ := raiseIf_bind_eq_ok.mp h
  obtain ⟨p, -, h⟩ := bind_eq_ok.mp h
  obtain ⟨-, h⟩ := raiseIf_bind_eq_ok.mp h
  obtain ⟨-, h⟩ := raiseIf_bind_eq_ok.mp h
  obtain ⟨-, h⟩ := raiseIf_bind_eq_ok.mp h
  obtain ⟨-, h⟩ := raiseIf_bind_eq_ok.mp h
  obtain ⟨-, h⟩ := raiseIf_bind_eq_ok.mp h
  obtain ⟨net, -, h⟩ := bind_eq_ok.mp h
  obtain ⟨allocated, -, h⟩ := bind_eq_ok.mp h
  obtain ⟨remaining, -, h⟩ := bind_eq_ok.mp h
  obtain ⟨reserved, -, h⟩ := bind_eq_ok.mp h
  obtain ⟨cost, -, h⟩ := bind_eq_ok.mp h
  obtain ⟨proceeds, -, h⟩ := bind_eq_ok.mp h
  obtain ⟨realized, -, h⟩ := bind_eq_ok.mp h
  obtain ⟨orderReserved, -, h⟩ := bind_eq_ok.mp h
  obtain ⟨cash, -, h⟩ := bind_eq_ok.mp h
  cases h
  exact ⟨rfl, rfl, rfl⟩

theorem sameRecords_of_recordFill {s next : LedgerState} {o : OrderAggregate} {fill : FillReceived}
    {target : OrderState} {filled : Micros} {gross : Money}
    (h : recordFill rt s o fill target filled gross = .ok next) : SameRecords s next := by
  rw [recordFill] at h
  obtain ⟨grossValue, -, h⟩ := bind_eq_ok.mp h
  obtain ⟨fees, -, h⟩ := bind_eq_ok.mp h
  simp only at h
  split_ifs at h
  · obtain ⟨⟨t, o'⟩, ht, h⟩ := bind_eq_ok.mp h
    cases h
    exact (sameRecords_of_releaseReservations ht).trans ⟨rfl, rfl, rfl⟩
  · cases h
    exact ⟨rfl, rfl, rfl⟩

theorem sameRecords_of_fill {s next : LedgerState} {fill : FillReceived}
    (h : applyFill rt s fill = .ok next) : SameRecords s next := by
  rw [applyFill] at h
  obtain ⟨order, -, h⟩ := bind_eq_ok.mp h
  cases hfill : order.fillFingerprints.get? fill.fillId with
  | some existing =>
    simp only [hfill] at h
    split_ifs at h
    · cases h
      exact ⟨rfl, rfl, rfl⟩
  | none =>
    simp only [hfill] at h
    rw [applyNewFill] at h
    obtain ⟨filled, -, h⟩ := bind_eq_ok.mp h
    obtain ⟨-, h⟩ := raiseIf_bind_eq_ok.mp h
    obtain ⟨u, -, h⟩ := bind_eq_ok.mp h
    obtain ⟨-, h⟩ := raiseIf_bind_eq_ok.mp h
    obtain ⟨gross, -, h⟩ := bind_eq_ok.mp h
    obtain ⟨⟨t, o⟩, ht, h⟩ := bind_eq_ok.mp h
    have hside : SameRecords s t := by
      rw [applySideFill] at ht
      cases hs : order.intent.side with
      | buy =>
        rw [hs] at ht
        exact sameRecords_of_buyFill ht
      | sell =>
        rw [hs] at ht
        exact sameRecords_of_sellFill ht
    exact hside.trans (sameRecords_of_recordFill h)

theorem sameRecords_of_settlement {s next : LedgerState} {e : PositionSettled}
    (h : applySettlement s e = .ok next) : SameRecords s next := by
  rw [applySettlement] at h
  obtain ⟨p, -, h⟩ := bind_eq_ok.mp h
  obtain ⟨-, h⟩ := raiseIf_bind_eq_ok.mp h
  obtain ⟨-, h⟩ := raiseIf_bind_eq_ok.mp h
  obtain ⟨resolution, -, h⟩ := bind_eq_ok.mp h
  obtain ⟨-, h⟩ := raiseIf_bind_eq_ok.mp h
  obtain ⟨payout, -, h⟩ := bind_eq_ok.mp h
  obtain ⟨gross, -, h⟩ := bind_eq_ok.mp h
  obtain ⟨-, h⟩ := raiseIf_bind_eq_ok.mp h
  obtain ⟨net, -, h⟩ := bind_eq_ok.mp h
  obtain ⟨proceeds, -, h⟩ := bind_eq_ok.mp h
  obtain ⟨realized, -, h⟩ := bind_eq_ok.mp h
  obtain ⟨cash, -, h⟩ := bind_eq_ok.mp h
  cases h
  exact ⟨rfl, rfl, rfl⟩

theorem recording_of_observation {s next : LedgerState} {e : WeatherObservationRecorded}
    (h : applyWeatherObservation s e = .ok next) :
    Recording s (.weatherObservationRecorded e) next := by
  rw [applyWeatherObservation] at h
  obtain ⟨u, -, h⟩ := bind_eq_ok.mp h
  cases hfind : (observationsOf s e.evidence.marketId).find? fun prior =>
      prior.payloadHash = e.evidence.payloadHash with
  | some prior =>
    rw [observationsOf] at hfind
    simp only [hfind] at h
    split_ifs at h
    · cases h
      exact .same _ _ ⟨rfl, rfl, rfl⟩
  | none =>
    have hnew : ∀ prior ∈ observationsOf s e.evidence.marketId,
        prior.payloadHash ≠ e.evidence.payloadHash := by
      intro prior hprior
      simpa using List.find?_eq_none.mp hfind prior hprior
    rw [observationsOf] at hfind
    simp only [hfind] at h
    obtain ⟨hrevision, h⟩ := check_bind_eq_ok.mp h
    cases h
    exact .observation e hnew hrevision

theorem recording_of_evidence {s next : LedgerState} {e : MarketResolutionEvidenceRecorded}
    (h : applyResolutionEvidence s e = .ok next) :
    Recording s (.marketResolutionEvidenceRecorded e) next := by
  rw [applyResolutionEvidence] at h
  obtain ⟨u, -, h⟩ := bind_eq_ok.mp h
  cases hget : s.resolutionEvidence.get? e.evidence.marketId with
  | some existing =>
    simp only [hget] at h
    split_ifs at h
    · cases h
      exact .same _ _ ⟨rfl, rfl, rfl⟩
  | none =>
    simp only [hget] at h
    obtain ⟨-, h⟩ := raiseIf_bind_eq_ok.mp h
    cases h
    exact .evidence e hget

theorem recording_of_resolution {s next : LedgerState} {e : MarketResolved}
    (h : applyResolution s e = .ok next) : Recording s (.marketResolved e) next := by
  rw [applyResolution] at h
  obtain ⟨-, h⟩ := raiseIf_bind_eq_ok.mp h
  cases hget : s.resolutions.get? e.resolution.marketId with
  | some existing =>
    simp only [hget] at h
    split_ifs at h
    · cases h
      exact .same _ _ ⟨rfl, rfl, rfl⟩
  | none =>
    simp only [hget] at h
    cases h
    exact .resolution e hget

/-- **A reducer adds one record of evidence or none.** -/
theorem recording_of_reduce {s next : LedgerState} {event : LedgerEvent}
    (h : reduce rt s event = .ok next) : Recording s event next := by
  cases event with
  | weatherObservationRecorded e => exact recording_of_observation h
  | marketResolutionEvidenceRecorded e => exact recording_of_evidence h
  | marketResolved e => exact recording_of_resolution h
  | accountOpened e =>
    rw [reduce, applyAccountOpened, raiseIf_bind_eq_ok, raiseIf_bind_eq_ok] at h
    obtain ⟨-, -, h⟩ := h
    cases h
    exact .same _ _ ⟨rfl, rfl, rfl⟩
  | orderIntentCreated e => exact .same _ _ (sameRecords_of_intentCreated h)
  | orderSubmitted e =>
    rw [reduce, applySubmitted] at h
    obtain ⟨order, -, h⟩ := bind_eq_ok.mp h
    obtain ⟨u, -, h⟩ := bind_eq_ok.mp h
    obtain ⟨-, h⟩ := raiseIf_bind_eq_ok.mp h
    cases h
    exact .same _ _ ⟨rfl, rfl, rfl⟩
  | orderAcknowledged e =>
    rw [reduce, applyAcknowledged] at h
    obtain ⟨order, -, h⟩ := bind_eq_ok.mp h
    obtain ⟨u, -, h⟩ := bind_eq_ok.mp h
    cases h
    exact .same _ _ ⟨rfl, rfl, rfl⟩
  | fillReceived e => exact .same _ _ (sameRecords_of_fill h)
  | orderRejected e => exact .same _ _ (sameRecords_of_terminal h)
  | orderCancelled e => exact .same _ _ (sameRecords_of_terminal h)
  | orderOutcomeUnknown e =>
    rw [reduce, applyUnknown] at h
    obtain ⟨order, -, h⟩ := bind_eq_ok.mp h
    obtain ⟨u, -, h⟩ := bind_eq_ok.mp h
    cases h
    exact .same _ _ ⟨rfl, rfl, rfl⟩
  | positionSettled e => exact .same _ _ (sameRecords_of_settlement h)
  | riskScopeRegistered e =>
    rw [reduce, applyRiskScopeRegistered] at h
    obtain ⟨u, -, h⟩ := bind_eq_ok.mp h
    cases h
    exact .same _ _ ⟨rfl, rfl, rfl⟩
  | portfolioValuationRecorded e =>
    rw [reduce, applyPortfolioValuation] at h
    obtain ⟨u, -, h⟩ := bind_eq_ok.mp h
    obtain ⟨-, h⟩ := raiseIf_bind_eq_ok.mp h
    obtain ⟨-, h⟩ := raiseIf_bind_eq_ok.mp h
    obtain ⟨total, -, h⟩ := bind_eq_ok.mp h
    obtain ⟨equity, -, h⟩ := bind_eq_ok.mp h
    obtain ⟨-, h⟩ := raiseIf_bind_eq_ok.mp h
    cases h
    exact .same _ _ ⟨rfl, rfl, rfl⟩

/-! ## Later states -/

/-- A later state of an order: the same intent, and every fill recorded before. -/
structure OrderExtends (o o' : OrderAggregate) : Prop where
  intent : o'.intent = o.intent
  fill : ∀ fillId fp, o.fillFingerprints.get? fillId = some fp →
    o'.fillFingerprints.get? fillId = some fp

/-- A later state of a ledger: it has everything that `s` recorded. -/
structure Extends (s s' : LedgerState) : Prop where
  opened : s.opened = true → s'.opened = true
  event : ∀ eventId fp, s.eventFingerprints.get? eventId = some fp →
    s'.eventFingerprints.get? eventId = some fp
  order : ∀ intentId o, s.orders.get? intentId = some o →
    ∃ o', s'.orders.get? intentId = some o' ∧ OrderExtends o o'
  observations : ∀ marketId, observationsOf s marketId <+: observationsOf s' marketId
  resolutionEvidence : ∀ marketId e, s.resolutionEvidence.get? marketId = some e →
    s'.resolutionEvidence.get? marketId = some e
  resolution : ∀ marketId r, s.resolutions.get? marketId = some r →
    s'.resolutions.get? marketId = some r
  settled : ∀ k p, s.positions.get? k = some p → p.status = .settled →
    s'.positions.get? k = some p

theorem Extends.refl (s : LedgerState) : Extends s s where
  opened h := h
  event _ _ h := h
  order _ o h := ⟨o, h, rfl, fun _ _ h => h⟩
  observations _ := List.prefix_refl _
  resolutionEvidence _ _ h := h
  resolution _ _ h := h
  settled _ _ h _ := h

theorem Extends.trans {s t u : LedgerState} (h : Extends s t) (h' : Extends t u) : Extends s u where
  opened ho := h'.opened (h.opened ho)
  event k v hv := h'.event k v (h.event k v hv)
  order k o ho := by
    obtain ⟨o', ho', hoo'⟩ := h.order k o ho
    obtain ⟨o'', ho'', hoo''⟩ := h'.order k o' ho'
    exact ⟨o'', ho'', hoo''.intent.trans hoo'.intent,
      fun f fp hf => hoo''.fill f fp (hoo'.fill f fp hf)⟩
  observations k := (h.observations k).trans (h'.observations k)
  resolutionEvidence k v hv := h'.resolutionEvidence k v (h.resolutionEvidence k v hv)
  resolution k v hv := h'.resolution k v (h.resolution k v hv)
  settled k p hp hs := h'.settled k p (h.settled k p hp hs) hs

theorem extends_recordEvent {s : LedgerState} {eventId eventFp : String}
    (h : s.eventFingerprints.get? eventId = none) : Extends s (recordEvent s eventId eventFp) :=
  { Extends.refl s with
    event := by
      intro k v hv
      have hne : eventId ≠ k := by
        rintro rfl
        rw [h] at hv
        cases hv
      rwa [recordEvent, Dict.get?_insert_of_ne _ _ hne] }

/-! ### What a step keeps -/

/-- The orders after one of them is replaced. -/
theorem orders_insert {orders : Dict String OrderAggregate} {o' : OrderAggregate}
    (h : ∀ o, orders.get? o'.intent.intentId = some o → OrderExtends o o') {intentId : String}
    {o : OrderAggregate} (ho : orders.get? intentId = some o) :
    ∃ o'', (orders.insert o'.intent.intentId o').get? intentId = some o'' ∧ OrderExtends o o'' := by
  by_cases hk : o'.intent.intentId = intentId
  · subst hk
    exact ⟨o', Dict.get?_insert_self .., h o ho⟩
  · exact ⟨o, by rw [Dict.get?_insert_of_ne _ _ hk, ho], rfl, fun _ _ h => h⟩

/-- The settled positions after an open one is replaced. -/
theorem settled_insert {positions : Dict (String × String) Position} {p' : Position}
    (h : ∀ p, positions.get? p'.key = some p → p.status = .settled → p' = p) {k : String × String}
    {p : Position} (hp : positions.get? k = some p) (hs : p.status = .settled) :
    (positions.insert p'.key p').get? k = some p := by
  by_cases hk : p'.key = k
  · subst hk
    rw [Dict.get?_insert_self, h p hp hs]
  · rw [Dict.get?_insert_of_ne _ _ hk, hp]

/-- The orders and settled positions that a step keeps. -/
structure KeepsBooks (s s' : LedgerState) : Prop where
  opened : s.opened = true → s'.opened = true
  events : s'.eventFingerprints = s.eventFingerprints
  order : ∀ intentId o, s.orders.get? intentId = some o →
    ∃ o', s'.orders.get? intentId = some o' ∧ OrderExtends o o'
  settled : ∀ k p, s.positions.get? k = some p → p.status = .settled →
    s'.positions.get? k = some p

theorem OrderFilled.orderExtends {fill : FillReceived} {o o' : OrderAggregate}
    (h : OrderFilled rt fill o o') (hnew : o.fillFingerprints.get? fill.fillId = none) :
    OrderExtends o o' where
  intent := h.intent
  fill f fp hf := by
    have hne : fill.fillId ≠ f := by
      rintro rfl
      rw [hnew] at hf
      cases hf
    rwa [h.fillFingerprints, Dict.get?_insert_of_ne _ _ hne]

theorem orderExtends_of_get {orders : Dict String OrderAggregate} {intentId : String}
    {order order' : OrderAggregate} (hget : orders.get? intentId = some order)
    (hkey : order.intent.intentId = intentId) (h : OrderExtends order order') :
    ∀ o, orders.get? order'.intent.intentId = some o → OrderExtends o order' := by
  intro o ho
  rw [h.intent, hkey, hget] at ho
  cases ho
  exact h

/-- Nothing is taken from a settled position. -/
theorem closedSell_settled {s : LedgerState} (hs : s.Invariants) {intentId : String}
    {order : OrderAggregate} {p : Position} {reservedQuantity : Micros}
    (hget : s.orders.get? intentId = some order) (hside : order.intent.side = .sell)
    (hposition : s.positions.get? order.key = some p) (hsettled : p.status = .settled)
    (hreserved : reservedQuantity.val = p.reservedQuantity - order.reservedQuantity) :
    { p with reservedQuantity } = p := by
  have hp := hs.position hposition
  obtain ⟨-, hzero, -⟩ := hp.settled hsettled
  have hsell : s.sellReserved order.key = 0 := hp.reserved_eq.symm.trans hzero
  have horder := hs.sell_reserved_eq_zero hget hside hsell
  have : reservedQuantity = p.reservedQuantity := by
    apply Micros.ext
    omega
  rw [this]

theorem keepsBooks_of_step {s next : LedgerState} {event : LedgerEvent} (hs : s.Invariants)
    (h : Step rt s event next) : KeepsBooks s next := by
  have hkeyed := hs.wellKeyed
  cases h with
  | unchanged _ hstarted => exact ⟨id, rfl, (Extends.refl s).order, (Extends.refl s).settled⟩
  | opened e hclosed hcurrency =>
    exact ⟨fun _ => rfl, rfl, (Extends.refl s).order, (Extends.refl s).settled⟩
  | buyIntent e order reservedCash hnew hside hcurrency horder =>
    refine ⟨id, rfl, fun _ _ ho => orders_insert ?_ ho, (Extends.refl s).settled⟩
    intro o ho
    have hintent := (OrderAggregate.new_eq_ok horder).1
    rw [hintent, hnew] at ho
    cases ho
  | sellIntent e order p reservedQuantity hnew hside hcurrency horder hposition hopen =>
    refine ⟨id, rfl, fun _ _ ho => orders_insert ?_ ho, fun _ _ hp => settled_insert ?_ hp⟩
    · intro o ho
      have hintent := (OrderAggregate.new_eq_ok horder).1
      have ho : s.orders.get? order.intent.intentId = some o := ho
      rw [hintent, hnew] at ho
      cases ho
    · intro q hq hsettled
      have hkey : p.key = e.intent.key := hkeyed.position hposition
      have hq : s.positions.get? p.key = some q := hq
      rw [hkey, hposition] at hq
      cases hq
      rw [hopen] at hsettled
      cases hsettled
  | moved _ intentId order target backendOrderId unknownReason hget =>
    refine ⟨id, rfl, fun _ _ ho => orders_insert ?_ ho, (Extends.refl s).settled⟩
    exact orderExtends_of_get hget (hkeyed.order hget) ⟨rfl, fun _ _ h => h⟩
  | closedBuy _ intentId order target reason reservedCash hget =>
    refine ⟨id, rfl, fun _ _ ho => orders_insert ?_ ho, (Extends.refl s).settled⟩
    exact orderExtends_of_get hget (hkeyed.order hget) ⟨rfl, fun _ _ h => h⟩
  | closedSell _ intentId order target reason p reservedQuantity hget hside htarget hallowed
      hposition hreserved =>
    refine ⟨id, rfl, fun _ _ ho => orders_insert ?_ ho, fun _ _ hp => settled_insert ?_ hp⟩
    · exact orderExtends_of_get hget (hkeyed.order hget) ⟨rfl, fun _ _ h => h⟩
    · intro q hq hsettled
      have hkey : p.key = order.key := hkeyed.position hposition
      have hq : s.positions.get? p.key = some q := hq
      rw [hkey, hposition] at hq
      cases hq
      exact closedSell_settled hs hget hside hposition hsettled hreserved
  | buyFill fill order order' p' cash reservedCash h =>
    refine ⟨id, rfl, fun _ _ ho => orders_insert ?_ ho, fun _ _ hp => settled_insert ?_ hp⟩
    · exact orderExtends_of_get h.get (hkeyed.order h.get) (OrderFilled.orderExtends h.filled h.new)
    · intro q hq hsettled
      have hq : s.positions.get? p'.key = some q := hq
      have hopen := h.position_open
      rw [h.key_eq hkeyed] at hq
      rw [positionOrEmpty, hq, Option.getD_some, hsettled] at hopen
      cases hopen
  | sellFill fill order order' p p' cash net allocated h =>
    refine ⟨id, rfl, fun _ _ ho => orders_insert ?_ ho, fun _ _ hp => settled_insert ?_ hp⟩
    · exact orderExtends_of_get h.get (hkeyed.order h.get) (OrderFilled.orderExtends h.filled h.new)
    · intro q hq hsettled
      have hq : s.positions.get? p'.key = some q := hq
      rw [h.key_eq hkeyed, h.position] at hq
      cases hq
      rw [h.position_open] at hsettled
      cases hsettled
  | recorded => exact ⟨id, rfl, (Extends.refl s).order, (Extends.refl s).settled⟩
  | settled e p p' cash net h =>
    refine ⟨id, rfl, (Extends.refl s).order, fun _ _ hp => settled_insert ?_ hp⟩
    intro q hq hsettled
    have hq : s.positions.get? p'.key = some q := hq
    rw [h.key_eq hkeyed, h.position] at hq
    cases hq
    rw [h.position_open] at hsettled
    cases hsettled

/-- Records of evidence are kept. -/
theorem Recording.keeps {s next : LedgerState} {event : LedgerEvent}
    (h : Recording s event next) :
    (∀ marketId, observationsOf s marketId <+: observationsOf next marketId) ∧
    (∀ marketId e, s.resolutionEvidence.get? marketId = some e →
      next.resolutionEvidence.get? marketId = some e) ∧
    ∀ marketId r, s.resolutions.get? marketId = some r →
      next.resolutions.get? marketId = some r := by
  have hinsert : ∀ {V : Type} {d : Dict String V} {k k' : String} {v w : V}, d.get? k = none →
      d.get? k' = some w → (d.insert k v).get? k' = some w := by
    intro V d k k' v w hnone hsome
    rw [Dict.get?_insert_of_ne _ _ (by rintro rfl; rw [hnone] at hsome; cases hsome), hsome]
  cases h with
  | same _ _ hsame =>
    obtain ⟨h1, h2, h3⟩ := hsame
    rw [h1, h2]
    exact ⟨fun k => by rw [observationsOf, observationsOf, h3], fun _ _ h => h, fun _ _ h => h⟩
  | observation e hnew hrevision =>
    refine ⟨fun k => ?_, fun _ _ h => h, fun _ _ h => h⟩
    rw [observationsOf_insert]
    split_ifs with hk
    · subst hk
      exact List.prefix_append _ _
    · exact List.prefix_refl _
  | evidence e hnew => exact ⟨fun _ => List.prefix_refl _, fun _ _ h => hinsert hnew h, fun _ _ h => h⟩
  | resolution e hnew => exact ⟨fun _ => List.prefix_refl _, fun _ _ h => h, fun _ _ h => hinsert hnew h⟩

theorem extends_of_reduce {s next : LedgerState} {event : LedgerEvent} (hs : s.Invariants)
    (h : reduce rt s event = .ok next) : Extends s next := by
  obtain ⟨hopened, hevents, horder, hsettled⟩ := keepsBooks_of_step hs (step_of_reduce hs.wellKeyed h)
  obtain ⟨hobs, hevidence, hresolution⟩ := (recording_of_reduce h).keeps
  exact ⟨hopened, fun _ _ h => by rwa [hevents], horder, hobs, hevidence, hresolution, hsettled⟩

theorem extends_of_applyEvent {s s' : LedgerState} {event : LedgerEvent} (hs : s.Invariants)
    (h : applyEvent rt s event = .ok s') : Extends s s' := by
  rcases applyEvent_eq_ok.mp h with ⟨-, rfl⟩ | ⟨hnew, next, hnext, rfl, -⟩
  · exact .refl s'
  · have hkeep := (keepsBooks_of_step hs (step_of_reduce hs.wellKeyed hnext)).events
    exact (extends_of_reduce hs hnext).trans (extends_recordEvent (by rw [hkeep, hnew]))

/-- **Every later state of a run extends the earlier ones.** -/
theorem extends_of_applyEvents {s s' : LedgerState} {events : List LedgerEvent} (hs : s.Invariants)
    (h : applyEvents rt s events = .ok s') : Extends s s' :=
  (foldlM_invariant (fun t => t.Invariants ∧ Extends s t)
    (fun _ _ _ ht h => ⟨applyEvent_invariants ht.1 h, ht.2.trans (extends_of_applyEvent ht.1 h)⟩)
    events s s' ⟨hs, .refl s⟩ h).2

end WeatherBot.Ledger
