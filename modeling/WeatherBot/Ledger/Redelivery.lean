import WeatherBot.Domain.Canonical
import WeatherBot.Ledger.History

/-!
# Repeated delivery

An event that was accepted once can be delivered again at any later time of a
run, under its own identifier or with the same content under a fresh one.

* `Delivered`: a state has recorded the content of an event.
* `delivered_of_mem`: so does every later state of the run.
* `redelivery_harmless`: a repeat changes at most the event fingerprints.
-/

namespace WeatherBot.Ledger

open WeatherBot.Common
open WeatherBot.Domain

variable {rt : Runtime}

/-! ## Equal records -/

theorem OrderIntent.PyEq.trans {a b c : OrderIntent} (h : a.PyEq b) (h' : b.PyEq c) : a.PyEq c := by
  obtain ⟨h1, h2, h3, h4, h5, h6, h7, h8, h9, h10⟩ := h
  obtain ⟨k1, k2, k3, k4, k5, k6, k7, k8, k9, k10⟩ := h'
  exact ⟨h1.trans k1, h2.trans k2, h3.trans k3, h4.trans k4, h5.trans k5, h6.trans k6, h7.trans k7,
    h8.trans k8, h9.trans k9, h10.trans k10⟩

theorem MarketResolution.PyEq.trans {a b c : MarketResolution} (h : a.PyEq b) (h' : b.PyEq c) :
    a.PyEq c :=
  ⟨h.1.trans h'.1, h.2.1.trans h'.2.1, h.2.2.trans h'.2.2⟩

theorem MarketResolutionEvidence.PyEq.trans {a b c : MarketResolutionEvidence} (h : a.PyEq b)
    (h' : b.PyEq c) : a.PyEq c := by
  obtain ⟨h1, h2, h3⟩ := h
  obtain ⟨k1, k2, k3⟩ := h'
  refine ⟨h1.trans k1, h2.trans k2, ?_⟩
  cases a
  cases b
  cases c
  simp only [MarketResolutionEvidence.mk.injEq] at h3 k3 ⊢
  simp [h3, k3]

theorem NumEq.trans {a b c : Decimal} (h : a.NumEq b) (h' : b.NumEq c) : a.NumEq c := by
  unfold Decimal.NumEq at *
  have hb : (10 : ℤ) ^ b.scale ≠ 0 := by positivity
  apply mul_right_cancel₀ hb
  calc a.signed * 10 ^ c.scale * 10 ^ b.scale
      = a.signed * 10 ^ b.scale * 10 ^ c.scale := by ring
    _ = b.signed * 10 ^ c.scale * 10 ^ a.scale := by rw [h]; ring
    _ = c.signed * 10 ^ a.scale * 10 ^ b.scale := by rw [h']; ring

theorem WeatherObservationEvidence.PyEq.trans {a b c : WeatherObservationEvidence} (h : a.PyEq b)
    (h' : b.PyEq c) : a.PyEq c := by
  obtain ⟨h1, h2, h3, h4⟩ := h
  obtain ⟨k1, k2, k3, k4⟩ := h'
  refine ⟨NumEq.trans h1 k1, h2.trans k2, h3.trans k3, ?_⟩
  cases a
  cases b
  cases c
  simp only [WeatherObservationEvidence.mk.injEq] at h4 k4 ⊢
  simp [h4, k4]

/-- Equal observations are of one market and have one payload hash. -/
theorem observation_key {a b : WeatherObservationEvidence} (h : a.PyEq b) :
    a.marketId = b.marketId ∧ a.payloadHash = b.payloadHash := by
  obtain ⟨-, -, -, h⟩ := h
  rw [← h]
  exact ⟨rfl, rfl⟩

/-- Equal records of evidence are of one market. -/
theorem evidence_key {a b : MarketResolutionEvidence} (h : a.PyEq b) :
    a.marketId = b.marketId := by
  obtain ⟨-, -, h⟩ := h
  rw [← h]

/-! ## Recorded content -/

/-- Two events with the same content, whatever their identifiers and times. -/
def SameContent : LedgerEvent → LedgerEvent → Prop
  | .fillReceived a, .fillReceived b =>
    a.intentId = b.intentId ∧ a.fillId = b.fillId ∧ a.quantity = b.quantity ∧ a.price = b.price ∧
      a.fee = b.fee
  | .orderIntentCreated a, .orderIntentCreated b => a.intent.PyEq b.intent
  | .weatherObservationRecorded a, .weatherObservationRecorded b => a.evidence.PyEq b.evidence
  | .marketResolutionEvidenceRecorded a, .marketResolutionEvidenceRecorded b =>
    a.evidence.PyEq b.evidence
  | .marketResolved a, .marketResolved b => a.resolution.PyEq b.resolution
  | _, _ => False

/-- The observation of a market with this payload hash. -/
def recordedObservation (s : LedgerState) (marketId payloadHash : String) :
    Option WeatherObservationEvidence :=
  (observationsOf s marketId).find? fun prior => prior.payloadHash = payloadHash

/-- A state has recorded the content of an event. -/
def Delivered (rt : Runtime) (s : LedgerState) : LedgerEvent → Prop
  | .fillReceived e => ∃ o, s.orders.get? e.intentId = some o ∧
      o.fillFingerprints.get? e.fillId = some (e.deliveryFingerprint rt)
  | .orderIntentCreated e => s.opened = true ∧ ∃ o, s.orders.get? e.intent.intentId = some o ∧
      o.intent.PyEq e.intent
  | .weatherObservationRecorded e => s.opened = true ∧
      ∃ prior, recordedObservation s e.evidence.marketId e.evidence.payloadHash = some prior ∧
        prior.PyEq e.evidence
  | .marketResolutionEvidenceRecorded e => s.opened = true ∧
      ∃ x, s.resolutionEvidence.get? e.evidence.marketId = some x ∧ x.PyEq e.evidence
  | .marketResolved e => ∃ x, s.resolutions.get? e.resolution.marketId = some x ∧
      x.PyEq e.resolution
  | _ => True

theorem recordedObservation_of_extends {s s' : LedgerState} (h : Extends s s')
    {marketId payloadHash : String} {prior : WeatherObservationEvidence}
    (hprior : recordedObservation s marketId payloadHash = some prior) :
    recordedObservation s' marketId payloadHash = some prior := by
  obtain ⟨t, ht⟩ := h.observations marketId
  rw [recordedObservation] at hprior
  rw [recordedObservation, ← ht, List.find?_append, hprior, Option.some_or]

/-- What is recorded stays recorded. -/
theorem Delivered.mono {s s' : LedgerState} (h : Extends s s') {e : LedgerEvent}
    (he : Delivered rt s e) : Delivered rt s' e := by
  cases e with
  | fillReceived e =>
    obtain ⟨o, ho, hfill⟩ := he
    obtain ⟨o', ho', hoo'⟩ := h.order _ o ho
    exact ⟨o', ho', hoo'.fill _ _ hfill⟩
  | orderIntentCreated e =>
    obtain ⟨hopened, o, ho, heq⟩ := he
    obtain ⟨o', ho', hoo'⟩ := h.order _ o ho
    exact ⟨h.opened hopened, o', ho', by rw [hoo'.intent]; exact heq⟩
  | weatherObservationRecorded e =>
    obtain ⟨hopened, prior, hprior, heq⟩ := he
    exact ⟨h.opened hopened, prior, recordedObservation_of_extends h hprior, heq⟩
  | marketResolutionEvidenceRecorded e =>
    obtain ⟨hopened, x, hx, heq⟩ := he
    exact ⟨h.opened hopened, x, h.resolutionEvidence _ x hx, heq⟩
  | marketResolved e =>
    obtain ⟨x, hx, heq⟩ := he
    exact ⟨x, h.resolution _ x hx, heq⟩
  | _ => trivial

theorem delivered_of_fill {s next : LedgerState} {e : FillReceived} (hs : s.WellKeyed)
    (h : applyFill rt s e = .ok next) : Delivered rt next (.fillReceived e) := by
  obtain ⟨order, horder, h⟩ := bind_eq_ok.mp h
  have hget := orderOf_eq_ok.mp horder
  -- the order of the step is filed under the intent of the fill
  have hfiled : ∀ (t : LedgerState) (o' : OrderAggregate), OrderFilled rt e order o' →
      Delivered rt (replaceOrder t o') (.fillReceived e) := by
    intro t o' ho'
    refine ⟨o', ?_, ?_⟩
    · rw [replaceOrder, ho'.intent, hs.order hget, Dict.get?_insert_self]
    · rw [ho'.fillFingerprints, Dict.get?_insert_self]
  cases hknown : order.fillFingerprints.get? e.fillId with
  | some existing =>
    simp only [hknown] at h
    split_ifs at h with heq
    cases h
    exact ⟨order, hget, by rw [hknown, heq]⟩
  | none =>
    simp only [hknown] at h
    cases hside : order.intent.side with
    | buy =>
      obtain ⟨o', p', cash, reservedCash, hfill, rfl⟩ := step_of_buyFill hget hknown hside h
      exact hfiled _ o' hfill.filled
    | sell =>
      obtain ⟨o', p, p', cash, net, allocated, hfill, rfl⟩ := step_of_sellFill hs hget hknown hside h
      exact hfiled _ o' hfill.filled

theorem delivered_of_intent {s next : LedgerState} {e : OrderIntentCreated}
    (h : applyIntentCreated s e = .ok next) (hopened : next.opened = true) :
    Delivered rt next (.orderIntentCreated e) := by
  refine ⟨hopened, ?_⟩
  obtain ⟨-, h⟩ := check_bind_eq_ok.mp h
  cases hget : s.orders.get? e.intent.intentId with
  | some existing =>
    simp only [hget] at h
    split_ifs at h with heq
    cases h
    exact ⟨existing, hget, heq⟩
  | none =>
    simp only [hget] at h
    obtain ⟨-, h⟩ := raiseIf_bind_eq_ok.mp h
    obtain ⟨order, horder, h⟩ := bind_eq_ok.mp h
    obtain ⟨t, -, h⟩ := bind_eq_ok.mp h
    cases h
    have hintent := (OrderAggregate.new_eq_ok horder).1
    refine ⟨order, ?_, ?_⟩
    · rw [replaceOrder, hintent, Dict.get?_insert_self]
    · rw [hintent]
      exact OrderIntent.PyEq.refl _

theorem MarketResolution.PyEq.refl (a : MarketResolution) : a.PyEq a := ⟨rfl, rfl, rfl⟩

theorem MarketResolutionEvidence.PyEq.refl (a : MarketResolutionEvidence) : a.PyEq a :=
  ⟨rfl, rfl, rfl⟩

theorem WeatherObservationEvidence.PyEq.refl (a : WeatherObservationEvidence) : a.PyEq a :=
  ⟨rfl, rfl, rfl, rfl⟩

theorem delivered_of_observation {s next : LedgerState} {e : WeatherObservationRecorded}
    (h : applyWeatherObservation s e = .ok next) :
    Delivered rt next (.weatherObservationRecorded e) := by
  obtain ⟨hopened, h⟩ := check_bind_eq_ok.mp h
  have hopened := requireOpened_eq_ok.mp hopened
  cases hfind : recordedObservation s e.evidence.marketId e.evidence.payloadHash with
  | some prior =>
    have hfind' := hfind
    rw [recordedObservation, observationsOf] at hfind'
    simp only [hfind'] at h
    split_ifs at h with heq
    cases h
    exact ⟨hopened, prior, hfind, heq⟩
  | none =>
    have hfind' := hfind
    rw [recordedObservation, observationsOf] at hfind'
    simp only [hfind'] at h
    obtain ⟨-, h⟩ := check_bind_eq_ok.mp h
    cases h
    refine ⟨hopened, e.evidence, ?_, WeatherObservationEvidence.PyEq.refl _⟩
    rw [recordedObservation, observationsOf_insert, if_pos rfl, List.find?_append, hfind']
    simp

theorem delivered_of_evidence {s next : LedgerState} {e : MarketResolutionEvidenceRecorded}
    (h : applyResolutionEvidence s e = .ok next) :
    Delivered rt next (.marketResolutionEvidenceRecorded e) := by
  obtain ⟨hopened, h⟩ := check_bind_eq_ok.mp h
  have hopened := requireOpened_eq_ok.mp hopened
  cases hget : s.resolutionEvidence.get? e.evidence.marketId with
  | some existing =>
    simp only [hget] at h
    split_ifs at h with heq
    cases h
    exact ⟨hopened, existing, hget, heq⟩
  | none =>
    simp only [hget] at h
    obtain ⟨-, h⟩ := raiseIf_bind_eq_ok.mp h
    cases h
    exact ⟨hopened, e.evidence, Dict.get?_insert_self .., MarketResolutionEvidence.PyEq.refl _⟩

theorem delivered_of_resolution {s next : LedgerState} {e : MarketResolved}
    (h : applyResolution s e = .ok next) : Delivered rt next (.marketResolved e) := by
  obtain ⟨-, h⟩ := raiseIf_bind_eq_ok.mp h
  cases hget : s.resolutions.get? e.resolution.marketId with
  | some existing =>
    simp only [hget] at h
    split_ifs at h with heq
    cases h
    exact ⟨existing, hget, heq⟩
  | none =>
    simp only [hget] at h
    cases h
    exact ⟨e.resolution, Dict.get?_insert_self .., MarketResolution.PyEq.refl _⟩

/-- A reducer that returns has recorded the content of its event. -/
theorem delivered_of_reduce {s next : LedgerState} {event : LedgerEvent} (hs : s.Invariants)
    (hnext : next.Invariants) (h : reduce rt s event = .ok next) : Delivered rt next event := by
  cases event with
  | fillReceived e => exact delivered_of_fill hs.wellKeyed h
  | orderIntentCreated e =>
    exact delivered_of_intent h (opened_of_step hs hnext (step_of_reduce hs.wellKeyed h))
  | weatherObservationRecorded e => exact delivered_of_observation h
  | marketResolutionEvidenceRecorded e => exact delivered_of_evidence h
  | marketResolved e => exact delivered_of_resolution h
  | _ => trivial

/-! ## Recorded identifiers -/

/-- Every recorded identifier comes from an event whose content is recorded. -/
def Remembers (rt : Runtime) (s : LedgerState) : Prop :=
  ∀ eventId fp, s.eventFingerprints.get? eventId = some fp →
    ∃ e : LedgerEvent, e.eventId = eventId ∧ fp = fingerprint rt e.canonical ∧ Delivered rt s e

theorem remembers_of_applyEvent {s s' : LedgerState} {event : LedgerEvent} (hs : s.Invariants)
    (hrem : Remembers rt s) (h : applyEvent rt s event = .ok s') : Remembers rt s' := by
  have hext := extends_of_applyEvent hs h
  rcases applyEvent_eq_ok.mp h with ⟨-, rfl⟩ | ⟨hnew, next, hnext, rfl, hinv⟩
  · exact hrem
  · have hevents := (keepsBooks_of_step hs (step_of_reduce hs.wellKeyed hnext)).events
    intro eventId fp hfp
    rw [recordEvent, Dict.get?_insert] at hfp
    split_ifs at hfp with hk
    · cases hfp
      refine ⟨event, hk, rfl, ?_⟩
      have hdelivered := delivered_of_reduce hs (invariants_recordEvent.mp hinv) hnext
      exact hdelivered.mono (extends_recordEvent (by rw [hevents, hnew]))
    · rw [hevents] at hfp
      obtain ⟨e, he, hfpe, hdel⟩ := hrem eventId fp hfp
      exact ⟨e, he, hfpe, hdel.mono hext⟩

/-- An accepted event's identifier is recorded with its fingerprint. -/
theorem recorded_of_applyEvent {s s' : LedgerState} {event : LedgerEvent}
    (h : applyEvent rt s event = .ok s') :
    s'.eventFingerprints.get? event.eventId = some (fingerprint rt event.canonical) := by
  rcases applyEvent_eq_ok.mp h with ⟨hrec, rfl⟩ | ⟨-, next, -, rfl, -⟩
  · exact hrec
  · exact Dict.get?_insert_self ..

theorem recorded_of_mem {s s' : LedgerState} {events : List LedgerEvent} (hs : s.Invariants)
    (h : applyEvents rt s events = .ok s') {e : LedgerEvent} (he : e ∈ events) :
    s'.eventFingerprints.get? e.eventId = some (fingerprint rt e.canonical) := by
  obtain ⟨before, after, rfl⟩ := List.append_of_mem he
  obtain ⟨t, hbefore, h⟩ := foldlM_append_eq_ok.mp h
  obtain ⟨u, hevent, hafter⟩ := foldlM_cons_eq_ok.mp h
  have ht := applyEvents_invariants hs hbefore
  exact (extends_of_applyEvents (applyEvent_invariants ht hevent) hafter).event _ _
    (recorded_of_applyEvent hevent)

theorem remembers_of_replay {s : LedgerState} {events : List LedgerEvent} {currency : String}
    (h : replay rt events currency = .ok s) : Remembers rt s := by
  have hfresh : Remembers rt (.fresh (rt.upper.normalize currency)) := by
    intro eventId fp hfp
    cases hfp
  exact (foldlM_invariant (fun t => t.Invariants ∧ Remembers rt t)
    (fun _ _ _ ht h => ⟨applyEvent_invariants ht.1 h, remembers_of_applyEvent ht.1 ht.2 h⟩)
    events _ s ⟨invariants_fresh _, hfresh⟩ (replay_eq_ok.mp h).2).2

/-- The content of an accepted event is recorded in every later state. -/
theorem delivered_of_mem (hrt : rt.CollisionFree) {s : LedgerState} {events : List LedgerEvent}
    {currency : String} (h : replay rt events currency = .ok s) {e : LedgerEvent} (he : e ∈ events) :
    Delivered rt s e := by
  have hrec := recorded_of_mem (invariants_fresh _) (replay_eq_ok.mp h).2 he
  obtain ⟨e', -, hfp, hdel⟩ := remembers_of_replay h _ _ hrec
  rwa [fingerprint_inj hrt hfp]

/-! ## Delivering again -/

/-- A recorded resolution does not differ from the evidence of its market. -/
theorem payouts_of_evidence {s : LedgerState} (hs : s.Invariants) {marketId : String}
    {r : MarketResolution} {e : MarketResolutionEvidence}
    (hr : s.resolutions.get? marketId = some r) (he : s.resolutionEvidence.get? marketId = some e) :
    e.payouts = r.payouts := by
  have hcheck := hs.evidence _ (Dict.get?_eq_some.mp he)
  rw [LedgerState.checkEvidence] at hcheck
  obtain ⟨-, hcheck⟩ := raiseIf_bind_eq_ok.mp hcheck
  simp only [hr] at hcheck
  exact (not_not.mp (raiseIf_eq_ok.mp hcheck)).symm

/-- The reducer of an event with recorded content changes nothing. -/
theorem reduce_of_delivered {s : LedgerState} (hs : s.Invariants) {e e' : LedgerEvent}
    (he : Delivered rt s e) (hsame : SameContent e e') : reduce rt s e' = .ok s := by
  cases e with
  | fillReceived a =>
    cases e' with
    | fillReceived b =>
      obtain ⟨hintent, hfill, hquantity, hprice, hfee⟩ := hsame
      obtain ⟨o, ho, hfp⟩ := he
      have hcontent : a.deliveryFingerprint rt = b.deliveryFingerprint rt := by
        simp only [FillReceived.deliveryFingerprint, FillReceived.deliveryContent, hintent, hfill,
          hquantity, hprice, hfee]
      rw [hintent] at ho
      rw [hfill, hcontent] at hfp
      rw [reduce, applyFill, orderOf_eq_ok.mpr ho, ok_bind]
      simp only [hfp, if_true]
      rfl
    | _ => exact hsame.elim
  | orderIntentCreated a =>
    cases e' with
    | orderIntentCreated b =>
      obtain ⟨hopened, o, ho, heq⟩ := he
      have hid : a.intent.intentId = b.intent.intentId := hsame.1
      rw [hid] at ho
      rw [reduce, applyIntentCreated, (requireOpened_eq_ok (u := ())).mpr hopened, ok_bind]
      simp only [ho, if_pos (OrderIntent.PyEq.trans heq hsame)]
      rfl
    | _ => exact hsame.elim
  | weatherObservationRecorded a =>
    cases e' with
    | weatherObservationRecorded b =>
      obtain ⟨hopened, prior, hprior, heq⟩ := he
      obtain ⟨hmarket, hhash⟩ := observation_key hsame
      rw [hmarket, hhash, recordedObservation, observationsOf] at hprior
      rw [reduce, applyWeatherObservation, (requireOpened_eq_ok (u := ())).mpr hopened, ok_bind]
      simp only [hprior, if_pos (WeatherObservationEvidence.PyEq.trans heq hsame)]
      rfl
    | _ => exact hsame.elim
  | marketResolutionEvidenceRecorded a =>
    cases e' with
    | marketResolutionEvidenceRecorded b =>
      obtain ⟨hopened, x, hx, heq⟩ := he
      rw [evidence_key hsame] at hx
      rw [reduce, applyResolutionEvidence, (requireOpened_eq_ok (u := ())).mpr hopened, ok_bind]
      simp only [hx, if_pos (MarketResolutionEvidence.PyEq.trans heq hsame)]
      rfl
    | _ => exact hsame.elim
  | marketResolved a =>
    cases e' with
    | marketResolved b =>
      obtain ⟨x, hx, heq⟩ := he
      have hmarket : a.resolution.marketId = b.resolution.marketId := hsame.1
      rw [hmarket] at hx
      have heq' := MarketResolution.PyEq.trans heq hsame
      -- evidence that came later has the payouts of the recorded resolution
      have hevidence : ¬ ∃ evidence ∈ s.resolutionEvidence.get? b.resolution.marketId,
          evidence.payouts ≠ b.resolution.payouts := by
        rintro ⟨evidence, hmem, hne⟩
        exact hne ((payouts_of_evidence hs hx hmem).trans heq'.2.1)
      rw [reduce, applyResolution, raiseIf_of_not _ hevidence, ok_bind]
      simp only [hx, if_pos heq']
      rfl
    | _ => exact hsame.elim
  | _ => cases e' <;> exact hsame.elim

/-- **Redelivery is harmless at any later time.** In a state that a run reaches after accepting `e`,
`e` changes nothing, another event with its identifier is refused, and an event with its content
under a fresh identifier changes nothing but the event fingerprints. -/
theorem redelivery_harmless (hrt : rt.CollisionFree) {events : List LedgerEvent} {currency : String}
    {s : LedgerState} (h : replay rt events currency = .ok s) {e : LedgerEvent} (he : e ∈ events) :
    applyEvent rt s e = .ok s ∧
    (∀ e' : LedgerEvent, e'.eventId = e.eventId → e' ≠ e →
      ∃ message, applyEvent rt s e' = .error (.duplicateEventConflict message)) ∧
    (∀ e' : LedgerEvent, SameContent e e' → s.eventFingerprints.get? e'.eventId = none →
      applyEvent rt s e' = .ok (recordEvent s e'.eventId (fingerprint rt e'.canonical))) := by
  have hinv : s.Invariants := Reachable.invariants ⟨events, currency, h⟩
  have hrec := recorded_of_mem (invariants_fresh _) (replay_eq_ok.mp h).2 he
  refine ⟨applyEvent_eq_ok.mpr (.inl ⟨hrec, rfl⟩), ?_, ?_⟩
  · intro e' hid hne
    have hfp : fingerprint rt e.canonical ≠ fingerprint rt e'.canonical :=
      fun hfp => hne (fingerprint_inj hrt hfp).symm
    rw [← hid] at hrec
    rw [applyEvent]
    simp only [hrec, if_neg hfp]
    exact ⟨_, rfl⟩
  · intro e' hsame hfresh
    have hreduce := reduce_of_delivered hinv (delivered_of_mem hrt h he) hsame
    exact applyEvent_eq_ok.mpr (.inr ⟨hfresh, s, hreduce, rfl, invariants_recordEvent.mpr hinv⟩)

namespace Sample

/-- The first fill of the sample run. -/
def deliveredFill : FillReceived := firstFill

/-- The same fill under a fresh identifier, after the settlement. -/
def redelivered : FillReceived := { deliveredFill with eventId := "12", eventId_text := .refl false }

/-- The state after the sample run. -/
def finalState : LedgerState := okOr (replay .utc roundTrip "USD") (.fresh "USD")

end Sample

theorem redelivery_harmless_roundTrip :
    applyEvent .utc Sample.finalState (.fillReceived Sample.deliveredFill) = .ok Sample.finalState ∧
    (∃ message, applyEvent .utc Sample.finalState
      (Sample.acknowledged (Sample.event "4" (by decide)) "buy") =
        .error (.duplicateEventConflict message)) ∧
    applyEvent .utc Sample.finalState (.fillReceived Sample.redelivered) =
      .ok (recordEvent Sample.finalState "12"
        (fingerprint .utc (LedgerEvent.fillReceived Sample.redelivered).canonical)) := by
  obtain ⟨hagain, hother, hsame⟩ := redelivery_harmless Runtime.collisionFree_utc
    (eq_ok_okOr (x := replay .utc Sample.roundTrip "USD") (by decide +kernel) (.fresh "USD"))
    (e := .fillReceived Sample.deliveredFill) (List.mem_of_getElem? (i := 3) rfl)
  exact ⟨hagain, hother _ rfl nofun,
    hsame (.fillReceived Sample.redelivered) ⟨rfl, rfl, rfl, rfl, rfl⟩ (by decide +kernel)⟩

end WeatherBot.Ledger
