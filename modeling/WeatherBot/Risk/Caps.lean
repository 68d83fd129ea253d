import WeatherBot.Risk.ExposureSteps

/-!
# The caps over a run

A ledger whose every BUY intent was permitted just before it.

* `Guarded`: **each BUY intent of the events follows what permits it**.
* `WithinCaps`: the caps of the policy, over what is exposed.
* `withinCaps_of_guarded`: **a guarded ledger stays within the caps**, but for a
  millionth for each BUY fill.
-/

namespace WeatherBot.Risk

open WeatherBot.Common
open WeatherBot.Domain
open WeatherBot.Ledger

/-! ## Guarded events -/

/-- A registration or a valuation. -/
def IsRiskRecord : LedgerEvent → Prop
  | .riskScopeRegistered _ => True
  | .portfolioValuationRecorded _ => True
  | _ => False

/-- What a BUY is permitted for, and by which policy. -/
structure Proposal where
  scope : RiskScope
  cash : Money
  valuation : PortfolioValuation
  policy : PortfolioRiskPolicy
  evaluatedAt : DateTime

/-- What is recorded with a BUY: the valuation that it is checked with, behind the registration of its
scope where the key has none. -/
inductive RecordedWith (scope : RiskScope) (valuation : PortfolioValuation) : List LedgerEvent → Prop
  | registered (v : PortfolioValuationRecorded) (hvaluation : v.valuation = valuation) :
      RecordedWith scope valuation [.portfolioValuationRecorded v]
  | unregistered (e : RiskScopeRegistered) (v : PortfolioValuationRecorded) (hscope : e.scope = scope)
      (hvaluation : v.valuation = valuation) :
      RecordedWith scope valuation [.riskScopeRegistered e, .portfolioValuationRecorded v]

theorem RecordedWith.isRiskRecord {scope : RiskScope} {valuation : PortfolioValuation}
    {records : List LedgerEvent} (h : RecordedWith scope valuation records) :
    ∀ event ∈ records, IsRiskRecord event := by
  cases h with
  | registered v hvaluation => exact List.forall_mem_singleton.mpr trivial
  | unregistered e v hscope hvaluation =>
    exact List.forall_mem_cons.mpr ⟨trivial, List.forall_mem_singleton.mpr trivial⟩

section

variable (rt : Runtime) (zoneInfo : String → Option Zone) (policies : Set PortfolioRiskPolicy)
  (currency : String)

/-- A policy permits the intent after some events, and since then came only what is recorded with the
intent and was not in the ledger yet. -/
structure PermittedAfter (prior since : List LedgerEvent) (e : OrderIntentCreated) (s : LedgerState)
    (p : Proposal) : Prop where
  replay : applyEvents rt (.fresh currency) prior = .ok s
  records : ∃ records, RecordedWith p.scope p.valuation records ∧ since.Sublist records
  policy : p.policy ∈ policies
  cash : e.intent.cashReservation = .ok p.cash
  scope : scopeOf (prior ++ since) e.intent.key = some p.scope
  permits : Permits rt zoneInfo s prior p.scope p.cash p.valuation p.policy p.evaluatedAt

/-- The last events before an intent permit it. -/
def Permitted (events : List LedgerEvent) (e : OrderIntentCreated) : Prop :=
  ∃ prior since s p, events = prior ++ since ∧
    PermittedAfter rt zoneInfo policies currency prior since e s p

/-- Every BUY intent is permitted by the events before it. -/
def Guarded (events : List LedgerEvent) : Prop :=
  ∀ before e after, events = before ++ .orderIntentCreated e :: after → e.intent.side = .buy →
    Permitted rt zoneInfo policies currency before e

end

variable {rt : Runtime} {zoneInfo : String → Option Zone} {policies : Set PortfolioRiskPolicy}
  {currency : String} {events : List LedgerEvent}

theorem guarded_nil : Guarded rt zoneInfo policies currency [] := by
  intro before e after h hside
  cases List.append_eq_nil_iff.mp h.symm |>.2

/-- More events, whose BUY intents are permitted by what comes before them. -/
theorem Guarded.append {new : List LedgerEvent} (h : Guarded rt zoneInfo policies currency events)
    (hnew : ∀ before e after, new = before ++ .orderIntentCreated e :: after → e.intent.side = .buy →
      Permitted rt zoneInfo policies currency (events ++ before) e) :
    Guarded rt zoneInfo policies currency (events ++ new) := by
  intro before e after heq hside
  rcases List.append_eq_append_iff.mp heq with ⟨rest, rfl, hrest⟩ | ⟨rest, hrest, hcons⟩
  · exact hnew rest e after hrest hside
  · cases rest with
    | nil =>
      rw [List.append_nil] at hrest
      have hpermitted := hnew [] e after hcons.symm hside
      rwa [List.append_nil, hrest] at hpermitted
    | cons x rest =>
      rw [List.cons_append, List.cons.injEq] at hcons
      rw [← hcons.1] at hrest
      exact h before e rest hrest hside

theorem Guarded.of_append {new : List LedgerEvent}
    (h : Guarded rt zoneInfo policies currency (events ++ new)) :
    Guarded rt zoneInfo policies currency events := by
  intro before e after heq hside
  refine h before e (after ++ new) ?_ hside
  rw [heq, List.append_assoc, List.cons_append]

/-- The last event of a guarded list, if it is a BUY intent. -/
theorem Guarded.last {e : OrderIntentCreated}
    (h : Guarded rt zoneInfo policies currency (events ++ [.orderIntentCreated e]))
    (hside : e.intent.side = .buy) : Permitted rt zoneInfo policies currency events e :=
  h events e [] rfl hside

/-! ## Groups of keys -/

/-- The key is registered in a scope with the property. -/
def InGroup (events : List LedgerEvent) (Q : RiskScope → Prop) (key : String × String) : Prop :=
  ∃ scope ∈ scopeOf events key, Q scope

instance (events : List LedgerEvent) (Q : RiskScope → Prop) [DecidablePred Q] :
    DecidablePred (InGroup events Q) :=
  fun key => inferInstanceAs (Decidable (∃ scope ∈ scopeOf events key, Q scope))

/-- The BUY fills of a group. -/
def groupFills (s : LedgerState) (events : List LedgerEvent) (Q : RiskScope → Prop)
    [DecidablePred Q] : ℤ := fillCount (InGroup events Q) s

theorem scopeOf_append (events new : List LedgerEvent) (key : String × String) :
    scopeOf (events ++ new) key = (scopeOf events key).or (scopeOf new key) :=
  List.findSome?_append

/-- A registered scope stays. -/
theorem scopeOf_append_of_ne_none {key : String × String} (h : scopeOf events key ≠ none)
    (new : List LedgerEvent) : scopeOf (events ++ new) key = scopeOf events key := by
  rw [scopeOf_append]
  cases hscope : scopeOf events key with
  | none => exact absurd hscope h
  | some scope => rfl

theorem InGroup.append {Q : RiskScope → Prop} {key : String × String} (h : InGroup events Q key)
    (new : List LedgerEvent) : InGroup (events ++ new) Q key := by
  obtain ⟨scope, hscope, hQ⟩ := h
  have hne : scopeOf events key ≠ none := fun hnone => by
    rw [hnone] at hscope
    cases hscope
  refine ⟨scope, ?_, hQ⟩
  rwa [scopeOf_append_of_ne_none hne]

section Predicates

variable {P P' : String × String → Prop} [DecidablePred P] [DecidablePred P'] {s : LedgerState}

/-- Only the exposed keys matter. -/
theorem exposureOf_congr_exposed (h : ∀ key ∈ exposedKeys s, (P key ↔ P' key)) :
    exposureOf s P = exposureOf s P' := by
  rw [exposureOf, exposureOf]
  congr 1
  · refine Dict.sumBy_congr fun entry hentry => ?_
    rw [positionExposure, positionExposure]
    refine if_congr (and_congr_left fun hopen => h entry.1 ?_) rfl rfl
    exact mem_exposedKeys.mpr (.inl ⟨entry.2, Dict.get?_eq_some.mpr hentry, hopen⟩)
  · refine Dict.sumBy_congr fun entry hentry => ?_
    rw [orderExposure, orderExposure]
    refine if_congr (and_congr_left fun hlive => h entry.2.key ?_) rfl rfl
    exact mem_exposedKeys.mpr (.inr ⟨entry.1, entry.2, Dict.get?_eq_some.mpr hentry, hlive, rfl⟩)

theorem fillCount_mono (h : ∀ key, P key → P' key) : fillCount P s ≤ fillCount P' s := by
  have hnonneg : 0 ≤ Dict.sumBy (fun k o => orderFills P' k o - orderFills P k o) s.orders := by
    refine Dict.sumBy_nonneg fun entry _ => ?_
    rw [orderFills, orderFills]
    by_cases hP : P entry.2.key ∧ entry.2.intent.side = .buy
    · rw [if_pos hP, if_pos ⟨h _ hP.1, hP.2⟩, sub_self]
    · rw [if_neg hP, sub_zero]
      split_ifs <;> omega
  rw [Dict.sumBy_sub] at hnonneg
  exact sub_nonneg.mp hnonneg

theorem fillCount_nonneg : 0 ≤ fillCount P s := by
  refine Dict.sumBy_nonneg fun entry _ => ?_
  rw [orderFills]
  split_ifs <;> omega

end Predicates

/-- A new registration of a key that is not exposed adds nothing. -/
theorem netExposure_append_le {s : LedgerState} {Q : RiskScope → Prop} [DecidablePred Q]
    (h : ∀ key ∈ exposedKeys s, scopeOf events key ≠ none) (new : List LedgerEvent) :
    netExposure (InGroup (events ++ new) Q) s ≤ netExposure (InGroup events Q) s := by
  have hsame : exposureOf s (InGroup (events ++ new) Q) = exposureOf s (InGroup events Q) := by
    refine exposureOf_congr_exposed fun key hkey => ?_
    rw [InGroup, InGroup, scopeOf_append_of_ne_none (h key hkey)]
  have hfills : fillCount (InGroup events Q) s ≤ fillCount (InGroup (events ++ new) Q) s :=
    fillCount_mono fun key hkey => hkey.append new
  rw [netExposure, netExposure, hsame]
  omega

/-! ## One event -/

/-- The event creates a BUY order. -/
structure NewBuy (s : LedgerState) (e : OrderIntentCreated) (order : OrderAggregate)
    (s' : LedgerState) : Prop where
  side : e.intent.side = .buy
  new : s.orders.get? e.intent.intentId = none
  created : OrderAggregate.new e.intent = .ok order
  orders : s'.orders = s.orders.insert e.intent.intentId order
  positions : s'.positions = s.positions

namespace NewBuy

variable {s s' : LedgerState} {e : OrderIntentCreated} {order : OrderAggregate}

theorem key_eq (h : NewBuy s e order s') : order.key = e.intent.key := by
  rw [OrderAggregate.key, (OrderAggregate.new_eq_ok h.created).1, OrderIntent.key]

theorem live (h : NewBuy s e order s') : LiveBuy order := by
  obtain ⟨hintent, hstate, -⟩ := OrderAggregate.new_eq_ok h.created
  rw [LiveBuy, hintent, hstate]
  exact ⟨h.side, rfl⟩

/-- The orders are the new one and the old ones. -/
theorem get?_eq (h : NewBuy s e order s') {intentId : String} {o : OrderAggregate}
    (ho : s'.orders.get? intentId = some o) :
    intentId = e.intent.intentId ∧ o = order ∨ s.orders.get? intentId = some o := by
  rw [h.orders, Dict.get?_insert] at ho
  split_ifs at ho with heq
  · cases ho
    exact .inl ⟨heq.symm, rfl⟩
  · exact .inr ho

/-- Only the key of the order is newly exposed. -/
theorem exposedKeys_subset (h : NewBuy s e order s') :
    exposedKeys s' ⊆ insert e.intent.key (exposedKeys s) := by
  intro key hkey
  rw [Finset.mem_insert, mem_exposedKeys]
  rw [mem_exposedKeys, h.positions] at hkey
  rcases hkey with hposition | ⟨intentId, o, ho, hlive, rfl⟩
  · exact .inr (.inl hposition)
  · rcases h.get?_eq ho with ⟨-, rfl⟩ | hold
    · exact .inl h.key_eq
    · exact .inr (.inr ⟨intentId, o, hold, hlive, rfl⟩)

/-- The order adds the cash that it reserves. -/
theorem netExposure_eq (h : NewBuy s e order s') {cash : Money}
    (hcash : e.intent.cashReservation = .ok cash) (P : String × String → Prop) [DecidablePred P] :
    netExposure P s' = netExposure P s + if P e.intent.key then cash.amount.val else 0 := by
  obtain ⟨hintent, hstate, -, -, -, hfills, hreserved, -⟩ := OrderAggregate.new_eq_ok h.created
  cases hreserved.symm.trans hcash
  have hnet : orderNet P e.intent.intentId order =
      if P e.intent.key then order.reservedCash.amount.val else 0 := by
    by_cases hP : P e.intent.key
    · rw [if_pos hP, orderNet_buy (h.key_eq.symm ▸ hP) h.live.1, if_pos (show order.Live from h.live.2),
        hfills]
      exact sub_zero _
    · rw [if_neg hP, orderNet_of_not (h.key_eq.symm ▸ hP)]
  rw [Risk.netExposure_eq, Risk.netExposure_eq, h.orders, h.positions,
    Dict.sumBy_insert_of_none _ h.new, hnet, add_assoc]

end NewBuy

/-- A BUY intent that is accepted is a repetition, or creates its order. -/
theorem newBuy_of_reduce {s next : LedgerState} {e : OrderIntentCreated} (hside : e.intent.side = .buy)
    (h : applyIntentCreated s e = .ok next) : next = s ∨ ∃ order, NewBuy s e order next := by
  cases hget : s.orders.get? e.intent.intentId with
  | some existing =>
    obtain ⟨-, h⟩ := check_bind_eq_ok.mp h
    simp only [hget] at h
    split_ifs at h
    cases h
    exact .inl rfl
  | none =>
    obtain ⟨order, reservedCash, horder, -, -, -, rfl⟩ := applyIntentCreated_buy hget hside h
    refine .inr ⟨order, hside, hget, horder, ?_, rfl⟩
    rw [← (OrderAggregate.new_eq_ok horder).1]
    rfl

/-- **An accepted event adds to no exposure, or creates a BUY order.** -/
theorem applyEvent_effect {s s' : LedgerState} {event : LedgerEvent} (hs : s.Invariants)
    (hflat : FlatCost s) (h : applyEvent rt s event = .ok s') :
    (Narrows s s' ∧ ∀ (P : String × String → Prop) [DecidablePred P],
      netExposure P s' ≤ netExposure P s) ∨
    ∃ e order, event = .orderIntentCreated e ∧ NewBuy s e order s' := by
  rcases applyEvent_eq_ok.mp h with ⟨-, rfl⟩ | ⟨-, next, hnext, rfl, -⟩
  · exact .inl ⟨.refl _, fun _ _ => le_rfl⟩
  · by_cases hevent : IsBuyIntent event
    · cases event with
      | orderIntentCreated e =>
        obtain rfl | ⟨order, hnew⟩ := newBuy_of_reduce hevent hnext
        · exact .inl ⟨(Narrows.refl _).congr rfl rfl rfl rfl, fun _ _ => (netExposure_congr rfl rfl).le⟩
        · exact .inr ⟨e, order, rfl, hnew.side, hnew.new, hnew.created, hnew.orders, hnew.positions⟩
      | _ => cases hevent
    · have hstep := step_of_reduce hs.wellKeyed hnext
      refine .inl ⟨(narrows_of_step hs hstep hevent).congr rfl rfl rfl rfl, fun P _ => ?_⟩
      have hrecord : netExposure P (recordEvent next event.eventId (fingerprint rt event.canonical)) =
          netExposure P next := netExposure_congr rfl rfl
      exact hrecord.le.trans (netExposure_step hs hflat hstep hevent)

/-- A registration or a valuation changes neither orders nor positions. -/
theorem reduce_of_isRiskRecord {s next : LedgerState} {event : LedgerEvent} (hevent : IsRiskRecord event)
    (h : reduce rt s event = .ok next) : next = s := by
  cases event with
  | riskScopeRegistered e =>
    obtain ⟨-, h⟩ := check_bind_eq_ok.mp h
    cases h
    rfl
  | portfolioValuationRecorded e =>
    obtain ⟨-, h⟩ := check_bind_eq_ok.mp h
    obtain ⟨-, h⟩ := raiseIf_bind_eq_ok.mp h
    obtain ⟨-, h⟩ := raiseIf_bind_eq_ok.mp h
    obtain ⟨total, -, h⟩ := bind_eq_ok.mp h
    obtain ⟨equity, -, h⟩ := bind_eq_ok.mp h
    obtain ⟨-, h⟩ := raiseIf_bind_eq_ok.mp h
    cases h
    rfl
  | _ => cases hevent

theorem applyEvents_of_isRiskRecord {since : List LedgerEvent} {s s' : LedgerState}
    (hsince : ∀ event ∈ since, IsRiskRecord event) (h : applyEvents rt s since = .ok s') :
    s'.orders = s.orders ∧ s'.positions = s.positions := by
  induction since generalizing s with
  | nil =>
    cases h
    exact ⟨rfl, rfl⟩
  | cons event since ih =>
    rw [List.forall_mem_cons] at hsince
    obtain ⟨t, ht, h⟩ := foldlM_cons_eq_ok.mp h
    obtain ⟨horders, hpositions⟩ := ih hsince.2 h
    rcases applyEvent_eq_ok.mp ht with ⟨-, rfl⟩ | ⟨-, next, hnext, rfl, -⟩
    · exact ⟨horders, hpositions⟩
    · obtain rfl := reduce_of_isRiskRecord hsince.1 hnext
      exact ⟨horders, hpositions⟩

/-! ## Runs -/

/-- The state passes the checks, and so do its flat positions. -/
theorem sound_of_replay {s : LedgerState} (h : applyEvents rt (.fresh currency) events = .ok s) :
    s.Invariants ∧ FlatCost s :=
  applyEvents_preserves (fun _ _ _ h => h) (fun _ _ _ hs _ h hstep => flatCost_of_step hs h hstep)
    (invariants_fresh _) (fun _ h => absurd h List.not_mem_nil) h

theorem exposedKeys_congr {s t : LedgerState} (horders : t.orders = s.orders)
    (hpositions : t.positions = s.positions) : exposedKeys t = exposedKeys s := by
  ext key
  rw [mem_exposedKeys, mem_exposedKeys, horders, hpositions]

theorem PermittedAfter.isRiskRecord {prior since : List LedgerEvent} {e : OrderIntentCreated}
    {s : LedgerState} {p : Proposal}
    (h : PermittedAfter rt zoneInfo policies currency prior since e s p) :
    ∀ event ∈ since, IsRiskRecord event := by
  obtain ⟨records, hrecords, hsince⟩ := h.records
  exact fun event hevent => hrecords.isRiskRecord event (hsince.subset hevent)

/-- The state that a BUY is permitted in, as it is when its intent comes. -/
theorem PermittedAfter.unchanged {prior since : List LedgerEvent} {e : OrderIntentCreated}
    {s s' : LedgerState} {p : Proposal}
    (h : PermittedAfter rt zoneInfo policies currency prior since e s p)
    (hreplay : applyEvents rt (.fresh currency) (prior ++ since) = .ok s') :
    s'.orders = s.orders ∧ s'.positions = s.positions := by
  obtain ⟨mid, hmid, hsince⟩ := foldlM_append_eq_ok.mp hreplay
  cases h.replay.symm.trans hmid
  exact applyEvents_of_isRiskRecord h.isRiskRecord hsince

/-- The exposed keys are registered, and each has one live BUY order at most. -/
structure Booked (events : List LedgerEvent) (s : LedgerState) : Prop where
  registered : ∀ key ∈ exposedKeys s, scopeOf events key ≠ none
  one : ∀ intentId intentId' o o', s.orders.get? intentId = some o →
    s.orders.get? intentId' = some o' → LiveBuy o → LiveBuy o' → o'.key = o.key → intentId' = intentId

theorem Booked.of_narrows {s s' : LedgerState} (h : Booked events s) (hnarrows : Narrows s s')
    (new : List LedgerEvent) : Booked (events ++ new) s' where
  registered := by
    intro key hkey
    have hregistered := h.registered key (hnarrows.exposedKeys_subset hkey)
    rwa [scopeOf_append_of_ne_none hregistered]
  one := by
    intro intentId intentId' o o' ho ho' hlive hlive' hkey
    obtain ⟨old, hold, hlive, hsame⟩ := hnarrows.orders intentId o ho hlive
    obtain ⟨old', hold', hlive', hsame'⟩ := hnarrows.orders intentId' o' ho' hlive'
    exact h.one intentId intentId' old old' hold hold' hlive hlive' (by rw [hsame, hsame', hkey])

/-- A BUY order is created that the policy permits. -/
theorem Booked.of_newBuy {s s' : LedgerState} {e : OrderIntentCreated} {order : OrderAggregate}
    (h : Booked events s) (hreplay : applyEvents rt (.fresh currency) events = .ok s)
    (hpermitted : Permitted rt zoneInfo policies currency events e) (hnew : NewBuy s e order s') :
    Booked (events ++ [.orderIntentCreated e]) s' := by
  obtain ⟨prior, since, s₀, p, rfl, hp⟩ := hpermitted
  obtain ⟨horders, hpositions⟩ := hp.unchanged hreplay
  have hexposed : exposedKeys s = exposedKeys s₀ := exposedKeys_congr horders hpositions
  have hkey : p.scope.positionKey = e.intent.key := positionKey_of_scopeOf hp.scope
  have hfresh : e.intent.key ∉ exposedKeys s := by
    rw [hexposed, ← hkey]
    exact hp.permits.fresh
  -- a live BUY order for the key would expose it
  have hother : ∀ {intentId o}, s.orders.get? intentId = some o → LiveBuy o → o.key ≠ e.intent.key :=
    fun ho hlive heq => hfresh (mem_exposedKeys.mpr (.inr ⟨_, _, ho, hlive, heq⟩))
  constructor
  · intro key hkey
    have hregistered : scopeOf (prior ++ since) key ≠ none := by
      rcases Finset.mem_insert.mp (hnew.exposedKeys_subset hkey) with rfl | hold
      · rw [hp.scope]
        exact Option.some_ne_none _
      · exact h.registered key hold
    rwa [scopeOf_append_of_ne_none hregistered]
  · intro intentId intentId' o o' ho ho' hlive hlive' hkey
    rcases hnew.get?_eq ho with ⟨rfl, rfl⟩ | hold <;> rcases hnew.get?_eq ho' with ⟨rfl, rfl⟩ | hold'
    · rfl
    · rw [hnew.key_eq] at hkey
      exact absurd hkey (hother hold' hlive')
    · rw [hnew.key_eq] at hkey
      exact absurd hkey.symm (hother hold hlive)
    · exact h.one intentId intentId' o o' hold hold' hlive hlive' hkey

/-- The last event of a guarded list that is accepted. -/
theorem Guarded.last_effect {s : LedgerState} {event : LedgerEvent}
    (hguarded : Guarded rt zoneInfo policies currency (events ++ [event]))
    (hreplay : applyEvents rt (.fresh currency) (events ++ [event]) = .ok s) :
    ∃ old, applyEvents rt (.fresh currency) events = .ok old ∧
      ((Narrows old s ∧ ∀ (P : String × String → Prop) [DecidablePred P],
          netExposure P s ≤ netExposure P old) ∨
        ∃ e order, event = .orderIntentCreated e ∧ NewBuy old e order s ∧
          Permitted rt zoneInfo policies currency events e) := by
  obtain ⟨old, hold, hlast⟩ := foldlM_append_eq_ok.mp hreplay
  obtain ⟨mid, hevent, hnil⟩ := foldlM_cons_eq_ok.mp hlast
  cases hnil
  obtain ⟨hinv, hflat⟩ := sound_of_replay hold
  refine ⟨old, hold, ?_⟩
  obtain heffect | ⟨e, order, rfl, hnew⟩ := applyEvent_effect hinv hflat hevent
  · exact .inl heffect
  · exact .inr ⟨e, order, rfl, hnew, hguarded.last hnew.side⟩

theorem booked_of_guarded {s : LedgerState} (hguarded : Guarded rt zoneInfo policies currency events)
    (hreplay : applyEvents rt (.fresh currency) events = .ok s) : Booked events s := by
  induction events using List.reverseRecOn generalizing s with
  | nil =>
    cases hreplay
    refine ⟨fun key hkey => ?_, fun _ _ _ _ ho => by cases ho⟩
    exact absurd hkey (Finset.notMem_empty key)
  | append_singleton events event ih =>
    obtain ⟨old, hold, ⟨hnarrows, -⟩ | ⟨e, order, rfl, hnew, hpermitted⟩⟩ := hguarded.last_effect hreplay
    · exact (ih hguarded.of_append hold).of_narrows hnarrows [event]
    · exact (ih hguarded.of_append hold).of_newBuy hold hpermitted hnew

/-- **One cap**: what is permitted keeps the group within it. -/
theorem netExposure_le_of_guarded {s : LedgerState} {Q : RiskScope → Prop} [DecidablePred Q] {cap : ℤ}
    (hcap : 0 ≤ cap)
    (hpermits : ∀ (prior : List LedgerEvent) (s : LedgerState) (p : Proposal), p.policy ∈ policies →
      Q p.scope → Permits rt zoneInfo s prior p.scope p.cash p.valuation p.policy p.evaluatedAt →
      scopeExposure s prior Q + p.cash.amount.val ≤ cap)
    (hguarded : Guarded rt zoneInfo policies currency events)
    (hreplay : applyEvents rt (.fresh currency) events = .ok s) :
    netExposure (InGroup events Q) s ≤ cap := by
  induction events using List.reverseRecOn generalizing s with
  | nil =>
    cases hreplay
    exact hcap
  | append_singleton events event ih =>
    obtain ⟨old, hold, heffect⟩ := hguarded.last_effect hreplay
    have hbooked := booked_of_guarded hguarded.of_append hold
    have hgrown := netExposure_append_le (Q := Q) hbooked.registered [event]
    have hle := ih hguarded.of_append hold
    obtain ⟨-, hnet⟩ | ⟨e, order, rfl, hnew, prior, since, s₀, p, rfl, hp⟩ := heffect
    · exact (hnet _).trans (hgrown.trans hle)
    · rw [hnew.netExposure_eq hp.cash]
      have hgroup : InGroup (prior ++ since ++ [.orderIntentCreated e]) Q e.intent.key ↔ Q p.scope := by
        have hne : scopeOf (prior ++ since) e.intent.key ≠ none := by
          rw [hp.scope]
          exact Option.some_ne_none _
        rw [InGroup, scopeOf_append_of_ne_none hne, hp.scope]
        simp
      by_cases hQ : Q p.scope
      · -- the policy compared the exposure of the group with its cap
        rw [if_pos (hgroup.mpr hQ)]
        obtain ⟨horders, hpositions⟩ := hp.unchanged hold
        have hlimit := hpermits prior s₀ p hp.policy hQ hp.permits
        have hsame : exposureOf old (InGroup (prior ++ since) Q) = scopeExposure s₀ prior Q := by
          rw [exposureOf, horders, hpositions]
          refine exposureOf_congr_exposed fun key hkey => ?_
          rw [InGroup, scopeOf_append_of_ne_none (hp.permits.registered key hkey)]
        have hfills : 0 ≤ fillCount (InGroup (prior ++ since) Q) old := fillCount_nonneg
        have hbase : netExposure (InGroup (prior ++ since) Q) old =
            exposureOf old (InGroup (prior ++ since) Q) - fillCount (InGroup (prior ++ since) Q) old := rfl
        omega
      · rw [if_neg (fun h => hQ (hgroup.mp h)), add_zero]
        exact hgrown.trans hle

/-! ## The caps -/

/-- What is exposed is within the caps of a policy, but for a millionth for each BUY fill. -/
structure WithinCaps (rt : Runtime) (policy : PortfolioRiskPolicy) (events : List LedgerEvent)
    (s : LedgerState) : Prop where
  positions : (exposedKeys s).card ≤ policy.maximumOpenPositions
  total : exposureOf s (fun _ => True) ≤
    policy.maximumTotalExposure.amount.val + fillCount (fun _ => True) s
  event : ∀ eventId, scopeExposure s events (fun r => r.eventId = eventId) ≤
    policy.maximumEventExposure.amount.val + groupFills s events fun r => r.eventId = eventId
  cityDate : ∀ key, scopeExposure s events (fun r => r.cityDateKey = key) ≤
    policy.maximumCityDateExposure.amount.val + groupFills s events fun r => r.cityDateKey = key
  correlation : ∀ group, scopeExposure s events (fun r => group ∈ r.allCorrelationGroups rt) ≤
    policy.maximumCorrelationGroupExposure.amount.val +
      groupFills s events fun r => group ∈ r.allCorrelationGroups rt

variable {policy : PortfolioRiskPolicy} {s : LedgerState}

theorem card_exposedKeys_le_of_guarded (hguarded : Guarded rt zoneInfo {policy} currency events)
    (hreplay : applyEvents rt (.fresh currency) events = .ok s) :
    (exposedKeys s).card ≤ policy.maximumOpenPositions := by
  induction events using List.reverseRecOn generalizing s with
  | nil =>
    cases hreplay
    exact policy.maximumOpenPositions_pos.le
  | append_singleton events event ih =>
    obtain ⟨old, hold, ⟨hnarrows, -⟩ | ⟨e, order, rfl, hnew, prior, since, s₀, p, rfl, hp⟩⟩ :=
      hguarded.last_effect hreplay
    · have hcard := Finset.card_le_card hnarrows.exposedKeys_subset
      have hle := ih hguarded.of_append hold
      omega
    · obtain ⟨horders, hpositions⟩ := hp.unchanged hold
      have hcard := Finset.card_le_card hnew.exposedKeys_subset
      have hinsert := Finset.card_insert_le e.intent.key (exposedKeys old)
      have hlimit := hp.permits.positions
      rw [Set.mem_singleton_iff.mp hp.policy, ← exposedKeys_congr horders hpositions] at hlimit
      omega

theorem exposure_le_of_net {Q : RiskScope → Prop} [DecidablePred Q] {cap : ℤ}
    (h : netExposure (InGroup events Q) s ≤ cap) :
    scopeExposure s events Q ≤ cap + groupFills s events Q := by
  have hnet : netExposure (InGroup events Q) s = scopeExposure s events Q - groupFills s events Q := rfl
  omega

/-- If all is registered, the total exposure is that of every scope. -/
theorem scopeExposure_true (h : ∀ key ∈ exposedKeys s, scopeOf events key ≠ none) :
    scopeExposure s events (fun _ => True) = exposureOf s (fun _ => True) := by
  refine exposureOf_congr_exposed fun key hkey => ?_
  obtain ⟨scope, hscope⟩ := Option.ne_none_iff_exists'.mp (h key hkey)
  exact iff_of_true ⟨scope, hscope, trivial⟩ trivial

theorem caps_nonneg (policy : PortfolioRiskPolicy) :
    0 ≤ policy.maximumTotalExposure.amount.val ∧ 0 ≤ policy.maximumEventExposure.amount.val ∧
      0 ≤ policy.maximumCityDateExposure.amount.val ∧
      0 ≤ policy.maximumCorrelationGroupExposure.amount.val := by
  have hall : ∀ limit ∈ policy.toPortfolioLimits.labelled, 0 < limit.2.amount.val :=
    fun limit hlimit => policy.limit_pos hlimit
  simp only [PortfolioLimits.labelled, List.forall_mem_cons] at hall
  exact ⟨hall.1.le, hall.2.1.le, hall.2.2.1.le, hall.2.2.2.1.le⟩

/-- **A guarded ledger stays within the caps.** -/
theorem withinCaps_of_guarded (hguarded : Guarded rt zoneInfo {policy} currency events)
    (hreplay : applyEvents rt (.fresh currency) events = .ok s) : WithinCaps rt policy events s := by
  have hbooked := booked_of_guarded hguarded hreplay
  obtain ⟨htotal, hevent, hcityDate, hcorrelation⟩ := caps_nonneg policy
  constructor
  · exact card_exposedKeys_le_of_guarded hguarded hreplay
  · rw [← scopeExposure_true hbooked.registered]
    have hfills : groupFills s events (fun _ => True) ≤ fillCount (fun _ => True) s :=
      fillCount_mono fun _ _ => trivial
    refine (exposure_le_of_net (netExposure_le_of_guarded htotal ?_ hguarded hreplay)).trans
      (add_le_add_right hfills _)
    intro prior s p hpolicy _ hp
    rw [scopeExposure_true hp.registered, ← Set.mem_singleton_iff.mp hpolicy]
    exact hp.total
  · intro eventId
    refine exposure_le_of_net (netExposure_le_of_guarded hevent ?_ hguarded hreplay)
    rintro prior s p hpolicy rfl hp
    rw [← Set.mem_singleton_iff.mp hpolicy]
    exact hp.event
  · intro key
    refine exposure_le_of_net (netExposure_le_of_guarded hcityDate ?_ hguarded hreplay)
    rintro prior s p hpolicy rfl hp
    rw [← Set.mem_singleton_iff.mp hpolicy]
    exact hp.cityDate
  · intro group
    refine exposure_le_of_net (netExposure_le_of_guarded hcorrelation ?_ hguarded hreplay)
    intro prior s p hpolicy hgroup hp
    rw [← Set.mem_singleton_iff.mp hpolicy]
    exact hp.correlation group hgroup

end WeatherBot.Risk
