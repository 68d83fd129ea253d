import WeatherBot.Persistence.Gate

/-!
# What a risk-checked commit leaves

`commit_risk_checked_order_intent`, called once and called again.

* `riskCommit_outcome`: **an approval records everything in one transaction, a
  rejection the decision and at most the valuation**.
* `riskCommit_repeats`: **the same call again, whenever it comes, has the same
  outcome and writes nothing**.
-/

namespace WeatherBot.Persistence

open WeatherBot.Common
open WeatherBot.Domain
open WeatherBot.Risk

/-! ## Adapter rows -/

section

variable (rt : Runtime)

/-- The row is for the backend, and its payload is written like this one. -/
structure AdapterHolds (intentId : String) (row : AdapterRow) (backendName : String)
    (payload : Metadata) : Prop where
  backend : requireText backendName "backend_name" = .ok row.backendName
  payload : ∃ adapter stored encoded, adapterFromRow rt intentId row = .ok adapter ∧
    encodeMetadata rt (some (PyObject.ofMembers adapter.payload)) = .ok stored ∧
    encodeMetadata rt (some payload) = .ok encoded ∧ stored.hash = encoded.hash

/-- The adapter metadata of a call, if it has any, is on the row of its intent. -/
def AdapterRecorded (r : RiskCheckedIntent) (row : Option AdapterRow) : Prop :=
  ∀ backendName payload, r.adapterBackendName = some backendName → r.adapterPayload = some payload →
    ∃ held, row = some held ∧ AdapterHolds rt r.event.intent.intentId held backendName payload

end

variable {rt : Runtime} {env : Surroundings} {db db' : Db} {events : List LedgerEvent}

theorem adapterFromRow_eq_ok {intentId : String} {row : AdapterRow} {adapter : AdapterMetadata}
    (h : adapterFromRow rt intentId row = .ok adapter) :
    decodeMetadata rt row.payloadJson row.payloadHash = .ok adapter.payload ∧
      adapter.backendName = row.backendName := by
  obtain ⟨payload, hpayload, h⟩ := bind_eq_ok.mp h
  cases h
  exact ⟨hpayload, rfl⟩

/-- After the statement the row holds the payload. -/
theorem adapterHolds_of_setAdapterMetadataLocked {intentId backendName : String} {payload : Metadata}
    {u : Unit}
    (hreturns : (setAdapterMetadataLocked rt env intentId backendName payload).Returns db u db') :
    ∃ row, db'.adapterMetadata.get? intentId = some row ∧
      AdapterHolds rt intentId row backendName payload := by
  obtain ⟨backend, hbackend, hreturns⟩ := Action.returns_lift_bind.mp hreturns
  obtain ⟨encoded, hencoded, hreturns⟩ := Action.returns_lift_bind.mp hreturns
  replace hreturns := Action.returns_get_bind.mp hreturns
  cases hrow : db.adapterMetadata.get? intentId with
  | none =>
    simp only [hrow] at hreturns
    obtain ⟨-, -, rfl⟩ := returns_writeAdapter.mp hreturns
    refine ⟨_, Dict.get?_insert_self .., hbackend, ?_⟩
    obtain ⟨members, hmembers⟩ := (reads_of_encodeMetadata hencoded).reads
    have hrewritten := encodeMetadata_ofMembers hencoded hmembers
    refine ⟨⟨intentId, backend, members, env.now, env.now⟩, encoded, encoded, ?_, hrewritten, hencoded,
      rfl⟩
    exact bind_eq_ok.mpr ⟨members, hmembers, rfl⟩
  | some existing =>
    simp only [hrow] at hreturns
    obtain ⟨adapter, hadapter, hreturns⟩ := Action.returns_lift_bind.mp hreturns
    split_ifs at hreturns with hother
    · exact absurd hreturns Action.not_returns_raise
    · obtain ⟨stored, hstored, hreturns⟩ := Action.returns_lift_bind.mp hreturns
      obtain ⟨hsame, rfl⟩ := Action.returns_lift.mp hreturns
      rw [raiseIf_eq_ok, not_not] at hsame
      refine ⟨existing, hrow, ?_, adapter, stored, encoded, hadapter, hstored, hencoded, hsame⟩
      rw [hbackend, ← (adapterFromRow_eq_ok hadapter).2, not_not.mp hother]

/-- A row that holds the payload stays as it is. -/
theorem returns_setAdapterMetadataLocked {intentId backendName : String} {payload : Metadata}
    {row : AdapterRow} (hrow : db.adapterMetadata.get? intentId = some row)
    (h : AdapterHolds rt intentId row backendName payload) :
    (setAdapterMetadataLocked rt env intentId backendName payload).Returns db () db := by
  obtain ⟨adapter, stored, encoded, hadapter, hstored, hencoded, hsame⟩ := h.payload
  refine Action.returns_lift_bind.mpr ⟨_, h.backend, ?_⟩
  refine Action.returns_lift_bind.mpr ⟨_, hencoded, Action.returns_get_bind.mpr ?_⟩
  simp only [hrow]
  refine Action.returns_lift_bind.mpr ⟨_, hadapter, ?_⟩
  rw [if_neg (not_not.mpr (adapterFromRow_eq_ok hadapter).2)]
  refine Action.returns_lift_bind.mpr ⟨_, hstored, Action.returns_lift.mpr ⟨?_, rfl⟩⟩
  rw [raiseIf_eq_ok, not_not]
  exact hsame

theorem adapterRecorded_of_setAdapterMetadataOf {r : RiskCheckedIntent} {u : Unit}
    (hreturns : (setAdapterMetadataOf rt env r).Returns db u db') :
    AdapterRecorded rt r (db'.adapterMetadata.get? r.event.intent.intentId) := by
  intro backendName payload hbackend hpayload
  rw [setAdapterMetadataOf, hbackend, hpayload] at hreturns
  exact adapterHolds_of_setAdapterMetadataLocked hreturns

theorem returns_setAdapterMetadataOf {r : RiskCheckedIntent}
    (h : AdapterRecorded rt r (db.adapterMetadata.get? r.event.intent.intentId)) :
    (setAdapterMetadataOf rt env r).Returns db () db := by
  rw [setAdapterMetadataOf]
  split
  · next backendName payload hbackend hpayload =>
    obtain ⟨row, hrow, hholds⟩ := h backendName payload hbackend hpayload
    exact returns_setAdapterMetadataLocked hrow hholds
  · exact Action.returns_pure.mpr ⟨rfl, rfl⟩

/-! ## Statements that read -/

theorem returns_currentResult {ids : List String} {result : AppendResult} :
    (currentResult rt ids).Returns db result db' ↔ ∃ loaded, loadLocked rt db = .ok loaded ∧
      result = { AppendResult.ofLoaded loaded with duplicateEventIds := ids } ∧ db' = db := by
  rw [currentResult, Action.returns_get_bind, Action.returns_lift_bind]
  simp only [Action.returns_pure]

/-- **A decision is committed to the intent of an event** iff its claim names the stored intent. -/
theorem checkCommitted_iff {claim : DecisionClaim} {event : OrderIntentCreated}
    (h : Represents rt db events) : checkCommitted rt db claim event = .ok () ↔
      claim.intentId = some event.intent.intentId ∧ ∃ e ∈ intentsOf events,
        e.intent.intentId = event.intent.intentId ∧ e.intent.PyEq event.intent := by
  rw [checkCommitted]
  cases hprior : intentEventLocked db event.intent.intentId with
  | none =>
    have hnone := h.intentEventLocked_eq_none.mp hprior
    refine iff_of_false (fun hok => ?_) fun hex => ?_
    · split_ifs at hok
    · obtain ⟨-, e, he, heq, -⟩ := hex
      exact hnone e he heq
  | some prior =>
    obtain ⟨e, he, heq, hpayload⟩ := h.intentEventLocked_eq_some hprior
    have hdecode : decodeEvent rt (encodeEvent rt (.orderIntentCreated e)).payloadJson =
        .ok (.orderIntentCreated e) :=
      (decodeEvent_encodeEvent (h.constructible _ (mem_intentsOf.mp he))).mpr ⟨readable_intent e, rfl⟩
    constructor
    · intro hok
      split_ifs at hok with hbound
      obtain ⟨payloadJson, htext, hok⟩ := bind_eq_ok.mp hok
      rw [hpayload] at htext
      cases htext
      obtain ⟨decoded, hdecoded, hok⟩ := bind_eq_ok.mp hok
      cases hdecode.symm.trans hdecoded
      exact ⟨not_not.mp hbound, e, he, heq, not_not.mp (raiseIf_eq_ok.mp hok)⟩
    · rintro ⟨hbound, e', he', heq', hsame⟩
      obtain rfl := h.intent_inj he he' (heq'.trans heq.symm)
      rw [if_neg (not_not.mpr hbound)]
      refine bind_eq_ok.mpr ⟨_, by rw [hpayload]; rfl, bind_eq_ok.mpr ⟨_, hdecode, ?_⟩⟩
      exact raiseIf_eq_ok.mpr (not_not.mpr hsame)

/-! ## Outcomes -/

section

variable (rt : Runtime) (r : RiskCheckedIntent)

/-- The decision is committed to the intent of the call. -/
structure CommittedTo (db : Db) (events : List LedgerEvent) : Prop where
  claim : ∃ row, db.decisionClaims.get? (decisionKeyOf r.event) = some row ∧
    row.status = .committed ∧ row.intentId = some r.event.intent.intentId
  intent : ∃ e ∈ intentsOf events, e.intent.intentId = r.event.intent.intentId ∧
    e.intent.PyEq r.event.intent
  adapter : AdapterRecorded rt r (db.adapterMetadata.get? r.event.intent.intentId)

/-- The decision is completed by the owner of the call. -/
def CompletedBy (db : Db) : Prop :=
  ∃ row, db.decisionClaims.get? (decisionKeyOf r.event) = some row ∧ row.status = .completed ∧
    row.intentId = none ∧ requireText r.ownerId "owner_id" = .ok row.ownerId

/-- What is decided, with or without the intent. -/
def Settled (db : Db) (events : List LedgerEvent) (committed : Bool) : Prop :=
  (committed = true ∧ CommittedTo rt r db events) ∨ (committed = false ∧ CompletedBy r db)

/-- The valuation of the call is recorded. -/
def ValuationRecorded (events : List LedgerEvent) : Prop :=
  ∃ e : PortfolioValuationRecorded, e.valuation = r.valuation ∧
    e.eventId = valuationEventId rt (decisionKeyOf r.event) r.valuation ∧
    .portfolioValuationRecorded e ∈ events

/-- What an approval leaves. -/
structure ApprovedOutcome (db : Db) (events new : List LedgerEvent) : Prop
    extends CommittedTo rt r db (events ++ new) where
  created : intentsOf new = [r.event]
  scope : scopeOf (events ++ new) r.event.intent.key = some r.scope
  valuation : ValuationRecorded rt r (events ++ new)
  unpaid : ∀ e ∈ new, payoutsOf e = []

/-- What a rejection leaves. -/
structure RejectedOutcome (d : PortfolioRiskDecision) (db : Db) (events new : List LedgerEvent) :
    Prop where
  completed : CompletedBy r db
  created : intentsOf new = []
  unrecorded : InvalidValuation d → new = []
  recorded : ¬ InvalidValuation d → ValuationRecorded rt r (events ++ new)
  unpaid : ∀ e ∈ new, payoutsOf e = []

/-- What a decision leaves. -/
def Outcome (d : PortfolioRiskDecision) (committed : Bool) (db : Db) (events new : List LedgerEvent) :
    Prop :=
  (d.status = .approved ∧ committed = true ∧ ApprovedOutcome rt r db events new) ∨
    (d.status = .rejected ∧ committed = false ∧ RejectedOutcome rt r d db events new)

end

variable {r : RiskCheckedIntent} {key ownerId : String} {row : Option ClaimRow}
  {decision : PortfolioRiskDecision} {metadata : MetadataText}
  {valuationEvent : PortfolioValuationRecorded} {result : RiskCheckedCommitResult}

theorem Outcome.settled {d : PortfolioRiskDecision} {committed : Bool} {new : List LedgerEvent}
    (h : Outcome rt r d committed db events new) : Settled rt r db (events ++ new) committed := by
  rcases h with ⟨-, hcommitted, houtcome⟩ | ⟨-, hcommitted, houtcome⟩
  · exact .inl ⟨hcommitted, houtcome.toCommittedTo⟩
  · exact .inr ⟨hcommitted, houtcome.completed⟩

theorem decidedRow_ownerId {now : String} {status : ClaimStatus} {intentId : Option String}
    (howner : ∀ old ∈ row, old.ownerId = ownerId) :
    (decidedRow row ownerId status intentId metadata now).ownerId = ownerId := by
  cases row with
  | none => rfl
  | some old => exact howner old rfl

theorem readable_valuation (e : PortfolioValuationRecorded) :
    Readable (.portfolioValuationRecorded e) := fun _ h => absurd h List.not_mem_nil

/-- The row that a statement wrote, after what follows it. -/
theorem get?_of_setClaim {written : ClaimRow}
    (h : db'.decisionClaims = (db.setClaim key written).decisionClaims) :
    db'.decisionClaims.get? key = some written := by
  rw [h]
  exact Dict.get?_insert_self ..

/-- **A rejection** completes the decision, and records the valuation if it is of use. -/
theorem outcome_of_completeRejected (h : Represents rt db events) (hkey : decisionKeyOf r.event = key)
    (howner : requireText r.ownerId "owner_id" = .ok ownerId) (hold : ∀ old ∈ row, old.ownerId = ownerId)
    (hvaluation : valuationEvent.valuation = r.valuation)
    (hid : valuationEvent.eventId = valuationEventId rt (decisionKeyOf r.event) r.valuation)
    (hc : (LedgerEvent.portfolioValuationRecorded valuationEvent).Constructible rt)
    (hreturns : (completeRejected rt env key ownerId row decision metadata valuationEvent).Returns db
      result db') :
    result.decision = some decision ∧ result.committed = false ∧
      ∃ new, Represents rt db' (events ++ new) ∧ RejectedOutcome rt r decision db' events new := by
  obtain ⟨_, mid, hwrite, hreturns⟩ := Action.returns_bind.mp hreturns
  obtain ⟨-, -, rfl⟩ := returns_writeClaim.mp hwrite
  have hcompleted : ∀ {db' : Db}, db'.decisionClaims = (db.setClaim key
      (decidedRow row ownerId .completed none metadata env.now)).decisionClaims → CompletedBy r db' := by
    intro db' hclaims
    rw [CompletedBy, hkey]
    exact ⟨_, get?_of_setClaim hclaims, decidedRow_status.1, decidedRow_status.2,
      by rw [howner, decidedRow_ownerId hold]⟩
  split_ifs at hreturns with hinvalid
  · obtain ⟨appendResult, db₁, hcurrent, hreturns⟩ := Action.returns_bind.mp hreturns
    obtain ⟨rfl, rfl⟩ := Action.returns_pure.mp hreturns
    obtain rfl := currentResult_unchanged hcurrent
    refine ⟨rfl, rfl, [], ?_, hcompleted rfl, rfl, fun _ => rfl, fun hne => absurd hinvalid hne,
      fun _ he => absurd he List.not_mem_nil⟩
    rw [List.append_nil]
    exact h.setClaim _ _
  · obtain ⟨appendResult, db₁, happended, hreturns⟩ := Action.returns_bind.mp hreturns
    obtain ⟨rfl, rfl⟩ := Action.returns_pure.mp hreturns
    obtain ⟨new, hextends, -⟩ := represents_of_appendEventsLocked (h.setClaim _ _)
      (List.forall_mem_singleton.mpr hc) happended
    refine ⟨rfl, rfl, new, hextends.represents, hcompleted hextends.decisionClaims_eq,
      hextends.intentsOf_eq_nil rfl, fun hvalid => absurd hvalid hinvalid, fun _ => ?_, fun e he => ?_⟩
    · exact ⟨valuationEvent, hvaluation, hid,
        hextends.stored _ (List.mem_singleton_self _) (readable_valuation _)⟩
    · cases List.mem_singleton.mp (hextends.sublist.subset he)
      rfl

theorem OrderIntent.PyEq.refl (i : OrderIntent) : i.PyEq i :=
  ⟨rfl, rfl, rfl, rfl, rfl, rfl, rfl, rfl, rfl, rfl⟩

theorem payoutsOf_of_isRiskRecord {event : LedgerEvent} (h : IsRiskRecord event) :
    payoutsOf event = [] := by
  cases event with
  | riskScopeRegistered => rfl
  | portfolioValuationRecorded => rfl
  | _ => cases h

/-- **An approval** commits the decision and records the scope, the valuation, the intent and the
adapter metadata. -/
theorem outcome_of_commitApproved (h : Consistent rt db events)
    (hc : (Operation.commitRiskCheckedOrderIntent r).Constructed rt)
    (hscope : r.scope.positionKey = r.event.intent.key) (hkey : decisionKeyOf r.event = key)
    (hclaim : ClaimWrite rt db key
      (decidedRow row ownerId .committed (some r.event.intent.intentId) metadata env.now))
    (hvaluation : valuationEvent.valuation = r.valuation)
    (hid : valuationEvent.eventId = valuationEventId rt (decisionKeyOf r.event) r.valuation)
    (hregistered : ∀ registered ∈ scopeOf events r.scope.positionKey, registered = r.scope)
    (hreturns : (commitApproved rt env r key ownerId row events decision metadata valuationEvent).Returns
      db result db') :
    result.decision = some decision ∧ result.committed = true ∧
      ∃ new, Represents rt db' (events ++ new) ∧ ApprovedOutcome rt r db' events new := by
  obtain ⟨_, mid, hwrite, hreturns⟩ := Action.returns_bind.mp hreturns
  obtain ⟨batch, hbatch, hreturns⟩ := Action.returns_lift_bind.mp hreturns
  obtain ⟨appended, db₁, happended, hreturns⟩ := Action.returns_bind.mp hreturns
  obtain ⟨_, db₂, hattach, hreturns⟩ := Action.returns_bind.mp hreturns
  obtain ⟨rfl, rfl⟩ := Action.returns_pure.mp hreturns
  obtain ⟨-, -, rfl⟩ := returns_writeClaim.mp hwrite
  obtain ⟨hconstructible, hintents⟩ := constructible_of_eventsToAppend hc hvaluation hbatch
  obtain ⟨new, hextends, -⟩ := represents_of_appendEventsLocked (h.represents.setClaim _ _)
    hconstructible happended
  have hnew := intentsOf_of_commit h.claims hclaim hkey hextends hintents
  have hmem : r.event ∈ intentsOf (events ++ new) := by
    rw [intentsOf_append, hnew]
    exact List.mem_append_right _ (List.mem_singleton_self _)
  have hattaches := attaches_of_setAdapterMetadataOf ⟨_, hmem, rfl⟩ hattach
  have hclaims := hattaches.decisionClaims_eq.trans hextends.decisionClaims_eq
  refine ⟨rfl, rfl, new, hattaches.represents hextends.represents, ⟨?_, ?_, ?_⟩, hnew, ?_, ?_, ?_⟩
  · rw [hkey]
    exact ⟨_, get?_of_setClaim hclaims, decidedRow_status.1, decidedRow_status.2⟩
  · exact ⟨r.event, hmem, rfl, .refl _⟩
  · exact adapterRecorded_of_setAdapterMetadataOf hattach
  · obtain ⟨l, rfl, -, hscopeOf⟩ := exists_records_of_extends hbatch hextends hnew hregistered hvaluation
    have hne : scopeOf (events ++ l) r.event.intent.key ≠ none := by
      rw [← hscope, hscopeOf]
      exact Option.some_ne_none _
    rw [← List.append_assoc, scopeOf_append_of_ne_none hne, ← hscope, hscopeOf]
  · refine ⟨valuationEvent, hvaluation, hid, hextends.stored _ ?_ (readable_valuation _)⟩
    obtain ⟨-, rfl⟩ | ⟨-, scopeEvent, -, -, rfl⟩ := eventsToAppend_eq_ok hbatch
    · exact List.mem_cons_self
    · exact List.mem_cons_of_mem _ List.mem_cons_self
  · obtain ⟨records, rfl, hrecords, -⟩ := eventsToAppend_split hbatch hvaluation
    intro e he
    rcases List.mem_append.mp (hextends.sublist.subset he) with hrecord | hintent
    · exact payoutsOf_of_isRiskRecord (hrecords.isRiskRecord e hrecord)
    · rw [List.mem_singleton.mp hintent]
      rfl

variable {zoneInfo : String → Option Zone}

theorem outcome_of_evaluateAndCommit (h : Consistent rt db events)
    (hc : (Operation.commitRiskCheckedOrderIntent r).Constructed rt)
    (hscope : r.scope.positionKey = r.event.intent.key) (hstripped : Stripped key)
    (hkey : decisionKeyOf r.event = key) (howner : requireText r.ownerId "owner_id" = .ok ownerId)
    (hrow : db.decisionClaims.get? key = row)
    (hclaimed : ∀ old ∈ row, old.status = .claimed ∧ old.ownerId = ownerId)
    (hreturns : (evaluateAndCommit rt env zoneInfo r key ownerId row).Returns db result db') :
    ∃ d new, result.decision = some d ∧ Represents rt db' (events ++ new) ∧
      Outcome rt r d result.committed db' events new ∧ ∃ loaded, loadLocked rt db = .ok loaded := by
  replace hreturns := Action.returns_get_bind.mp hreturns
  obtain ⟨loaded, hload, hreturns⟩ := Action.returns_lift_bind.mp hreturns
  obtain ⟨cash, hcash, hreturns⟩ := Action.returns_lift_bind.mp hreturns
  obtain ⟨decision, hdecision, hreturns⟩ := Action.returns_lift_bind.mp hreturns
  obtain ⟨metadata, hmetadata, hreturns⟩ := Action.returns_lift_bind.mp hreturns
  obtain ⟨valuationEvent, hvaluation, hreturns⟩ := Action.returns_lift_bind.mp hreturns
  obtain ⟨hsame, hid⟩ := portfolioValuationRecorded_of_new hvaluation
  rw [← hkey] at hid
  rw [h.represents.events_eq hload] at hdecision hreturns
  cases hstatus : decision.status with
  | rejected =>
    rw [hstatus] at hreturns
    have hconstructible : (LedgerEvent.portfolioValuationRecorded valuationEvent).Constructible rt := by
      show _ ∧ _
      rw [hsame]
      exact hc.2.2
    obtain ⟨hdecided, hcommitted, new, hrepresents, houtcome⟩ := outcome_of_completeRejected h.represents
      hkey howner (fun old hold => (hclaimed old hold).2) hsame hid hconstructible hreturns
    exact ⟨decision, new, hdecided, hrepresents, .inr ⟨hstatus, hcommitted, houtcome⟩, loaded, hload⟩
  | approved =>
    rw [hstatus] at hreturns
    have hclaim : ClaimWrite rt db key (decidedRow row ownerId .committed
        (some r.event.intent.intentId) metadata env.now) :=
      claimWrite_decidedRow hstripped (reads_of_encodeMetadata hmetadata) hrow
        (iff_of_true rfl (Option.some_ne_none _)) fun old hold => (hclaimed old hold).1
    obtain ⟨a, hassess, -⟩ := bind_eq_ok.mp hdecision
    obtain ⟨hdecided, hcommitted, new, hrepresents, houtcome⟩ := outcome_of_commitApproved h hc hscope
      hkey hclaim hsame hid (assessed_of_assessPortfolio hassess).scope_eq hreturns
    exact ⟨decision, new, hdecided, hrepresents, .inl ⟨hstatus, hcommitted, houtcome⟩, loaded, hload⟩

/-- **A call that returns** decided, or found the decision settled. -/
theorem outcome_of_returns (h : Consistent rt db events)
    (hc : (Operation.commitRiskCheckedOrderIntent r).Constructed rt)
    (hreturns : (commitRiskCheckedOrderIntent rt env zoneInfo r).Returns db result db') :
    (∃ d new, result.decision = some d ∧ Represents rt db' (events ++ new) ∧
      Outcome rt r d result.committed db' events new ∧ ∃ loaded, loadLocked rt db = .ok loaded) ∨
    (result.decision = none ∧ Represents rt db' events ∧ Settled rt r db' events result.committed) := by
  obtain ⟨_, -, hreturns⟩ := Action.returns_lift_bind.mp hreturns
  obtain ⟨_, hscope, hreturns⟩ := Action.returns_lift_bind.mp hreturns
  obtain ⟨_, -, hreturns⟩ := Action.returns_lift_bind.mp hreturns
  obtain ⟨owner, howner, hreturns⟩ := Action.returns_lift_bind.mp hreturns
  obtain ⟨key, hkey, hreturns⟩ := Action.returns_lift_bind.mp hreturns
  obtain ⟨base, -, hreturns⟩ := Action.returns_lift_bind.mp hreturns
  replace hreturns := Action.returns_get_bind.mp (returns_store_transaction hreturns)
  have hstripped := stripped_of_requireText hkey
  have hkeyOf : decisionKeyOf r.event = key := (requireText_eq_ok.mp hkey).2.symm
  rw [raiseIf_eq_ok, not_not] at hscope
  cases hrow : db.decisionClaims.get? key with
  | none =>
    rw [hrow] at hreturns
    exact .inl (outcome_of_evaluateAndCommit h hc hscope hstripped hkeyOf howner hrow
      (fun _ h => absurd h (Option.not_mem_none _)) hreturns)
  | some row =>
    rw [hrow] at hreturns
    obtain ⟨claim, hclaim, hreturns⟩ := Action.returns_lift_bind.mp hreturns
    obtain ⟨-, hclaim⟩ := claimFromRow_eq_ok hclaim
    have hstatusOf : claim.status = row.status := by rw [hclaim]
    have hownerOf : claim.ownerId = row.ownerId := by rw [hclaim]
    have hintentOf : claim.intentId = row.intentId := by rw [hclaim]
    cases hstatus : claim.status with
    | committed =>
      rw [hstatus] at hreturns
      replace hreturns := Action.returns_get_bind.mp hreturns
      obtain ⟨_, hcheck, hreturns⟩ := Action.returns_lift_bind.mp hreturns
      obtain ⟨_, mid, hattach, hreturns⟩ := Action.returns_bind.mp hreturns
      obtain ⟨appendResult, mid', hcurrent, hreturns⟩ := Action.returns_bind.mp hreturns
      obtain ⟨rfl, rfl⟩ := Action.returns_pure.mp hreturns
      obtain rfl := currentResult_unchanged hcurrent
      obtain ⟨hbound, e, he, heq, hsame⟩ := (checkCommitted_iff h.represents).mp hcheck
      have hattaches := attaches_of_setAdapterMetadataOf ⟨e, he, heq⟩ hattach
      refine .inr ⟨rfl, hattaches.represents h.represents, .inl ⟨rfl, ?_, ⟨e, he, heq, hsame⟩,
        adapterRecorded_of_setAdapterMetadataOf hattach⟩⟩
      rw [hattaches.decisionClaims_eq, hkeyOf]
      exact ⟨row, hrow, hstatusOf.symm.trans hstatus, hintentOf.symm.trans hbound⟩
    | completed =>
      rw [hstatus] at hreturns
      obtain ⟨_, hother, hreturns⟩ := Action.returns_lift_bind.mp hreturns
      obtain ⟨appendResult, mid, hcurrent, hreturns⟩ := Action.returns_bind.mp hreturns
      obtain ⟨rfl, rfl⟩ := Action.returns_pure.mp hreturns
      obtain rfl := currentResult_unchanged hcurrent
      rw [raiseIf_eq_ok, not_or, not_not, not_not] at hother
      refine .inr ⟨rfl, h.represents, .inr ⟨rfl, ?_⟩⟩
      rw [CompletedBy, hkeyOf]
      exact ⟨row, hrow, hstatusOf.symm.trans hstatus, hintentOf.symm.trans hother.2,
        by rw [howner, ← hother.1, hownerOf]⟩
    | claimed =>
      rw [hstatus] at hreturns
      obtain ⟨_, hcheck, hreturns⟩ := Action.returns_lift_bind.mp hreturns
      rw [checkClaimed, raiseIf_bind_eq_ok, not_not] at hcheck
      refine .inl (outcome_of_evaluateAndCommit h hc hscope hstripped hkeyOf howner hrow ?_ hreturns)
      rintro old ⟨⟩
      exact ⟨hstatusOf.symm.trans hstatus, hownerOf.symm.trans hcheck.1⟩

/-! ## The same call again -/

/-- Some calls keep what is settled, if they leave the adapter row alone. -/
theorem Settled.of_kept {new : List LedgerEvent} {committed : Bool} (h : Settled rt r db events committed)
    (hkept : Kept db db') (hadapter : db'.adapterMetadata.get? r.event.intent.intentId =
      db.adapterMetadata.get? r.event.intent.intentId) :
    Settled rt r db' (events ++ new) committed := by
  have hrow : ∀ {row : ClaimRow}, db.decisionClaims.get? (decisionKeyOf r.event) = some row →
      row.status ≠ .claimed → db'.decisionClaims.get? (decisionKeyOf r.event) = some row := by
    intro row hrow hstatus
    obtain ⟨row', hrow', -, -, hsame⟩ := hkept.claims _ row hrow
    rw [hrow', hsame hstatus]
  rcases h with ⟨hcommitted, hsettled⟩ | ⟨hcommitted, row, hget, hstatus, hrest⟩
  · obtain ⟨row, hget, hstatus, hbound⟩ := hsettled.claim
    obtain ⟨e, he, heq⟩ := hsettled.intent
    refine .inl ⟨hcommitted, ⟨row, hrow hget ?_, hstatus, hbound⟩, ⟨e, ?_, heq⟩, ?_⟩
    · rw [hstatus]
      exact fun h => by cases h
    · rw [intentsOf_append]
      exact List.mem_append_left _ he
    · rw [hadapter]
      exact hsettled.adapter
  · refine .inr ⟨hcommitted, row, hrow hget ?_, hstatus, hrest⟩
    rw [hstatus]
    exact fun h => by cases h

/-- The rows of the ledger determine its intents. -/
theorem Represents.mem_intentsOf_congr {events' : List LedgerEvent} (h : Represents rt db events)
    (h' : Represents rt db events') {e : OrderIntentCreated} (he : e ∈ intentsOf events) :
    e ∈ intentsOf events' := by
  rw [mem_intentsOf] at he ⊢
  obtain ⟨n, previous, hrow⟩ := h.row_of_mem he
  obtain ⟨e', he', previous', heq⟩ := h'.mem_of_row hrow
  have hpayload : (encodeEvent rt (.orderIntentCreated e)).payloadJson =
      (encodeEvent rt e').payloadJson := SqlValue.text.inj (congrArg EventRow.payloadJson heq)
  rwa [← eq_of_payload (h.constructible _ he) (h'.constructible _ he') (readable_intent e) hpayload.symm]

theorem Settled.congr {events' : List LedgerEvent} {committed : Bool}
    (h : Settled rt r db events committed) (hevents : Represents rt db events)
    (hevents' : Represents rt db events') : Settled rt r db events' committed := by
  rcases h with ⟨hcommitted, hsettled⟩ | hcompleted
  · obtain ⟨e, he, heq⟩ := hsettled.intent
    exact .inl ⟨hcommitted, hsettled.claim, ⟨e, hevents.mem_intentsOf_congr hevents' he, heq⟩,
      hsettled.adapter⟩
  · exact .inr hcompleted

/-- **What is settled stays settled**: the call returns it, and writes nothing. -/
theorem returns_of_settled {committed : Bool} (h : Consistent rt db events)
    (hside : r.event.intent.side = .buy) (hscope : r.scope.positionKey = r.event.intent.key)
    (htogether : r.adapterBackendName.isNone = r.adapterPayload.isNone)
    (howner : ∃ ownerId, requireText r.ownerId "owner_id" = .ok ownerId)
    (hkey : ∃ key, requireText r.event.intent.decisionId "decision_id" = .ok key)
    (hmetadata : ∃ base, encodeMetadata rt r.metadata = .ok base)
    (hload : ∃ loaded, loadLocked rt db = .ok loaded) (hsettled : Settled rt r db events committed)
    (now : String) :
    ∃ appendResult, appendResult.appendedSequences = [] ∧
      (commitRiskCheckedOrderIntent rt (.quiet now) zoneInfo r).Returns db
        ⟨none, appendResult, committed⟩ db := by
  obtain ⟨ownerId, howner⟩ := howner
  obtain ⟨key, hkey⟩ := hkey
  obtain ⟨base, hmetadata⟩ := hmetadata
  obtain ⟨loaded, hload⟩ := hload
  have hkeyOf : decisionKeyOf r.event = key := (requireText_eq_ok.mp hkey).2.symm
  -- the row of the decision, and its claim
  have hstep : ∀ {row : ClaimRow} {x : RiskCheckedCommitResult},
      db.decisionClaims.get? key = some row →
      (∀ claim, claimFromRow rt key row = .ok claim → claim.status = row.status →
        claim.ownerId = row.ownerId → claim.intentId = row.intentId →
        (claim.status = .committed ∧ (retryCommitted rt (.quiet now) r claim).Returns db x db) ∨
          (claim.status = .completed ∧ (retryCompleted rt claim ownerId).Returns db x db)) →
      (commitRiskCheckedOrderIntent rt (.quiet now) zoneInfo r).Returns db x db := by
    intro row x hrow hrest
    refine Action.returns_lift_bind.mpr ⟨(), raiseIf_eq_ok.mpr (not_not.mpr hside), ?_⟩
    refine Action.returns_lift_bind.mpr ⟨(), raiseIf_eq_ok.mpr (not_not.mpr hscope), ?_⟩
    refine Action.returns_lift_bind.mpr ⟨(), raiseIf_eq_ok.mpr (not_not.mpr htogether), ?_⟩
    refine Action.returns_lift_bind.mpr ⟨ownerId, howner, ?_⟩
    refine Action.returns_lift_bind.mpr ⟨key, hkey, ?_⟩
    refine Action.returns_lift_bind.mpr ⟨base, hmetadata, ?_⟩
    refine Action.returns_transaction.mpr ⟨rfl, rfl, Action.returns_get_bind.mpr ?_⟩
    obtain ⟨members, hmembers⟩ := (h.claims.reads key row hrow).reads
    have hclaim : claimFromRow rt key row = .ok ⟨key, row.ownerId, row.status, row.intentId, members,
        row.claimedAt, row.updatedAt⟩ := bind_eq_ok.mpr ⟨members, hmembers, rfl⟩
    simp only [hrow]
    refine Action.returns_lift_bind.mpr ⟨_, hclaim, ?_⟩
    rcases hrest _ hclaim rfl rfl rfl with ⟨hstatus, hreturns⟩ | ⟨hstatus, hreturns⟩ <;>
    · dsimp only at hstatus
      simp only [hstatus] at hreturns ⊢
      exact hreturns
  rcases hsettled with ⟨rfl, hsettled⟩ | ⟨rfl, row, hrow, hstatus, hbound, hby⟩
  · obtain ⟨row, hrow, hstatus, hbound⟩ := hsettled.claim
    rw [hkeyOf] at hrow
    refine ⟨{ AppendResult.ofLoaded loaded with duplicateEventIds := [r.event.eventId] }, rfl,
      hstep hrow fun claim _ hstatusOf _ hintentOf => .inl ⟨hstatusOf.trans hstatus, ?_⟩⟩
    refine Action.returns_get_bind.mpr (Action.returns_lift_bind.mpr ⟨(), ?_, ?_⟩)
    · exact (checkCommitted_iff h.represents).mpr ⟨hintentOf.trans hbound, hsettled.intent⟩
    · refine Action.returns_bind.mpr ⟨(), db, returns_setAdapterMetadataOf hsettled.adapter, ?_⟩
      exact Action.returns_bind.mpr ⟨_, db, returns_currentResult.mpr ⟨loaded, hload, rfl, rfl⟩,
        Action.returns_pure.mpr ⟨rfl, rfl⟩⟩
  · rw [hkeyOf] at hrow
    cases howner.symm.trans hby
    refine ⟨{ AppendResult.ofLoaded loaded with duplicateEventIds := [] }, rfl,
      hstep hrow fun claim _ hstatusOf hownerOf hintentOf => .inr ⟨hstatusOf.trans hstatus, ?_⟩⟩
    refine Action.returns_lift_bind.mpr ⟨(), ?_, ?_⟩
    · rw [raiseIf_eq_ok, not_or, not_not, not_not]
      exact ⟨hownerOf, hintentOf.trans hbound⟩
    · exact Action.returns_bind.mpr ⟨_, db, returns_currentResult.mpr ⟨loaded, hload, rfl, rfl⟩,
        Action.returns_pure.mpr ⟨rfl, rfl⟩⟩

/-! ## Runs -/

/-- The events of one state go on in the other. -/
def Grows (rt : Runtime) (db db' : Db) : Prop :=
  ∀ events, Consistent rt db events → ∃ new, Consistent rt db' (events ++ new)

theorem Grows.refl (db : Db) : Grows rt db db := fun events h => ⟨[], by rwa [List.append_nil]⟩

theorem Grows.trans {db db' db'' : Db} (h : Grows rt db db') (h' : Grows rt db' db'') :
    Grows rt db db'' := by
  intro events hevents
  obtain ⟨new, hnew⟩ := h events hevents
  obtain ⟨more, hmore⟩ := h' _ hnew
  exact ⟨new ++ more, by rwa [← List.append_assoc]⟩

theorem grows_of_reaches (hrun : Reaches rt zoneInfo db db') (h : IsConsistent rt db) :
    Grows rt db db' := by
  have hboth : IsConsistent rt db' ∧ Grows rt db db' := by
    refine Action.run_of_atomic (fun call => call.op.atomic_run rt zoneInfo call.env) Grows.refl
      (fun _ _ _ => Grows.trans) ?_ h hrun
    intro call s u t hs hreturns
    have hgrows : Grows rt s t := by
      intro events hevents
      obtain ⟨new, hchange⟩ := change_of_returns hevents.represents call.constructed hreturns
      exact ⟨new, hevents.of_change hchange⟩
    obtain ⟨events, hevents⟩ := hs
    obtain ⟨new, hnew⟩ := hgrows events hevents
    exact ⟨⟨_, hnew⟩, hgrows⟩
  exact hboth.2

/-- The arguments of a call that returns pass its checks. -/
theorem checked_of_returns
    (hreturns : (commitRiskCheckedOrderIntent rt env zoneInfo r).Returns db result db') :
    r.event.intent.side = .buy ∧ r.scope.positionKey = r.event.intent.key ∧
      r.adapterBackendName.isNone = r.adapterPayload.isNone ∧
      (∃ ownerId, requireText r.ownerId "owner_id" = .ok ownerId) ∧
      (∃ key, requireText r.event.intent.decisionId "decision_id" = .ok key) ∧
      ∃ base, encodeMetadata rt r.metadata = .ok base := by
  obtain ⟨_, hside, hreturns⟩ := Action.returns_lift_bind.mp hreturns
  obtain ⟨_, hscope, hreturns⟩ := Action.returns_lift_bind.mp hreturns
  obtain ⟨_, htogether, hreturns⟩ := Action.returns_lift_bind.mp hreturns
  obtain ⟨owner, howner, hreturns⟩ := Action.returns_lift_bind.mp hreturns
  obtain ⟨key, hkey, hreturns⟩ := Action.returns_lift_bind.mp hreturns
  obtain ⟨base, hbase, -⟩ := Action.returns_lift_bind.mp hreturns
  rw [raiseIf_eq_ok, not_not] at hside hscope htogether
  exact ⟨hside, hscope, htogether, ⟨owner, howner⟩, ⟨key, hkey⟩, base, hbase⟩

theorem Outcome.unpaid {d : PortfolioRiskDecision} {committed : Bool} {new : List LedgerEvent}
    (h : Outcome rt r d committed db events new) : ∀ e ∈ new, payoutsOf e = [] := by
  rcases h with ⟨-, -, houtcome⟩ | ⟨-, -, houtcome⟩
  · exact houtcome.unpaid
  · exact houtcome.unpaid

/-- **What one risk-checked commit does.** From any state that calls reach, a call that decides extends
the ledger, which still loads. An approval commits the decision to the intent, and the intent is new; the
scope, the valuation and the adapter metadata are recorded with it. A rejection completes the decision
without an intent, and records the valuation if and only if it is neither stale nor mismatched. -/
theorem riskCommit_outcome (rt : Runtime) (zoneInfo : String → Option Zone) (env : Surroundings)
    (r : RiskCheckedIntent) (db db' : Db) (result : RiskCheckedCommitResult) (d : PortfolioRiskDecision)
    (hdb : Reaches rt zoneInfo Db.empty db)
    (hc : (Operation.commitRiskCheckedOrderIntent r).Constructed rt)
    (hreturns : (commitRiskCheckedOrderIntent rt env zoneInfo r).Returns db result db')
    (hdecision : result.decision = some d) :
    ∃ events new, db.ledgerEvents = rowsFrom rt 0 genesisChainHash events ∧
      db'.ledgerEvents = rowsFrom rt 0 genesisChainHash (events ++ new) ∧
      Outcome rt r d result.committed db' events new ∧ ∃ loaded, loadLocked rt db' = .ok loaded := by
  obtain ⟨⟨events, hevents⟩, -⟩ := consistent_of_reaches hdb ⟨[], .empty⟩
  rcases outcome_of_returns hevents hc hreturns with
    ⟨d', new, hsome, hrepresents, houtcome, hload⟩ | ⟨hnone, -⟩
  · cases hdecision.symm.trans hsome
    refine ⟨events, new, hevents.represents.rows, hrepresents.rows, houtcome, ?_⟩
    rw [hevents.represents.loads_iff] at hload
    rw [hrepresents.loads_iff]
    refine List.forall_mem_append.mpr ⟨hload, fun e he => ?_⟩
    rw [houtcome.unpaid e he]
    exact fun _ h => absurd h List.not_mem_nil
  · rw [hnone] at hdecision
    cases hdecision

/-- **A risk-checked commit is idempotent.** Once a call has returned, the same call, made again at any
later state whose ledger loads and where the adapter row of the intent is the same, returns the same
outcome and leaves the tables as they are, whatever came between. -/
theorem riskCommit_repeats (rt : Runtime) (zoneInfo : String → Option Zone) (env : Surroundings)
    (r : RiskCheckedIntent) (db db' later : Db) (result : RiskCheckedCommitResult) (now : String)
    (hdb : Reaches rt zoneInfo Db.empty db)
    (hc : (Operation.commitRiskCheckedOrderIntent r).Constructed rt)
    (hreturns : (commitRiskCheckedOrderIntent rt env zoneInfo r).Returns db result db')
    (hlater : Reaches rt zoneInfo db' later)
    (hadapter : later.adapterMetadata.get? r.event.intent.intentId =
      db'.adapterMetadata.get? r.event.intent.intentId)
    (hload : ∃ loaded, loadLocked rt later = .ok loaded) :
    ∃ appendResult, appendResult.appendedSequences = [] ∧
      (commitRiskCheckedOrderIntent rt (.quiet now) zoneInfo r).Returns later
        ⟨none, appendResult, result.committed⟩ later := by
  obtain ⟨⟨events, hevents⟩, -⟩ := consistent_of_reaches hdb ⟨[], .empty⟩
  -- the call itself is a step of the run
  have hop : ((Operation.commitRiskCheckedOrderIntent r).run rt zoneInfo env).Returns db () db' :=
    Action.returns_bind.mpr ⟨result, db', hreturns, Action.returns_pure.mpr ⟨rfl, rfl⟩⟩
  obtain ⟨new, hchange⟩ := change_of_returns hevents.represents hc hop
  have hconsistent := hevents.of_change hchange
  have hsettled : Settled rt r db' (events ++ new) result.committed := by
    rcases outcome_of_returns hevents hc hreturns with
      ⟨d, new', -, hrepresents, houtcome, -⟩ | ⟨-, hrepresents, hsettled⟩
    · exact houtcome.settled.congr hrepresents hconsistent.represents
    · exact hsettled.congr hrepresents hconsistent.represents
  obtain ⟨more, hmore⟩ := grows_of_reaches hlater ⟨_, hconsistent⟩ _ hconsistent
  have hkept := (consistent_of_reaches hlater ⟨_, hconsistent⟩).2
  obtain ⟨hside, hscope, htogether, howner, hkey, hmetadata⟩ := checked_of_returns hreturns
  exact returns_of_settled hmore hside hscope htogether howner hkey hmetadata hload
    (hsettled.of_kept hkept hadapter) now

/-! ## A first call, and the same again -/

namespace Sample
open Ledger.Sample

/-- Any zone is UTC. -/
def utcZones : String → Option Zone := fun _ => some Risk.Sample.utc

theorem returns_openCall : (openCall.run digits utcZones).Returns Db.empty () openedDb := by
  refine Action.returns_bind.mpr ⟨openedResult, openedDb, ?_, Action.returns_pure.mpr ⟨rfl, rfl⟩⟩
  refine returns_appendMany.mpr ⟨rfl, rfl, returns_appendEventsLocked.mpr ⟨_, loadLocked_empty, ?_⟩⟩
  exact Action.returns_foldlM_cons.mpr ⟨_, _, returns_opened, rfl⟩

theorem reaches_openedDb : Reaches digits utcZones Db.empty openedDb :=
  .single ⟨openCall, congrArg Prod.snd returns_openCall⟩

theorem replays_opened : Replays digits [opened] openedState :=
  foldlM_cons_eq_ok.mpr ⟨openedState, eq_ok_okOr (by decide) _, rfl⟩

theorem represents_openedDb : Represents digits openedDb [opened] where
  rows := rfl
  constructible := List.forall_mem_singleton.mpr constructible_opened
  replay := ⟨openedState, replays_opened⟩
  readable := List.forall_mem_singleton.mpr fun _ => fun _ h => absurd h List.not_mem_nil
  intents := List.nodup_nil
  checkpoints := fun _ h => absurd h List.not_mem_nil

theorem opened_unpaid : ∀ e ∈ [opened], PayoutsNamed (payoutsOf e) :=
  List.forall_mem_singleton.mpr fun _ h => absurd h List.not_mem_nil

theorem length_tailHash (events : List LedgerEvent) : (tailHash digits events).length = 64 := by
  induction events using List.reverseRecOn with
  | nil => decide +kernel
  | append_singleton events e ih =>
    rw [tailHash, List.foldl_append]
    exact length_lengthHash _

theorem length_previous {events : List LedgerEvent} {sequence : ℤ} {previousHash : String}
    (h : previousHash.length = 64) :
    ∀ row ∈ rowsFrom digits sequence previousHash events, HasLength64 row.previousChainHash := by
  induction events generalizing sequence previousHash with
  | nil => exact fun _ hrow => absurd hrow List.not_mem_nil
  | cons e events ih => exact List.forall_mem_cons.mpr ⟨h, ih (length_lengthHash _)⟩

/-- **An event of a kind that the ledger does not have yet is stored**, if the reducers accept it. -/
theorem returns_newKind {db : Db} {events : List LedgerEvent} {acc : AppendResult}
    (event : LedgerEvent) (state : LedgerState) (h : Represents digits db events)
    (htracks : acc.Tracks digits events) (hc : event.Constructible digits)
    (hkind : ∀ e ∈ events, (eventType e).value.length ≠ (eventType event).value.length)
    (hid : ∀ e ∈ events, e.eventId ≠ event.eventId)
    (hstate : applyEvent digits acc.state event = .ok state) :
    ∃ db', (appendEvent digits (.quiet "later") true acc event).Returns db
        (acc.advance digits event state) db' ∧ Represents digits db' (events ++ [event]) ∧
      (acc.advance digits event state).Tracks digits (events ++ [event]) := by
  have hrows : ∀ row ∈ db.ledgerEvents, ∃ e ∈ events, ∃ previous : String, previous.length = 64 ∧
      row = eventRow digits row.sequence previous e ∧ row.sequence ≤ events.length := by
    intro row hrow
    rw [h.rows] at hrow
    obtain ⟨e, he, previous, heq, -, hle⟩ := mem_rowsFrom hrow
    have hlength := length_previous (by decide +kernel) row hrow
    rw [heq] at hlength
    exact ⟨e, he, previous, hlength, heq, hle.trans (zero_add _).le⟩
  have hexisting : existingEventLocked db event.eventId = none := by
    refine existingEventLocked_eq_none.mpr fun row hrow hsame => ?_
    obtain ⟨e, he, previous, -, heq, -⟩ := hrows row hrow
    rw [heq] at hsame
    exact hid e he (SqlValue.text.inj hsame)
  have hother : ∀ row ∈ db.ledgerEvents, row.eventType ≠ .text (eventType event).value := by
    intro row hrow hsame
    obtain ⟨e, he, previous, -, heq, -⟩ := hrows row hrow
    rw [heq] at hsame
    exact hkind e he (congrArg String.length (SqlValue.text.inj hsame))
  have hprior : checkPriorIntent db event = .ok () := by
    cases event with
    | orderIntentCreated e =>
      have hnone : intentEventLocked db e.intent.intentId = none :=
        List.find?_eq_none.mpr fun row hrow hsame => hother row hrow (of_decide_eq_true hsame).1
      rw [checkPriorIntent, hnone]
      rfl
    | _ => rfl
  have hallowed : checkIntentAllowed true event = .ok () := by
    cases event <;> rfl
  have hcheck : checkConstraints db (acc.row digits event) = .ok () := by
    refine raiseIf_bind_eq_ok.mpr ⟨?_, raiseIf_eq_ok.mpr (not_not.mpr ?_)⟩
    · rintro ⟨row, hrow, hconflicts⟩
      obtain ⟨e, he, previous, hlength, heq, hle⟩ := hrows row hrow
      have hkinds : ∀ column, ¬ ClashesIn column (acc.row digits event) row :=
        fun _ hclash => hother row hrow (hclash.2.1.trans hclash.1.symm)
      rcases hconflicts with hsame | hsame | hsame | hsame | hsame
      · have : acc.lastSequence + 1 = row.sequence := hsame
        have := htracks.lastSequence
        omega
      · rw [heq] at hsame
        exact hid e he (SqlValue.text.inj hsame).symm
      · rw [heq] at hsame
        refine linkHash_ne_of_kind ?_ hlength (hkind e he).symm (SqlValue.text.inj hsame)
        rw [htracks.chainHash]
        exact length_tailHash events
      · exact hkinds _ hsame
      · exact hkinds _ hsame
    · refine ⟨hasLength64_digits _, ?_, hasLength64_digits _⟩
      show acc.chainHash.length = 64
      rw [htracks.chainHash]
      exact length_tailHash events
  refine ⟨_, returns_appendEvent.mpr ⟨hallowed, .inr ⟨hexisting, hprior, state, hstate, rfl, hcheck, rfl,
    rfl⟩⟩, ?_⟩
  exact h.snoc htracks hc hexisting hprior hstate

theorem oneDollar_nonneg : 0 ≤ (Risk.Sample.usdcMoney 1000000 fits_million).amount.val := by decide

/-- One dollar and no position. -/
def oneDollar : PortfolioValuation :=
  { Risk.Sample.cashOnly with
    equity := Risk.Sample.usdcMoney 1000000 fits_million
    equity_nonneg := oneDollar_nonneg
    marks_checked := Risk.Sample.marks_checked _ _ }

/-- A risk check of the BUY with the account's dollar. -/
def dollarBuy : RiskCheckedIntent := { checkedBuy with valuation := oneDollar }

theorem isBlank_valuationId (s : String) : isBlank ("portfolio_valuation_" ++ s) = false := by
  refine isBlank_of_mem (c := 'p') ?_ (by decide)
  rw [String.toList_append]
  exact List.mem_append_left _ (by decide)

theorem isBlank_scopeId (s : String) : isBlank ("risk_scope_" ++ s) = false := by
  refine isBlank_of_mem (c := 'r') ?_ (by decide)
  rw [String.toList_append]
  exact List.mem_append_left _ (by decide)

/-- What is recorded with it. -/
def registeredScope : RiskScopeRegistered :=
  ⟨⟨riskScopeEventId digits Risk.Sample.scope, noon, isBlank_scopeId _⟩, Risk.Sample.scope⟩

def recordedDollar : PortfolioValuationRecorded :=
  ⟨⟨valuationEventId digits "2" oneDollar, noon, isBlank_valuationId _⟩, oneDollar, rfl⟩

def registeredState : LedgerState :=
  okOr (applyEvent digits openedState (.riskScopeRegistered registeredScope)) (.fresh "USDC")

def valuedState : LedgerState :=
  okOr (applyEvent digits registeredState (.portfolioValuationRecorded recordedDollar)) (.fresh "USDC")

def boughtState : LedgerState :=
  okOr (applyEvent digits valuedState (.orderIntentCreated buy)) (.fresh "USDC")

theorem apply_registered : applyEvent digits openedState (.riskScopeRegistered registeredScope) =
    .ok registeredState := eq_ok_okOr (by decide) _

theorem apply_valued : applyEvent digits registeredState (.portfolioValuationRecorded recordedDollar) =
    .ok valuedState := eq_ok_okOr (by decide) _

theorem apply_bought : applyEvent digits valuedState (.orderIntentCreated buy) = .ok boughtState :=
  eq_ok_okOr (by decide) _

theorem exists_approval : ∃ d metadata, evaluatePortfolioRisk digits utcZones openedState [opened]
    Risk.Sample.scope (Risk.Sample.usdcMoney 500000 fits_half) oneDollar Risk.Sample.policy
    noon = .ok d ∧ d.status = .approved ∧
    encodeMetadata digits (some (committedMetadata digits none d)) = .ok metadata := by
  have h : (match evaluatePortfolioRisk digits utcZones openedState [opened] Risk.Sample.scope
      (Risk.Sample.usdcMoney 500000 fits_half) oneDollar Risk.Sample.policy noon with
    | .ok d => decide (d.status = .approved) &&
      (encodeMetadata digits (some (committedMetadata digits none d))).isOk
    | .error _ => false) = true := by decide +kernel
  cases hd : evaluatePortfolioRisk digits utcZones openedState [opened] Risk.Sample.scope
      (Risk.Sample.usdcMoney 500000 fits_half) oneDollar Risk.Sample.policy noon with
  | error e =>
    rw [hd] at h
    cases h
  | ok d =>
    rw [hd] at h
    obtain ⟨hstatus, hok⟩ := Bool.and_eq_true_iff.mp h
    obtain ⟨metadata, hmetadata⟩ := exists_of_isOk hok
    exact ⟨d, metadata, rfl, of_decide_eq_true hstatus, hmetadata⟩

theorem normal_dollar : oneDollar.equity.Normal digits := ⟨by decide, by decide⟩

theorem constructed_dollarBuy : (Operation.commitRiskCheckedOrderIntent dollarBuy).Constructed digits :=
  ⟨constructible_buy, valid_scope, normal_dollar, fun _ h => absurd h List.not_mem_nil⟩

/-- The batch of the approval. -/
def dollarBatch : List LedgerEvent :=
  [.riskScopeRegistered registeredScope, .portfolioValuationRecorded recordedDollar, .orderIntentCreated buy]

/-- The result after it. -/
def dollarResult (loaded : Loaded) : AppendResult :=
  (((AppendResult.ofLoaded loaded).advance digits (.riskScopeRegistered registeredScope)
    registeredState).advance digits (.portfolioValuationRecorded recordedDollar)
    valuedState).advance digits (.orderIntentCreated buy) boughtState

theorem eventsToAppend_dollarBuy : eventsToAppend digits dollarBuy [opened] recordedDollar = .ok dollarBatch := by
  have hnone : ¬ scopeOf [opened] dollarBuy.scope.positionKey ≠ none := not_not.mpr rfl
  rw [eventsToAppend, if_neg hnone]
  exact bind_eq_ok.mpr ⟨registeredScope, RiskScopeRegistered.new_self registeredScope rfl, rfl⟩

/-- The batch is stored behind the opening of the account. -/
theorem returns_dollarBatch {db : Db} (h : Represents digits db [opened]) : ∃ appended db',
    (appendEventsLocked digits (.quiet "later") true dollarBatch).Returns db appended db' ∧
      Represents digits db' (opened :: dollarBatch) := by
  obtain ⟨loaded, hload⟩ := h.loads_iff.mpr opened_unpaid
  have htracks := h.tracks_ofLoaded hload
  have hstate : (AppendResult.ofLoaded loaded).state = openedState :=
    Except.ok.inj (htracks.state.symm.trans replays_opened)
  obtain ⟨db₁, hregistered, h₁, htracks₁⟩ := returns_newKind (.riskScopeRegistered registeredScope)
    registeredState h htracks ⟨valid_scope, rfl⟩ (by decide) (by decide)
    (hstate ▸ apply_registered)
  obtain ⟨db₂, hvalued, h₂, htracks₂⟩ := returns_newKind (.portfolioValuationRecorded recordedDollar)
    valuedState h₁ htracks₁ constructed_dollarBuy.2.2 (by decide) (by decide) apply_valued
  obtain ⟨db₃, hbought, h₃, -⟩ := returns_newKind (.orderIntentCreated buy) boughtState h₂ htracks₂
    constructible_buy (by decide) (by decide) apply_bought
  refine ⟨dollarResult loaded, db₃, returns_appendEventsLocked.mpr ⟨loaded, hload, ?_⟩, h₃⟩
  refine Action.returns_foldlM_cons.mpr ⟨_, db₁, hregistered, ?_⟩
  refine Action.returns_foldlM_cons.mpr ⟨_, db₂, hvalued, ?_⟩
  exact Action.returns_foldlM_cons.mpr ⟨_, db₃, hbought, rfl⟩

/-- The claim of the decision is written. -/
theorem returns_writeClaim_dollar {metadata : MetadataText} (hhash : metadata.hash.length = 64) :
    (writeClaim (.quiet "later") "2" (.fresh "worker" .committed (some "2") metadata "later")).Returns
      openedDb () (openedDb.setClaim "2" (.fresh "worker" .committed (some "2") metadata "later")) := by
  refine returns_writeClaim.mpr ⟨rfl, ?_, rfl⟩
  refine raiseIf_bind_eq_ok.mpr ⟨?_, raiseIf_bind_eq_ok.mpr ⟨not_not.mpr ?_, ?_⟩⟩
  · rintro ⟨entry, hentry, -⟩
    exact absurd hentry List.not_mem_nil
  · exact iff_of_true rfl (Option.some_ne_none _)
  · exact raiseIf_eq_ok.mpr (not_not.mpr hhash)

theorem returns_dollarBuy : ∃ result d db',
    (commitRiskCheckedOrderIntent digits (.quiet "later") utcZones dollarBuy).Returns openedDb result db' ∧
      result.decision = some d ∧ d.status = .approved ∧ result.committed = true ∧
      ∃ loaded, loadLocked digits db' = .ok loaded := by
  obtain ⟨d, metadata, hd, hstatus, hmetadata⟩ := exists_approval
  obtain ⟨loaded, hload⟩ := represents_openedDb.loads_iff.mpr opened_unpaid
  have hevents := represents_openedDb.events_eq hload
  have hstate : loaded.state = openedState :=
    Except.ok.inj ((represents_openedDb.tracks_ofLoaded hload).state.symm.trans replays_opened)
  obtain ⟨base, hbase⟩ := exists_of_isOk (x := encodeMetadata digits none) (by decide)
  have hhash : metadata.hash.length = 64 := by
    obtain ⟨value, -, heq⟩ := bind_eq_ok.mp hmetadata
    cases heq
    exact length_lengthHash _
  obtain ⟨appended, db', happended, hrepresents⟩ := returns_dollarBatch
    (represents_openedDb.setClaim "2" (.fresh "worker" .committed (some "2") metadata "later"))
  have hloads : ∃ loaded, loadLocked digits db' = .ok loaded := by
    refine hrepresents.loads_iff.mpr ?_
    rintro e he p hp
    simp only [dollarBatch, List.mem_cons, List.not_mem_nil, or_false] at he
    rcases he with rfl | rfl | rfl | rfl <;> exact absurd hp List.not_mem_nil
  refine ⟨⟨some d, appended, true⟩, d, db', ?_, rfl, hstatus, rfl, hloads⟩
  refine Action.returns_lift_bind.mpr ⟨(), raiseIf_eq_ok.mpr (not_not.mpr rfl), ?_⟩
  refine Action.returns_lift_bind.mpr ⟨(), raiseIf_eq_ok.mpr (not_not.mpr rfl), ?_⟩
  refine Action.returns_lift_bind.mpr ⟨(), raiseIf_eq_ok.mpr (not_not.mpr rfl), ?_⟩
  refine Action.returns_lift_bind.mpr ⟨"worker", requireText_eq_ok.mpr ⟨?_, ?_⟩, ?_⟩
  · decide
  · decide
  refine Action.returns_lift_bind.mpr ⟨"2", requireText_eq_ok.mpr ⟨?_, ?_⟩, ?_⟩
  · decide
  · decide
  refine Action.returns_lift_bind.mpr ⟨base, hbase, ?_⟩
  refine Action.returns_transaction.mpr ⟨rfl, rfl, Action.returns_get_bind.mpr ?_⟩
  refine Action.returns_get_bind.mpr (Action.returns_lift_bind.mpr ⟨loaded, hload, ?_⟩)
  refine Action.returns_lift_bind.mpr ⟨Risk.Sample.usdcMoney 500000 fits_half, by decide, ?_⟩
  rw [hstate, hevents]
  refine Action.returns_lift_bind.mpr ⟨d, hd, Action.returns_lift_bind.mpr ⟨metadata, hmetadata, ?_⟩⟩
  refine Action.returns_lift_bind.mpr ⟨recordedDollar, PortfolioValuationRecorded.new_self recordedDollar, ?_⟩
  simp only [hstatus]
  refine Action.returns_bind.mpr ⟨(), _, returns_writeClaim_dollar hhash, ?_⟩
  refine Action.returns_lift_bind.mpr ⟨dollarBatch, eventsToAppend_dollarBuy, ?_⟩
  refine Action.returns_bind.mpr ⟨appended, db', happended, ?_⟩
  exact Action.returns_bind.mpr ⟨(), db', Action.returns_pure.mpr ⟨rfl, rfl⟩, Action.returns_pure.mpr ⟨rfl, rfl⟩⟩

end Sample

/-- An approval. -/
theorem riskCommit_outcome_approved : ∃ result d db' events new,
    (commitRiskCheckedOrderIntent Sample.digits (.quiet "later") Sample.utcZones Sample.dollarBuy).Returns
      Sample.openedDb result db' ∧ result.decision = some d ∧ d.status = .approved ∧
    Sample.openedDb.ledgerEvents = rowsFrom Sample.digits 0 genesisChainHash events ∧
    db'.ledgerEvents = rowsFrom Sample.digits 0 genesisChainHash (events ++ new) ∧
    Outcome Sample.digits Sample.dollarBuy d result.committed db' events new ∧
    ∃ loaded, loadLocked Sample.digits db' = .ok loaded := by
  obtain ⟨result, d, db', hreturns, hdecision, hstatus, -, -⟩ := Sample.returns_dollarBuy
  obtain ⟨events, new, hrest⟩ := riskCommit_outcome Sample.digits Sample.utcZones (.quiet "later")
    Sample.dollarBuy Sample.openedDb db' result d Sample.reaches_openedDb
    Sample.constructed_dollarBuy hreturns hdecision
  exact ⟨result, d, db', events, new, hreturns, hdecision, hstatus, hrest⟩

/-- The approved call again. -/
theorem riskCommit_repeats_approved : ∃ result db' appendResult,
    (commitRiskCheckedOrderIntent Sample.digits (.quiet "later") Sample.utcZones Sample.dollarBuy).Returns
      Sample.openedDb result db' ∧ result.committed = true ∧
    appendResult.appendedSequences = [] ∧
    (commitRiskCheckedOrderIntent Sample.digits (.quiet "again") Sample.utcZones Sample.dollarBuy).Returns
      db' ⟨none, appendResult, result.committed⟩ db' := by
  obtain ⟨result, d, db', hreturns, -, -, hcommitted, hloads⟩ := Sample.returns_dollarBuy
  obtain ⟨appendResult, hrest⟩ := riskCommit_repeats Sample.digits Sample.utcZones (.quiet "later")
    Sample.dollarBuy Sample.openedDb db' db' result
    "again" Sample.reaches_openedDb Sample.constructed_dollarBuy hreturns .refl rfl hloads
  exact ⟨result, db', appendResult, hreturns, hcommitted, hrest⟩
end WeatherBot.Persistence
