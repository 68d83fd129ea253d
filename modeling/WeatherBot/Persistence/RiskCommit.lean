import WeatherBot.Persistence.Decisions
import WeatherBot.Risk.PortfolioPolicy

/-!
# The risk-checked commit

`PortfolioRiskEventStore` (`persistence/risk_store.py`): a BUY intent is persisted in
the transaction that evaluates the portfolio risk.

* `commitRiskCheckedOrderIntent`: one transaction that claims, evaluates, and either
  completes the decision or commits the intent.
-/

namespace WeatherBot.Persistence

open WeatherBot.Common
open WeatherBot.Domain
open WeatherBot.Risk

/-- The arguments of `commit_risk_checked_order_intent`. -/
structure RiskCheckedIntent where
  event : OrderIntentCreated
  scope : RiskScope
  valuation : PortfolioValuation
  policy : PortfolioRiskPolicy
  evaluatedAt : DateTime
  ownerId : String
  metadata : Option Metadata
  adapterBackendName : Option String
  adapterPayload : Option Metadata

/-- `RiskCheckedCommitResult`. -/
structure RiskCheckedCommitResult where
  decision : Option PortfolioRiskDecision
  appendResult : AppendResult
  committed : Bool

/-- `_valuation_event_id`. -/
def valuationEventId (rt : Runtime) (decisionKey : String) (valuation : PortfolioValuation) : String :=
  "portfolio_valuation_" ++ rt.sha256 (decisionKey ++ "\n" ++ fingerprint rt valuation.canonical)

/-- `dict(metadata or {})`, updated with the decision. -/
def committedMetadata (rt : Runtime) (metadata : Option Metadata) (decision : PortfolioRiskDecision) :
    Metadata :=
  (decision.metadata rt).foldl (fun items item => Dict.assocSet items (some item.1) item.2)
    (metadata.getD [])

/-- A row of the claim, new or updated, with the decision on it. -/
def decidedRow (row : Option ClaimRow) (ownerId : String) (status : ClaimStatus)
    (intentId : Option String) (metadata : MetadataText) (now : String) : ClaimRow :=
  match row with
  | none => .fresh ownerId status intentId metadata now
  | some row => { row with
      status
      intentId
      metadataJson := metadata.json
      metadataHash := metadata.hash
      updatedAt := now }

section

variable (rt : Runtime) (env : Surroundings)

/-- `PortfolioRiskEventStore.commit_order_intent` (`risk_store.py`, 65-77). -/
def commitSellOrderIntent (event : OrderIntentCreated) (ownerId : String)
    (metadata : Option Metadata) : Action Error Db AppendResult := do
  liftM (raiseIf (event.intent.side = .buy) (Error.valueError
    "BUY intents require commit_risk_checked_order_intent on PortfolioRiskEventStore"))
  commitOrderIntent rt env event ownerId metadata

/-- `_set_adapter_metadata_locked` (`risk_store.py`, 94-126). -/
def setAdapterMetadataLocked (intentId backendName : String) (payload : Metadata) :
    Action Error Db Unit := do
  let backendName ← requireText backendName "backend_name"
  let encoded ← encodeMetadata rt (some payload)
  let db ← Action.get
  match db.adapterMetadata.get? intentId with
  | none => writeAdapter env intentId (.fresh backendName encoded env.now)
  | some existing => do
    let adapter ← adapterFromRow rt intentId existing
    if adapter.backendName ≠ backendName then
      Action.raise (concurrent ("intent " ++ intentId ++ " is already assigned to backend " ++
        rt.repr adapter.backendName))
    else do
      let stored ← encodeMetadata rt (some (PyObject.ofMembers adapter.payload))
      liftM (raiseIf (stored.hash ≠ encoded.hash) (concurrent
        ("intent " ++ intentId ++ " adapter metadata changed across an idempotent retry")))

/-- The adapter metadata of a call that has any. -/
def setAdapterMetadataOf (r : RiskCheckedIntent) : Action Error Db Unit :=
  match r.adapterBackendName, r.adapterPayload with
  | some backendName, some payload =>
    setAdapterMetadataLocked rt env r.event.intent.intentId backendName payload
  | _, _ => pure ()

/-- A decision that is committed already (`risk_store.py`, 158-190). -/
def retryCommitted (r : RiskCheckedIntent) (claim : DecisionClaim) :
    Action Error Db RiskCheckedCommitResult := do
  let db ← Action.get
  checkCommitted rt db claim r.event
  setAdapterMetadataOf rt env r
  let appendResult ← currentResult rt [r.event.eventId]
  return ⟨none, appendResult, true⟩

/-- A decision that is completed already (`risk_store.py`, 191-200). -/
def retryCompleted (claim : DecisionClaim) (ownerId : String) :
    Action Error Db RiskCheckedCommitResult := do
  liftM (raiseIf (claim.ownerId ≠ ownerId ∨ claim.intentId ≠ none) (concurrent
    ("decision " ++ rt.repr claim.decisionKey ++ " is already completed by another outcome")))
  let appendResult ← currentResult rt []
  return ⟨none, appendResult, false⟩

/-- A decision that is claimed by the owner, with its metadata (`risk_store.py`, 201-209). -/
def checkClaimed (claim : DecisionClaim) (ownerId baseHash : String) : Except Error Unit := do
  raiseIf (claim.ownerId ≠ ownerId) (heldBy rt claim)
  let stored ← encodeMetadata rt (some (PyObject.ofMembers claim.metadata))
  raiseIf (stored.hash ≠ baseHash) (concurrent
    ("decision " ++ rt.repr claim.decisionKey ++ " metadata changed between claim and risk commit"))

/-- The rejections that leave the valuation unrecorded. -/
def InvalidValuation (d : PortfolioRiskDecision) : Prop :=
  d.rejectionReason = some .staleValuation ∨ d.rejectionReason = some .valuationMismatch

instance : DecidablePred InvalidValuation := fun _ => inferInstanceAs (Decidable (_ ∨ _))

/-- The decision is a rejection (`risk_store.py`, 228-272). -/
def completeRejected (decisionKey ownerId : String) (row : Option ClaimRow)
    (decision : PortfolioRiskDecision) (metadata : MetadataText)
    (valuationEvent : PortfolioValuationRecorded) : Action Error Db RiskCheckedCommitResult := do
  writeClaim env decisionKey (decidedRow row ownerId .completed none metadata env.now)
  let appendResult ←
    if InvalidValuation decision then currentResult rt []
    else appendEventsLocked rt env.toEnv false [.portfolioValuationRecorded valuationEvent]
  return ⟨some decision, appendResult, false⟩

/-- `events_to_append` (`risk_store.py`, 308-321). -/
def eventsToAppend (r : RiskCheckedIntent) (events : List LedgerEvent)
    (valuationEvent : PortfolioValuationRecorded) : Except Error (List LedgerEvent) :=
  if scopeOf events r.scope.positionKey ≠ none then
    return [.portfolioValuationRecorded valuationEvent, .orderIntentCreated r.event]
  else do
    let scopeEvent ← RiskScopeRegistered.new rt (riskScopeEventId rt r.scope) r.evaluatedAt r.scope
    return [.riskScopeRegistered scopeEvent, .portfolioValuationRecorded valuationEvent,
      .orderIntentCreated r.event]

/-- The decision is an approval (`risk_store.py`, 274-337). -/
def commitApproved (r : RiskCheckedIntent) (decisionKey ownerId : String) (row : Option ClaimRow)
    (events : List LedgerEvent) (decision : PortfolioRiskDecision) (metadata : MetadataText)
    (valuationEvent : PortfolioValuationRecorded) : Action Error Db RiskCheckedCommitResult := do
  writeClaim env decisionKey
    (decidedRow row ownerId .committed (some r.event.intent.intentId) metadata env.now)
  let events ← eventsToAppend rt r events valuationEvent
  let appended ← appendEventsLocked rt env.toEnv true events
  setAdapterMetadataOf rt env r
  return ⟨some decision, appended, true⟩

variable (zoneInfo : String → Option Zone)

/-- The evaluation and what follows from it (`risk_store.py`, 211-337). -/
def evaluateAndCommit (r : RiskCheckedIntent) (decisionKey ownerId : String) (row : Option ClaimRow) :
    Action Error Db RiskCheckedCommitResult := do
  let db ← Action.get
  let loaded ← loadLocked rt db
  let proposedCash ← r.event.intent.cashReservation
  let decision ← evaluatePortfolioRisk rt zoneInfo loaded.state loaded.events r.scope proposedCash
    r.valuation r.policy r.evaluatedAt
  let metadata ← encodeMetadata rt (some (committedMetadata rt r.metadata decision))
  let valuationEvent ← PortfolioValuationRecorded.new (valuationEventId rt decisionKey r.valuation)
    r.valuation.assembledAt r.valuation
  match decision.status with
  | .rejected => completeRejected rt env decisionKey ownerId row decision metadata valuationEvent
  | .approved =>
    commitApproved rt env r decisionKey ownerId row loaded.events decision metadata valuationEvent

/-- `commit_risk_checked_order_intent` (`risk_store.py`, 128-337). -/
def commitRiskCheckedOrderIntent (r : RiskCheckedIntent) :
    Action Error Db RiskCheckedCommitResult := do
  liftM (raiseIf (r.event.intent.side ≠ .buy)
    (Error.valueError "portfolio risk checked intent commit is only for BUY entries"))
  liftM (raiseIf (r.scope.positionKey ≠ r.event.intent.key)
    (Error.valueError "risk scope does not match order-intent position key"))
  liftM (raiseIf (r.adapterBackendName.isNone ≠ r.adapterPayload.isNone)
    (Error.valueError "adapter backend name and payload must be supplied together"))
  let ownerId ← requireText r.ownerId "owner_id"
  let decisionKey ← requireText r.event.intent.decisionId "decision_id"
  let base ← encodeMetadata rt r.metadata
  transaction env.toEnv do
    let db ← Action.get
    match db.decisionClaims.get? decisionKey with
    | none => evaluateAndCommit rt env zoneInfo r decisionKey ownerId none
    | some row => do
      let claim ← claimFromRow rt decisionKey row
      match claim.status with
      | .committed => retryCommitted rt env r claim
      | .completed => retryCompleted rt claim ownerId
      | .claimed => do
        checkClaimed rt claim ownerId base.hash
        evaluateAndCommit rt env zoneInfo r decisionKey ownerId (some row)

end

end WeatherBot.Persistence
