import WeatherBot.Persistence.Metadata
import WeatherBot.Persistence.Store

/-!
# Decisions

The calls of `SQLiteEventStore` that write `decision_claims`, `adapter_metadata`
and `state_checkpoints` (`persistence/store.py`, 688-975 and 1069-1106).

* `claimDecision`, `completeDecisionWithoutIntent`, `commitOrderIntent`: the
  protocol of a scan decision.
* `setAdapterMetadata`, `createCheckpoint`.
-/

namespace WeatherBot.Persistence

open WeatherBot.Common
open WeatherBot.Domain

/-- What the surroundings decide, with the failures of SQLite at the other statements that write. -/
structure Surroundings extends Env where
  claimError : Option Error
  adapterError : Option Error
  checkpointError : Option Error

/-- Surroundings without failures. -/
def Surroundings.quiet (now : String) : Surroundings := ⟨.quiet now, none, none, none⟩

def concurrent (message : String) : Error := ⟨.concurrentDecisionError, message⟩

def recoveryRequired (message : String) : Error := ⟨.recoveryRequiredError, message⟩

/-! ## Claims -/

/-- The value of the `status` column. -/
def ClaimStatus.value : ClaimStatus → String
  | .claimed => "claimed"
  | .committed => "committed"
  | .completed => "completed"

/-- `DecisionClaim`. -/
structure DecisionClaim where
  decisionKey : String
  ownerId : String
  status : ClaimStatus
  intentId : Option String
  metadata : List (String × Json)
  claimedAt : String
  updatedAt : String

/-- `DecisionClaimResult`. -/
structure DecisionClaimResult where
  claim : DecisionClaim
  created : Bool

/-- `_claim_from_row`. -/
def claimFromRow (rt : Runtime) (decisionKey : String) (row : ClaimRow) :
    Except Error DecisionClaim := do
  let metadata ← decodeMetadata rt row.metadataJson row.metadataHash
  return {
    decisionKey
    ownerId := row.ownerId
    status := row.status
    intentId := row.intentId
    metadata
    claimedAt := row.claimedAt
    updatedAt := row.updatedAt
  }

/-- The constraints of `decision_claims` on a row that is written. -/
def checkClaimConstraints (db : Db) (decisionKey : String) (row : ClaimRow) : Except Error Unit := do
  raiseIf (∃ entry ∈ db.decisionClaims.entries, entry.1 ≠ decisionKey ∧
      row.intentId ≠ none ∧ entry.2.intentId = row.intentId)
    ⟨.integrityError, "UNIQUE constraint failed"⟩
  raiseIf (¬ (row.status = .committed ↔ row.intentId ≠ none))
    ⟨.integrityError, "CHECK constraint failed"⟩
  raiseIf (row.metadataHash.length ≠ 64) ⟨.integrityError, "CHECK constraint failed"⟩

/-- `INSERT INTO decision_claims`, or an `UPDATE` of the row with the key. -/
def writeClaim (env : Surroundings) (decisionKey : String) (row : ClaimRow) : Action Error Db Unit := do
  Action.raiseSome env.claimError
  let db ← Action.get
  checkClaimConstraints db decisionKey row
  Action.modify fun db => { db with decisionClaims := db.decisionClaims.insert decisionKey row }

/-- The claim that was just written. -/
def rereadClaim (rt : Runtime) (decisionKey message : String) : Action Error Db DecisionClaim := do
  let db ← Action.get
  match db.decisionClaims.get? decisionKey with
  | none => Action.raise (corrupt message)
  | some row => liftM (claimFromRow rt decisionKey row)

/-- A claim that was just created. -/
def ClaimRow.fresh (ownerId : String) (status : ClaimStatus) (intentId : Option String)
    (metadata : MetadataText) (now : String) : ClaimRow where
  ownerId
  status
  intentId
  metadataJson := metadata.json
  metadataHash := metadata.hash
  claimedAt := now
  updatedAt := now

section

variable (rt : Runtime) (env : Surroundings)

/-- `decision ... is already ... by owner ...`. -/
def alreadyBy (claim : DecisionClaim) : Error :=
  concurrent ("decision " ++ rt.repr claim.decisionKey ++ " is already " ++ claim.status.value ++
    " by owner " ++ rt.repr claim.ownerId)

/-- `decision ... is ... by owner ...`. -/
def heldBy (claim : DecisionClaim) : Error :=
  concurrent ("decision " ++ rt.repr claim.decisionKey ++ " is " ++ claim.status.value ++
    " by owner " ++ rt.repr claim.ownerId)

/-- `claim_decision` (`store.py`, 715-763). -/
def claimDecision (decisionKey ownerId : String) (metadata : Option Metadata) :
    Action Error Db DecisionClaimResult := do
  let decisionKey ← requireText decisionKey "decision_key"
  let ownerId ← requireText ownerId "owner_id"
  let encoded ← encodeMetadata rt metadata
  transaction env.toEnv do
    let db ← Action.get
    match db.decisionClaims.get? decisionKey with
    | some existing => do
      let claim ← claimFromRow rt decisionKey existing
      if claim.status = .claimed ∧ claim.ownerId = ownerId ∧ existing.metadataHash = encoded.hash then
        return ⟨claim, false⟩
      else Action.raise (alreadyBy rt claim)
    | none => do
      writeClaim env decisionKey (.fresh ownerId .claimed none encoded env.now)
      let claim ← rereadClaim rt decisionKey "decision claim disappeared after insertion"
      return ⟨claim, true⟩

/-- `complete_decision_without_intent` (`store.py`, 765-798). -/
def completeDecisionWithoutIntent (decisionKey ownerId : String) : Action Error Db DecisionClaim := do
  let decisionKey ← requireText decisionKey "decision_key"
  let ownerId ← requireText ownerId "owner_id"
  transaction env.toEnv do
    let db ← Action.get
    match db.decisionClaims.get? decisionKey with
    | none => Action.raise (concurrent
        ("decision " ++ rt.repr decisionKey ++ " must be claimed before completion"))
    | some row => do
      let claim ← claimFromRow rt decisionKey row
      if claim.status = .completed ∧ claim.ownerId = ownerId then return claim
      else if claim.status ≠ .claimed ∨ claim.ownerId ≠ ownerId then
        Action.raise (concurrent ("decision " ++ rt.repr decisionKey ++
          " cannot be completed by owner " ++ rt.repr ownerId))
      else do
        writeClaim env decisionKey { row with status := .completed, updatedAt := env.now }
        rereadClaim rt decisionKey "decision claim disappeared after completion"

/-- The stored intent of a committed decision is the one of the event (`store.py`, 833-852). -/
def checkCommitted (db : Db) (claim : DecisionClaim) (event : OrderIntentCreated) :
    Except Error Unit :=
  if claim.intentId ≠ some event.intent.intentId then
    throw ⟨.duplicateIntentError, "decision " ++ rt.repr claim.decisionKey ++
      " already committed intent " ++ claim.intentId.getD "None"⟩
  else
    match intentEventLocked db event.intent.intentId with
    | none => throw (corrupt ("decision " ++ rt.repr claim.decisionKey ++
        " is committed but its intent event is missing"))
    | some prior => do
      let payloadJson ← rowText prior.payloadJson "payload_json"
      match ← decodeEvent rt payloadJson with
      | .orderIntentCreated priorEvent =>
        raiseIf (¬ priorEvent.intent.PyEq event.intent)
          ⟨.duplicateIntentError, "order intent " ++ event.intent.intentId ++
            " was reused with different data"⟩
      | _ => throw (corrupt "stored intent row decoded as another event type")

/-- The result of a call that appends nothing. -/
def currentResult (duplicateEventIds : List String) : Action Error Db AppendResult := do
  let db ← Action.get
  let loaded ← loadLocked rt db
  return { AppendResult.ofLoaded loaded with duplicateEventIds }

/-- `commit_order_intent` (`store.py`, 800-875). -/
def commitOrderIntent (event : OrderIntentCreated) (ownerId : String) (metadata : Option Metadata) :
    Action Error Db AppendResult := do
  let ownerId ← requireText ownerId "owner_id"
  let decisionKey ← requireText event.intent.decisionId "decision_id"
  let encoded ← encodeMetadata rt metadata
  transaction env.toEnv do
    let db ← Action.get
    match db.decisionClaims.get? decisionKey with
    | none => do
      writeClaim env decisionKey
        (.fresh ownerId .committed (some event.intent.intentId) encoded env.now)
      appendEventsLocked rt env.toEnv true [.orderIntentCreated event]
    | some row => do
      let claim ← claimFromRow rt decisionKey row
      if claim.status = .committed then do
        checkCommitted rt db claim event
        currentResult rt [event.eventId]
      else if claim.status ≠ .claimed ∨ claim.ownerId ≠ ownerId then
        Action.raise (heldBy rt claim)
      else if row.metadataHash ≠ encoded.hash then
        Action.raise (concurrent ("decision " ++ rt.repr decisionKey ++
          " metadata changed between claim and commit"))
      else do
        writeClaim env decisionKey { row with
          status := .committed
          intentId := some event.intent.intentId
          updatedAt := env.now }
        appendEventsLocked rt env.toEnv true [.orderIntentCreated event]

/-! ## Adapter metadata -/

/-- `AdapterMetadata`. -/
structure AdapterMetadata where
  intentId : String
  backendName : String
  payload : List (String × Json)
  createdAt : String
  updatedAt : String

/-- `_adapter_from_row`. -/
def adapterFromRow (intentId : String) (row : AdapterRow) : Except Error AdapterMetadata := do
  let payload ← decodeMetadata rt row.payloadJson row.payloadHash
  return {
    intentId
    backendName := row.backendName
    payload
    createdAt := row.createdAt
    updatedAt := row.updatedAt
  }

/-- `INSERT INTO adapter_metadata`, or an `UPDATE` of the row with the key. -/
def writeAdapter (intentId : String) (row : AdapterRow) : Action Error Db Unit := do
  Action.raiseSome env.adapterError
  liftM (raiseIf (row.payloadHash.length ≠ 64)
    (⟨.integrityError, "CHECK constraint failed"⟩ : Error))
  Action.modify fun db => { db with adapterMetadata := db.adapterMetadata.insert intentId row }

/-- The adapter metadata that was just written. -/
def rereadAdapter (intentId : String) : Action Error Db AdapterMetadata := do
  let db ← Action.get
  match db.adapterMetadata.get? intentId with
  | none => Action.raise (corrupt "adapter metadata disappeared after write")
  | some row => liftM (adapterFromRow rt intentId row)

/-- An adapter row that was just created. -/
def AdapterRow.fresh (backendName : String) (payload : MetadataText) (now : String) : AdapterRow where
  backendName
  payloadJson := payload.json
  payloadHash := payload.hash
  createdAt := now
  updatedAt := now

/-- `set_adapter_metadata` (`store.py`, 914-965). -/
def setAdapterMetadata (intentId backendName : String) (payload : Option Metadata) :
    Action Error Db AdapterMetadata := do
  let intentId ← requireText intentId "intent_id"
  let backendName ← requireText backendName "backend_name"
  let encoded ← encodeMetadata rt payload
  transaction env.toEnv do
    let db ← Action.get
    match intentEventLocked db intentId with
    | none => Action.raise (recoveryRequired
        ("cannot attach adapter metadata to unknown intent " ++ intentId))
    | some _ =>
      match db.adapterMetadata.get? intentId with
      | none => do
        writeAdapter env intentId (.fresh backendName encoded env.now)
        rereadAdapter rt intentId
      | some existing =>
        if existing.backendName ≠ backendName then
          Action.raise (recoveryRequired ("intent " ++ intentId ++
            " is already assigned to backend " ++ rt.repr existing.backendName))
        else do
          writeAdapter env intentId { existing with
            payloadJson := encoded.json
            payloadHash := encoded.hash
            updatedAt := env.now }
          rereadAdapter rt intentId

/-! ## Checkpoints -/

/-- `INSERT INTO state_checkpoints`. -/
def insertCheckpoint (sequence : ℤ) (row : CheckpointRow) : Action Error Db Unit := do
  Action.raiseSome env.checkpointError
  liftM (raiseIf (¬ (0 < sequence ∧ HasLength64 row.chainHash ∧ HasLength64 row.stateHash))
    (⟨.integrityError, "CHECK constraint failed"⟩ : Error))
  Action.modify fun db => { db with stateCheckpoints := db.stateCheckpoints.insert sequence row }

/-- `create_checkpoint` (`store.py`, 1069-1106). -/
def createCheckpoint : Action Error Db StateCheckpoint :=
  transaction env.toEnv do
    let db ← Action.get
    let loaded ← loadLocked rt db
    liftM (raiseIf (loaded.lastSequence = 0)
      (⟨.persistenceError, "cannot checkpoint an empty ledger"⟩ : Error))
    let stateHash := stateFingerprint rt loaded.state
    match db.stateCheckpoints.get? loaded.lastSequence with
    | some existing => do
      let chainHash ← rowText existing.chainHash "chain_hash"
      let storedHash ← rowText existing.stateHash "state_hash"
      let createdAt ← rowText existing.createdAt "created_at"
      liftM (raiseIf (chainHash ≠ loaded.chainHash ∨ storedHash ≠ stateHash)
        (corrupt ("checkpoint " ++ toString loaded.lastSequence ++ " conflicts with current replay")))
      return ⟨loaded.lastSequence, chainHash, storedHash, createdAt⟩
    | none => do
      insertCheckpoint env loaded.lastSequence
        ⟨.text loaded.chainHash, .text stateHash, .text env.now⟩
      return ⟨loaded.lastSequence, loaded.chainHash, stateHash, env.now⟩

end

end WeatherBot.Persistence
