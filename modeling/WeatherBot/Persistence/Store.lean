import WeatherBot.Common.Action
import WeatherBot.Domain.Reducers
import WeatherBot.Persistence.Codec

/-!
# The event store

`SQLiteEventStore` (`persistence/store.py`) over its four tables.

* `Db`: the tables. A column of `ledger_events` or `state_checkpoints` holds any
  SQL value, as in a damaged file.
* `loadLocked`: the verified replay; every reader and writer starts with it.
* `appendMany`: one transaction that appends a batch.
-/

namespace WeatherBot.Persistence

open WeatherBot.Common
open WeatherBot.Domain

/-! ## Tables -/

/-- A value of a column. -/
inductive SqlValue where
  | null
  | integer (n : ℤ)
  | text (s : String)
  /-- A `REAL` or a `BLOB`; no column is read as one. -/
  | other
deriving DecidableEq

/-- The column of an optional text. -/
def SqlValue.ofOption : Option String → SqlValue
  | none => .null
  | some s => .text s

/-- `_row_text`. -/
def rowText (value : SqlValue) (key : String) : Except Error String :=
  match value with
  | .text s => return s
  | _ => throw (corrupt ("database column " ++ key ++ " must be text"))

/-- `_row_optional_text`. -/
def rowOptionalText (value : SqlValue) (key : String) : Except Error (Option String) :=
  match value with
  | .null => return none
  | .text s => return some s
  | _ => throw (corrupt ("database column " ++ key ++ " must be text or null"))

/-- `_row_int`. -/
def rowInt (value : SqlValue) (key : String) : Except Error ℤ :=
  match value with
  | .integer n => return n
  | _ => throw (corrupt ("database column " ++ key ++ " must be an integer"))

/-- A row of `ledger_events`, without `recorded_at`, which no query reads. -/
structure EventRow where
  sequence : ℤ
  eventId : SqlValue
  eventType : SqlValue
  eventSchemaVersion : SqlValue
  occurredAt : SqlValue
  intentId : SqlValue
  decisionId : SqlValue
  marketId : SqlValue
  outcomeId : SqlValue
  payloadJson : SqlValue
  payloadHash : SqlValue
  previousChainHash : SqlValue
  chainHash : SqlValue
deriving DecidableEq

/-- A row of `state_checkpoints`, apart from its key. -/
structure CheckpointRow where
  chainHash : SqlValue
  stateHash : SqlValue
  createdAt : SqlValue
deriving DecidableEq

/-- `StateCheckpoint`. -/
structure StateCheckpoint where
  sequence : ℤ
  chainHash : String
  stateHash : String
  createdAt : String

/-- The statuses that the `CHECK` of `decision_claims` admits. -/
inductive ClaimStatus where
  | claimed
  | committed
  | completed
deriving DecidableEq, Repr

/-- A row of `decision_claims`, apart from its key. -/
structure ClaimRow where
  ownerId : String
  status : ClaimStatus
  intentId : Option String
  metadataJson : String
  metadataHash : String
  claimedAt : String
  updatedAt : String
deriving DecidableEq

/-- A row of `adapter_metadata`, apart from its key. -/
structure AdapterRow where
  backendName : String
  payloadJson : String
  payloadHash : String
  createdAt : String
  updatedAt : String
deriving DecidableEq

/-- The database. The rows of `ledger_events` are listed by their sequence; the other tables are
looked up by their primary keys. -/
structure Db where
  ledgerEvents : List EventRow
  stateCheckpoints : Dict ℤ CheckpointRow
  decisionClaims : Dict String ClaimRow
  adapterMetadata : Dict String AdapterRow

/-- A database after its migrations. -/
def Db.empty : Db := ⟨[], Dict.empty, Dict.empty, Dict.empty⟩

/-! ## Loading -/

/-- `GENESIS_CHAIN_HASH`. -/
def genesisChainHash : String := String.ofList (List.replicate 64 '0')

/-- The exceptions that `_load_locked` turns into a `CorruptLedgerError`. -/
def caught : ErrorKind → Bool
  | .invalidOperation => false
  | .overflowError => false
  | .keyError => false
  | .integrityError => false
  | .assertionError => false
  | _ => true

/-- `except (DomainError, PersistenceError, TypeError, ValueError)`. -/
def asCorrupt {α : Type} (message : String) (x : Except Error α) : Except Error α :=
  match x with
  | .ok a => .ok a
  | .error e => if caught e.kind then .error (corrupt (message ++ e.message)) else .error e

theorem asCorrupt_eq_ok {α : Type} {message : String} {x : Except Error α} {a : α} :
    asCorrupt message x = .ok a ↔ x = .ok a := by
  cases x with
  | ok b => rfl
  | error e =>
    rw [asCorrupt]
    split_ifs <;> simp

/-- The accumulators of the replay. -/
structure Loaded where
  events : List LedgerEvent
  state : LedgerState
  lastSequence : ℤ
  chainHash : String

/-- `_checkpoint_rows_locked`. -/
def checkpointRowsLocked (db : Db) : Except Error (List StateCheckpoint) :=
  db.stateCheckpoints.entries.mapM fun entry => do
    let chainHash ← rowText entry.2.chainHash "chain_hash"
    let stateHash ← rowText entry.2.stateHash "state_hash"
    let createdAt ← rowText entry.2.createdAt "created_at"
    return { sequence := entry.1, chainHash, stateHash, createdAt }

/-- `checkpoints.get(sequence)`. -/
def checkpointAt (checkpoints : List StateCheckpoint) (sequence : ℤ) : Option StateCheckpoint :=
  checkpoints.find? fun c => c.sequence = sequence

/-- One indexed column against the payload. -/
def checkColumn (sequence : ℤ) (column : String) (actual : SqlValue) (expected : Option String) :
    Except Error Unit := do
  let actual ← rowOptionalText actual column
  raiseIf (actual ≠ expected)
    (corrupt ("ledger event " ++ toString sequence ++ " indexed column " ++ column ++
      " does not match its payload"))

/-- The loop over `expected_columns`. -/
def checkColumns (row : EventRow) (encoded : EncodedEvent) : Except Error Unit := do
  checkColumn row.sequence "event_id" row.eventId (some encoded.eventId)
  checkColumn row.sequence "event_type" row.eventType (some encoded.eventType)
  let version ← rowInt row.eventSchemaVersion "event_schema_version"
  raiseIf (version ≠ encoded.schemaVersion)
    (corrupt ("ledger event " ++ toString row.sequence ++
      " indexed column event_schema_version does not match its payload"))
  checkColumn row.sequence "occurred_at" row.occurredAt (some encoded.occurredAt)
  checkColumn row.sequence "intent_id" row.intentId encoded.index.intentId
  checkColumn row.sequence "decision_id" row.decisionId encoded.index.decisionId
  checkColumn row.sequence "market_id" row.marketId encoded.index.marketId
  checkColumn row.sequence "outcome_id" row.outcomeId encoded.index.outcomeId

section

variable (rt : Runtime)

/-- `fingerprint(state)`. -/
def stateFingerprint (s : LedgerState) : String := fingerprint rt (s.canonical rt)

/-- A checkpoint against the replay (`store.py`, 428-439). -/
def checkCheckpoint (checkpoint : Option StateCheckpoint) (sequence : ℤ) (chainHash : String)
    (state : LedgerState) : Except Error Unit :=
  match checkpoint with
  | none => return ()
  | some c => do
    raiseIf (c.chainHash ≠ chainHash)
      (corrupt ("state checkpoint " ++ toString sequence ++ " references a different chain hash"))
    raiseIf (c.stateHash ≠ stateFingerprint rt state)
      (corrupt ("state checkpoint " ++ toString sequence ++ " does not match replayed state"))

/-- The body of the loop of `_load_locked` (`store.py`, 365-440). -/
def loadRow (checkpoints : List StateCheckpoint) (acc : Loaded) (row : EventRow) :
    Except Error Loaded := do
  let name := "ledger event " ++ toString row.sequence
  raiseIf (row.sequence ≠ acc.lastSequence + 1)
    (corrupt ("ledger sequence gap: expected " ++ toString (acc.lastSequence + 1) ++ ", found " ++
      toString row.sequence))
  let payloadJson ← rowText row.payloadJson "payload_json"
  let storedPayloadHash ← rowText row.payloadHash "payload_hash"
  raiseIf (storedPayloadHash ≠ rt.sha256 payloadJson)
    (corrupt (name ++ " payload hash mismatch: expected " ++ storedPayloadHash ++ ", calculated " ++
      rt.sha256 payloadJson))
  let storedPreviousHash ← rowText row.previousChainHash "previous_chain_hash"
  raiseIf (storedPreviousHash ≠ acc.chainHash) (corrupt (name ++ " chain predecessor mismatch"))
  let eventType ← rowText row.eventType "event_type"
  let schemaVersion ← rowInt row.eventSchemaVersion "event_schema_version"
  let calculated := chainHash rt acc.chainHash schemaVersion eventType storedPayloadHash
  let storedChainHash ← rowText row.chainHash "chain_hash"
  raiseIf (storedChainHash ≠ calculated)
    (corrupt (name ++ " chain hash mismatch: expected " ++ storedChainHash ++ ", calculated " ++
      calculated))
  let event ← asCorrupt (name ++ " cannot be decoded safely: ") (decodeEvent rt payloadJson)
  let encoded := encodeEvent rt event
  raiseIf (encoded.payloadJson ≠ payloadJson) (corrupt (name ++ " payload is not canonical"))
  checkColumns row encoded
  let state ← asCorrupt (name ++ " violates domain replay: ") (applyEvent rt acc.state event)
  checkCheckpoint rt (checkpointAt checkpoints row.sequence) row.sequence storedChainHash state
  return {
    events := acc.events ++ [event]
    state
    lastSequence := row.sequence
    chainHash := storedChainHash
  }

/-- `_load_locked` without a stop sequence (`store.py`, 326-448). -/
def loadLocked (db : Db) : Except Error Loaded := do
  let checkpoints ← checkpointRowsLocked db
  let state ← LedgerState.empty rt "USDC"
  let loaded ← db.ledgerEvents.foldlM (loadRow rt checkpoints) {
    events := []
    state
    lastSequence := 0
    chainHash := genesisChainHash
  }
  raiseIf (∃ c ∈ checkpoints, loaded.lastSequence < c.sequence)
    (corrupt "state checkpoints reference missing ledger sequences")
  return loaded

end

/-! ## Statements -/

/-- What the surroundings of a call decide: the clock, and the failures of SQLite itself. -/
structure Env where
  now : String
  beginError : Option String
  insertError : ℤ → Option Error
  commitError : Option String

/-- Surroundings without failures. -/
def Env.quiet (now : String) : Env := ⟨now, none, fun _ => none, none⟩

/-- `_transaction` (`store.py`, 265-295). -/
def transaction {α : Type} (env : Env) (body : Action Error Db α) : Action Error Db α :=
  Action.transaction
    (env.beginError.map fun e =>
      ⟨.persistenceError, "could not begin SQLite transaction: " ++ e⟩)
    (env.commitError.map fun e =>
      ⟨.persistenceError, "SQLite commit failed and changes were rolled back: " ++ e⟩)
    body

/-- `_existing_event_locked`. -/
def existingEventLocked (db : Db) (eventId : String) : Option EventRow :=
  db.ledgerEvents.find? fun row => row.eventId = .text eventId

/-- `_intent_event_locked`. -/
def intentEventLocked (db : Db) (intentId : String) : Option EventRow :=
  db.ledgerEvents.find? fun row =>
    row.eventType = .text EventType.orderIntentCreated.value ∧ row.intentId = .text intentId

/-- `CHECK (length(column) = 64)`. -/
def HasLength64 : SqlValue → Prop
  | .text s => s.length = 64
  | _ => False

instance (v : SqlValue) : Decidable (HasLength64 v) := by
  unfold HasLength64
  cases v <;> infer_instance

/-- Two intent events with one value in a column of a partial unique index. -/
def ClashesIn (column : EventRow → SqlValue) (a b : EventRow) : Prop :=
  a.eventType = .text EventType.orderIntentCreated.value ∧
    b.eventType = .text EventType.orderIntentCreated.value ∧
    column a = column b ∧ column a ≠ .null

instance (column : EventRow → SqlValue) (a b : EventRow) : Decidable (ClashesIn column a b) :=
  inferInstanceAs (Decidable (_ ∧ _ ∧ _ ∧ _))

/-- The unique columns and indexes of `ledger_events`. -/
def Conflicts (a b : EventRow) : Prop :=
  a.sequence = b.sequence ∨ a.eventId = b.eventId ∨ a.chainHash = b.chainHash ∨
    ClashesIn EventRow.intentId a b ∨ ClashesIn EventRow.decisionId a b

instance (a b : EventRow) : Decidable (Conflicts a b) :=
  inferInstanceAs (Decidable (_ ∨ _ ∨ _ ∨ _ ∨ _))

/-- The place of a row in the order of the sequences. -/
def insertBySequence (row : EventRow) : List EventRow → List EventRow
  | [] => [row]
  | r :: rows => if row.sequence < r.sequence then row :: r :: rows else r :: insertBySequence row rows

/-- The constraints of `ledger_events` on a row to be inserted. -/
def checkConstraints (db : Db) (row : EventRow) : Except Error Unit := do
  raiseIf (∃ r ∈ db.ledgerEvents, Conflicts row r) ⟨.integrityError, "UNIQUE constraint failed"⟩
  raiseIf (¬ (HasLength64 row.payloadHash ∧ HasLength64 row.previousChainHash ∧
      HasLength64 row.chainHash))
    ⟨.integrityError, "CHECK constraint failed"⟩

/-- `INSERT INTO ledger_events`. -/
def insertEvent (env : Env) (row : EventRow) : Action Error Db Unit := do
  Action.raiseSome (env.insertError row.sequence)
  let db ← Action.get
  checkConstraints db row
  Action.modify fun db => { db with ledgerEvents := insertBySequence row db.ledgerEvents }

/-! ## Appending -/

/-- `AppendResult`. -/
structure AppendResult where
  appendedSequences : List ℤ
  duplicateEventIds : List String
  state : LedgerState
  lastSequence : ℤ
  chainHash : String

/-- The row of an event that follows a chain hash. -/
def eventRow (rt : Runtime) (sequence : ℤ) (previousHash : String) (event : LedgerEvent) : EventRow :=
  let encoded := encodeEvent rt event
  { sequence
    eventId := .text encoded.eventId
    eventType := .text encoded.eventType
    eventSchemaVersion := .integer encoded.schemaVersion
    occurredAt := .text encoded.occurredAt
    intentId := .ofOption encoded.index.intentId
    decisionId := .ofOption encoded.index.decisionId
    marketId := .ofOption encoded.index.marketId
    outcomeId := .ofOption encoded.index.outcomeId
    payloadJson := .text encoded.payloadJson
    payloadHash := .text encoded.payloadHash
    previousChainHash := .text previousHash
    chainHash := .text (chainHash rt previousHash encoded.schemaVersion encoded.eventType
      encoded.payloadHash) }

/-- `same`: the stored row against the encoded event (`store.py`, 601-606). -/
def sameStored (row : EventRow) (encoded : EncodedEvent) : Except Error Bool := do
  let eventType ← rowText row.eventType "event_type"
  if eventType ≠ encoded.eventType then return false
  let version ← rowInt row.eventSchemaVersion "event_schema_version"
  if version ≠ encoded.schemaVersion then return false
  let payloadJson ← rowText row.payloadJson "payload_json"
  if payloadJson ≠ encoded.payloadJson then return false
  let payloadHash ← rowText row.payloadHash "payload_hash"
  return payloadHash = encoded.payloadHash

/-- A second event with the identifier of a stored row. -/
def checkDuplicate (row : EventRow) (encoded : EncodedEvent) : Except Error Unit := do
  let same ← sameStored row encoded
  raiseIf (same = false) (.duplicateEventConflict
    ("event identifier " ++ encoded.eventId ++ " was reused with different data"))

/-- An intent event for an intent that is stored already (`store.py`, 612-618). -/
def checkPriorIntent (db : Db) (event : LedgerEvent) : Except Error Unit :=
  match event with
  | .orderIntentCreated e =>
    match intentEventLocked db e.intent.intentId with
    | none => return ()
    | some prior => do
      let eventId ← rowText prior.eventId "event_id"
      throw ⟨.duplicateIntentError, "order intent " ++ e.intent.intentId ++
        " already exists as event " ++ eventId⟩
  | _ => return ()

/-- The gate on order intents (`store.py`, 594-598). -/
def checkIntentAllowed (allowIntentCreated : Bool) : LedgerEvent → Except Error Unit
  | .orderIntentCreated _ =>
    raiseIf (allowIntentCreated = false) ⟨.persistenceError,
      "order intents must be persisted with commit_order_intent() so the " ++
        "scan decision and intent are committed atomically"⟩
  | _ => return ()

section

variable (rt : Runtime) (env : Env)

/-- Store an event that is new (`store.py`, 612-667). -/
def storeNew (acc : AppendResult) (event : LedgerEvent) : Action Error Db AppendResult := do
  let db ← Action.get
  checkPriorIntent db event
  let nextState ← applyEvent rt acc.state event
  let row := eventRow rt (acc.lastSequence + 1) acc.chainHash event
  insertEvent env row
  return { acc with
    appendedSequences := acc.appendedSequences ++ [acc.lastSequence + 1]
    state := nextState
    lastSequence := acc.lastSequence + 1
    chainHash := chainHash rt acc.chainHash (encodeEvent rt event).schemaVersion
      (encodeEvent rt event).eventType (encodeEvent rt event).payloadHash }

/-- The body of the loop of `_append_events_locked` (`store.py`, 593-670). -/
def appendEvent (allowIntentCreated : Bool) (acc : AppendResult) (event : LedgerEvent) :
    Action Error Db AppendResult := do
  checkIntentAllowed allowIntentCreated event
  let db ← Action.get
  match existingEventLocked db event.eventId with
  | none => storeNew rt env acc event
  | some existing => do
    checkDuplicate existing (encodeEvent rt event)
    return { acc with duplicateEventIds := acc.duplicateEventIds ++ [event.eventId] }

/-- The result before the first event of a batch. -/
def AppendResult.ofLoaded (loaded : Loaded) : AppendResult where
  appendedSequences := []
  duplicateEventIds := []
  state := loaded.state
  lastSequence := loaded.lastSequence
  chainHash := loaded.chainHash

/-- `_append_events_locked` (`store.py`, 583-678). -/
def appendEventsLocked (allowIntentCreated : Bool) (events : List LedgerEvent) :
    Action Error Db AppendResult := do
  let db ← Action.get
  let loaded ← loadLocked rt db
  events.foldlM (appendEvent rt env allowIntentCreated) (.ofLoaded loaded)

/-- `append_many` (`store.py`, 683-686). -/
def appendMany (events : List LedgerEvent) : Action Error Db AppendResult :=
  transaction env (appendEventsLocked rt env false events)

/-- `append` (`store.py`, 680-681). -/
def append (event : LedgerEvent) : Action Error Db AppendResult := appendMany rt env [event]

end

end WeatherBot.Persistence
