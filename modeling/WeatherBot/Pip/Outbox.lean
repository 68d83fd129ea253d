import WeatherBot.Common.Table
import WeatherBot.Pip.SignalLog

/-!
# The delivery outbox

`PipOutbox` (`pip/outbox.py`). A timestamp column holds a text of fixed width, so
the order of its texts is that of the instants, which is how it is modelled. Every
method is one transaction: it returns with the new outbox, or raises and leaves the
old one.

* `OutboxRow.LeaseColumns`: the lease columns are set iff the row is in flight.
* `recoverLease_eq_ok`, `recoverHorizon_eq_ok`: what the loops of `recover` do to
  a row.
-/

namespace WeatherBot.Pip

open WeatherBot.Common
open WeatherBot.Domain

/-! ## Rows -/

inductive OutboxState where
  | pending
  | inFlight
  | retryWait
  | acknowledged
  | deadLetter
deriving DecidableEq, Repr

inductive ClaimMode where
  | automatic
  | operatorOneShot
deriving DecidableEq, Repr

/-- `FrozenEnvelope` (`pip/core.py`). -/
structure FrozenEnvelope where
  producerId : String
  eventId : String
  signalId : String
  /-- An instant, in microseconds. -/
  generatedAt : ℤ
  keyId : String
  eventSha256 : String
  canonicalEventBytes : List UInt8
  envelopeBytes : List UInt8
deriving DecidableEq

/-- The columns that the trigger `pip_outbox_frozen_identity` and the key freeze. -/
structure FrozenColumns where
  outboxId : String
  producerId : String
  eventId : String
  signalId : String
  eventSha256 : String
  envelopeBytes : List UInt8
  generatedAt : ℤ
  keyId : String
  enqueuedAt : ℤ
deriving DecidableEq

/-- A row of `pip_outbox`. -/
structure OutboxRow extends FrozenColumns where
  state : OutboxState
  attemptCount : ℕ
  nextAttemptAt : ℤ
  leaseOwner : Option String
  leaseExpiresAt : Option ℤ
  claimToken : Option String
  claimMode : Option ClaimMode
  lastAttemptAt : Option ℤ
  lastResultClass : Option String
  lastHttpStatus : Option ℤ
  receiptId : Option String
  acknowledgedAt : Option ℤ
  deadLetterReason : Option String
  deadLetteredAt : Option ℤ
deriving DecidableEq

/-- A row of `pip_outbox_operator_audit`. -/
structure AuditRow where
  auditId : String
  eventId : String
  operatorId : String
  action : String
  reason : String
  occurredAt : ℤ
deriving DecidableEq

/-- `OutboxItem`: what a worker sees of a row. -/
structure OutboxItem extends FrozenColumns where
  state : OutboxState
  attemptCount : ℕ
  nextAttemptAt : ℤ
  leaseOwner : Option String
  leaseExpiresAt : Option ℤ
  claimToken : Option String
  claimMode : Option ClaimMode
deriving DecidableEq

namespace OutboxRow

/-- `_from_row`. -/
def item (r : OutboxRow) : OutboxItem where
  toFrozenColumns := r.toFrozenColumns
  state := r.state
  attemptCount := r.attemptCount
  nextAttemptAt := r.nextAttemptAt
  leaseOwner := r.leaseOwner
  leaseExpiresAt := r.leaseExpiresAt
  claimToken := r.claimToken
  claimMode := r.claimMode

/-- `state IN ('pending','retry_wait')`. -/
def Waiting (r : OutboxRow) : Prop := r.state = .pending ∨ r.state = .retryWait

instance (r : OutboxRow) : Decidable r.Waiting :=
  inferInstanceAs (Decidable (r.state = .pending ∨ r.state = .retryWait))

/-- `SET lease_owner=NULL,lease_expires_at=NULL,claim_token=NULL,claim_mode=NULL`. -/
def unleased (r : OutboxRow) : OutboxRow :=
  { r with leaseOwner := none, leaseExpiresAt := none, claimToken := none, claimMode := none }

/-- The lease columns are set iff the row is in flight. -/
structure LeaseColumns (r : OutboxRow) : Prop where
  owner : r.leaseOwner.isSome ↔ r.state = .inFlight
  expires : r.leaseExpiresAt.isSome ↔ r.state = .inFlight
  token : r.claimToken.isSome ↔ r.state = .inFlight
  mode : r.claimMode.isSome ↔ r.state = .inFlight

end OutboxRow

/-- The tables, with the keys that SQLite enforces: `outbox_id`, `(producer_id, event_id)` and
`audit_id`. -/
structure Outbox where
  rows : List OutboxRow
  audit : List AuditRow
  outboxIds : (rows.map fun r => r.outboxId).Nodup
  events : (rows.map fun r => (r.producerId, r.eventId)).Nodup
  auditIds : (audit.map AuditRow.auditId).Nodup

namespace Outbox

/-- The tables after `_migrate` on a new file. -/
def empty : Outbox := ⟨[], [], List.nodup_nil, List.nodup_nil, List.nodup_nil⟩

/-- `UPDATE pip_outbox SET … WHERE p`. The columns of `FrozenColumns` are never set. -/
def update (db : Outbox) (p : OutboxRow → Prop) [DecidablePred p] (set : OutboxRow → OutboxRow)
    (hset : ∀ r, (set r).toFrozenColumns = r.toFrozenColumns) : Outbox where
  rows := updateWhere p set db.rows
  audit := db.audit
  outboxIds := by
    rw [map_updateWhere (fun r => r.outboxId) fun r => congrArg FrozenColumns.outboxId (hset r)]
    exact db.outboxIds
  events := by
    rw [map_updateWhere (fun r => (r.producerId, r.eventId)) fun r =>
      congrArg (fun c : FrozenColumns => (c.producerId, c.eventId)) (hset r)]
    exact db.events
  auditIds := db.auditIds

/-- A loop over the rows, each iteration an `UPDATE … WHERE outbox_id=?` of its row. -/
def updateEach (db : Outbox) (f : OutboxRow → Except PipError OutboxRow)
    (hf : ∀ r r', f r = .ok r' → r'.toFrozenColumns = r.toFrozenColumns) : Except PipError Outbox :=
  match h : db.rows.mapM f with
  | .error e => .error e
  | .ok rows => .ok {
      rows
      audit := db.audit
      outboxIds := by
        rw [map_mapM_eq_ok (fun r => r.outboxId) (fun r => r.outboxId)
          (fun r r' hr => congrArg FrozenColumns.outboxId (hf r r' hr)) h]
        exact db.outboxIds
      events := by
        rw [map_mapM_eq_ok (fun r => (r.producerId, r.eventId)) (fun r => (r.producerId, r.eventId))
          (fun r r' hr =>
            congrArg (fun c : FrozenColumns => (c.producerId, c.eventId)) (hf r r' hr)) h]
        exact db.events
      auditIds := db.auditIds }

theorem updateEach_eq_ok {db db' : Outbox} {f : OutboxRow → Except PipError OutboxRow}
    {hf : ∀ r r', f r = .ok r' → r'.toFrozenColumns = r.toFrozenColumns} :
    db.updateEach f hf = .ok db' ↔ db.rows.mapM f = .ok db'.rows ∧ db'.audit = db.audit := by
  unfold updateEach
  split
  · rename_i e h
    simp [h]
  · rename_i rows h
    constructor
    · intro hdb
      cases hdb
      exact ⟨h, rfl⟩
    · rintro ⟨hrows, haudit⟩
      cases db'
      cases h.symm.trans hrows
      cases haudit
      rfl

/-- `INSERT INTO pip_outbox_operator_audit`. -/
def insertAudit (db : Outbox) (row : AuditRow) : Except PipError Outbox :=
  if h : row.auditId ∈ db.audit.map AuditRow.auditId then
    .error (.raised ⟨.integrityError, "UNIQUE constraint failed: pip_outbox_operator_audit.audit_id"⟩)
  else .ok { db with
    audit := db.audit ++ [row]
    auditIds := nodup_map_append_singleton db.auditIds h }

end Outbox

/-! ## Time -/

/-- `DELIVERY_HORIZON`. -/
def deliveryHorizon : ℤ := 7 * dayMicros

/-- `MAX_LEASE`, in seconds. -/
def maxLease : ℤ := 60

/-- `t + delta` on datetimes. -/
def addTime (t delta : ℤ) : Except PipError ℤ :=
  if 0 ≤ t + delta ∧ t + delta < DateTime.endMicros then .ok (t + delta)
  else .error (.raised ⟨.overflowError, "date value out of range"⟩)

theorem addTime_eq_ok {t delta u : ℤ} :
    addTime t delta = .ok u ↔ (0 ≤ t + delta ∧ t + delta < DateTime.endMicros) ∧ t + delta = u := by
  unfold addTime
  split_ifs with h <;> simp [h]

/-! ## `enqueue` -/

/-- The row of a new envelope. -/
def newRow (frozen : FrozenEnvelope) (outboxId : String) (current : ℤ) : OutboxRow where
  outboxId
  producerId := frozen.producerId
  eventId := frozen.eventId
  signalId := frozen.signalId
  eventSha256 := frozen.eventSha256
  envelopeBytes := frozen.envelopeBytes
  generatedAt := frozen.generatedAt
  keyId := frozen.keyId
  enqueuedAt := current
  state := .pending
  attemptCount := 0
  nextAttemptAt := current
  leaseOwner := none
  leaseExpiresAt := none
  claimToken := none
  claimMode := none
  lastAttemptAt := none
  lastResultClass := none
  lastHttpStatus := none
  receiptId := none
  acknowledgedAt := none
  deadLetterReason := none
  deadLetteredAt := none

/-- `WHERE producer_id=? AND event_id=?`. -/
def IsEvent (frozen : FrozenEnvelope) (r : OutboxRow) : Prop :=
  r.producerId = frozen.producerId ∧ r.eventId = frozen.eventId

instance (frozen : FrozenEnvelope) : DecidablePred (IsEvent frozen) :=
  fun r => inferInstanceAs (Decidable (r.producerId = frozen.producerId ∧ r.eventId = frozen.eventId))

/-- `INSERT INTO pip_outbox`, of an event that is not there. -/
def insertRow (db : Outbox) (frozen : FrozenEnvelope) (outboxId : String) (current : ℤ)
    (hnew : ∀ r ∈ db.rows, ¬ IsEvent frozen r) : Except PipError Outbox :=
  if h : outboxId ∈ db.rows.map fun r => r.outboxId then
    .error (.raised ⟨.integrityError, "UNIQUE constraint failed: pip_outbox.outbox_id"⟩)
  else .ok { db with
    rows := db.rows ++ [newRow frozen outboxId current]
    outboxIds := nodup_map_append_singleton db.outboxIds h
    events := by
      refine nodup_map_append_singleton db.events fun hmem => ?_
      obtain ⟨r, hr, hkey⟩ := List.mem_map.mp hmem
      exact hnew r hr (Prod.mk.inj hkey) }

/-- `PipOutbox.enqueue`; `outboxId` is the fresh `pob_…`. -/
def enqueue (db : Outbox) (frozen : FrozenEnvelope) (outboxId : String) (current : ℤ) :
    Except PipError (OutboxItem × Outbox) :=
  match h : db.rows.find? (IsEvent frozen ·) with
  | some row => do
    raiseIf (row.eventSha256 ≠ frozen.eventSha256 ∨ row.envelopeBytes ≠ frozen.envelopeBytes ∨
        row.signalId ≠ frozen.signalId)
      (.pipExportError
        "local PIP event identity conflict: same producer/event ID has different bytes")
    return (row.item, db)
  | none => do
    let db ← insertRow db frozen outboxId current fun r hr hevent => by
      simpa [hevent] using List.find?_eq_none.mp h r hr
    return ((newRow frozen outboxId current).item, db)

/-! ## `recover` -/

/-- `state='in_flight' AND lease_expires_at<=?`. -/
def LeaseExpired (current : ℤ) (r : OutboxRow) : Prop :=
  r.state = .inFlight ∧ ∃ expires ∈ r.leaseExpiresAt, expires ≤ current

instance (current : ℤ) : DecidablePred (LeaseExpired current) := fun r =>
  inferInstanceAs (Decidable (r.state = .inFlight ∧ ∃ expires ∈ r.leaseExpiresAt, expires ≤ current))

/-- What the loop over expired leases sets. -/
def expiredRow (current horizon : ℤ) (r : OutboxRow) : OutboxRow :=
  if r.claimMode = some .operatorOneShot ∨ current ≥ horizon then
    { r.unleased with
      state := .deadLetter
      deadLetterReason := some (if r.claimMode = some .operatorOneShot
        then "operator_one_shot_unacknowledged" else "delivery_horizon_exceeded")
      deadLetteredAt := some current }
  else
    { r.unleased with
      state := .retryWait
      nextAttemptAt := current
      lastResultClass := some "expired_lease" }

/-- The body of the loop over expired leases. -/
def recoverLease (current : ℤ) (r : OutboxRow) : Except PipError OutboxRow :=
  if LeaseExpired current r then do
    let horizon ← addTime r.generatedAt deliveryHorizon
    return expiredRow current horizon r
  else return r

/-- What the loop over waiting rows sets. -/
def staleRow (current horizon : ℤ) (r : OutboxRow) : OutboxRow :=
  if current ≥ horizon then
    { r with
      state := .deadLetter
      deadLetterReason := some "delivery_horizon_exceeded"
      deadLetteredAt := some current }
  else r

/-- The body of the loop over waiting rows. -/
def recoverHorizon (current : ℤ) (r : OutboxRow) : Except PipError OutboxRow :=
  if r.Waiting then do
    let horizon ← addTime r.generatedAt deliveryHorizon
    return staleRow current horizon r
  else return r

theorem recoverLease_eq_ok {current : ℤ} {r r' : OutboxRow} : recoverLease current r = .ok r' ↔
    (LeaseExpired current r ∧ ∃ horizon, addTime r.generatedAt deliveryHorizon = .ok horizon ∧
      r' = expiredRow current horizon r) ∨ (¬ LeaseExpired current r ∧ r' = r) := by
  unfold recoverLease
  by_cases h : LeaseExpired current r
  · simp [h, bind_eq_ok, @eq_comm _ _ r']
  · simp [h, @eq_comm _ r']

theorem recoverHorizon_eq_ok {current : ℤ} {r r' : OutboxRow} : recoverHorizon current r = .ok r' ↔
    (r.Waiting ∧ ∃ horizon, addTime r.generatedAt deliveryHorizon = .ok horizon ∧
      r' = staleRow current horizon r) ∨ (¬ r.Waiting ∧ r' = r) := by
  unfold recoverHorizon
  by_cases h : r.Waiting
  · simp [h, bind_eq_ok, @eq_comm _ _ r']
  · simp [h, @eq_comm _ r']

@[simp] theorem expiredRow_frozen (current horizon : ℤ) (r : OutboxRow) :
    (expiredRow current horizon r).toFrozenColumns = r.toFrozenColumns := by
  unfold expiredRow
  split <;> rfl

@[simp] theorem staleRow_frozen (current horizon : ℤ) (r : OutboxRow) :
    (staleRow current horizon r).toFrozenColumns = r.toFrozenColumns := by
  unfold staleRow
  split <;> rfl

theorem recoverLease_frozen {current : ℤ} {r r' : OutboxRow} (h : recoverLease current r = .ok r') :
    r'.toFrozenColumns = r.toFrozenColumns := by
  rcases recoverLease_eq_ok.mp h with ⟨-, horizon, -, rfl⟩ | ⟨-, rfl⟩
  · exact expiredRow_frozen ..
  · rfl

theorem recoverHorizon_frozen {current : ℤ} {r r' : OutboxRow}
    (h : recoverHorizon current r = .ok r') : r'.toFrozenColumns = r.toFrozenColumns := by
  rcases recoverHorizon_eq_ok.mp h with ⟨-, horizon, -, rfl⟩ | ⟨-, rfl⟩
  · exact staleRow_frozen ..
  · rfl

/-- `PipOutbox.recover`. -/
def recover (db : Outbox) (current : ℤ) : Except PipError Outbox := do
  let db ← db.updateEach (recoverLease current) fun _ _ => recoverLease_frozen
  db.updateEach (recoverHorizon current) fun _ _ => recoverHorizon_frozen

/-! ## Claims -/

/-- What `claim_due` and `claim_dead_letter_once` set. -/
def claimedRow (mode : ClaimMode) (owner token : String) (current leaseExpires : ℤ)
    (r : OutboxRow) : OutboxRow :=
  { r with
    state := .inFlight
    attemptCount := r.attemptCount + 1
    leaseOwner := some owner
    leaseExpiresAt := some leaseExpires
    claimToken := some token
    claimMode := some mode
    lastAttemptAt := some current }

/-- The condition of the `SELECT` of `claim_due`. -/
def Due (current minimumGeneratedAt : ℤ) (r : OutboxRow) : Prop :=
  r.Waiting ∧ r.nextAttemptAt ≤ current ∧ r.generatedAt ≥ minimumGeneratedAt

instance (current minimumGeneratedAt : ℤ) : DecidablePred (Due current minimumGeneratedAt) := fun r =>
  inferInstanceAs (Decidable (r.Waiting ∧ r.nextAttemptAt ≤ current ∧ r.generatedAt ≥ minimumGeneratedAt))

/-- `ORDER BY next_attempt_at,enqueued_at`. -/
def DueOrder (r r' : OutboxRow) : Prop :=
  r.nextAttemptAt < r'.nextAttemptAt ∨
    (r.nextAttemptAt = r'.nextAttemptAt ∧ r.enqueuedAt ≤ r'.enqueuedAt)

instance : DecidableRel DueOrder := fun r r' =>
  inferInstanceAs (Decidable (r.nextAttemptAt < r'.nextAttemptAt ∨
    (r.nextAttemptAt = r'.nextAttemptAt ∧ r.enqueuedAt ≤ r'.enqueuedAt)))

/-- The first due row. -/
def firstDue : RowChoice OutboxRow DueOrder :=
  .first DueOrder
    (fun r r' => by unfold DueOrder; omega)
    (fun r r' r'' h h' => by unfold DueOrder at *; omega)

/-- The check of `lease_seconds`. -/
def checkLease (leaseSeconds : ℤ) : Except PipError Unit :=
  raiseIf (¬ (1 ≤ leaseSeconds ∧ leaseSeconds ≤ maxLease))
    (.raised (.valueError "PIP claim lease must be between 1 and 60 seconds"))

/-- `PipOutbox.claim_due`; `token` is the fresh claim token. -/
def claimDue (db : Outbox) (owner : String) (leaseSeconds : ℤ) (token : String)
    (choice : RowChoice OutboxRow DueOrder) (current : ℤ) :
    Except PipError (Option OutboxItem × Outbox) := do
  checkLease leaseSeconds
  let leaseExpires ← addTime current (leaseSeconds * secondMicros)
  let minimumGeneratedAt ← addTime leaseExpires (-deliveryHorizon)
  match choice.fetchone (db.rows.filter (Due current minimumGeneratedAt ·)) with
  | none => return (none, db)
  | some chosen => do
    let isChosen (r : OutboxRow) : Prop := r.outboxId = chosen.outboxId ∧ r.Waiting
    raiseIf (rowCount isChosen db.rows ≠ 1) (.pipExportError "PIP outbox claim lost atomic ownership")
    return (some (claimedRow .automatic owner token current leaseExpires chosen).item,
      db.update isChosen (claimedRow .automatic owner token current leaseExpires) fun _ => rfl)

/-- The check of the operator's identity and reason. -/
def checkOperator (operatorId reason : String) : Except PipError Unit :=
  raiseIf (isBlank operatorId ∨ isBlank reason)
    (.raised (.valueError "operator identity and reason are required"))

/-- `PipOutbox.claim_dead_letter_once`; `token` and `auditId` are fresh. -/
def claimDeadLetterOnce (db : Outbox) (eventId owner operatorId reason : String) (leaseSeconds : ℤ)
    (token auditId : String) (choice : RowChoice OutboxRow fun _ _ => True) (current : ℤ) :
    Except PipError (OutboxItem × Outbox) := do
  checkOperator operatorId reason
  checkLease leaseSeconds
  let leaseExpires ← addTime current (leaseSeconds * secondMicros)
  let isDead (r : OutboxRow) : Prop := r.eventId = eventId ∧ r.state = .deadLetter
  match choice.fetchone (db.rows.filter (isDead ·)) with
  | none => throw (.pipExportError "requested PIP dead letter does not exist")
  | some chosen => do
    let db ← db.insertAudit ⟨auditId, eventId, operatorId, "retry_one_shot", reason, current⟩
    let isChosen (r : OutboxRow) : Prop := r.outboxId = chosen.outboxId ∧ r.state = .deadLetter
    return ((claimedRow .operatorOneShot owner token current leaseExpires chosen).item,
      db.update isChosen (claimedRow .operatorOneShot owner token current leaseExpires) fun _ => rfl)

/-! ## `operator_dead_letter` -/

/-- `PipOutbox.operator_dead_letter`; `auditId` is fresh. -/
def operatorDeadLetter (db : Outbox) (eventId operatorId reason auditId : String) (current : ℤ) :
    Except PipError (Bool × Outbox) := do
  checkOperator operatorId reason
  let isWaiting (r : OutboxRow) : Prop := r.eventId = eventId ∧ r.Waiting
  let updated := db.update isWaiting (fun r =>
    { r with
      state := .deadLetter
      deadLetterReason := some reason
      deadLetteredAt := some current }) fun _ => rfl
  if rowCount isWaiting db.rows ≠ 1 then return (false, updated)
  else do
    let updated ← updated.insertAudit ⟨auditId, eventId, operatorId, "dead_letter", reason, current⟩
    return (true, updated)

/-! ## `_finish` -/

/-- The condition of the `UPDATE` of `_finish`. -/
def Held (item : OutboxItem) (token : String) (current : ℤ) (r : OutboxRow) : Prop :=
  r.outboxId = item.outboxId ∧ r.state = .inFlight ∧ r.claimToken = some token ∧
    ∃ expires ∈ r.leaseExpiresAt, expires > current

instance (item : OutboxItem) (token : String) (current : ℤ) : DecidablePred (Held item token current) :=
  fun r => inferInstanceAs (Decidable (r.outboxId = item.outboxId ∧ r.state = .inFlight ∧
    r.claimToken = some token ∧ ∃ expires ∈ r.leaseExpiresAt, expires > current))

/-- What a worker reports of a delivery. -/
structure Outcome where
  state : OutboxState
  resultClass : String
  httpStatus : Option ℤ
  receiptId : Option String
  nextAttemptAt : Option ℤ
  deadLetterReason : Option String
deriving DecidableEq

/-- The outcome as `_finish` records it: an item that an operator replayed does not wait again. -/
def Outcome.recorded (o : Outcome) (item : OutboxItem) : Outcome :=
  if item.claimMode = some .operatorOneShot ∧ o.state = .retryWait then
    { o with
      state := .deadLetter
      deadLetterReason :=
        match o.deadLetterReason with
        | some reason => if reason = "" then some "operator_one_shot_unacknowledged" else some reason
        | none => some "operator_one_shot_unacknowledged" }
  else o

/-- The columns that `_finish` sets. -/
def finishedRow (o : Outcome) (current : ℤ) (r : OutboxRow) : OutboxRow :=
  { r.unleased with
    state := o.state
    lastResultClass := some o.resultClass
    lastHttpStatus := o.httpStatus
    receiptId := o.receiptId.or r.receiptId
    acknowledgedAt := if o.state = .acknowledged then some current else r.acknowledgedAt
    nextAttemptAt := o.nextAttemptAt.getD r.nextAttemptAt
    deadLetterReason := o.deadLetterReason.or r.deadLetterReason
    deadLetteredAt := if o.state = .deadLetter then some current else r.deadLetteredAt }

/-- `PipOutbox._finish`. -/
def finish (db : Outbox) (item : OutboxItem) (o : Outcome) (current : ℤ) :
    Except PipError (Bool × Outbox) :=
  match item.claimToken, item.leaseExpiresAt with
  | some token, some leaseExpiresAt =>
    if current ≥ leaseExpiresAt then return (false, db)
    else do
      let o := o.recorded item
      raiseIf (o.state = .retryWait ∧ o.nextAttemptAt = none)
        (.raised (.valueError "retry_wait requires next_attempt_at"))
      return (rowCount (Held item token current) db.rows = 1,
        db.update (Held item token current) (finishedRow o current) fun _ => rfl)
  | _, _ => throw (.pipExportError "cannot finish an unclaimed PIP outbox item")

/-- `PipOutbox.acknowledge`. -/
def acknowledge (db : Outbox) (item : OutboxItem) (receiptId resultClass : String)
    (httpStatus : Option ℤ) (current : ℤ) : Except PipError (Bool × Outbox) :=
  finish db item
    { state := .acknowledged, resultClass, httpStatus, receiptId := some receiptId,
      nextAttemptAt := none, deadLetterReason := none } current

/-- `PipOutbox.retry`. -/
def retry (db : Outbox) (item : OutboxItem) (nextAttemptAt : ℤ) (resultClass : String)
    (httpStatus : Option ℤ) (current : ℤ) : Except PipError (Bool × Outbox) :=
  finish db item
    { state := .retryWait, resultClass, httpStatus, receiptId := none,
      nextAttemptAt := some nextAttemptAt, deadLetterReason := none } current

/-- `PipOutbox.dead_letter`. -/
def deadLetter (db : Outbox) (item : OutboxItem) (reason resultClass : String)
    (httpStatus : Option ℤ) (current : ℤ) : Except PipError (Bool × Outbox) :=
  finish db item
    { state := .deadLetter, resultClass, httpStatus, receiptId := none, nextAttemptAt := none,
      deadLetterReason := some reason } current

end WeatherBot.Pip
