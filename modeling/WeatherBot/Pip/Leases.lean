import WeatherBot.Pip.Outbox

/-!
# Workers on an outbox

Any number of workers run the transactions of `PipOutbox` on one outbox. A `World`
is the outbox, the last clock value, and what the workers were given: the items and
the claims.

* `RowChange`: all that a transaction can do to a row.
* `World.Inv`, `Step.inv`: the invariant and the step lemma.
* `Reachable.safe`: **leases are exclusive, rows keep what they must keep, and no
  replayed item waits again, in every reachable world.**
-/

namespace WeatherBot.Pip

open WeatherBot.Common
open WeatherBot.Domain

/-! ## The transition system -/

/-- A claim that a worker was given. -/
structure Claim where
  outboxId : String
  token : String
  mode : ClaimMode
  claimedAt : ℤ
  leaseExpiresAt : ℤ
  /-- When a finishing transaction of this claim changed the row. -/
  finishedAt : Option ℤ
deriving DecidableEq

namespace Claim

/-- The claim of an item that a claiming transaction returned. -/
def ofItem (item : OutboxItem) (now : ℤ) : Option Claim := do
  let token ← item.claimToken
  let leaseExpiresAt ← item.leaseExpiresAt
  let mode ← item.claimMode
  return { outboxId := item.outboxId, token, mode, claimedAt := now, leaseExpiresAt, finishedAt := none }

/-- The claim is live from when it is made until it is finished or its lease expires. -/
def LiveAt (c : Claim) (t : ℤ) : Prop :=
  c.claimedAt ≤ t ∧ t < c.leaseExpiresAt ∧ ∀ finished ∈ c.finishedAt, t < finished

/-- The claim is over at `t` and later. -/
def OverAt (c : Claim) (t : ℤ) : Prop :=
  c.leaseExpiresAt ≤ t ∨ ∃ finished ∈ c.finishedAt, finished ≤ t

/-- Record that the claim of an item was finished. -/
def finish (item : OutboxItem) (now : ℤ) (c : Claim) : Claim :=
  if item.claimToken = some c.token then { c with finishedAt := some now } else c

end Claim

/-- A transaction, with the values that it draws. -/
inductive Operation where
  | enqueue (frozen : FrozenEnvelope) (outboxId : String)
  | recover
  | claimDue (owner : String) (leaseSeconds : ℤ) (token : String)
      (choice : RowChoice OutboxRow DueOrder)
  | claimDeadLetterOnce (eventId owner operatorId reason : String) (leaseSeconds : ℤ)
      (token auditId : String) (choice : RowChoice OutboxRow fun _ _ => True)
  | operatorDeadLetter (eventId operatorId reason auditId : String)
  | acknowledge (item : OutboxItem) (receiptId resultClass : String) (httpStatus : Option ℤ)
  | retry (item : OutboxItem) (nextAttemptAt : ℤ) (resultClass : String) (httpStatus : Option ℤ)
  | deadLetter (item : OutboxItem) (reason resultClass : String) (httpStatus : Option ℤ)

/-- What a transaction returns. -/
inductive Reply where
  | nothing
  | item (item : OutboxItem)
  | flag (changed : Bool)

/-- The items of a reply. -/
def Reply.items : Reply → List OutboxItem
  | .item i => [i]
  | _ => []

namespace Operation

/-- Run a transaction at a clock value. -/
def run (db : Outbox) (now : ℤ) : Operation → Except PipError (Reply × Outbox)
  | .enqueue frozen outboxId => do
    let (item, db) ← Pip.enqueue db frozen outboxId now
    return (.item item, db)
  | .recover => do
    let db ← Pip.recover db now
    return (.nothing, db)
  | .claimDue owner leaseSeconds token choice => do
    let (item, db) ← Pip.claimDue db owner leaseSeconds token choice now
    return (match item with | some item => .item item | none => .nothing, db)
  | .claimDeadLetterOnce eventId owner operatorId reason leaseSeconds token auditId choice => do
    let (item, db) ← Pip.claimDeadLetterOnce db eventId owner operatorId reason leaseSeconds token
      auditId choice now
    return (.item item, db)
  | .operatorDeadLetter eventId operatorId reason auditId => do
    let (changed, db) ← Pip.operatorDeadLetter db eventId operatorId reason auditId now
    return (.flag changed, db)
  | .acknowledge item receiptId resultClass httpStatus => do
    let (changed, db) ← Pip.acknowledge db item receiptId resultClass httpStatus now
    return (.flag changed, db)
  | .retry item nextAttemptAt resultClass httpStatus => do
    let (changed, db) ← Pip.retry db item nextAttemptAt resultClass httpStatus now
    return (.flag changed, db)
  | .deadLetter item reason resultClass httpStatus => do
    let (changed, db) ← Pip.deadLetter db item reason resultClass httpStatus now
    return (.flag changed, db)

/-- The token that a claiming transaction draws. -/
def token? : Operation → Option String
  | .claimDue _ _ token _ => some token
  | .claimDeadLetterOnce _ _ _ _ _ token _ _ => some token
  | _ => none

/-- The item that a finishing transaction is given. -/
def item? : Operation → Option OutboxItem
  | .acknowledge item _ _ _ => some item
  | .retry item _ _ _ => some item
  | .deadLetter item _ _ _ => some item
  | _ => none

end Operation

/-- The outbox and what the workers on it were given, the newest first. -/
structure World where
  outbox : Outbox
  clock : ℤ
  items : List OutboxItem
  claims : List Claim

namespace World

/-- An empty outbox. -/
def start (clock : ℤ) : World := ⟨.empty, clock, [], []⟩

/-- The claims after a transaction that returned. -/
def claimsAfter (claims : List Claim) (op : Operation) (now : ℤ) (reply : Reply) : List Claim :=
  match op.token?, op.item?, reply with
  | some _, _, .item item => (Claim.ofItem item now).toList ++ claims
  | _, some item, .flag true => claims.map (Claim.finish item now)
  | _, _, _ => claims

/-- The world after a transaction. One that raises leaves the outbox as it was. -/
def after (w : World) (op : Operation) (now : ℤ) : World :=
  match op.run w.outbox now with
  | .error _ => { w with clock := now }
  | .ok (reply, db) => {
      outbox := db
      clock := now
      items := reply.items ++ w.items
      claims := claimsAfter w.claims op now reply }

/-- A claim token is fresh, and a finished item is one that some transaction returned. -/
def Admits (w : World) (op : Operation) : Prop :=
  (∀ token ∈ op.token?, token ∉ w.claims.map Claim.token) ∧ ∀ item ∈ op.item?, item ∈ w.items

end World

/-- Some worker runs a transaction. The clock does not go back. -/
inductive Step (w : World) : World → Prop where
  | run (op : Operation) (now : ℤ) (hclock : w.clock ≤ now) (hop : w.Admits op) :
      Step w (w.after op now)

/-- A world that workers can bring about from an empty outbox. -/
def Reachable (w : World) : Prop := ∃ clock, Relation.ReflTransGen Step (.start clock) w

/-! ## What must hold -/

/-- What holds of a world. -/
structure World.Safe (w : World) : Prop where
  /-- Lease owner, token and expiry are set iff the row is in flight. -/
  lease : ∀ r ∈ w.outbox.rows, r.LeaseColumns
  /-- An acknowledged row carries a receipt. -/
  receipt : ∀ r ∈ w.outbox.rows, r.state = .acknowledged → r.receiptId.isSome
  /-- An automatic lease ends within the delivery horizon. -/
  horizon : ∀ r ∈ w.outbox.rows, r.claimMode = some .automatic →
    ∀ expires ∈ r.leaseExpiresAt, expires ≤ r.generatedAt + deliveryHorizon
  /-- Two claims of one row are never live at one time. -/
  exclusive : w.claims.Pairwise fun c c' => c.outboxId = c'.outboxId → ∀ t, ¬ (c.LiveAt t ∧ c'.LiveAt t)

/-- What a later world keeps. -/
structure World.Keeps (w w' : World) : Prop where
  /-- An acknowledged row is not changed. -/
  acknowledged : ∀ r ∈ w.outbox.rows, r.state = .acknowledged → r ∈ w'.outbox.rows
  /-- The frozen columns are not changed, and the attempt count does not decrease. -/
  frozen : ∀ r ∈ w.outbox.rows, ∃ r' ∈ w'.outbox.rows,
    r'.toFrozenColumns = r.toFrozenColumns ∧ r.attemptCount ≤ r'.attemptCount

/-- What holds of a transaction. -/
structure World.Transacts (w : World) (op : Operation) (now : ℤ) : Prop where
  /-- Finishing with a stale token, or after the lease expired, changes nothing. -/
  stale : ∀ item ∈ op.item?,
    (∀ r ∈ w.outbox.rows, r.outboxId = item.outboxId → r.claimToken ≠ item.claimToken) ∨
      (∀ expires ∈ item.leaseExpiresAt, expires ≤ now) →
    (w.after op now).outbox = w.outbox
  /-- After `recover`, no waiting row is past its horizon and no lease is expired. -/
  recovered : op = .recover → (op.run w.outbox now).isOk = true →
    ∀ r ∈ (w.after op now).outbox.rows,
      (r.Waiting → now < r.generatedAt + deliveryHorizon) ∧ ¬ LeaseExpired now r
  /-- A row that an operator replays does not come to wait again. -/
  oneShot : ∀ r ∈ w.outbox.rows, r.claimMode = some .operatorOneShot →
    ∀ r' ∈ (w.after op now).outbox.rows, r'.outboxId = r.outboxId → r'.state ≠ .retryWait

/-! ## What a transaction does to a row -/

/-- What a transaction at `now` that neither claims nor finishes can do to a row. -/
inductive QuietChange (now : ℤ) (r : OutboxRow) : OutboxRow → Prop where
  | kept : QuietChange now r r
  | expired (horizon : ℤ) (h : LeaseExpired now r) : QuietChange now r (expiredRow now horizon r)
  | stale (horizon : ℤ) (h : r.Waiting) : QuietChange now r (staleRow now horizon r)
  | dropped (reason : String) (h : r.Waiting) : QuietChange now r
      { r with
        state := .deadLetter
        deadLetterReason := some reason
        deadLetteredAt := some now }

/-- A row that a worker may be given, with the mode and the end of its lease. -/
def Claimable (mode : ClaimMode) (expires : ℤ) (r : OutboxRow) : Prop :=
  match mode with
  | .automatic => r.Waiting ∧ expires ≤ r.generatedAt + deliveryHorizon
  | .operatorOneShot => r.state = .deadLetter

/-- An outcome that is recorded for an item. -/
def Outcome.Records (o : Outcome) (item : OutboxItem) : Prop :=
  (o.state = .acknowledged ∧ o.receiptId.isSome) ∨
    (o.state = .retryWait ∧ item.claimMode ≠ some .operatorOneShot) ∨ o.state = .deadLetter

/-- All that a transaction at `now` can do to a row. -/
inductive RowChange (now : ℤ) (r : OutboxRow) : OutboxRow → Prop where
  | quiet {r' : OutboxRow} (h : QuietChange now r r') : RowChange now r r'
  | claimed (mode : ClaimMode) (owner token : String) (expires : ℤ) (h : Claimable mode expires r) :
      RowChange now r (claimedRow mode owner token now expires r)
  | finished (item : OutboxItem) (token : String) (htoken : item.claimToken = some token)
      (o : Outcome) (h : Held item token now r) (ho : o.Records item) :
      RowChange now r (finishedRow o now r)

section RowChange

variable {now : ℤ} {r r' : OutboxRow}

theorem OutboxRow.Waiting.not_inFlight (h : r.Waiting) : r.state ≠ .inFlight := by
  rcases h with h | h <;> simp [h]

theorem OutboxRow.Waiting.not_acknowledged (h : r.Waiting) : r.state ≠ .acknowledged := by
  rcases h with h | h <;> simp [h]

/-- A row that a worker may be given is nobody's. -/
theorem Claimable.not_inFlight {mode : ClaimMode} {expires : ℤ} (h : Claimable mode expires r) :
    r.state ≠ .inFlight := by
  cases mode with
  | automatic => exact h.1.not_inFlight
  | operatorOneShot =>
    rw [show r.state = .deadLetter from h]
    decide

theorem Claimable.not_acknowledged {mode : ClaimMode} {expires : ℤ} (h : Claimable mode expires r) :
    r.state ≠ .acknowledged := by
  cases mode with
  | automatic => exact h.1.not_acknowledged
  | operatorOneShot =>
    rw [show r.state = .deadLetter from h]
    decide

theorem QuietChange.frozen (h : QuietChange now r r') : r'.toFrozenColumns = r.toFrozenColumns := by
  cases h with
  | kept => rfl
  | expired horizon h => exact expiredRow_frozen ..
  | stale horizon h => exact staleRow_frozen ..
  | dropped reason h => rfl

theorem RowChange.frozen (h : RowChange now r r') : r'.toFrozenColumns = r.toFrozenColumns := by
  cases h with
  | quiet h => exact h.frozen
  | claimed mode owner token expires h => rfl
  | finished item token htoken o h ho => rfl

theorem QuietChange.attemptCount (h : QuietChange now r r') : r'.attemptCount = r.attemptCount := by
  cases h with
  | kept => rfl
  | expired horizon h => unfold expiredRow; split <;> rfl
  | stale horizon h => unfold staleRow; split <;> rfl
  | dropped reason h => rfl

theorem RowChange.attemptCount_le (h : RowChange now r r') : r.attemptCount ≤ r'.attemptCount := by
  cases h with
  | quiet h => exact h.attemptCount.ge
  | claimed mode owner token expires h => exact Nat.le_succ _
  | finished item token htoken o h ho => exact le_rfl

/-- An acknowledged row is not changed. -/
theorem RowChange.eq_of_acknowledged (h : RowChange now r r') (hr : r.state = .acknowledged) :
    r' = r := by
  cases h with
  | quiet h =>
    cases h with
    | kept => rfl
    | expired horizon h => cases hr.symm.trans h.1
    | stale horizon h => exact absurd hr h.not_acknowledged
    | dropped reason h => exact absurd hr h.not_acknowledged
  | claimed mode owner token expires h => exact absurd hr h.not_acknowledged
  | finished item token htoken o h ho => cases hr.symm.trans h.2.1

end RowChange

/-- The rows after a transaction: the old rows, changed, and new ones. -/
structure RowsChange (R : OutboxRow → OutboxRow → Prop) (now : ℤ) (rows rows' : List OutboxRow) :
    Prop where
  after : ∀ r ∈ rows, ∃ r' ∈ rows', R r r'
  before : ∀ r' ∈ rows', (∃ r ∈ rows, R r r') ∨
    ∃ frozen outboxId, r' = newRow frozen outboxId now ∧ outboxId ∉ rows.map fun r => r.outboxId

namespace RowsChange

variable {R R' : OutboxRow → OutboxRow → Prop} {now : ℤ} {rows rows' : List OutboxRow}

theorem of_kept (hR : ∀ r, R r r) : RowsChange R now rows rows where
  after r hr := ⟨r, hr, hR r⟩
  before r hr := .inl ⟨r, hr, hR r⟩

theorem mono (h : RowsChange R now rows rows') (hR : ∀ r r', R r r' → R' r r') :
    RowsChange R' now rows rows' where
  after r hr := by
    obtain ⟨r', hr', hchange⟩ := h.after r hr
    exact ⟨r', hr', hR r r' hchange⟩
  before r' hr' := by
    rcases h.before r' hr' with ⟨r, hr, hchange⟩ | hnew
    · exact .inl ⟨r, hr, hR r r' hchange⟩
    · exact .inr hnew

theorem of_updateWhere {p : OutboxRow → Prop} [DecidablePred p] {set : OutboxRow → OutboxRow}
    (hR : ∀ r, R r r) (h : ∀ r ∈ rows, p r → R r (set r)) :
    RowsChange R now rows (updateWhere p set rows) where
  after r hr := by
    by_cases hp : p r
    · exact ⟨set r, mem_updateWhere.mpr (.inl ⟨r, hr, hp, rfl⟩), h r hr hp⟩
    · exact ⟨r, mem_updateWhere.mpr (.inr ⟨hr, hp⟩), hR r⟩
  before r' hr' := by
    rcases mem_updateWhere.mp hr' with ⟨r, hr, hp, rfl⟩ | ⟨hr, -⟩
    · exact .inl ⟨r, hr, h r hr hp⟩
    · exact .inl ⟨r', hr, hR r'⟩

/-- One row is changed. -/
theorem of_one (now : ℤ) {r₁ r₂ : OutboxRow} (hR : ∀ r, R r r) (hmem : r₁ ∈ rows) (h : R r₁ r₂)
    (hrows : ∀ r', r' ∈ rows' ↔ r' = r₂ ∨ (r' ∈ rows ∧ r' ≠ r₁)) : RowsChange R now rows rows' where
  after r hr := by
    by_cases heq : r = r₁
    · exact ⟨r₂, (hrows r₂).mpr (.inl rfl), heq ▸ h⟩
    · exact ⟨r, (hrows r).mpr (.inr ⟨hr, heq⟩), hR r⟩
  before r' hr' := by
    rcases (hrows r').mp hr' with rfl | ⟨hr, -⟩
    · exact .inl ⟨r₁, hmem, h⟩
    · exact .inl ⟨r', hr, hR r'⟩

end RowsChange

/-! ## Transactions, one by one -/

section Transactions

variable {db db' : Outbox} {now : ℤ}

/-- `enqueue` adds at most a new row, and returns an item of the outbox. -/
theorem enqueue_changes {frozen : FrozenEnvelope} {outboxId : String} {item : OutboxItem}
    (h : enqueue db frozen outboxId now = .ok (item, db')) :
    RowsChange (QuietChange now) now db.rows db'.rows ∧ ∃ r ∈ db'.rows, item = r.item := by
  unfold enqueue at h
  split at h
  · rename_i row hrow
    obtain ⟨-, h⟩ := raiseIf_bind_eq_ok.mp h
    cases h
    exact ⟨.of_kept fun _ => .kept, row, List.mem_of_find?_eq_some hrow, rfl⟩
  · obtain ⟨db₁, h₁, h⟩ := bind_eq_ok.mp h
    cases h
    unfold insertRow at h₁
    split_ifs at h₁ with hmem
    cases h₁
    refine ⟨⟨fun r hr => ⟨r, List.mem_append_left _ hr, .kept⟩, fun r hr => ?_⟩, _,
      List.mem_append_right _ (List.mem_singleton_self _), rfl⟩
    rcases List.mem_append.mp hr with hr | hr
    · exact .inl ⟨r, hr, .kept⟩
    · exact .inr ⟨frozen, outboxId, List.mem_singleton.mp hr, hmem⟩

/-- The two loops of `recover` on one row. -/
theorem recoverRow {r r₁ r' : OutboxRow} (h₁ : recoverLease now r = .ok r₁)
    (h₂ : recoverHorizon now r₁ = .ok r') : QuietChange now r r' ∧
      (r'.Waiting → now < r'.generatedAt + deliveryHorizon) ∧ ¬ LeaseExpired now r' := by
  rcases recoverLease_eq_ok.mp h₁ with ⟨hexpired, horizon, hhorizon, rfl⟩ | ⟨hexpired, rfl⟩
  · rcases recoverHorizon_eq_ok.mp h₂ with ⟨hwaiting, horizon', hhorizon', rfl⟩ | ⟨hwaiting, rfl⟩
    · -- the lease went back to waiting, so the horizon is not reached
      rw [expiredRow_frozen] at hhorizon'
      cases hhorizon.symm.trans hhorizon'
      have hnow : ¬ now ≥ horizon := by
        intro hge
        rw [expiredRow, if_pos (.inr hge)] at hwaiting
        rcases hwaiting with h | h <;> cases h
      rw [staleRow, if_neg hnow]
      refine ⟨.expired horizon hexpired, fun _ => ?_, fun hlease => ?_⟩
      · rw [expiredRow_frozen, (addTime_eq_ok.mp hhorizon).2]
        exact not_le.mp hnow
      · rcases hwaiting with h | h <;> cases h.symm.trans hlease.1
    · refine ⟨.expired horizon hexpired, fun h => absurd h hwaiting, fun hlease => ?_⟩
      have hstate := hlease.1
      unfold expiredRow at hstate
      split_ifs at hstate
  · rcases recoverHorizon_eq_ok.mp h₂ with ⟨hwaiting, horizon, hhorizon, rfl⟩ | ⟨hwaiting, rfl⟩
    · refine ⟨.stale horizon hwaiting, fun h => ?_, fun hlease => ?_⟩
      · have hnow : ¬ now ≥ horizon := by
          intro hge
          rw [staleRow, if_pos hge] at h
          rcases h with h | h <;> cases h
        rw [staleRow_frozen, (addTime_eq_ok.mp hhorizon).2]
        exact not_le.mp hnow
      · have hstate := hlease.1
        unfold staleRow at hstate
        split_ifs at hstate
        rcases hwaiting with h | h <;> cases h.symm.trans hstate
    · exact ⟨.kept, fun h => absurd h hwaiting, hexpired⟩

theorem recover_changes (h : recover db now = .ok db') : RowsChange (QuietChange now) now db.rows db'.rows ∧
    ∀ r ∈ db'.rows, (r.Waiting → now < r.generatedAt + deliveryHorizon) ∧ ¬ LeaseExpired now r := by
  obtain ⟨db₁, h₁, h₂⟩ := bind_eq_ok.mp h
  replace h₁ := (Outbox.updateEach_eq_ok.mp h₁).1
  replace h₂ := (Outbox.updateEach_eq_ok.mp h₂).1
  have hbefore : ∀ r' ∈ db'.rows, ∃ r ∈ db.rows, ∃ r₁, recoverLease now r = .ok r₁ ∧
      recoverHorizon now r₁ = .ok r' := by
    intro r' hr'
    obtain ⟨r₁, hr₁, hstep₂⟩ := mem_of_mapM_eq_ok h₂ hr'
    obtain ⟨r, hr, hstep₁⟩ := mem_of_mapM_eq_ok h₁ hr₁
    exact ⟨r, hr, r₁, hstep₁, hstep₂⟩
  refine ⟨⟨fun r hr => ?_, fun r' hr' => ?_⟩, fun r' hr' => ?_⟩
  · obtain ⟨r₁, hr₁, hstep₁⟩ := exists_of_mapM_eq_ok h₁ hr
    obtain ⟨r', hr', hstep₂⟩ := exists_of_mapM_eq_ok h₂ hr₁
    exact ⟨r', hr', (recoverRow hstep₁ hstep₂).1⟩
  · obtain ⟨r, hr, r₁, hstep₁, hstep₂⟩ := hbefore r' hr'
    exact .inl ⟨r, hr, (recoverRow hstep₁ hstep₂).1⟩
  · obtain ⟨r, hr, r₁, hstep₁, hstep₂⟩ := hbefore r' hr'
    exact (recoverRow hstep₁ hstep₂).2

theorem insertAudit_rows {row : AuditRow} (h : db.insertAudit row = .ok db') : db'.rows = db.rows := by
  unfold Outbox.insertAudit at h
  split_ifs at h
  cases h
  rfl

theorem operatorDeadLetter_changes {eventId operatorId reason auditId : String} {changed : Bool}
    (h : operatorDeadLetter db eventId operatorId reason auditId now = .ok (changed, db')) :
    RowsChange (QuietChange now) now db.rows db'.rows := by
  obtain ⟨-, h⟩ := check_bind_eq_ok.mp h
  have hrows : RowsChange (QuietChange now) now db.rows (updateWhere (fun r => r.eventId = eventId ∧ r.Waiting) (fun r =>
      { r with
        state := .deadLetter
        deadLetterReason := some reason
        deadLetteredAt := some now }) db.rows) :=
    .of_updateWhere (fun _ => .kept) fun r _ hr => .dropped reason hr.2
  dsimp only at h
  split_ifs at h
  · cases h
    exact hrows
  · obtain ⟨db₁, h₁, h⟩ := bind_eq_ok.mp h
    cases h
    rw [insertAudit_rows h₁]
    exact hrows

/-- Rows with one `outbox_id` are one row. -/
theorem Outbox.eq_of_outboxId {r r' : OutboxRow} (hr : r ∈ db.rows) (hr' : r' ∈ db.rows)
    (h : r.outboxId = r'.outboxId) : r = r' :=
  eq_of_key db.outboxIds hr hr' h

theorem Outbox.update_eq_self {p : OutboxRow → Prop} [DecidablePred p] {set : OutboxRow → OutboxRow}
    {hset : ∀ r, (set r).toFrozenColumns = r.toFrozenColumns} (h : ∀ r ∈ db.rows, ¬ p r) :
    db.update p set hset = db := by
  have hrows := updateWhere_eq_self set h
  cases db
  unfold Outbox.update
  congr 1

theorem claimDue_none {owner token : String} {leaseSeconds : ℤ} {choice : RowChoice OutboxRow DueOrder}
    (h : claimDue db owner leaseSeconds token choice now = .ok (none, db')) : db' = db := by
  obtain ⟨-, h⟩ := check_bind_eq_ok.mp h
  obtain ⟨expires, -, h⟩ := bind_eq_ok.mp h
  obtain ⟨minimum, -, h⟩ := bind_eq_ok.mp h
  dsimp only at h
  split at h
  · cases h
    rfl
  · obtain ⟨-, h⟩ := raiseIf_bind_eq_ok.mp h
    cases h

/-- A claiming transaction gave a worker a row. -/
structure Claims (db db' : Outbox) (now : ℤ) (mode : ClaimMode) (token : String) (item : OutboxItem)
    (r : OutboxRow) (owner : String) (expires : ℤ) : Prop where
  mem : r ∈ db.rows
  claimable : Claimable mode expires r
  item_eq : item = (claimedRow mode owner token now expires r).item
  rows : ∀ r', r' ∈ db'.rows ↔
    r' = claimedRow mode owner token now expires r ∨ (r' ∈ db.rows ∧ r' ≠ r)

/-- An update of the chosen row only. -/
theorem mem_updateWhere_chosen {chosen : OutboxRow} (hmem : chosen ∈ db.rows)
    {p : OutboxRow → Prop} [DecidablePred p] (hp : p chosen)
    (hid : ∀ r ∈ db.rows, p r → r.outboxId = chosen.outboxId) (set : OutboxRow → OutboxRow)
    (r' : OutboxRow) :
    r' ∈ updateWhere p set db.rows ↔ r' = set chosen ∨ (r' ∈ db.rows ∧ r' ≠ chosen) := by
  have hiff : ∀ r ∈ db.rows, p r ↔ r = chosen := by
    intro r hr
    constructor
    · exact fun h => Outbox.eq_of_outboxId hr hmem (hid r hr h)
    · rintro rfl
      exact hp
  rw [mem_updateWhere]
  constructor
  · rintro (⟨r, hr, h, rfl⟩ | ⟨hr, h⟩)
    · exact .inl (by rw [(hiff r hr).mp h])
    · exact .inr ⟨hr, fun heq => h ((hiff r' hr).mpr heq)⟩
  · rintro (rfl | ⟨hr, h⟩)
    · exact .inl ⟨chosen, hmem, hp, rfl⟩
    · exact .inr ⟨hr, fun h' => h ((hiff r' hr).mp h')⟩

theorem claimDue_claims {owner token : String} {leaseSeconds : ℤ}
    {choice : RowChoice OutboxRow DueOrder} {item : OutboxItem}
    (h : claimDue db owner leaseSeconds token choice now = .ok (some item, db')) :
    ∃ r expires, Claims db db' now .automatic token item r owner expires := by
  obtain ⟨-, h⟩ := check_bind_eq_ok.mp h
  obtain ⟨expires, -, h⟩ := bind_eq_ok.mp h
  obtain ⟨minimum, hminimum, h⟩ := bind_eq_ok.mp h
  dsimp only at h
  split at h
  · cases h
  · rename_i chosen hchosen
    obtain ⟨-, h⟩ := raiseIf_bind_eq_ok.mp h
    cases h
    obtain ⟨hmem, hdue⟩ := List.mem_filter.mp (choice.mem hchosen)
    obtain ⟨hwaiting, -, hgenerated⟩ : Due now minimum chosen := of_decide_eq_true hdue
    have hmin := (addTime_eq_ok.mp hminimum).2
    exact ⟨chosen, expires, hmem, ⟨hwaiting, by omega⟩, rfl,
      mem_updateWhere_chosen hmem ⟨rfl, hwaiting⟩ (fun _ _ h => h.1) _⟩

theorem claimDeadLetterOnce_claims {eventId owner operatorId reason token auditId : String}
    {leaseSeconds : ℤ} {choice : RowChoice OutboxRow fun _ _ => True} {item : OutboxItem}
    (h : claimDeadLetterOnce db eventId owner operatorId reason leaseSeconds token auditId choice now =
      .ok (item, db')) :
    ∃ r expires, Claims db db' now .operatorOneShot token item r owner expires := by
  obtain ⟨-, h⟩ := check_bind_eq_ok.mp h
  obtain ⟨-, h⟩ := check_bind_eq_ok.mp h
  obtain ⟨expires, -, h⟩ := bind_eq_ok.mp h
  dsimp only at h
  split at h
  · cases h
  · rename_i chosen hchosen
    obtain ⟨db₁, h₁, h⟩ := bind_eq_ok.mp h
    cases h
    obtain ⟨hmem, hdead⟩ := List.mem_filter.mp (choice.mem hchosen)
    obtain ⟨-, hstate⟩ := of_decide_eq_true hdead
    have hrows := insertAudit_rows h₁
    refine ⟨chosen, expires, hmem, hstate, rfl, ?_⟩
    rw [← hrows] at hmem ⊢
    exact mem_updateWhere_chosen hmem ⟨rfl, hstate⟩ (fun _ _ h => h.1) _

/-- What a finishing transaction does. -/
theorem finish_changes {item : OutboxItem} {o : Outcome} {changed : Bool}
    (h : finish db item o now = .ok (changed, db')) :
    (changed = false ∧ db' = db) ∨
      (changed = true ∧ (∃ expires ∈ item.leaseExpiresAt, now < expires) ∧
        ∃ token r, item.claimToken = some token ∧ r ∈ db.rows ∧ Held item token now r ∧ ∀ r', r' ∈ db'.rows ↔
          r' = finishedRow (o.recorded item) now r ∨ (r' ∈ db.rows ∧ r' ≠ r)) := by
  unfold finish at h
  split at h
  · rename_i token expires htoken hexpires
    split_ifs at h with hnow
    · cases h
      exact .inl ⟨rfl, rfl⟩
    · obtain ⟨-, h⟩ := raiseIf_bind_eq_ok.mp h
      cases h
      by_cases hheld : ∃ r ∈ db.rows, Held item token now r
      · obtain ⟨r, hr, hheld⟩ := hheld
        refine .inr ⟨?_, ?_, token, r, htoken, hr, hheld,
          mem_updateWhere_chosen hr hheld (fun r' _ h => h.1.trans hheld.1.symm) _⟩
        · rw [decide_eq_true_iff]
          exact rowCount_eq_one db.outboxIds hr hheld fun r' _ h => h.1.trans hheld.1.symm
        · exact ⟨expires, hexpires, not_le.mp hnow⟩
      · simp only [not_exists, not_and] at hheld
        refine .inl ⟨?_, Outbox.update_eq_self hheld⟩
        rw [rowCount_eq_zero.mpr hheld]
        rfl
  · cases h

end Transactions

/-! ## The invariant -/

/-- The row is leased to this claim. -/
structure Claim.Leases (c : Claim) (r : OutboxRow) : Prop where
  outboxId : r.outboxId = c.outboxId
  token : r.claimToken = some c.token
  expires : r.leaseExpiresAt = some c.leaseExpiresAt
  mode : r.claimMode = some c.mode
  unfinished : c.finishedAt = none

/-- What holds of a row, given the claims so far. -/
structure RowInv (claims : List Claim) (clock : ℤ) (r : OutboxRow) : Prop where
  lease : r.LeaseColumns
  receipt : r.state = .acknowledged → r.receiptId.isSome
  attempts : r.state = .inFlight → 1 ≤ r.attemptCount
  /-- The lease of the row is the lease of a claim. -/
  current : ∀ token, r.claimToken = some token → ∃ c ∈ claims, c.token = token ∧ c.Leases r
  /-- Every other claim of the row is over. -/
  past : ∀ c ∈ claims, c.outboxId = r.outboxId → r.claimToken = some c.token ∨ c.OverAt clock
  horizon : ∀ c ∈ claims, c.outboxId = r.outboxId → c.mode = .automatic →
    c.leaseExpiresAt ≤ r.generatedAt + deliveryHorizon

/-- The item is what its claim returned. -/
structure Claim.Gave (c : Claim) (item : OutboxItem) : Prop where
  outboxId : item.outboxId = c.outboxId
  expires : item.leaseExpiresAt = some c.leaseExpiresAt
  mode : item.claimMode = some c.mode
  attempts : 1 ≤ item.attemptCount

/-- The invariant of the transition system. -/
structure World.Inv (w : World) : Prop where
  rows : ∀ r ∈ w.outbox.rows, RowInv w.claims w.clock r
  known : ∀ c ∈ w.claims, ∃ r ∈ w.outbox.rows, r.outboxId = c.outboxId
  tokens : (w.claims.map Claim.token).Nodup
  /-- A claim is made when the earlier claims of its row are over. -/
  serial : w.claims.Pairwise fun later earlier =>
    later.outboxId = earlier.outboxId → earlier.OverAt later.claimedAt
  items : ∀ item ∈ w.items, ∀ token, item.claimToken = some token →
    ∃ c ∈ w.claims, c.token = token ∧ c.Gave item

section RowInv

variable {claims : List Claim} {clock now : ℤ} {r r' : OutboxRow}

theorem Claim.OverAt.mono {c : Claim} (h : c.OverAt clock) (hclock : clock ≤ now) : c.OverAt now := by
  rcases h with h | ⟨finished, hfinished, h⟩
  · exact .inl (h.trans hclock)
  · exact .inr ⟨finished, hfinished, h.trans hclock⟩

/-- A claim that is over is not live. -/
theorem Claim.OverAt.not_live {c : Claim} (h : c.OverAt clock) {t : ℤ} (ht : clock ≤ t) :
    ¬ c.LiveAt t := by
  rintro ⟨-, hexpires, hfinished⟩
  rcases h with h | ⟨finished, hmem, h⟩
  · omega
  · have := hfinished finished hmem
    omega

/-- A row that nobody holds has no claim token. -/
theorem OutboxRow.LeaseColumns.token_eq_none (h : r.LeaseColumns) (hr : r.state ≠ .inFlight) :
    r.claimToken = none := by
  rw [← Option.not_isSome_iff_eq_none, h.token]
  exact hr

/-- An update that clears the lease columns of a row. -/
theorem leaseColumns_of_cleared (hstate : r.state ≠ .inFlight) (howner : r.leaseOwner = none)
    (hexpires : r.leaseExpiresAt = none) (htoken : r.claimToken = none) (hmode : r.claimMode = none) :
    r.LeaseColumns := by
  constructor <;> simp [*]

/-- An update of a row that nobody holds. -/
theorem OutboxRow.LeaseColumns.of_idle (h : r.LeaseColumns) (hr : r.state ≠ .inFlight)
    (hr' : r'.state ≠ .inFlight) (howner : r'.leaseOwner = r.leaseOwner)
    (hexpires : r'.leaseExpiresAt = r.leaseExpiresAt) (htoken : r'.claimToken = r.claimToken)
    (hmode : r'.claimMode = r.claimMode) : r'.LeaseColumns where
  owner := by simpa [howner, hr'] using mt h.owner.mp hr
  expires := by simpa [hexpires, hr'] using mt h.expires.mp hr
  token := by simpa [htoken, hr'] using mt h.token.mp hr
  mode := by simpa [hmode, hr'] using mt h.mode.mp hr

/-- The claims of a row that nobody holds are over. -/
theorem RowInv.over (h : RowInv claims clock r) (hr : r.state ≠ .inFlight) {c : Claim}
    (hc : c ∈ claims) (hid : c.outboxId = r.outboxId) : c.OverAt clock := by
  rcases h.past c hc hid with htoken | hover
  · rw [h.lease.token_eq_none hr] at htoken
    cases htoken
  · exact hover

/-- A change of a row that is nobody's before and after. -/
theorem RowInv.of_idle (h : RowInv claims clock r) (hclock : clock ≤ now) (hr : r.state ≠ .inFlight)
    (hr' : r'.LeaseColumns) (hidle : r'.state ≠ .inFlight)
    (hreceipt : r'.state = .acknowledged → r'.receiptId.isSome)
    (hfrozen : r'.toFrozenColumns = r.toFrozenColumns) : RowInv claims now r' where
  lease := hr'
  receipt := hreceipt
  attempts hstate := absurd hstate hidle
  current token htoken := by
    rw [hr'.token_eq_none hidle] at htoken
    cases htoken
  past c hc hid := .inr ((h.over hr hc (by rwa [hfrozen] at hid)).mono hclock)
  horizon c hc hid hmode := by
    rw [hfrozen] at hid ⊢
    exact h.horizon c hc hid hmode

/-- A transaction that neither claims nor finishes keeps the invariant of a row. -/
theorem RowInv.quiet (htokens : (claims.map Claim.token).Nodup) (h : RowInv claims clock r)
    (hclock : clock ≤ now) (hr : QuietChange now r r') : RowInv claims now r' := by
  cases hr with
  | kept =>
    exact ⟨h.lease, h.receipt, h.attempts, h.current,
      fun c hc hid => (h.past c hc hid).imp_right (Claim.OverAt.mono · hclock), h.horizon⟩
  | expired horizon hexpired =>
    have hcleared : (expiredRow now horizon r).claimToken = none := by
      unfold expiredRow
      split <;> rfl
    refine ⟨?_, ?_, ?_, ?_, ?_, ?_⟩
    · unfold expiredRow
      split
      · exact leaseColumns_of_cleared nofun rfl rfl rfl rfl
      · exact leaseColumns_of_cleared nofun rfl rfl rfl rfl
    · intro hack
      unfold expiredRow at hack
      split_ifs at hack
    · intro hstate
      unfold expiredRow at hstate
      split_ifs at hstate
    · intro token htoken
      rw [hcleared] at htoken
      cases htoken
    · intro c hc hid
      rw [expiredRow_frozen] at hid
      rcases h.past c hc hid with htoken | hover
      · -- the claim of the expired lease
        obtain ⟨c', hc', htoken', hleases⟩ := h.current _ htoken
        cases eq_of_key htokens hc' hc htoken'
        obtain ⟨expires, hexpires, hnow⟩ := hexpired.2
        cases hleases.expires.symm.trans hexpires
        exact .inr (.inl hnow)
      · exact .inr (hover.mono hclock)
    · intro c hc hid hmode
      rw [expiredRow_frozen] at hid ⊢
      exact h.horizon c hc hid hmode
  | stale horizon hwaiting =>
    unfold staleRow
    split
    · exact h.of_idle hclock hwaiting.not_inFlight
        (h.lease.of_idle hwaiting.not_inFlight nofun rfl rfl rfl rfl) nofun nofun rfl
    · exact h.of_idle hclock hwaiting.not_inFlight h.lease hwaiting.not_inFlight h.receipt rfl
  | dropped reason hwaiting =>
    exact h.of_idle hclock hwaiting.not_inFlight
      (h.lease.of_idle hwaiting.not_inFlight nofun rfl rfl rfl rfl) nofun nofun rfl

/-- A new row has no claims. -/
theorem rowInv_newRow {frozen : FrozenEnvelope} {outboxId : String}
    (h : ∀ c ∈ claims, c.outboxId ≠ outboxId) : RowInv claims clock (newRow frozen outboxId now) where
  lease := leaseColumns_of_cleared nofun rfl rfl rfl rfl
  receipt := nofun
  attempts := nofun
  current _ h := by cases h
  past c hc hid := absurd hid (h c hc)
  horizon c hc hid := absurd hid (h c hc)

/-- One more claim, of another row. -/
theorem RowInv.cons (h : RowInv claims clock r) (hclock : clock ≤ now) {c : Claim}
    (hne : c.outboxId ≠ r.outboxId) : RowInv (c :: claims) now r where
  lease := h.lease
  receipt := h.receipt
  attempts := h.attempts
  current token htoken := by
    obtain ⟨c', hc', hleases⟩ := h.current token htoken
    exact ⟨c', List.mem_cons_of_mem _ hc', hleases⟩
  past c' hc' hid := by
    rcases List.mem_cons.mp hc' with rfl | hc'
    · exact absurd hid hne
    · exact (h.past c' hc' hid).imp_right (Claim.OverAt.mono · hclock)
  horizon c' hc' hid := by
    rcases List.mem_cons.mp hc' with rfl | hc'
    · exact absurd hid hne
    · exact h.horizon c' hc' hid

/-- The claim of a row that nobody holds. -/
theorem RowInv.claimed (h : RowInv claims clock r) (hclock : clock ≤ now) {mode : ClaimMode}
    {owner token : String} {expires : ℤ} (hr : Claimable mode expires r) :
    RowInv (⟨r.outboxId, token, mode, now, expires, none⟩ :: claims) now
      (claimedRow mode owner token now expires r) where
  lease := by constructor <;> simp [claimedRow]
  receipt := nofun
  attempts _ := Nat.le_add_left 1 _
  current token' htoken := by
    cases htoken
    exact ⟨_, List.mem_cons_self, rfl, ⟨rfl, rfl, rfl, rfl, rfl⟩⟩
  past c hc hid := by
    rcases List.mem_cons.mp hc with rfl | hc
    · exact .inl rfl
    · exact .inr ((h.over hr.not_inFlight hc hid).mono hclock)
  horizon c hc hid hmode := by
    rcases List.mem_cons.mp hc with rfl | hc
    · cases hmode
      exact hr.2
    · exact h.horizon c hc hid hmode

/-! ### Finished claims -/

@[simp] theorem Claim.finish_outboxId (item : OutboxItem) (now : ℤ) (c : Claim) :
    (c.finish item now).outboxId = c.outboxId := by
  unfold Claim.finish
  split <;> rfl

@[simp] theorem Claim.finish_token (item : OutboxItem) (now : ℤ) (c : Claim) :
    (c.finish item now).token = c.token := by
  unfold Claim.finish
  split <;> rfl

@[simp] theorem Claim.finish_mode (item : OutboxItem) (now : ℤ) (c : Claim) :
    (c.finish item now).mode = c.mode := by
  unfold Claim.finish
  split <;> rfl

@[simp] theorem Claim.finish_claimedAt (item : OutboxItem) (now : ℤ) (c : Claim) :
    (c.finish item now).claimedAt = c.claimedAt := by
  unfold Claim.finish
  split <;> rfl

@[simp] theorem Claim.finish_leaseExpiresAt (item : OutboxItem) (now : ℤ) (c : Claim) :
    (c.finish item now).leaseExpiresAt = c.leaseExpiresAt := by
  unfold Claim.finish
  split <;> rfl

/-- The claim of a finished item is over. -/
theorem Claim.overAt_finish {item : OutboxItem} {c : Claim} (h : item.claimToken = some c.token) :
    (c.finish item now).OverAt now := by
  rw [Claim.finish, if_pos h]
  exact .inr ⟨now, rfl, le_rfl⟩

/-- The claim of another item is not changed. -/
theorem Claim.finish_of_ne {item : OutboxItem} {c : Claim} (h : item.claimToken ≠ some c.token) :
    c.finish item now = c :=
  if_neg h

/-- Finishing an item does not revive a claim. -/
theorem Claim.OverAt.finish {item : OutboxItem} {c : Claim} {t : ℤ} (h : c.OverAt t)
    (hc : item.claimToken = some c.token → c.finishedAt = none) : (c.finish item now).OverAt t := by
  by_cases htoken : item.claimToken = some c.token
  · rcases h with h | ⟨finished, hfinished, -⟩
    · exact .inl (by rwa [Claim.finish_leaseExpiresAt])
    · rw [hc htoken] at hfinished
      cases hfinished
  · rwa [Claim.finish_of_ne htoken]

@[simp] theorem map_token_finish (item : OutboxItem) (now : ℤ) (claims : List Claim) :
    (claims.map (Claim.finish item now)).map Claim.token = claims.map Claim.token := by
  rw [List.map_map]
  exact List.map_congr_left fun c _ => Claim.finish_token item now c

/-- The row whose claim is finished. -/
theorem RowInv.finished (htokens : (claims.map Claim.token).Nodup) (h : RowInv claims clock r)
    (hclock : clock ≤ now) {item : OutboxItem} {token : String} (htoken : item.claimToken = some token)
    (hheld : Held item token now r) {o : Outcome} (ho : o.Records item) :
    RowInv (claims.map (Claim.finish item now)) now (finishedRow o now r) where
  lease := by
    refine leaseColumns_of_cleared ?_ rfl rfl rfl rfl
    rcases ho with ⟨ho, -⟩ | ⟨ho, -⟩ | ho <;> simp [finishedRow, ho]
  receipt hack := by
    rcases ho with ⟨ho, hreceipt⟩ | ⟨ho, -⟩ | ho
    · simp [finishedRow, hreceipt]
    · cases ho.symm.trans hack
    · cases ho.symm.trans hack
  attempts hstate := by
    rcases ho with ⟨ho, -⟩ | ⟨ho, -⟩ | ho <;> cases ho.symm.trans hstate
  current token' htoken' := by cases htoken'
  past c' hc' hid := by
    obtain ⟨c, hc, rfl⟩ := List.mem_map.mp hc'
    rw [Claim.finish_outboxId] at hid
    rcases h.past c hc hid with hcurrent | hover
    · refine .inr (Claim.overAt_finish ?_)
      rw [htoken, ← hheld.2.2.1, hcurrent]
    · refine .inr ((hover.mono hclock).finish fun heq => ?_)
      obtain ⟨c', hc', htoken', hleases⟩ := h.current token hheld.2.2.1
      rw [htoken, Option.some.injEq, ← htoken'] at heq
      rw [← eq_of_key htokens hc' hc heq]
      exact hleases.unfinished
  horizon c' hc' hid hmode := by
    obtain ⟨c, hc, rfl⟩ := List.mem_map.mp hc'
    rw [Claim.finish_outboxId] at hid
    rw [Claim.finish_mode] at hmode
    rw [Claim.finish_leaseExpiresAt]
    exact h.horizon c hc hid hmode

/-- Any other row. -/
theorem RowInv.finished_other (h : RowInv claims clock r) (hclock : clock ≤ now) {item : OutboxItem}
    (hr : ∀ c ∈ claims, c.outboxId = r.outboxId → item.claimToken ≠ some c.token) :
    RowInv (claims.map (Claim.finish item now)) now r where
  lease := h.lease
  receipt := h.receipt
  attempts := h.attempts
  current token htoken := by
    obtain ⟨c, hc, hctoken, hleases⟩ := h.current token htoken
    refine ⟨c, List.mem_map.mpr ⟨c, hc, ?_⟩, hctoken, hleases⟩
    exact Claim.finish_of_ne (hr c hc hleases.outboxId.symm)
  past c' hc' hid := by
    obtain ⟨c, hc, rfl⟩ := List.mem_map.mp hc'
    rw [Claim.finish_outboxId] at hid
    rw [Claim.finish_of_ne (hr c hc hid)]
    exact (h.past c hc hid).imp_right (Claim.OverAt.mono · hclock)
  horizon c' hc' hid hmode := by
    obtain ⟨c, hc, rfl⟩ := List.mem_map.mp hc'
    rw [Claim.finish_outboxId] at hid
    rw [Claim.finish_mode] at hmode
    rw [Claim.finish_leaseExpiresAt]
    exact h.horizon c hc hid hmode

end RowInv

/-! ## The step lemma -/

section Inv

variable {w w' : World} {now : ℤ} {db' : Outbox}

theorem World.inv_start (clock : ℤ) : (World.start clock).Inv where
  rows _ h := absurd h List.not_mem_nil
  known _ h := absurd h List.not_mem_nil
  tokens := List.nodup_nil
  serial := List.Pairwise.nil
  items _ h := absurd h List.not_mem_nil

/-- An item that `_from_row` reads was given by the claim of its row. -/
theorem RowInv.gave {claims : List Claim} {clock : ℤ} {r : OutboxRow} (h : RowInv claims clock r)
    {token : String} (htoken : r.item.claimToken = some token) :
    ∃ c ∈ claims, c.token = token ∧ c.Gave r.item := by
  obtain ⟨c, hc, hctoken, hleases⟩ := h.current token htoken
  refine ⟨c, hc, hctoken, hleases.outboxId, hleases.expires, hleases.mode, h.attempts ?_⟩
  exact h.lease.token.mp (Option.isSome_iff_exists.mpr ⟨token, htoken⟩)

/-- A claim is known as long as its row is there. -/
theorem World.Inv.known_of_changes (h : w.Inv) {R : OutboxRow → OutboxRow → Prop}
    (hR : ∀ r r', R r r' → r'.toFrozenColumns = r.toFrozenColumns)
    (hrows : RowsChange R now w.outbox.rows db'.rows) :
    ∀ c ∈ w.claims, ∃ r ∈ db'.rows, r.outboxId = c.outboxId := by
  intro c hc
  obtain ⟨r, hr, hid⟩ := h.known c hc
  obtain ⟨r', hr', hchange⟩ := hrows.after r hr
  exact ⟨r', hr', by rw [hR r r' hchange, hid]⟩

/-- A transaction that neither claims nor finishes keeps the invariant. -/
theorem World.Inv.quiet (h : w.Inv) (hclock : w.clock ≤ now)
    (hrows : RowsChange (QuietChange now) now w.outbox.rows db'.rows) :
    World.Inv ⟨db', now, w.items, w.claims⟩ where
  rows r' hr' := by
    rcases hrows.before r' hr' with ⟨r, hr, hchange⟩ | ⟨frozen, outboxId, rfl, hnew⟩
    · exact (h.rows r hr).quiet h.tokens hclock hchange
    · refine rowInv_newRow fun c hc hid => hnew ?_
      obtain ⟨r, hr, hrid⟩ := h.known c hc
      exact List.mem_map.mpr ⟨r, hr, hrid.trans hid⟩
  known := h.known_of_changes (fun _ _ hchange => hchange.frozen) hrows
  tokens := h.tokens
  serial := h.serial
  items := h.items

/-- An item that is read from a row. -/
theorem World.Inv.cons_item {outbox : Outbox} {items : List OutboxItem} {claims : List Claim}
    {clock : ℤ} (h : World.Inv ⟨outbox, clock, items, claims⟩) {r : OutboxRow} (hr : r ∈ outbox.rows) :
    World.Inv ⟨outbox, clock, r.item :: items, claims⟩ where
  rows := h.rows
  known := h.known
  tokens := h.tokens
  serial := h.serial
  items item hitem token htoken := by
    rcases List.mem_cons.mp hitem with rfl | hitem
    · exact (h.rows r hr).gave htoken
    · exact h.items item hitem token htoken

theorem Claim.ofItem_claimedRow (mode : ClaimMode) (owner token : String) (now expires : ℤ)
    (r : OutboxRow) : Claim.ofItem (claimedRow mode owner token now expires r).item now =
      some ⟨r.outboxId, token, mode, now, expires, none⟩ := rfl

/-- A claiming transaction keeps the invariant. -/
theorem World.Inv.claimed (h : w.Inv) (hclock : w.clock ≤ now) {mode : ClaimMode} {token owner : String}
    {item : OutboxItem} {r : OutboxRow} {expires : ℤ} (htoken : token ∉ w.claims.map Claim.token)
    (hclaims : Claims w.outbox db' now mode token item r owner expires) :
    World.Inv ⟨db', now, item :: w.items, (Claim.ofItem item now).toList ++ w.claims⟩ := by
  have hclaimed := (hclaims.rows _).mpr (.inl rfl)
  rw [hclaims.item_eq, Claim.ofItem_claimedRow, Option.toList_some, List.singleton_append]
  refine World.Inv.cons_item ⟨?_, ?_, ?_, ?_, ?_⟩ hclaimed
  · intro r' hr'
    rcases (hclaims.rows r').mp hr' with rfl | ⟨hr', hne⟩
    · exact (h.rows r hclaims.mem).claimed hclock hclaims.claimable
    · exact (h.rows r' hr').cons hclock fun hid => hne (Outbox.eq_of_outboxId hr' hclaims.mem hid.symm)
  · intro c hc
    rcases List.mem_cons.mp hc with rfl | hc
    · exact ⟨_, hclaimed, rfl⟩
    · exact h.known_of_changes (fun _ _ hchange => hchange.frozen)
        (RowsChange.of_one (R := RowChange now) now (fun _ => .quiet .kept) hclaims.mem
          (.claimed mode owner token expires hclaims.claimable) hclaims.rows) c hc
  · exact List.nodup_cons.mpr ⟨htoken, h.tokens⟩
  · refine List.pairwise_cons.mpr ⟨fun c hc hid => ?_, h.serial⟩
    exact ((h.rows r hclaims.mem).over hclaims.claimable.not_inFlight hc hid.symm).mono hclock
  · intro item hitem token htoken
    obtain ⟨c, hc, hctoken, hgave⟩ := h.items item hitem token htoken
    exact ⟨c, List.mem_cons_of_mem _ hc, hctoken, hgave⟩

/-- A finishing transaction that changes a row keeps the invariant. -/
theorem World.Inv.finished (h : w.Inv) (hclock : w.clock ≤ now) {item : OutboxItem} {token : String}
    {r : OutboxRow} {o : Outcome} (htoken : item.claimToken = some token) (hr : r ∈ w.outbox.rows)
    (hheld : Held item token now r) (ho : o.Records item)
    (hrows : ∀ r', r' ∈ db'.rows ↔ r' = finishedRow o now r ∨ (r' ∈ w.outbox.rows ∧ r' ≠ r)) :
    World.Inv ⟨db', now, w.items, w.claims.map (Claim.finish item now)⟩ := by
  obtain ⟨c, hc, hctoken, hleases⟩ := (h.rows r hr).current token hheld.2.2.1
  -- the token of the item is the token of one claim, whose row is `r`
  have huniq : ∀ c' ∈ w.claims, item.claimToken = some c'.token → c' = c := by
    intro c' hc' htoken'
    refine eq_of_key h.tokens hc' hc ?_
    rw [htoken, Option.some.injEq] at htoken'
    exact htoken'.symm.trans hctoken.symm
  refine ⟨?_, ?_, ?_, ?_, ?_⟩
  · intro r' hr'
    rcases (hrows r').mp hr' with rfl | ⟨hr', hne⟩
    · exact (h.rows r hr).finished h.tokens hclock htoken hheld ho
    · refine (h.rows r' hr').finished_other hclock fun c' hc' hid htoken' => hne ?_
      rw [huniq c' hc' htoken'] at hid
      exact Outbox.eq_of_outboxId hr' hr (hid.symm.trans hleases.outboxId.symm)
  · intro c' hc'
    obtain ⟨c, hc, rfl⟩ := List.mem_map.mp hc'
    rw [Claim.finish_outboxId]
    exact h.known_of_changes (fun _ _ hchange => hchange.frozen)
      (RowsChange.of_one (R := RowChange now) now (fun _ => .quiet .kept) hr (.finished item token htoken o hheld ho) hrows) c hc
  · rw [map_token_finish]
    exact h.tokens
  · rw [List.pairwise_map]
    refine h.serial.imp_of_mem fun {later earlier} _ hearlier hserial hid => ?_
    rw [Claim.finish_outboxId, Claim.finish_outboxId] at hid
    rw [Claim.finish_claimedAt]
    refine (hserial hid).finish fun htoken' => ?_
    rw [huniq earlier hearlier htoken']
    exact hleases.unfinished
  · intro item' hitem' token' htoken'
    obtain ⟨c', hc', hctoken', hgave⟩ := h.items item' hitem' token' htoken'
    refine ⟨_, List.mem_map_of_mem hc', by rw [Claim.finish_token, hctoken'], ?_⟩
    exact ⟨by rw [Claim.finish_outboxId, hgave.outboxId],
      by rw [Claim.finish_leaseExpiresAt, hgave.expires], by rw [Claim.finish_mode, hgave.mode],
      hgave.attempts⟩

/-- What a transaction that returns does to the world. -/
inductive World.Ran (w : World) (op : Operation) (now : ℤ) : Reply → Outbox → Prop where
  | quiet {reply : Reply} {db' : Outbox}
      (hrows : RowsChange (QuietChange now) now w.outbox.rows db'.rows)
      (hclaims : claimsAfter w.claims op now reply = w.claims)
      (hitem : ∀ item, reply = .item item → ∃ r ∈ db'.rows, item = r.item) : Ran w op now reply db'
  | claimed {db' : Outbox} {mode : ClaimMode} {token owner : String} {item : OutboxItem}
      {r : OutboxRow} {expires : ℤ} (htoken : op.token? = some token)
      (h : Claims w.outbox db' now mode token item r owner expires) : Ran w op now (.item item) db'
  | finished {db' : Outbox} {item : OutboxItem} {token : String} {r : OutboxRow} {o : Outcome}
      (hitem : op.item? = some item) (htoken : item.claimToken = some token)
      (hr : r ∈ w.outbox.rows) (hheld : Held item token now r) (ho : o.Records item)
      (hlease : ∃ expires ∈ item.leaseExpiresAt, now < expires)
      (hrows : ∀ r', r' ∈ db'.rows ↔ r' = finishedRow o now r ∨ (r' ∈ w.outbox.rows ∧ r' ≠ r)) :
      Ran w op now (.flag true) db'

/-- A finishing transaction is `_finish` with an outcome. -/
theorem Operation.run_of_item {op : Operation} {item : OutboxItem} (h : op.item? = some item) :
    op.token? = none ∧ ∃ o : Outcome, (o.recorded item).Records item ∧ ∀ db now,
      op.run db now = finish db item o now >>= fun p => .ok (.flag p.1, p.2) := by
  cases op with
  | acknowledge item' receiptId resultClass httpStatus =>
    cases h
    refine ⟨rfl, _, .inl ?_, fun _ _ => rfl⟩
    rw [Outcome.recorded, if_neg fun hreplay => nomatch hreplay.2]
    exact ⟨rfl, rfl⟩
  | retry item' nextAttemptAt resultClass httpStatus =>
    cases h
    refine ⟨rfl, _, .inr ?_, fun _ _ => rfl⟩
    by_cases hmode : item.claimMode = some .operatorOneShot
    · rw [Outcome.recorded, if_pos ⟨hmode, rfl⟩]
      exact .inr rfl
    · rw [Outcome.recorded, if_neg fun hreplay => hmode hreplay.1]
      exact .inl ⟨rfl, hmode⟩
  | deadLetter item' reason resultClass httpStatus =>
    cases h
    refine ⟨rfl, _, .inr (.inr ?_), fun _ _ => rfl⟩
    rw [Outcome.recorded, if_neg fun hreplay => nomatch hreplay.2]
  | enqueue => cases h
  | recover => cases h
  | claimDue => cases h
  | claimDeadLetterOnce => cases h
  | operatorDeadLetter => cases h

theorem World.claimsAfter_of_token {claims : List Claim} {op : Operation} {token : String}
    (h : op.token? = some token) (now : ℤ) (item : OutboxItem) :
    claimsAfter claims op now (.item item) = (Claim.ofItem item now).toList ++ claims := by
  unfold claimsAfter
  rw [h]

theorem World.claimsAfter_of_item {claims : List Claim} {op : Operation} {item : OutboxItem}
    (h : op.item? = some item) (now : ℤ) (changed : Bool) :
    claimsAfter claims op now (.flag changed) =
      if changed then claims.map (Claim.finish item now) else claims := by
  unfold claimsAfter
  rw [(Operation.run_of_item h).1, h]
  cases changed <;> rfl

theorem World.ran_of_item {op : Operation} {item : OutboxItem} (hitem : op.item? = some item)
    {reply : Reply} (h : op.run w.outbox now = .ok (reply, db')) : w.Ran op now reply db' := by
  obtain ⟨-, o, ho, hrun⟩ := Operation.run_of_item hitem
  rw [hrun] at h
  obtain ⟨⟨changed, db₁⟩, hfinish, h⟩ := bind_eq_ok.mp h
  cases h
  rcases finish_changes hfinish with ⟨rfl, rfl⟩ | ⟨rfl, hlease, token, r, htoken, hr, hheld, hrows⟩
  · exact .quiet (.of_kept fun _ => .kept) (claimsAfter_of_item hitem now false) fun _ h => by cases h
  · exact .finished hitem htoken hr hheld ho hlease hrows

/-- **What each transaction does.** -/
theorem World.ran_of_run {op : Operation} {reply : Reply} (h : op.run w.outbox now = .ok (reply, db')) :
    w.Ran op now reply db' := by
  cases op with
  | enqueue frozen outboxId =>
    obtain ⟨⟨item, db₁⟩, h₁, h⟩ := bind_eq_ok.mp h
    cases h
    obtain ⟨hrows, r, hr, rfl⟩ := enqueue_changes h₁
    refine .quiet hrows rfl fun item hitem => ?_
    cases hitem
    exact ⟨r, hr, rfl⟩
  | recover =>
    obtain ⟨db₁, h₁, h⟩ := bind_eq_ok.mp h
    cases h
    exact .quiet (recover_changes h₁).1 rfl fun _ h => by cases h
  | claimDue owner leaseSeconds token choice =>
    obtain ⟨⟨item, db₁⟩, h₁, h⟩ := bind_eq_ok.mp h
    cases h
    cases item with
    | none =>
      cases claimDue_none h₁
      exact .quiet (.of_kept fun _ => .kept) rfl fun _ h => by cases h
    | some item =>
      obtain ⟨r, expires, hclaims⟩ := claimDue_claims h₁
      exact .claimed rfl hclaims
  | claimDeadLetterOnce eventId owner operatorId reason leaseSeconds token auditId choice =>
    obtain ⟨⟨item, db₁⟩, h₁, h⟩ := bind_eq_ok.mp h
    cases h
    obtain ⟨r, expires, hclaims⟩ := claimDeadLetterOnce_claims h₁
    exact .claimed rfl hclaims
  | operatorDeadLetter eventId operatorId reason auditId =>
    obtain ⟨⟨changed, db₁⟩, h₁, h⟩ := bind_eq_ok.mp h
    cases h
    refine .quiet (operatorDeadLetter_changes h₁) ?_ fun _ h => by cases h
    cases changed <;> rfl
  | acknowledge item receiptId resultClass httpStatus => exact ran_of_item rfl h
  | retry item nextAttemptAt resultClass httpStatus => exact ran_of_item rfl h
  | deadLetter item reason resultClass httpStatus => exact ran_of_item rfl h

theorem World.Ran.rowsChange {op : Operation} {reply : Reply} (h : w.Ran op now reply db') :
    RowsChange (RowChange now) now w.outbox.rows db'.rows := by
  cases h with
  | quiet hrows => exact hrows.mono fun _ _ hchange => .quiet hchange
  | claimed htoken hclaims =>
    exact .of_one now (fun _ => .quiet .kept) hclaims.mem (.claimed _ _ _ _ hclaims.claimable) hclaims.rows
  | finished hitem htoken hr hheld ho hlease hrows =>
    exact .of_one now (fun _ => .quiet .kept) hr (.finished _ _ htoken _ hheld ho) hrows

theorem World.after_error {op : Operation} {e : PipError} (h : op.run w.outbox now = .error e) :
    w.after op now = { w with clock := now } := by
  rw [World.after, h]

theorem World.after_ok {op : Operation} {reply : Reply} (h : op.run w.outbox now = .ok (reply, db')) :
    w.after op now = ⟨db', now, reply.items ++ w.items, claimsAfter w.claims op now reply⟩ := by
  rw [World.after, h]

theorem World.clock_after (w : World) (op : Operation) (now : ℤ) : (w.after op now).clock = now := by
  unfold World.after
  split <;> rfl

/-- **Every transaction keeps the invariant.** -/
theorem World.Inv.after (h : w.Inv) (hclock : w.clock ≤ now) {op : Operation} (hop : w.Admits op) :
    (w.after op now).Inv := by
  cases hrun : op.run w.outbox now with
  | error e =>
    rw [after_error hrun]
    exact h.quiet hclock (.of_kept fun _ => .kept)
  | ok p =>
    obtain ⟨reply, db'⟩ := p
    rw [after_ok hrun]
    cases ran_of_run hrun with
    | quiet hrows hclaims hitem =>
      rw [hclaims]
      cases reply with
      | nothing => exact h.quiet hclock hrows
      | item item =>
        obtain ⟨r, hr, rfl⟩ := hitem item rfl
        exact (h.quiet hclock hrows).cons_item hr
      | flag changed => exact h.quiet hclock hrows
    | claimed htoken hclaims =>
      rw [claimsAfter_of_token htoken]
      exact h.claimed hclock (hop.1 _ htoken) hclaims
    | finished hitem htoken hr hheld ho hlease hrows =>
      rw [claimsAfter_of_item hitem]
      exact h.finished hclock htoken hr hheld ho hrows

theorem Reachable.inv (h : Reachable w) : w.Inv := by
  obtain ⟨clock, h⟩ := h
  induction h with
  | refl => exact World.inv_start clock
  | tail _ hstep ih =>
    cases hstep with
    | run op now hclock hop => exact ih.after hclock hop

/-- While the lease of an unfinished claim runs, the row is leased to it. -/
theorem World.Inv.leases (h : w.Inv) (hclock : w.clock ≤ now) {c : Claim} (hc : c ∈ w.claims)
    (hunfinished : c.finishedAt = none) (hnow : now < c.leaseExpiresAt) :
    ∃ r ∈ w.outbox.rows, c.Leases r := by
  obtain ⟨r, hr, hid⟩ := h.known c hc
  have hrow := h.rows r hr
  rcases hrow.past c hc hid.symm with htoken | hexpired | ⟨finished, hfinished, -⟩
  · obtain ⟨c', hc', htoken', hleases⟩ := hrow.current c.token htoken
    cases eq_of_key h.tokens hc' hc htoken'
    exact ⟨r, hr, hleases⟩
  · omega
  · rw [hunfinished] at hfinished
    cases hfinished

/-! ## Safety -/

theorem World.Inv.safe (h : w.Inv) : w.Safe where
  lease r hr := (h.rows r hr).lease
  receipt r hr := (h.rows r hr).receipt
  horizon r hr hmode expires hexpires := by
    have hrow := h.rows r hr
    obtain ⟨token, htoken⟩ := Option.isSome_iff_exists.mp
      (hrow.lease.token.mpr (hrow.lease.mode.mp (by rw [hmode]; rfl)))
    obtain ⟨c, hc, -, hleases⟩ := hrow.current token htoken
    cases hleases.expires.symm.trans hexpires
    exact hrow.horizon c hc hleases.outboxId.symm (by simpa [hleases.mode] using hmode)
  exclusive := h.serial.imp fun {later earlier} hserial hid t hlive =>
    (hserial hid).not_live hlive.1.1 hlive.2

theorem World.keeps_after (w : World) (op : Operation) (now : ℤ) : w.Keeps (w.after op now) := by
  cases hrun : op.run w.outbox now with
  | error e =>
    rw [after_error hrun]
    exact ⟨fun r hr _ => hr, fun r hr => ⟨r, hr, rfl, le_rfl⟩⟩
  | ok p =>
    obtain ⟨reply, db'⟩ := p
    rw [after_ok hrun]
    have hrows := (ran_of_run hrun).rowsChange
    constructor
    · intro r hr hack
      obtain ⟨r', hr', hchange⟩ := hrows.after r hr
      rwa [hchange.eq_of_acknowledged hack] at hr'
    · intro r hr
      obtain ⟨r', hr', hchange⟩ := hrows.after r hr
      exact ⟨r', hr', hchange.frozen, hchange.attemptCount_le⟩

theorem World.Keeps.trans {w₁ w₂ w₃ : World} (h : w₁.Keeps w₂) (h' : w₂.Keeps w₃) : w₁.Keeps w₃ where
  acknowledged r hr hack := h'.acknowledged r (h.acknowledged r hr hack) hack
  frozen r hr := by
    obtain ⟨r₁, hr₁, hfrozen₁, hcount₁⟩ := h.frozen r hr
    obtain ⟨r₂, hr₂, hfrozen₂, hcount₂⟩ := h'.frozen r₁ hr₁
    exact ⟨r₂, hr₂, hfrozen₂.trans hfrozen₁, hcount₁.trans hcount₂⟩

theorem World.keeps_of_steps (h : Relation.ReflTransGen Step w w') : w.Keeps w' := by
  induction h with
  | refl => exact ⟨fun r hr _ => hr, fun r hr => ⟨r, hr, rfl, le_rfl⟩⟩
  | tail _ hstep ih =>
    cases hstep with
    | run op now hclock hop => exact ih.trans (keeps_after _ op now)

/-- A replayed row does not come to wait. -/
theorem World.Inv.not_retryWait (h : w.Inv) {op : Operation} (hop : w.Admits op) {reply : Reply}
    (hran : w.Ran op now reply db') {r r' : OutboxRow} (hr : r ∈ w.outbox.rows)
    (hmode : r.claimMode = some .operatorOneShot) (hr' : r' ∈ db'.rows)
    (hid : r'.outboxId = r.outboxId) : r'.state ≠ .retryWait := by
  have hrow := h.rows r hr
  have hstate : r.state = .inFlight := hrow.lease.mode.mp (by rw [hmode]; rfl)
  have hsame : ∀ r₀ ∈ w.outbox.rows, r₀.outboxId = r.outboxId → r₀ = r :=
    fun r₀ hr₀ heq => Outbox.eq_of_outboxId hr₀ hr heq
  have hdead : OutboxState.deadLetter ≠ .retryWait := nofun
  have hflight : OutboxState.inFlight ≠ .retryWait := nofun
  have hpending : OutboxState.pending ≠ .retryWait := nofun
  cases hran with
  | quiet hrows =>
    rcases hrows.before r' hr' with ⟨r₀, hr₀, hchange⟩ | ⟨frozen, outboxId, rfl, hnew⟩
    · cases hsame r₀ hr₀ (by rw [← hid, hchange.frozen])
      cases hchange with
      | kept => rw [hstate]; decide
      | expired horizon hexpired => rw [expiredRow, if_pos (.inl hmode)]; exact hdead
      | stale horizon hwaiting => exact absurd hstate hwaiting.not_inFlight
      | dropped reason hwaiting => exact hdead
    · exact hpending
  | claimed htoken hclaims =>
    rcases (hclaims.rows r').mp hr' with rfl | ⟨hr', -⟩
    · exact hflight
    · rw [hsame r' hr' hid, hstate]
      decide
  | @finished _ item token r₀ o hitem htoken hr₀ hheld ho hlease hrows =>
    rcases (hrows r').mp hr' with rfl | ⟨hr', -⟩
    · cases hsame r₀ hr₀ hid
      -- the item is the one that the operator's claim returned
      obtain ⟨c, hc, hctoken, hgave⟩ := h.items item (hop.2 item hitem) token htoken
      obtain ⟨c', hc', hctoken', hleases⟩ := hrow.current token hheld.2.2.1
      cases eq_of_key h.tokens hc hc' (hctoken.trans hctoken'.symm)
      have hitemMode : item.claimMode = some .operatorOneShot := by
        rw [hgave.mode, ← hleases.mode, hmode]
      rcases ho with ⟨ho, -⟩ | ⟨-, hne⟩ | ho
      · exact fun hwait => nomatch ho.symm.trans hwait
      · exact absurd hitemMode hne
      · exact fun hwait => nomatch ho.symm.trans hwait
    · rw [hsame r' hr' hid, hstate]
      decide

/-- Only a held claim whose lease has not expired finishes. -/
theorem World.after_stale {op : Operation} {item : OutboxItem} (hitem : op.item? = some item)
    (h : (∀ r ∈ w.outbox.rows, r.outboxId = item.outboxId → r.claimToken ≠ item.claimToken) ∨
      (∀ expires ∈ item.leaseExpiresAt, expires ≤ now)) :
    (w.after op now).outbox = w.outbox := by
  cases hrun : op.run w.outbox now with
  | error e => rw [after_error hrun]
  | ok p =>
    obtain ⟨reply, db'⟩ := p
    rw [after_ok hrun]
    obtain ⟨-, o, -, hfinish⟩ := Operation.run_of_item hitem
    rw [hfinish] at hrun
    obtain ⟨⟨changed, db₁⟩, h₁, hrun⟩ := bind_eq_ok.mp hrun
    cases hrun
    rcases finish_changes h₁ with ⟨-, rfl⟩ | ⟨-, hlease, token, r, htoken, hr, hheld, -⟩
    · rfl
    · rcases h with h | h
      · exact absurd (hheld.2.2.1.trans htoken.symm) (h r hr hheld.1)
      · obtain ⟨expires, hexpires, hnow⟩ := hlease
        exact absurd (h expires hexpires) (not_le.mpr hnow)

theorem World.after_recover (hrun : (Operation.recover.run w.outbox now).isOk = true) :
    ∀ r ∈ (w.after .recover now).outbox.rows,
      (r.Waiting → now < r.generatedAt + deliveryHorizon) ∧ ¬ LeaseExpired now r := by
  cases h : Operation.recover.run w.outbox now with
  | error e =>
    rw [h] at hrun
    cases hrun
  | ok p =>
    rw [after_ok h]
    obtain ⟨db₁, h₁, h⟩ := bind_eq_ok.mp h
    cases h
    exact (recover_changes h₁).2

/-- **The outbox is safe.** In every reachable world leases are exclusive, set on the rows in flight
only and, where automatic, within the horizon; later worlds keep acknowledged rows, frozen columns
and attempts; a stale or expired claim finishes nothing, `recover` leaves nothing overdue, and no
replayed row comes to wait. -/
theorem outbox_safe (h : Reachable w) :
    w.Safe ∧ (∀ w', Relation.ReflTransGen Step w w' → w.Keeps w') ∧
      ∀ op now, w.clock ≤ now → w.Admits op → w.Transacts op now := by
  have hinv := h.inv
  refine ⟨hinv.safe, fun w' hsteps => World.keeps_of_steps hsteps, fun op now hclock hop => ?_⟩
  refine ⟨fun item hitem => World.after_stale hitem, ?_, ?_⟩
  · rintro rfl hrun
    exact World.after_recover hrun
  · intro r hr hmode r' hr' hid
    cases hrun : op.run w.outbox now with
    | error e =>
      rw [World.after_error hrun] at hr'
      have hstate : r.state = .inFlight :=
        (hinv.rows r hr).lease.mode.mp (by rw [hmode]; rfl)
      rw [Outbox.eq_of_outboxId hr' hr hid, hstate]
      decide
    | ok p =>
      obtain ⟨reply, db'⟩ := p
      rw [World.after_ok hrun] at hr'
      exact hinv.not_retryWait hop (World.ran_of_run hrun) hr hmode hr' hid

end Inv

namespace Sample

/-- An instant of March 2026. -/
def march : ℤ := 739677 * dayMicros

def envelope : FrozenEnvelope where
  producerId := "p"
  eventId := "e"
  signalId := "s"
  generatedAt := march
  keyId := "k"
  eventSha256 := "h"
  canonicalEventBytes := [1]
  envelopeBytes := [2]

def enqueuedWorld : World := (World.start march).after (.enqueue envelope "pob_1") march

/-- A worker has claimed the only envelope. -/
def claimedWorld : World := enqueuedWorld.after (.claimDue "w" 60 "t" firstDue) march

theorem reachable_claimedWorld : Reachable claimedWorld := by
  have henqueued : Step (World.start march) enqueuedWorld :=
    .run _ march le_rfl ⟨fun _ h => (Option.not_mem_none _ h).elim, fun _ h => (Option.not_mem_none _ h).elim⟩
  have hclaimed : Step enqueuedWorld claimedWorld := by
    refine .run _ march (World.clock_after ..).le ⟨fun token _ => ?_, fun _ h =>
      (Option.not_mem_none _ h).elim⟩
    rw [enqueuedWorld, World.after]
    split
    · exact List.not_mem_nil
    · exact List.not_mem_nil
  exact ⟨march, .tail (.tail .refl henqueued) hclaimed⟩

end Sample

/-- What holds while a worker has the claim. -/
theorem outbox_safe_claimed :
    Sample.claimedWorld.claims.map Claim.token = ["t"] ∧ Sample.claimedWorld.Safe ∧
      (∀ w', Relation.ReflTransGen Step Sample.claimedWorld w' → Sample.claimedWorld.Keeps w') ∧
      Sample.claimedWorld.Transacts .recover Sample.march := by
  have h := outbox_safe Sample.reachable_claimedWorld
  exact ⟨rfl, h.1, h.2.1, h.2.2 _ _ (World.clock_after ..).le
    ⟨fun _ h => (Option.not_mem_none _ h).elim, fun _ h => (Option.not_mem_none _ h).elim⟩⟩

end WeatherBot.Pip
