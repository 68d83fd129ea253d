import WeatherBot.Persistence.Growth
import WeatherBot.Persistence.RiskCommit

/-!
# The calls of the store as transitions

What a call that returns can do to the tables, whichever call it is and whoever
makes it.

* `Operation.run`: a call, with its arguments and its surroundings.
* `Change`: the transitions of the tables and of the list of events.
* `change_of_returns`: **a call that returns makes one of these transitions**.
* `Operation.atomic_run`: a call that raises makes none.
-/

namespace WeatherBot.Persistence

open WeatherBot.Common
open WeatherBot.Domain
open WeatherBot.Risk

/-! ## Transitions -/

/-- Write one row of `decision_claims`. -/
def Db.setClaim (db : Db) (key : String) (row : ClaimRow) : Db :=
  { db with decisionClaims := db.decisionClaims.insert key row }

/-- Write one row of `adapter_metadata`. -/
def Db.setAdapter (db : Db) (intentId : String) (row : AdapterRow) : Db :=
  { db with adapterMetadata := db.adapterMetadata.insert intentId row }

/-- Write one row of `state_checkpoints`. -/
def Db.setCheckpoint (db : Db) (c : StateCheckpoint) : Db :=
  { db with stateCheckpoints := db.stateCheckpoints.insert c.sequence c.row }

/-- The key of the decision that an intent belongs to. -/
def decisionKeyOf (e : OrderIntentCreated) : String := strip e.intent.decisionId

section

variable (rt : Runtime)

/-- A row of `decision_claims` that is written: a new one, or one over a claim of the same owner. -/
structure ClaimWrite (db : Db) (key : String) (row : ClaimRow) : Prop where
  stripped : Stripped key
  reads : (MetadataText.mk row.metadataJson row.metadataHash).Reads rt
  committed : row.status = .committed ↔ row.intentId ≠ none
  previous : ∀ old ∈ db.decisionClaims.get? key,
    old.status = .claimed ∧ row.ownerId = old.ownerId ∧ row.claimedAt = old.claimedAt

/-- A row of `adapter_metadata` that is written: for a stored intent, and never for another backend. -/
structure AdapterWrite (db : Db) (events : List LedgerEvent) (intentId : String) (row : AdapterRow) :
    Prop where
  backend : Stripped row.backendName
  reads : (MetadataText.mk row.payloadJson row.payloadHash).Reads rt
  intent : ∃ e ∈ intentsOf events, e.intent.intentId = intentId
  previous : ∀ old ∈ db.adapterMetadata.get? intentId,
    row.backendName = old.backendName ∧ row.createdAt = old.createdAt

/-- Nothing changes, or one row of `adapter_metadata` is written. -/
def Attaches (db : Db) (events : List LedgerEvent) (db' : Db) : Prop :=
  db' = db ∨ ∃ intentId row, AdapterWrite rt db events intentId row ∧ db' = db.setAdapter intentId row

/-- The transitions of the tables, with the events that are appended. `Admits` says which batches a
committed intent may come in. -/
inductive Change (Admits : List LedgerEvent → OrderIntentCreated → List LedgerEvent → Prop) (db : Db)
    (events : List LedgerEvent) : Db → List LedgerEvent → Prop where
  | append {db' new batch} (hextends : Extends rt db db' events new batch)
      (hintents : intentsOf batch = []) : Change Admits db events db' new
  /-- A claim is made, or a decision is completed. -/
  | decide {key row db' new batch} (hwrite : ClaimWrite rt db key row) (hunbound : row.intentId = none)
      (hextends : Extends rt (db.setClaim key row) db' events new batch)
      (hintents : intentsOf batch = []) : Change Admits db events db' new
  /-- A decision is committed with its intent. -/
  | commit {key row event mid db' new batch} (hwrite : ClaimWrite rt db key row)
      (hkey : decisionKeyOf event = key) (hbound : row.intentId = some event.intent.intentId)
      (hextends : Extends rt (db.setClaim key row) mid events new batch)
      (hintents : intentsOf batch = [event]) (hadmits : Admits events event batch)
      (hattach : Attaches rt mid (events ++ new) db') : Change Admits db events db' new
  | attach {db'} (hattach : Attaches rt db events db') : Change Admits db events db' []
  | checkpoint {c} (hcheckpoint : CheckpointOf rt events c) :
      Change Admits db events (db.setCheckpoint c) []

end

variable {rt : Runtime} {db db' : Db} {events : List LedgerEvent}

theorem Extends.refl (h : Represents rt db events) : Extends rt db db events [] [] where
  represents := by rwa [List.append_nil]
  tables := rfl
  sublist := .refl []
  stored := fun _ h => absurd h List.not_mem_nil

theorem Represents.setClaim (h : Represents rt db events) (key : String) (row : ClaimRow) :
    Represents rt (db.setClaim key row) events := h.of_tables rfl rfl

theorem Attaches.represents (hattach : Attaches rt db events db') (h : Represents rt db events) :
    Represents rt db' events := by
  obtain rfl | ⟨intentId, row, -, rfl⟩ := hattach
  · exact h
  · exact h.of_tables rfl rfl

/-- **Every transition keeps the ledger the rows of its events.** -/
theorem Change.represents {Admits : List LedgerEvent → OrderIntentCreated → List LedgerEvent → Prop}
    {new : List LedgerEvent} (hchange : Change rt Admits db events db' new)
    (h : Represents rt db events) : Represents rt db' (events ++ new) := by
  cases hchange with
  | append hextends => exact hextends.represents
  | decide hwrite hunbound hextends => exact hextends.represents
  | commit hwrite hkey hbound hextends hintents hadmits hattach =>
    exact hattach.represents hextends.represents
  | attach hattach =>
    rw [List.append_nil]
    exact hattach.represents h
  | checkpoint hcheckpoint =>
    rw [List.append_nil]
    exact { h with
      checkpoints := by
        intro entry hentry
        rcases Dict.mem_insert.mp hentry with rfl | ⟨hentry, -⟩
        · exact ⟨_, hcheckpoint, rfl⟩
        · exact h.checkpoints entry hentry }

/-! ## What the statements write -/

section

variable {env : Surroundings}

theorem returns_writeClaim {key : String} {row : ClaimRow} {u : Unit} :
    (writeClaim env key row).Returns db u db' ↔
      env.claimError = none ∧ checkClaimConstraints db key row = .ok () ∧ db' = db.setClaim key row := by
  rw [writeClaim]
  simp only [Action.returns_bind, Action.returns_raiseSome, Action.returns_get, Action.returns_lift,
    Action.returns_modify]
  constructor
  · rintro ⟨⟨⟩, d, ⟨hraise, rfl⟩, e, f, ⟨rfl, rfl⟩, ⟨⟩, g, ⟨hcheck, rfl⟩, rfl⟩
    exact ⟨hraise, hcheck, rfl⟩
  · rintro ⟨hraise, hcheck, rfl⟩
    exact ⟨(), db, ⟨hraise, rfl⟩, db, db, ⟨rfl, rfl⟩, (), db, ⟨hcheck, rfl⟩, rfl⟩

theorem checkClaimConstraints_eq_ok {key : String} {row : ClaimRow}
    (h : checkClaimConstraints db key row = .ok ()) :
    row.status = .committed ↔ row.intentId ≠ none := by
  rw [checkClaimConstraints, raiseIf_bind_eq_ok, raiseIf_bind_eq_ok, not_not] at h
  exact h.2.1

theorem rereadClaim_unchanged {key message : String} {claim : DecisionClaim}
    (h : (rereadClaim rt key message).Returns db claim db') : db' = db := by
  rw [rereadClaim] at h
  replace h := Action.returns_get_bind.mp h
  split at h
  · exact absurd h Action.not_returns_raise
  · exact (Action.returns_lift.mp h).2

/-- The claim of a row whose metadata is read. -/
theorem claimFromRow_eq_ok {key : String} {row : ClaimRow} {claim : DecisionClaim}
    (h : claimFromRow rt key row = .ok claim) :
    decodeMetadata rt row.metadataJson row.metadataHash = .ok claim.metadata ∧
      claim = ⟨key, row.ownerId, row.status, row.intentId, claim.metadata, row.claimedAt,
        row.updatedAt⟩ := by
  obtain ⟨metadata, hmetadata, h⟩ := bind_eq_ok.mp h
  cases h
  exact ⟨hmetadata, rfl⟩

theorem reads_of_decodeMetadata {json hash : String} {members : List (String × Json)}
    (h : decodeMetadata rt json hash = .ok members) : (MetadataText.mk json hash).Reads rt := by
  refine ⟨?_, members, h⟩
  rw [decodeMetadata, raiseIf_bind_eq_ok] at h
  exact (not_not.mp h.1).symm

theorem currentResult_unchanged {ids : List String} {result : AppendResult}
    (h : (currentResult rt ids).Returns db result db') : db' = db := by
  rw [currentResult] at h
  simp only [Action.returns_bind, Action.returns_get, Action.returns_lift, Action.returns_pure] at h
  obtain ⟨_, _, ⟨rfl, rfl⟩, loaded, _, ⟨-, rfl⟩, -, rfl⟩ := h
  rfl

theorem returns_writeAdapter {intentId : String} {row : AdapterRow} {u : Unit} :
    (writeAdapter env intentId row).Returns db u db' ↔
      env.adapterError = none ∧ row.payloadHash.length = 64 ∧ db' = db.setAdapter intentId row := by
  rw [writeAdapter]
  simp only [Action.returns_bind, Action.returns_raiseSome, Action.returns_lift, raiseIf_eq_ok,
    not_not, Action.returns_modify]
  constructor
  · rintro ⟨⟨⟩, d, ⟨hraise, rfl⟩, ⟨⟩, g, ⟨hcheck, rfl⟩, rfl⟩
    exact ⟨hraise, hcheck, rfl⟩
  · rintro ⟨hraise, hcheck, rfl⟩
    exact ⟨(), db, ⟨hraise, rfl⟩, (), db, ⟨hcheck, rfl⟩, rfl⟩

theorem rereadAdapter_unchanged {intentId : String} {adapter : AdapterMetadata}
    (h : (rereadAdapter rt intentId).Returns db adapter db') : db' = db := by
  rw [rereadAdapter] at h
  replace h := Action.returns_get_bind.mp h
  split at h
  · exact absurd h Action.not_returns_raise
  · exact (Action.returns_lift.mp h).2

/-! ## Calls -/

section

variable (rt : Runtime)

/-- A public call of the store that writes, with its arguments. -/
inductive Operation where
  | appendMany (events : List LedgerEvent)
  | claimDecision (decisionKey ownerId : String) (metadata : Option Metadata)
  | completeDecisionWithoutIntent (decisionKey ownerId : String)
  | commitOrderIntent (event : OrderIntentCreated) (ownerId : String) (metadata : Option Metadata)
  | commitSellOrderIntent (event : OrderIntentCreated) (ownerId : String) (metadata : Option Metadata)
  | commitRiskCheckedOrderIntent (r : RiskCheckedIntent)
  | setAdapterMetadata (intentId backendName : String) (payload : Option Metadata)
  | createCheckpoint

/-- The call, without its result. -/
def Operation.run (zoneInfo : String → Option Zone) (env : Surroundings) :
    Operation → Action Error Db Unit
  | .appendMany events => do let _ ← Persistence.appendMany rt env.toEnv events; return ()
  | .claimDecision decisionKey ownerId metadata => do
    let _ ← Persistence.claimDecision rt env decisionKey ownerId metadata; return ()
  | .completeDecisionWithoutIntent decisionKey ownerId => do
    let _ ← Persistence.completeDecisionWithoutIntent rt env decisionKey ownerId; return ()
  | .commitOrderIntent event ownerId metadata => do
    let _ ← Persistence.commitOrderIntent rt env event ownerId metadata; return ()
  | .commitSellOrderIntent event ownerId metadata => do
    let _ ← Persistence.commitSellOrderIntent rt env event ownerId metadata; return ()
  | .commitRiskCheckedOrderIntent r => do
    let _ ← Persistence.commitRiskCheckedOrderIntent rt env zoneInfo r; return ()
  | .setAdapterMetadata intentId backendName payload => do
    let _ ← Persistence.setAdapterMetadata rt env intentId backendName payload; return ()
  | .createCheckpoint => do let _ ← Persistence.createCheckpoint rt env; return ()

/-- The arguments went through their constructors. -/
def Operation.Constructed : Operation → Prop
  | .appendMany events => ∀ e ∈ events, e.Constructible rt
  | .commitOrderIntent event _ _ => (LedgerEvent.orderIntentCreated event).Constructible rt
  | .commitSellOrderIntent event _ _ => (LedgerEvent.orderIntentCreated event).Constructible rt
  | .commitRiskCheckedOrderIntent r =>
    (LedgerEvent.orderIntentCreated r.event).Constructible rt ∧ r.scope.Valid rt ∧
      r.valuation.equity.Normal rt ∧ ∀ mark ∈ r.valuation.positions, mark.liquidationValue.Normal rt
  | _ => True

/-- The risk check of a call approves, and the batch is the one that the call appends. -/
structure RiskCheckedIntent.Approved (zoneInfo : String → Option Zone) (r : RiskCheckedIntent)
    (events batch : List LedgerEvent) : Prop where
  side : r.event.intent.side = .buy
  key : r.scope.positionKey = r.event.intent.key
  decided : ∃ s cash decision, Replays rt events s ∧ r.event.intent.cashReservation = .ok cash ∧
    evaluatePortfolioRisk rt zoneInfo s events r.scope cash r.valuation r.policy r.evaluatedAt =
      .ok decision ∧ decision.status = .approved
  batch : ∃ valuationEvent : PortfolioValuationRecorded, valuationEvent.valuation = r.valuation ∧
    eventsToAppend rt r events valuationEvent = .ok batch

/-- The batch that a call commits an intent in. -/
def Operation.Admits (zoneInfo : String → Option Zone) :
    Operation → List LedgerEvent → OrderIntentCreated → List LedgerEvent → Prop
  | .commitOrderIntent event _ _ => fun _ e batch => e = event ∧ batch = [.orderIntentCreated e]
  | .commitSellOrderIntent event _ _ => fun _ e batch =>
    e = event ∧ e.intent.side ≠ .buy ∧ batch = [.orderIntentCreated e]
  | .commitRiskCheckedOrderIntent r => fun events e batch =>
    e = r.event ∧ r.Approved rt zoneInfo events batch
  | _ => fun _ _ _ => False

end

/-- **A call that raises leaves the tables as they were.** -/
theorem Operation.atomic_run (rt : Runtime) (zoneInfo : String → Option Zone) (env : Surroundings)
    (op : Operation) : (op.run rt zoneInfo env).Atomic := by
  cases op with
  | appendMany events => exact (Action.atomic_transaction _ _ _).bind_pure _
  | claimDecision decisionKey ownerId metadata =>
    refine Action.Atomic.bind_pure ?_ _
    refine Action.atomic_lift_bind fun _ => Action.atomic_lift_bind fun _ => ?_
    exact Action.atomic_lift_bind fun _ => Action.atomic_transaction _ _ _
  | completeDecisionWithoutIntent decisionKey ownerId =>
    refine Action.Atomic.bind_pure ?_ _
    refine Action.atomic_lift_bind fun _ => Action.atomic_lift_bind fun _ => ?_
    exact Action.atomic_transaction _ _ _
  | commitOrderIntent event ownerId metadata =>
    refine Action.Atomic.bind_pure ?_ _
    refine Action.atomic_lift_bind fun _ => Action.atomic_lift_bind fun _ => ?_
    exact Action.atomic_lift_bind fun _ => Action.atomic_transaction _ _ _
  | commitSellOrderIntent event ownerId metadata =>
    refine Action.Atomic.bind_pure ?_ _
    refine Action.atomic_lift_bind fun _ => ?_
    refine Action.atomic_lift_bind fun _ => Action.atomic_lift_bind fun _ => ?_
    exact Action.atomic_lift_bind fun _ => Action.atomic_transaction _ _ _
  | commitRiskCheckedOrderIntent r =>
    refine Action.Atomic.bind_pure ?_ _
    refine Action.atomic_lift_bind fun _ => Action.atomic_lift_bind fun _ => ?_
    refine Action.atomic_lift_bind fun _ => Action.atomic_lift_bind fun _ => ?_
    refine Action.atomic_lift_bind fun _ => Action.atomic_lift_bind fun _ => ?_
    exact Action.atomic_transaction _ _ _
  | setAdapterMetadata intentId backendName payload =>
    refine Action.Atomic.bind_pure ?_ _
    refine Action.atomic_lift_bind fun _ => Action.atomic_lift_bind fun _ => ?_
    exact Action.atomic_lift_bind fun _ => Action.atomic_transaction _ _ _
  | createCheckpoint => exact (Action.atomic_transaction _ _ _).bind_pure _

end

/-! ## The transition of each call -/

section

variable {env : Surroundings}
  {Admits : List LedgerEvent → OrderIntentCreated → List LedgerEvent → Prop}

theorem Change.unchanged : Change rt Admits db events db [] := .attach (.inl rfl)

theorem returns_store_transaction {α : Type} {body : Action Error Db α} {a : α}
    (h : (transaction env.toEnv body).Returns db a db') : body.Returns db a db' :=
  (Action.returns_transaction.mp h).2.2

/-- A row that is created for a decision. -/
theorem ClaimWrite.fresh {key ownerId now : String} {status : ClaimStatus} {intentId : Option String}
    {metadata : MetadataText} (hkey : Stripped key) (hreads : metadata.Reads rt)
    (hnone : db.decisionClaims.get? key = none) (hstatus : status = .committed ↔ intentId ≠ none) :
    ClaimWrite rt db key (.fresh ownerId status intentId metadata now) where
  stripped := hkey
  reads := hreads
  committed := hstatus
  previous := by
    rw [hnone]
    exact fun _ h => absurd h (Option.not_mem_none _)

theorem change_of_appendMany {batch : List LedgerEvent} {result : AppendResult}
    (h : Represents rt db events) (hc : ∀ e ∈ batch, e.Constructible rt)
    (hreturns : (appendMany rt env.toEnv batch).Returns db result db') :
    ∃ new, Change rt Admits db events db' new := by
  have hbody := (returns_appendMany.mp hreturns).2.2
  obtain ⟨new, hextends, -⟩ := represents_of_appendEventsLocked h hc hbody
  obtain ⟨loaded, -, hloop⟩ := returns_appendEventsLocked.mp hbody
  exact ⟨new, .append hextends (intentsOf_of_not_allowed hloop)⟩

theorem change_of_claimDecision {decisionKey ownerId : String} {metadata : Option Metadata}
    {result : DecisionClaimResult} (h : Represents rt db events)
    (hreturns : (claimDecision rt env decisionKey ownerId metadata).Returns db result db') :
    Change rt Admits db events db' [] := by
  obtain ⟨key, hkey, hreturns⟩ := Action.returns_lift_bind.mp hreturns
  obtain ⟨owner, -, hreturns⟩ := Action.returns_lift_bind.mp hreturns
  obtain ⟨encoded, hencoded, hreturns⟩ := Action.returns_lift_bind.mp hreturns
  replace hreturns := Action.returns_get_bind.mp (returns_store_transaction hreturns)
  cases hrow : db.decisionClaims.get? key with
  | some existing =>
    rw [hrow] at hreturns
    obtain ⟨claim, -, hreturns⟩ := Action.returns_lift_bind.mp hreturns
    split_ifs at hreturns
    · obtain ⟨-, rfl⟩ := Action.returns_pure.mp hreturns
      exact .unchanged
    · exact absurd hreturns Action.not_returns_raise
  | none =>
    rw [hrow] at hreturns
    obtain ⟨_, mid, hwrite, hreturns⟩ := Action.returns_bind.mp hreturns
    obtain ⟨claim, mid', hreread, hreturns⟩ := Action.returns_bind.mp hreturns
    obtain ⟨-, rfl⟩ := Action.returns_pure.mp hreturns
    obtain rfl := rereadClaim_unchanged hreread
    obtain ⟨-, hconstraints, rfl⟩ := returns_writeClaim.mp hwrite
    have hclaim : ClaimWrite rt db key (.fresh owner .claimed none encoded env.now) :=
      .fresh (stripped_of_requireText hkey) (reads_of_encodeMetadata hencoded) hrow
        (checkClaimConstraints_eq_ok hconstraints)
    exact .decide hclaim rfl (.refl (h.setClaim _ _)) rfl

/-- A row whose metadata was read has the metadata of a claim. -/
theorem reads_of_claimFromRow {key : String} {row : ClaimRow} {claim : DecisionClaim}
    (h : claimFromRow rt key row = .ok claim) :
    (MetadataText.mk row.metadataJson row.metadataHash).Reads rt :=
  reads_of_decodeMetadata (claimFromRow_eq_ok h).1

theorem change_of_completeDecisionWithoutIntent {decisionKey ownerId : String}
    {result : DecisionClaim} (h : Represents rt db events)
    (hreturns : (completeDecisionWithoutIntent rt env decisionKey ownerId).Returns db result db') :
    Change rt Admits db events db' [] := by
  obtain ⟨key, hkey, hreturns⟩ := Action.returns_lift_bind.mp hreturns
  obtain ⟨owner, -, hreturns⟩ := Action.returns_lift_bind.mp hreturns
  replace hreturns := Action.returns_get_bind.mp (returns_store_transaction hreturns)
  cases hrow : db.decisionClaims.get? key with
  | none =>
    rw [hrow] at hreturns
    exact absurd hreturns Action.not_returns_raise
  | some row =>
    rw [hrow] at hreturns
    obtain ⟨claim, hclaim, hreturns⟩ := Action.returns_lift_bind.mp hreturns
    have hreads := reads_of_claimFromRow hclaim
    rw [(claimFromRow_eq_ok hclaim).2] at hreturns
    split_ifs at hreturns with hcompleted hother
    · obtain ⟨-, rfl⟩ := Action.returns_pure.mp hreturns
      exact .unchanged
    · exact absurd hreturns Action.not_returns_raise
    · have hstatus : row.status = .claimed := not_not.mp (not_or.mp hother).1
      obtain ⟨_, mid, hwrite, hreturns⟩ := Action.returns_bind.mp hreturns
      obtain rfl := rereadClaim_unchanged hreturns
      obtain ⟨-, hconstraints, rfl⟩ := returns_writeClaim.mp hwrite
      have hcommitted := checkClaimConstraints_eq_ok hconstraints
      have hunbound : row.intentId = none := by
        by_contra hne
        cases hcommitted.mpr hne
      have hover : ClaimWrite rt db key { row with status := .completed, updatedAt := env.now } := by
        refine ⟨stripped_of_requireText hkey, hreads, hcommitted, ?_⟩
        rw [hrow]
        rintro old ⟨⟩
        exact ⟨hstatus, rfl, rfl⟩
      exact .decide hover hunbound (.refl (h.setClaim _ _)) rfl

/-- The write and the append of a commit. -/
theorem change_of_commit {key : String} {row : ClaimRow} {event : OrderIntentCreated}
    {batch : List LedgerEvent} {result : AppendResult} {mid : Db} {u : Unit}
    (h : Represents rt db events)
    (hwrite : ClaimWrite rt db key row) (hkey : decisionKeyOf event = key)
    (hbound : row.intentId = some event.intent.intentId) (hc : ∀ e ∈ batch, e.Constructible rt)
    (hintents : intentsOf batch = [event]) (hadmits : Admits events event batch)
    (hwritten : (writeClaim env key row).Returns db u mid) {db₁ : Db}
    (happended : (appendEventsLocked rt env.toEnv true batch).Returns mid result db₁) :
    ∃ new, event ∈ intentsOf (events ++ new) ∧ ∀ db', Attaches rt db₁ (events ++ new) db' →
      Change rt Admits db events db' new := by
  obtain ⟨-, -, rfl⟩ := returns_writeClaim.mp hwritten
  obtain ⟨new, hextends, -⟩ := represents_of_appendEventsLocked (h.setClaim key row) hc happended
  refine ⟨new, mem_intentsOf.mpr (hextends.stored _ ?_ (readable_intent event)), fun db' hattach =>
    .commit hwrite hkey hbound hextends hintents hadmits hattach⟩
  rw [← mem_intentsOf, hintents]
  exact List.mem_singleton_self event

theorem change_of_commitOrderIntent {event : OrderIntentCreated} {ownerId : String}
    {metadata : Option Metadata} {result : AppendResult} (h : Represents rt db events)
    (hc : (LedgerEvent.orderIntentCreated event).Constructible rt)
    (hadmits : Admits events event [.orderIntentCreated event])
    (hreturns : (commitOrderIntent rt env event ownerId metadata).Returns db result db') :
    ∃ new, Change rt Admits db events db' new := by
  obtain ⟨owner, -, hreturns⟩ := Action.returns_lift_bind.mp hreturns
  obtain ⟨key, hkey, hreturns⟩ := Action.returns_lift_bind.mp hreturns
  obtain ⟨encoded, hencoded, hreturns⟩ := Action.returns_lift_bind.mp hreturns
  replace hreturns := Action.returns_get_bind.mp (returns_store_transaction hreturns)
  have hkeyOf : decisionKeyOf event = key := (requireText_eq_ok.mp hkey).2.symm
  have hbatch : ∀ e ∈ [LedgerEvent.orderIntentCreated event], e.Constructible rt :=
    List.forall_mem_singleton.mpr hc
  cases hrow : db.decisionClaims.get? key with
  | none =>
    rw [hrow] at hreturns
    obtain ⟨_, mid, hwrite, happended⟩ := Action.returns_bind.mp hreturns
    have hcommitted := checkClaimConstraints_eq_ok (returns_writeClaim.mp hwrite).2.1
    have hclaim : ClaimWrite rt db key
        (.fresh owner .committed (some event.intent.intentId) encoded env.now) :=
      .fresh (stripped_of_requireText hkey) (reads_of_encodeMetadata hencoded) hrow hcommitted
    obtain ⟨new, -, hchange⟩ := change_of_commit h hclaim hkeyOf rfl hbatch rfl hadmits hwrite happended
    exact ⟨new, hchange db' (.inl rfl)⟩
  | some row =>
    rw [hrow] at hreturns
    obtain ⟨claim, hclaim, hreturns⟩ := Action.returns_lift_bind.mp hreturns
    have hreads := reads_of_claimFromRow hclaim
    rw [(claimFromRow_eq_ok hclaim).2] at hreturns
    split_ifs at hreturns with hdone hother hmetadata
    · obtain ⟨-, -, hreturns⟩ := Action.returns_lift_bind.mp hreturns
      rw [currentResult_unchanged hreturns]
      exact ⟨[], .unchanged⟩
    · exact absurd hreturns Action.not_returns_raise
    · exact absurd hreturns Action.not_returns_raise
    · have hstatus : row.status = .claimed := not_not.mp (not_or.mp hother).1
      obtain ⟨_, mid, hwrite, happended⟩ := Action.returns_bind.mp hreturns
      have hcommitted := checkClaimConstraints_eq_ok (returns_writeClaim.mp hwrite).2.1
      have hover : ClaimWrite rt db key { row with
          status := .committed, intentId := some event.intent.intentId, updatedAt := env.now } := by
        refine ⟨stripped_of_requireText hkey, hreads, hcommitted, ?_⟩
        rw [hrow]
        rintro old ⟨⟩
        exact ⟨hstatus, rfl, rfl⟩
      obtain ⟨new, -, hchange⟩ :=
        change_of_commit h hover hkeyOf rfl hbatch rfl hadmits hwrite happended
      exact ⟨new, hchange db' (.inl rfl)⟩

theorem change_of_setAdapterMetadata {intentId backendName : String} {payload : Option Metadata}
    {result : AdapterMetadata} (h : Represents rt db events)
    (hreturns : (setAdapterMetadata rt env intentId backendName payload).Returns db result db') :
    Change rt Admits db events db' [] := by
  obtain ⟨intentId, -, hreturns⟩ := Action.returns_lift_bind.mp hreturns
  obtain ⟨backend, hbackend, hreturns⟩ := Action.returns_lift_bind.mp hreturns
  obtain ⟨encoded, hencoded, hreturns⟩ := Action.returns_lift_bind.mp hreturns
  replace hreturns := Action.returns_get_bind.mp (returns_store_transaction hreturns)
  have hreads := reads_of_encodeMetadata hencoded
  cases hintent : intentEventLocked db intentId with
  | none =>
    rw [hintent] at hreturns
    exact absurd hreturns Action.not_returns_raise
  | some event =>
    obtain ⟨e, he, heq, -⟩ := h.intentEventLocked_eq_some hintent
    rw [hintent] at hreturns
    cases hrow : db.adapterMetadata.get? intentId with
    | none =>
      simp only [hrow] at hreturns
      obtain ⟨_, mid, hwrite, hreturns⟩ := Action.returns_bind.mp hreturns
      obtain rfl := rereadAdapter_unchanged hreturns
      obtain ⟨-, -, rfl⟩ := returns_writeAdapter.mp hwrite
      refine .attach (.inr ⟨intentId, _, ⟨stripped_of_requireText hbackend, hreads, ⟨e, he, heq⟩, ?_⟩,
        rfl⟩)
      rw [hrow]
      exact fun _ h => absurd h (Option.not_mem_none _)
    | some existing =>
      simp only [hrow] at hreturns
      split_ifs at hreturns with hother
      · exact absurd hreturns Action.not_returns_raise
      · obtain ⟨_, mid, hwrite, hreturns⟩ := Action.returns_bind.mp hreturns
        obtain rfl := rereadAdapter_unchanged hreturns
        obtain ⟨-, -, rfl⟩ := returns_writeAdapter.mp hwrite
        rw [ne_eq, not_not] at hother
        have hover : AdapterWrite rt db events intentId { existing with
            payloadJson := encoded.json, payloadHash := encoded.hash, updatedAt := env.now } := by
          refine ⟨?_, hreads, ⟨e, he, heq⟩, ?_⟩
          · rw [hother]
            exact stripped_of_requireText hbackend
          · rw [hrow]
            rintro old ⟨⟩
            exact ⟨rfl, rfl⟩
        exact .attach (.inr ⟨intentId, _, hover, rfl⟩)

theorem change_of_createCheckpoint {result : StateCheckpoint} (h : Represents rt db events)
    (hreturns : (createCheckpoint rt env).Returns db result db') :
    Change rt Admits db events db' [] := by
  replace hreturns := Action.returns_get_bind.mp (returns_store_transaction hreturns)
  obtain ⟨loaded, hload, hreturns⟩ := Action.returns_lift_bind.mp hreturns
  obtain ⟨-, -, hreturns⟩ := Action.returns_lift_bind.mp hreturns
  cases hrow : db.stateCheckpoints.get? loaded.lastSequence with
  | some existing =>
    simp only [hrow] at hreturns
    obtain ⟨chainHash, -, hreturns⟩ := Action.returns_lift_bind.mp hreturns
    obtain ⟨stateHash, -, hreturns⟩ := Action.returns_lift_bind.mp hreturns
    obtain ⟨createdAt, -, hreturns⟩ := Action.returns_lift_bind.mp hreturns
    obtain ⟨-, -, hreturns⟩ := Action.returns_lift_bind.mp hreturns
    obtain ⟨-, rfl⟩ := Action.returns_pure.mp hreturns
    exact .unchanged
  | none =>
    simp only [hrow] at hreturns
    obtain ⟨_, mid, hinsert, hreturns⟩ := Action.returns_bind.mp hreturns
    obtain ⟨-, rfl⟩ := Action.returns_pure.mp hreturns
    rw [insertCheckpoint] at hinsert
    simp only [Action.returns_bind, Action.returns_raiseSome, Action.returns_lift,
      Action.returns_modify] at hinsert
    obtain ⟨-, _, ⟨-, rfl⟩, -, _, ⟨-, rfl⟩, rfl⟩ := hinsert
    have hfrom := loadedFrom_of_loadLocked hload
    rw [h.events_eq hload] at hfrom
    have htaken : events.take events.length = events := List.take_length
    refine .checkpoint (c := ⟨loaded.lastSequence, loaded.chainHash, _, env.now⟩)
      ⟨events.length, loaded.state, ?_, le_rfl, ?_, ?_, rfl⟩
    · show loaded.lastSequence = _
      rw [hfrom.lastSequence]
      exact zero_add _
    · rw [htaken]
      exact hfrom.state
    · rw [htaken]
      exact hfrom.chainHash

/-! ## The risk-checked commit -/

theorem attaches_of_setAdapterMetadataLocked {intentId backendName : String} {payload : Metadata}
    {u : Unit} (hintent : ∃ e ∈ intentsOf events, e.intent.intentId = intentId)
    (hreturns : (setAdapterMetadataLocked rt env intentId backendName payload).Returns db u db') :
    Attaches rt db events db' := by
  obtain ⟨backend, hbackend, hreturns⟩ := Action.returns_lift_bind.mp hreturns
  obtain ⟨encoded, hencoded, hreturns⟩ := Action.returns_lift_bind.mp hreturns
  replace hreturns := Action.returns_get_bind.mp hreturns
  cases hrow : db.adapterMetadata.get? intentId with
  | none =>
    simp only [hrow] at hreturns
    obtain ⟨-, -, rfl⟩ := returns_writeAdapter.mp hreturns
    refine .inr ⟨intentId, _, ⟨stripped_of_requireText hbackend, reads_of_encodeMetadata hencoded,
      hintent, ?_⟩, rfl⟩
    rw [hrow]
    exact fun _ h => absurd h (Option.not_mem_none _)
  | some existing =>
    simp only [hrow] at hreturns
    obtain ⟨adapter, -, hreturns⟩ := Action.returns_lift_bind.mp hreturns
    split_ifs at hreturns
    · exact absurd hreturns Action.not_returns_raise
    · obtain ⟨stored, -, hreturns⟩ := Action.returns_lift_bind.mp hreturns
      obtain ⟨-, rfl⟩ := Action.returns_lift.mp hreturns
      exact .inl rfl

theorem attaches_of_setAdapterMetadataOf {r : RiskCheckedIntent} {u : Unit}
    (hintent : ∃ e ∈ intentsOf events, e.intent.intentId = r.event.intent.intentId)
    (hreturns : (setAdapterMetadataOf rt env r).Returns db u db') : Attaches rt db events db' := by
  rw [setAdapterMetadataOf] at hreturns
  split at hreturns
  · exact attaches_of_setAdapterMetadataLocked hintent hreturns
  · obtain ⟨-, rfl⟩ := Action.returns_pure.mp hreturns
    exact .inl rfl

/-- A decision that is committed already has its intent stored. -/
theorem checkCommitted_eq_ok {claim : DecisionClaim} {event : OrderIntentCreated}
    (h : Represents rt db events) (hcheck : checkCommitted rt db claim event = .ok ()) :
    claim.intentId = some event.intent.intentId ∧ ∃ e ∈ intentsOf events,
      e.intent.intentId = event.intent.intentId := by
  rw [checkCommitted] at hcheck
  split_ifs at hcheck with hbound
  refine ⟨not_not.mp hbound, ?_⟩
  cases hprior : intentEventLocked db event.intent.intentId with
  | none =>
    rw [hprior] at hcheck
    cases hcheck
  | some prior =>
    obtain ⟨e, he, heq, -⟩ := h.intentEventLocked_eq_some hprior
    exact ⟨e, he, heq⟩

theorem change_of_retryCommitted {r : RiskCheckedIntent} {claim : DecisionClaim}
    {result : RiskCheckedCommitResult} (h : Represents rt db events)
    (hreturns : (retryCommitted rt env r claim).Returns db result db') :
    Change rt Admits db events db' [] := by
  replace hreturns := Action.returns_get_bind.mp hreturns
  obtain ⟨_, hcheck, hreturns⟩ := Action.returns_lift_bind.mp hreturns
  obtain ⟨_, mid, hattach, hreturns⟩ := Action.returns_bind.mp hreturns
  obtain ⟨appendResult, mid', hcurrent, hreturns⟩ := Action.returns_bind.mp hreturns
  obtain ⟨-, rfl⟩ := Action.returns_pure.mp hreturns
  obtain rfl := currentResult_unchanged hcurrent
  exact .attach (attaches_of_setAdapterMetadataOf (checkCommitted_eq_ok h hcheck).2 hattach)

theorem change_of_retryCompleted {claim : DecisionClaim} {ownerId : String}
    {result : RiskCheckedCommitResult}
    (hreturns : (retryCompleted rt claim ownerId).Returns db result db') :
    Change rt Admits db events db' [] := by
  obtain ⟨-, -, hreturns⟩ := Action.returns_lift_bind.mp hreturns
  obtain ⟨appendResult, mid, hcurrent, hreturns⟩ := Action.returns_bind.mp hreturns
  obtain ⟨-, rfl⟩ := Action.returns_pure.mp hreturns
  obtain rfl := currentResult_unchanged hcurrent
  exact .unchanged

theorem domainEvent_of_new {eventId : String} {occurredAt : DateTime} {base : DomainEvent}
    (h : DomainEvent.new eventId occurredAt = .ok base) :
    base.eventId = eventId ∧ base.occurredAt = occurredAt := by
  rw [DomainEvent.new, ensureText, ensure_bind_eq_ok] at h
  obtain ⟨hid, h⟩ := h
  cases h
  exact ⟨rfl, rfl⟩

theorem riskScopeRegistered_of_new {eventId : String} {occurredAt : DateTime} {scope : RiskScope}
    {e : RiskScopeRegistered} (h : RiskScopeRegistered.new rt eventId occurredAt scope = .ok e) :
    e.scope = scope ∧ e.eventId = riskScopeEventId rt scope := by
  obtain ⟨base, hbase, h⟩ := bind_eq_ok.mp h
  obtain ⟨hid, h⟩ := raiseIf_bind_eq_ok.mp h
  cases h
  exact ⟨rfl, (domainEvent_of_new hbase).1.trans (not_not.mp hid)⟩

theorem portfolioValuationRecorded_of_new {eventId : String} {occurredAt : DateTime}
    {valuation : PortfolioValuation} {e : PortfolioValuationRecorded}
    (h : PortfolioValuationRecorded.new eventId occurredAt valuation = .ok e) :
    e.valuation = valuation ∧ e.eventId = eventId := by
  obtain ⟨base, hbase, h⟩ := bind_eq_ok.mp h
  rw [ensure_bind_eq_ok] at h
  obtain ⟨htime, h⟩ := h
  cases h
  exact ⟨rfl, (domainEvent_of_new hbase).1⟩

/-- The batch of an approval: the scope if it is new, the valuation, and the intent. -/
theorem eventsToAppend_eq_ok {r : RiskCheckedIntent} {valuationEvent : PortfolioValuationRecorded}
    {batch : List LedgerEvent} (h : eventsToAppend rt r events valuationEvent = .ok batch) :
    (scopeOf events r.scope.positionKey ≠ none ∧
        batch = [.portfolioValuationRecorded valuationEvent, .orderIntentCreated r.event]) ∨
      (scopeOf events r.scope.positionKey = none ∧ ∃ scopeEvent : RiskScopeRegistered,
        scopeEvent.scope = r.scope ∧ scopeEvent.eventId = riskScopeEventId rt r.scope ∧
        batch = [.riskScopeRegistered scopeEvent, .portfolioValuationRecorded valuationEvent,
          .orderIntentCreated r.event]) := by
  rw [eventsToAppend] at h
  split_ifs at h with hscope
  · cases h
    exact .inl ⟨hscope, rfl⟩
  · obtain ⟨scopeEvent, hnew, h⟩ := bind_eq_ok.mp h
    cases h
    obtain ⟨hsame, hid⟩ := riskScopeRegistered_of_new hnew
    exact .inr ⟨not_not.mp hscope, scopeEvent, hsame, hid, rfl⟩

/-- The batch of an approval holds one intent, and its events went through their constructors. -/
theorem constructible_of_eventsToAppend {r : RiskCheckedIntent}
    {valuationEvent : PortfolioValuationRecorded} {batch : List LedgerEvent}
    (hc : (Operation.commitRiskCheckedOrderIntent r).Constructed rt)
    (hvaluation : valuationEvent.valuation = r.valuation)
    (h : eventsToAppend rt r events valuationEvent = .ok batch) :
    (∀ e ∈ batch, e.Constructible rt) ∧ intentsOf batch = [r.event] := by
  obtain ⟨hevent, hscope, hmarks⟩ := hc
  rw [← hvaluation] at hmarks
  obtain ⟨-, rfl⟩ | ⟨-, scopeEvent, hsame, hid, rfl⟩ := eventsToAppend_eq_ok h
  · refine ⟨List.forall_mem_cons.mpr ⟨hmarks, List.forall_mem_singleton.mpr hevent⟩, rfl⟩
  · rw [← hsame] at hscope hid
    refine ⟨List.forall_mem_cons.mpr ⟨⟨hscope, hid⟩, ?_⟩, rfl⟩
    exact List.forall_mem_cons.mpr ⟨hmarks, List.forall_mem_singleton.mpr hevent⟩

/-- The row of the decision, new or over the claim of the owner. -/
theorem claimWrite_decidedRow {key ownerId now : String} {row : Option ClaimRow} {status : ClaimStatus}
    {intentId : Option String} {metadata : MetadataText} (hkey : Stripped key)
    (hreads : metadata.Reads rt) (hrow : db.decisionClaims.get? key = row)
    (hstatus : status = .committed ↔ intentId ≠ none)
    (hclaimed : ∀ old ∈ row, old.status = .claimed) :
    ClaimWrite rt db key (decidedRow row ownerId status intentId metadata now) := by
  cases row with
  | none => exact .fresh hkey hreads hrow hstatus
  | some old =>
    refine ⟨hkey, hreads, hstatus, ?_⟩
    rw [hrow]
    rintro old ⟨⟩
    exact ⟨hclaimed _ rfl, rfl, rfl⟩

theorem decidedRow_status {ownerId now : String} {row : Option ClaimRow} {status : ClaimStatus}
    {intentId : Option String} {metadata : MetadataText} :
    (decidedRow row ownerId status intentId metadata now).status = status ∧
      (decidedRow row ownerId status intentId metadata now).intentId = intentId := by
  cases row <;> exact ⟨rfl, rfl⟩

theorem change_of_completeRejected {key ownerId : String} {row : Option ClaimRow}
    {decision : PortfolioRiskDecision} {metadata : MetadataText}
    {valuationEvent : PortfolioValuationRecorded} {result : RiskCheckedCommitResult}
    (h : Represents rt db events) (hkey : Stripped key) (hreads : metadata.Reads rt)
    (hrow : db.decisionClaims.get? key = row) (hclaimed : ∀ old ∈ row, old.status = .claimed)
    (hc : (LedgerEvent.portfolioValuationRecorded valuationEvent).Constructible rt)
    (hreturns : (completeRejected rt env key ownerId row decision metadata valuationEvent).Returns db
      result db') :
    ∃ new, Change rt Admits db events db' new := by
  obtain ⟨_, mid, hwrite, hreturns⟩ := Action.returns_bind.mp hreturns
  obtain ⟨-, -, rfl⟩ := returns_writeClaim.mp hwrite
  have hclaim : ClaimWrite rt db key
      (decidedRow row ownerId .completed none metadata env.now) :=
    claimWrite_decidedRow hkey hreads hrow (by decide) hclaimed
  split_ifs at hreturns with hinvalid
  · obtain ⟨appendResult, db₁, hcurrent, hreturns⟩ := Action.returns_bind.mp hreturns
    obtain ⟨-, rfl⟩ := Action.returns_pure.mp hreturns
    obtain rfl := currentResult_unchanged hcurrent
    exact ⟨[], .decide hclaim decidedRow_status.2 (.refl (h.setClaim _ _)) rfl⟩
  · obtain ⟨appendResult, db₁, happended, hreturns⟩ := Action.returns_bind.mp hreturns
    obtain ⟨-, rfl⟩ := Action.returns_pure.mp hreturns
    obtain ⟨new, hextends, -⟩ := represents_of_appendEventsLocked (h.setClaim _ _)
      (List.forall_mem_singleton.mpr hc) happended
    exact ⟨new, .decide hclaim decidedRow_status.2 hextends rfl⟩

variable {zoneInfo : String → Option Zone}

theorem change_of_commitApproved {r : RiskCheckedIntent} {key ownerId : String} {row : Option ClaimRow}
    {decision : PortfolioRiskDecision} {metadata : MetadataText}
    {valuationEvent : PortfolioValuationRecorded} {result : RiskCheckedCommitResult}
    (h : Represents rt db events) (hc : (Operation.commitRiskCheckedOrderIntent r).Constructed rt)
    (hkey : Stripped key) (hkeyOf : decisionKeyOf r.event = key) (hreads : metadata.Reads rt)
    (hrow : db.decisionClaims.get? key = row) (hclaimed : ∀ old ∈ row, old.status = .claimed)
    (hvaluation : valuationEvent.valuation = r.valuation)
    (hadmits : ∀ batch, eventsToAppend rt r events valuationEvent = .ok batch →
      Admits events r.event batch)
    (hreturns : (commitApproved rt env r key ownerId row events decision metadata valuationEvent).Returns
      db result db') :
    ∃ new, Change rt Admits db events db' new := by
  obtain ⟨_, mid, hwrite, hreturns⟩ := Action.returns_bind.mp hreturns
  obtain ⟨batch, hbatch, hreturns⟩ := Action.returns_lift_bind.mp hreturns
  obtain ⟨appended, db₁, happended, hreturns⟩ := Action.returns_bind.mp hreturns
  obtain ⟨_, db₂, hattach, hreturns⟩ := Action.returns_bind.mp hreturns
  obtain ⟨-, rfl⟩ := Action.returns_pure.mp hreturns
  obtain ⟨hconstructible, hintents⟩ := constructible_of_eventsToAppend hc hvaluation hbatch
  have hclaim : ClaimWrite rt db key (decidedRow row ownerId .committed
      (some r.event.intent.intentId) metadata env.now) :=
    claimWrite_decidedRow hkey hreads hrow
      (iff_of_true rfl (Option.some_ne_none _)) hclaimed
  obtain ⟨new, hstored, hchange⟩ := change_of_commit h hclaim hkeyOf decidedRow_status.2
    hconstructible hintents (hadmits batch hbatch) hwrite happended
  exact ⟨new, hchange db' (attaches_of_setAdapterMetadataOf ⟨_, hstored, rfl⟩ hattach)⟩

theorem change_of_evaluateAndCommit {r : RiskCheckedIntent} {key ownerId : String}
    {row : Option ClaimRow} {result : RiskCheckedCommitResult}
    (h : Represents rt db events) (hc : (Operation.commitRiskCheckedOrderIntent r).Constructed rt)
    (hside : r.event.intent.side = .buy) (hscope : r.scope.positionKey = r.event.intent.key)
    (hkey : Stripped key) (hkeyOf : decisionKeyOf r.event = key)
    (hrow : db.decisionClaims.get? key = row) (hclaimed : ∀ old ∈ row, old.status = .claimed)
    (hadmits : ∀ batch, r.Approved rt zoneInfo events batch → Admits events r.event batch)
    (hreturns : (evaluateAndCommit rt env zoneInfo r key ownerId row).Returns db result db') :
    ∃ new, Change rt Admits db events db' new := by
  replace hreturns := Action.returns_get_bind.mp hreturns
  obtain ⟨loaded, hload, hreturns⟩ := Action.returns_lift_bind.mp hreturns
  obtain ⟨cash, hcash, hreturns⟩ := Action.returns_lift_bind.mp hreturns
  obtain ⟨decision, hdecision, hreturns⟩ := Action.returns_lift_bind.mp hreturns
  obtain ⟨metadata, hmetadata, hreturns⟩ := Action.returns_lift_bind.mp hreturns
  obtain ⟨valuationEvent, hvaluation, hreturns⟩ := Action.returns_lift_bind.mp hreturns
  have hreads := reads_of_encodeMetadata hmetadata
  have hsame := (portfolioValuationRecorded_of_new hvaluation).1
  have hreplays := (h.tracks_ofLoaded hload).state
  rw [h.events_eq hload] at hdecision hreturns
  cases hstatus : decision.status with
  | rejected =>
    rw [hstatus] at hreturns
    refine change_of_completeRejected h hkey hreads hrow hclaimed ?_ hreturns
    show _ ∧ _
    rw [hsame]
    exact hc.2.2
  | approved =>
    rw [hstatus] at hreturns
    refine change_of_commitApproved h hc hkey hkeyOf hreads hrow hclaimed hsame ?_ hreturns
    intro batch hbatch
    exact hadmits batch ⟨hside, hscope, ⟨_, cash, decision, hreplays, hcash, hdecision, hstatus⟩,
      valuationEvent, hsame, hbatch⟩

theorem change_of_commitRiskCheckedOrderIntent {r : RiskCheckedIntent}
    {result : RiskCheckedCommitResult} (h : Represents rt db events)
    (hc : (Operation.commitRiskCheckedOrderIntent r).Constructed rt)
    (hadmits : ∀ batch, r.Approved rt zoneInfo events batch → Admits events r.event batch)
    (hreturns : (commitRiskCheckedOrderIntent rt env zoneInfo r).Returns db result db') :
    ∃ new, Change rt Admits db events db' new := by
  obtain ⟨_, hside, hreturns⟩ := Action.returns_lift_bind.mp hreturns
  obtain ⟨_, hscope, hreturns⟩ := Action.returns_lift_bind.mp hreturns
  obtain ⟨_, -, hreturns⟩ := Action.returns_lift_bind.mp hreturns
  obtain ⟨owner, -, hreturns⟩ := Action.returns_lift_bind.mp hreturns
  obtain ⟨key, hkey, hreturns⟩ := Action.returns_lift_bind.mp hreturns
  obtain ⟨base, -, hreturns⟩ := Action.returns_lift_bind.mp hreturns
  replace hreturns := Action.returns_get_bind.mp (returns_store_transaction hreturns)
  have hstripped := stripped_of_requireText hkey
  have hkeyOf : decisionKeyOf r.event = key := (requireText_eq_ok.mp hkey).2.symm
  rw [raiseIf_eq_ok, not_not] at hside hscope
  cases hrow : db.decisionClaims.get? key with
  | none =>
    rw [hrow] at hreturns
    refine change_of_evaluateAndCommit h hc hside hscope hstripped hkeyOf hrow ?_ hadmits hreturns
    exact fun _ h => absurd h (Option.not_mem_none _)
  | some row =>
    rw [hrow] at hreturns
    obtain ⟨claim, hclaim, hreturns⟩ := Action.returns_lift_bind.mp hreturns
    have hstatusOf : claim.status = row.status := by rw [(claimFromRow_eq_ok hclaim).2]
    cases hstatus : claim.status with
    | committed =>
      rw [hstatus] at hreturns
      exact ⟨[], change_of_retryCommitted h hreturns⟩
    | completed =>
      rw [hstatus] at hreturns
      exact ⟨[], change_of_retryCompleted hreturns⟩
    | claimed =>
      rw [hstatus] at hreturns
      obtain ⟨_, -, hreturns⟩ := Action.returns_lift_bind.mp hreturns
      refine change_of_evaluateAndCommit h hc hside hscope hstripped hkeyOf hrow ?_ hadmits hreturns
      rintro old ⟨⟩
      rw [← hstatusOf, hstatus]

theorem returns_discard {α : Type} {x : Action Error Db α} {u : Unit}
    (h : (x >>= fun _ => pure ()).Returns db u db') : ∃ a, x.Returns db a db' := by
  obtain ⟨a, mid, hx, hpure⟩ := Action.returns_bind.mp h
  obtain ⟨-, rfl⟩ := Action.returns_pure.mp hpure
  exact ⟨a, hx⟩

/-- **A call that returns makes a transition**, and commits an intent only in a batch that it
admits. -/
theorem change_of_returns {op : Operation} {u : Unit} (h : Represents rt db events)
    (hc : op.Constructed rt) (hreturns : (op.run rt zoneInfo env).Returns db u db') :
    ∃ new, Change rt (op.Admits rt zoneInfo) db events db' new := by
  cases op with
  | appendMany batch =>
    obtain ⟨result, hreturns⟩ := returns_discard hreturns
    exact change_of_appendMany h hc hreturns
  | claimDecision decisionKey ownerId metadata =>
    obtain ⟨result, hreturns⟩ := returns_discard hreturns
    exact ⟨[], change_of_claimDecision h hreturns⟩
  | completeDecisionWithoutIntent decisionKey ownerId =>
    obtain ⟨result, hreturns⟩ := returns_discard hreturns
    exact ⟨[], change_of_completeDecisionWithoutIntent h hreturns⟩
  | commitOrderIntent event ownerId metadata =>
    obtain ⟨result, hreturns⟩ := returns_discard hreturns
    exact change_of_commitOrderIntent h hc ⟨rfl, rfl⟩ hreturns
  | commitSellOrderIntent event ownerId metadata =>
    obtain ⟨result, hreturns⟩ := returns_discard hreturns
    obtain ⟨_, hside, hreturns⟩ := Action.returns_lift_bind.mp hreturns
    exact change_of_commitOrderIntent h hc ⟨rfl, raiseIf_eq_ok.mp hside, rfl⟩ hreturns
  | commitRiskCheckedOrderIntent r =>
    obtain ⟨result, hreturns⟩ := returns_discard hreturns
    exact change_of_commitRiskCheckedOrderIntent h hc (fun batch hr => ⟨rfl, hr⟩) hreturns
  | setAdapterMetadata intentId backendName payload =>
    obtain ⟨result, hreturns⟩ := returns_discard hreturns
    exact ⟨[], change_of_setAdapterMetadata h hreturns⟩
  | createCheckpoint =>
    obtain ⟨result, hreturns⟩ := returns_discard hreturns
    exact ⟨[], change_of_createCheckpoint h hreturns⟩

end

end WeatherBot.Persistence
