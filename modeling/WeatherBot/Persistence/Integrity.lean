import WeatherBot.Persistence.Safety

/-!
# The integrity check

`verify_integrity` (`persistence/store.py`, 459-538), which every opening of a store
runs, over the tables that calls of the store can reach.

* `verifyIntegrity_iff`: **it succeeds iff no payout is to a blank outcome and no
  intent's `decision_id` has white space around it**. The claims are keyed by the
  stripped identifier and compared with the one of the event.
-/

namespace WeatherBot.Persistence

open WeatherBot.Common
open WeatherBot.Domain
open WeatherBot.Risk

/-! ## The check -/

/-- `ORDER BY` the primary key. -/
def byKey {V : Type} (entries : List (String × V)) : List (String × V) :=
  entries.insertionSort fun a b => a.1 ≤ b.1

theorem mem_byKey {V : Type} {entries : List (String × V)} {entry : String × V} :
    entry ∈ byKey entries ↔ entry ∈ entries := (List.perm_insertionSort _ entries).mem_iff

section

variable (rt : Runtime)

/-- A committed claim against its intent event (`store.py`, 496-512). -/
def checkBoundIntent (db : Db) (claim : DecisionClaim) (intentId : String) : Except Error Unit :=
  match intentEventLocked db intentId with
  | none => throw (corrupt ("committed decision " ++ rt.repr claim.decisionKey ++
      " references missing intent " ++ intentId))
  | some row => do
    let payloadJson ← rowText row.payloadJson "payload_json"
    match ← decodeEvent rt payloadJson with
    | .orderIntentCreated event =>
      raiseIf (event.intent.intentId ≠ intentId ∨ event.intent.decisionId ≠ claim.decisionKey)
        (corrupt ("decision " ++ rt.repr claim.decisionKey ++ " disagrees with its intent event"))
    | _ => throw (corrupt ("decision " ++ rt.repr claim.decisionKey ++
        " references a non-intent event"))

/-- One row of `decision_claims` (`store.py`, 480-512). -/
def checkClaimRow (db : Db) (entry : String × ClaimRow) : Except Error Unit := do
  let claim ← claimFromRow rt entry.1 entry.2
  if claim.status ≠ .committed then
    raiseIf (claim.intentId ≠ none) (corrupt ("decision " ++ rt.repr claim.decisionKey ++
      " unexpectedly references an intent"))
  else
    match claim.intentId with
    | none => throw (corrupt ("committed decision " ++ rt.repr claim.decisionKey ++ " has no intent"))
    | some intentId => checkBoundIntent rt db claim intentId

/-- One row of `adapter_metadata` (`store.py`, 514-526). -/
def checkAdapterRow (db : Db) (entry : String × AdapterRow) : Except Error Unit := do
  let adapter ← adapterFromRow rt entry.1 entry.2
  raiseIf (isBlank adapter.backendName)
    (corrupt ("adapter metadata for intent " ++ adapter.intentId ++ " has a blank backend"))
  raiseIf (intentEventLocked db adapter.intentId = none)
    (corrupt ("adapter metadata references missing intent " ++ adapter.intentId))

/-- `_verify_auxiliary_locked` (`store.py`, 459-526). -/
def verifyAuxiliaryLocked (db : Db) : Except Error Unit := do
  (byKey db.decisionClaims.entries).forM (checkClaimRow rt db)
  (byKey db.adapterMetadata.entries).forM (checkAdapterRow rt db)

/-- `verify_integrity` (`store.py`, 528-538). `messages` is what SQLite's own check reports. -/
def verifyIntegrity (messages : List String) (db : Db) : Except Error Unit := do
  raiseIf (messages ≠ ["ok"])
    (corrupt ("SQLite integrity check failed: " ++ "; ".intercalate messages))
  let _ ← loadLocked rt db
  verifyAuxiliaryLocked rt db

end

/-! ## When it succeeds -/

variable {rt : Runtime} {db : Db} {events : List LedgerEvent}

/-- The event that is found for a stored intent is that intent. -/
theorem Represents.intentEventLocked_of_mem (h : Represents rt db events) {e : OrderIntentCreated}
    (he : e ∈ intentsOf events) : ∃ row, intentEventLocked db e.intent.intentId = some row ∧
      row.payloadJson = .text (encodeEvent rt (.orderIntentCreated e)).payloadJson ∧
      decodeEvent rt (encodeEvent rt (.orderIntentCreated e)).payloadJson =
        .ok (.orderIntentCreated e) := by
  cases hrow : intentEventLocked db e.intent.intentId with
  | none => exact absurd rfl (h.intentEventLocked_eq_none.mp hrow e he)
  | some row =>
    obtain ⟨e', he', heq, hpayload⟩ := h.intentEventLocked_eq_some hrow
    obtain rfl := h.intent_inj he he' heq
    refine ⟨row, rfl, hpayload, (decodeEvent_encodeEvent ?_).mpr ⟨readable_intent e', rfl⟩⟩
    exact h.constructible _ (mem_intentsOf.mp he)

theorem checkBoundIntent_eq_ok (h : Represents rt db events) {e : OrderIntentCreated}
    (he : e ∈ intentsOf events) {claim : DecisionClaim} :
    checkBoundIntent rt db claim e.intent.intentId = .ok () ↔
      e.intent.decisionId = claim.decisionKey := by
  obtain ⟨row, hrow, hpayload, hdecode⟩ := h.intentEventLocked_of_mem he
  rw [checkBoundIntent, hrow]
  show (rowText row.payloadJson "payload_json" >>= _) = _ ↔ _
  rw [rowText_eq_ok.mpr hpayload, ok_bind, hdecode, ok_bind]
  show raiseIf _ _ = _ ↔ _
  rw [raiseIf_eq_ok, not_or, not_not, not_not]
  exact and_iff_right rfl

/-- A row of a claim is accepted iff its decision's identifier is the stripped one. -/
theorem checkClaimRow_eq_ok (h : Consistent rt db events) {key : String} {row : ClaimRow}
    (hrow : db.decisionClaims.get? key = some row) :
    checkClaimRow rt db (key, row) = .ok () ↔
      ∀ e ∈ intentsFor events key, e.intent.decisionId = key := by
  obtain ⟨members, hmembers⟩ := (h.claims.reads key row hrow).reads
  have hclaim : claimFromRow rt key row = .ok ⟨key, row.ownerId, row.status, row.intentId, members,
      row.claimedAt, row.updatedAt⟩ := bind_eq_ok.mpr ⟨members, hmembers, rfl⟩
  have hcommitted := h.claims.committed key row hrow
  have hintents := h.claims.intents key
  rw [Db.boundIntent, hrow, Option.bind_some] at hintents
  rw [checkClaimRow, hclaim, ok_bind]
  by_cases hstatus : row.status = .committed
  · rw [if_neg (not_not.mpr hstatus)]
    cases hbound : row.intentId with
    | none => exact absurd hbound (hcommitted.mp hstatus)
    | some intentId =>
      rw [hbound, Option.toList_some] at hintents
      obtain ⟨e, hsingle, rfl⟩ := List.map_eq_singleton_iff.mp hintents
      have he : e ∈ intentsOf events := (mem_intentsFor.mp (hsingle ▸ List.mem_singleton_self e)).1
      rw [hsingle, List.forall_mem_singleton]
      exact checkBoundIntent_eq_ok h.represents he
  · have hbound : row.intentId = none := by
      by_contra hne
      exact hstatus (hcommitted.mpr hne)
    rw [hbound, Option.toList_none, List.map_eq_nil_iff] at hintents
    rw [if_pos hstatus, raiseIf_eq_ok, not_not, hintents]
    exact iff_of_true hbound fun _ he => absurd he List.not_mem_nil

/-- The rows of the adapters are always accepted. -/
theorem checkAdapterRow_eq_ok (h : Consistent rt db events) {intentId : String} {row : AdapterRow}
    (hrow : db.adapterMetadata.get? intentId = some row) :
    checkAdapterRow rt db (intentId, row) = .ok () := by
  obtain ⟨members, hmembers⟩ := (h.adapters.reads intentId row hrow).reads
  have hadapter : adapterFromRow rt intentId row = .ok ⟨intentId, row.backendName, members,
      row.createdAt, row.updatedAt⟩ := bind_eq_ok.mpr ⟨members, hmembers, rfl⟩
  obtain ⟨e, he, rfl⟩ := h.adapters.intent intentId row hrow
  obtain ⟨event, hevent, -⟩ := h.represents.intentEventLocked_of_mem he
  rw [checkAdapterRow, hadapter, ok_bind, raiseIf_bind_eq_ok, raiseIf_eq_ok]
  refine ⟨?_, ?_⟩
  · rw [(h.adapters.backend _ row hrow).isBlank]
    decide
  · rw [hevent]
    exact Option.some_ne_none event

/-- Every stored intent has the row of its decision. -/
theorem Consistent.exists_claim (h : Consistent rt db events) {e : OrderIntentCreated}
    (he : e ∈ intentsOf events) : ∃ row, db.decisionClaims.get? (decisionKeyOf e) = some row := by
  have hintents := h.claims.intents (decisionKeyOf e)
  cases hrow : db.decisionClaims.get? (decisionKeyOf e) with
  | some row => exact ⟨row, rfl⟩
  | none =>
    rw [Db.boundIntent, hrow, Option.bind_none, Option.toList_none, List.map_eq_nil_iff] at hintents
    have hmem : e ∈ intentsFor events (decisionKeyOf e) := mem_intentsFor.mpr ⟨he, rfl⟩
    rw [hintents] at hmem
    exact absurd hmem List.not_mem_nil

theorem verifyAuxiliaryLocked_eq_ok (h : Consistent rt db events) :
    verifyAuxiliaryLocked rt db = .ok () ↔ ∀ e ∈ intentsOf events, Stripped e.intent.decisionId := by
  have hadapters : (byKey db.adapterMetadata.entries).forM (checkAdapterRow rt db) = .ok () := by
    refine forM_eq_ok.mpr fun entry hentry => ?_
    exact checkAdapterRow_eq_ok h (Dict.get?_eq_some.mpr (mem_byKey.mp hentry))
  rw [verifyAuxiliaryLocked, check_bind_eq_ok, and_iff_left hadapters]
  refine Iff.trans forM_eq_ok ?_
  constructor
  · intro hclaims e he
    obtain ⟨row, hrow⟩ := h.exists_claim he
    have hchecked := hclaims _ (mem_byKey.mpr (Dict.get?_eq_some.mp hrow))
    have hkey := (checkClaimRow_eq_ok h hrow).mp hchecked e (mem_intentsFor.mpr ⟨he, rfl⟩)
    rw [hkey]
    exact h.claims.stripped _ row hrow
  · rintro hstripped ⟨key, row⟩ hentry
    have hrow := Dict.get?_eq_some.mpr (mem_byKey.mp hentry)
    refine (checkClaimRow_eq_ok h hrow).mpr fun e he => ?_
    obtain ⟨he, hkey⟩ := mem_intentsFor.mp he
    rw [← hkey]
    exact (hstripped e he).1.symm

/-- **When the integrity check succeeds**, after any calls of the store by anyone: iff the payouts of
the events all name their outcomes and the decisions' identifiers of the stored intents have no white
space around them. The rows of the claims, the adapters and the checkpoints never make it fail. -/
theorem verifyIntegrity_iff (rt : Runtime) (zoneInfo : String → Option Zone) (db : Db)
    (hdb : Reaches rt zoneInfo Db.empty db) :
    ∃ events, db.ledgerEvents = rowsFrom rt 0 genesisChainHash events ∧
      (verifyIntegrity rt ["ok"] db = .ok () ↔ (∀ e ∈ events, PayoutsNamed (payoutsOf e)) ∧
        ∀ e ∈ intentsOf events, Stripped e.intent.decisionId) := by
  obtain ⟨events, h⟩ := (consistent_of_reaches hdb ⟨[], .empty⟩).1
  refine ⟨events, h.represents.rows, ?_⟩
  rw [verifyIntegrity, raiseIf_bind_eq_ok, ← h.represents.loads_iff, ← verifyAuxiliaryLocked_eq_ok h,
    bind_eq_ok]
  constructor
  · rintro ⟨-, loaded, hload, hauxiliary⟩
    exact ⟨⟨loaded, hload⟩, hauxiliary⟩
  · rintro ⟨⟨loaded, hload⟩, hauxiliary⟩
    exact ⟨not_not.mpr rfl, loaded, hload, hauxiliary⟩

namespace Sample

/-- A batch whose last event pays to a blank outcome. -/
def blankCall : Call digits := ⟨.quiet "now", .appendMany (firstBatch " "), constructible_firstBatch⟩

theorem reaches_firstDb : Reaches digits noZones Db.empty (firstDb " ") := by
  have h : (blankCall.run digits noZones).Returns Db.empty () (firstDb " ") :=
    Action.returns_bind.mpr ⟨_, _, returns_firstBatch (by decide),
      Action.returns_pure.mpr ⟨rfl, rfl⟩⟩
  exact .single ⟨blankCall, congrArg Prod.snd h⟩

end Sample

/-- The payout to a blank outcome is stored, and the check fails from then on. -/
theorem verifyIntegrity_iff_blank :
    ∃ events, (Sample.firstDb " ").ledgerEvents = rowsFrom Sample.digits 0 genesisChainHash events ∧
      verifyIntegrity Sample.digits ["ok"] (Sample.firstDb " ") ≠ .ok () ∧
      ¬ ((∀ e ∈ events, PayoutsNamed (payoutsOf e)) ∧
        ∀ e ∈ intentsOf events, Stripped e.intent.decisionId) := by
  obtain ⟨events, hrows, hiff⟩ := verifyIntegrity_iff Sample.digits Sample.noZones (Sample.firstDb " ")
    Sample.reaches_firstDb
  have hfails : verifyIntegrity Sample.digits ["ok"] (Sample.firstDb " ") ≠ .ok () := by
    intro h
    obtain ⟨-, h⟩ := raiseIf_bind_eq_ok.mp h
    obtain ⟨loaded, hload, -⟩ := bind_eq_ok.mp h
    exact Sample.loadLocked_blank loaded hload
  exact ⟨events, hrows, hfails, fun hnamed => hfails (hiff.mpr hnamed)⟩

end WeatherBot.Persistence
