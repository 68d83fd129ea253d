import WeatherBot.Persistence.Protocol

/-!
# Decisions over whole runs

Any number of callers, any arguments, any failures, each call one transaction.

* `Claims`: the committed rows of `decision_claims` are those of the stored
  intents.
* `Adapters`: every row of `adapter_metadata` is for a stored intent.
* `decisions_safe`: **both hold in every state of every run, and a decision that
  is committed or completed never changes.**
-/

namespace WeatherBot.Persistence

open WeatherBot.Common
open WeatherBot.Domain
open WeatherBot.Risk

/-! ## Invariants -/

/-- The stored intents of a decision. -/
def intentsFor (events : List LedgerEvent) (key : String) : List OrderIntentCreated :=
  (intentsOf events).filter fun e => decisionKeyOf e = key

/-- The intent that the row of a decision names. -/
def Db.boundIntent (db : Db) (key : String) : Option String :=
  (db.decisionClaims.get? key).bind ClaimRow.intentId

theorem mem_intentsFor {events : List LedgerEvent} {key : String} {e : OrderIntentCreated} :
    e ∈ intentsFor events key ↔ e ∈ intentsOf events ∧ decisionKeyOf e = key := by
  rw [intentsFor, List.mem_filter, decide_eq_true_eq]

theorem intentsFor_append (events new : List LedgerEvent) (key : String) :
    intentsFor (events ++ new) key = intentsFor events key ++ intentsFor new key := by
  rw [intentsFor, intentsOf_append, List.filter_append]
  rfl

section

variable (rt : Runtime)

/-- The rows of `decision_claims` belong to the stored intents. -/
structure Claims (db : Db) (events : List LedgerEvent) : Prop where
  stripped : ∀ key row, db.decisionClaims.get? key = some row → Stripped key
  reads : ∀ key row, db.decisionClaims.get? key = some row →
    (MetadataText.mk row.metadataJson row.metadataHash).Reads rt
  committed : ∀ key row, db.decisionClaims.get? key = some row →
    (row.status = .committed ↔ row.intentId ≠ none)
  intents : ∀ key,
    (intentsFor events key).map (fun e => e.intent.intentId) = (db.boundIntent key).toList

/-- The rows of `adapter_metadata` belong to stored intents. -/
structure Adapters (db : Db) (events : List LedgerEvent) : Prop where
  backend : ∀ intentId row, db.adapterMetadata.get? intentId = some row → Stripped row.backendName
  reads : ∀ intentId row, db.adapterMetadata.get? intentId = some row →
    (MetadataText.mk row.payloadJson row.payloadHash).Reads rt
  intent : ∀ intentId row, db.adapterMetadata.get? intentId = some row →
    ∃ e ∈ intentsOf events, e.intent.intentId = intentId

end

/-- The row of a decision later on: only a claim changes, and its owner and its time do not. -/
def ClaimKept (before after : Option ClaimRow) : Prop :=
  ∀ row ∈ before, ∃ row' ∈ after, row'.ownerId = row.ownerId ∧ row'.claimedAt = row.claimedAt ∧
    (row.status ≠ .claimed → row' = row)

/-- The adapter row of an intent later on: the backend stays. -/
def AdapterKept (before after : Option AdapterRow) : Prop :=
  ∀ row ∈ before, ∃ row' ∈ after, row'.backendName = row.backendName ∧
    row'.createdAt = row.createdAt

/-- What no call changes. -/
structure Kept (db db' : Db) : Prop where
  claims : ∀ key, ClaimKept (db.decisionClaims.get? key) (db'.decisionClaims.get? key)
  adapters : ∀ intentId, AdapterKept (db.adapterMetadata.get? intentId)
    (db'.adapterMetadata.get? intentId)

theorem ClaimKept.refl (a : Option ClaimRow) : ClaimKept a a := fun row h => ⟨row, h, rfl, rfl, fun _ => rfl⟩

theorem AdapterKept.refl (a : Option AdapterRow) : AdapterKept a a := fun row h => ⟨row, h, rfl, rfl⟩

theorem Kept.refl (db : Db) : Kept db db := ⟨fun _ => .refl _, fun _ => .refl _⟩

theorem Kept.trans {db db' db'' : Db} (h : Kept db db') (h' : Kept db' db'') : Kept db db'' where
  claims := by
    intro key row hrow
    obtain ⟨row', hrow', howner, hat, hsame⟩ := h.claims key row hrow
    obtain ⟨row'', hrow'', howner', hat', hsame'⟩ := h'.claims key row' hrow'
    refine ⟨row'', hrow'', howner'.trans howner, hat'.trans hat, fun hstatus => ?_⟩
    obtain rfl := hsame hstatus
    exact hsame' hstatus
  adapters := by
    intro intentId row hrow
    obtain ⟨row', hrow', hbackend, hat⟩ := h.adapters intentId row hrow
    obtain ⟨row'', hrow'', hbackend', hat'⟩ := h'.adapters intentId row' hrow'
    exact ⟨row'', hrow'', hbackend'.trans hbackend, hat'.trans hat⟩

/-! ## One transition -/

variable {rt : Runtime} {db db' : Db} {events new batch : List LedgerEvent}

theorem Extends.intentsOf_sublist (h : Extends rt db db' events new batch) :
    (intentsOf new).Sublist (intentsOf batch) := h.sublist.filterMap intentEvent?

theorem Extends.intentsOf_eq_nil (h : Extends rt db db' events new batch)
    (hintents : intentsOf batch = []) : intentsOf new = [] :=
  List.sublist_nil.mp (hintents ▸ h.intentsOf_sublist)

theorem intentsFor_of_intentsOf_eq_nil (h : intentsOf new = []) (key : String) :
    intentsFor (events ++ new) key = intentsFor events key := by
  rw [intentsFor_append, intentsFor, intentsFor, h, List.filter_nil, List.append_nil]

theorem Claims.empty : Claims rt Db.empty [] where
  stripped := fun _ _ h => by cases h
  reads := fun _ _ h => by cases h
  committed := fun _ _ h => by cases h
  intents := fun _ => rfl

theorem Claims.quiet (h : Claims rt db events) (hclaims : db'.decisionClaims = db.decisionClaims)
    (hintents : intentsOf new = []) : Claims rt db' (events ++ new) where
  stripped := by
    rw [hclaims]
    exact h.stripped
  reads := by
    rw [hclaims]
    exact h.reads
  committed := by
    rw [hclaims]
    exact h.committed
  intents := by
    intro key
    rw [intentsFor_of_intentsOf_eq_nil hintents, Db.boundIntent, hclaims]
    exact h.intents key

/-- Before a row is written the decision has no intent. -/
theorem ClaimWrite.boundIntent_eq_none {key : String} {row : ClaimRow} (hwrite : ClaimWrite rt db key row)
    (h : Claims rt db events) : db.boundIntent key = none := by
  rw [Db.boundIntent]
  cases hrow : db.decisionClaims.get? key with
  | none => rfl
  | some old =>
    obtain ⟨hstatus, -⟩ := hwrite.previous old hrow
    by_contra hne
    have hcommitted := (h.committed key old hrow).mpr hne
    rw [hstatus] at hcommitted
    cases hcommitted

theorem boundIntent_setClaim (db : Db) (key key' : String) (row : ClaimRow) :
    (db.setClaim key row).boundIntent key' = if key = key' then row.intentId else db.boundIntent key' := by
  rw [Db.boundIntent, Db.setClaim, Dict.get?_insert]
  split_ifs <;> rfl

/-- A row is written, and the events get the intent that it names, if it names one. -/
theorem Claims.write {key : String} {row : ClaimRow} (h : Claims rt db events)
    (hwrite : ClaimWrite rt db key row)
    (hclaims : db'.decisionClaims = (db.setClaim key row).decisionClaims)
    (hintents : (intentsOf new).map (fun e => e.intent.intentId) = row.intentId.toList)
    (hkeys : ∀ e ∈ intentsOf new, decisionKeyOf e = key) : Claims rt db' (events ++ new) := by
  have hget : ∀ key', db'.decisionClaims.get? key' =
      if key = key' then some row else db.decisionClaims.get? key' := by
    intro key'
    rw [hclaims, Db.setClaim, Dict.get?_insert]
  constructor
  · intro key' row' hrow'
    rw [hget] at hrow'
    split_ifs at hrow' with heq
    · rw [← heq]
      exact hwrite.stripped
    · exact h.stripped key' row' hrow'
  · intro key' row' hrow'
    rw [hget] at hrow'
    split_ifs at hrow' with heq
    · cases hrow'
      exact hwrite.reads
    · exact h.reads key' row' hrow'
  · intro key' row' hrow'
    rw [hget] at hrow'
    split_ifs at hrow' with heq
    · cases hrow'
      exact hwrite.committed
    · exact h.committed key' row' hrow'
  · intro key'
    have hbound : db'.boundIntent key' = if key = key' then row.intentId else db.boundIntent key' := by
      rw [← boundIntent_setClaim, Db.boundIntent, hclaims, Db.boundIntent]
    rw [intentsFor_append, List.map_append, h.intents, hbound]
    split_ifs with heq
    · subst heq
      have hall : intentsFor new key = intentsOf new :=
        List.filter_eq_self.mpr fun e he => decide_eq_true (hkeys e he)
      rw [hwrite.boundIntent_eq_none h, hall, hintents]
      rfl
    · have hnone : intentsFor new key' = [] := by
        refine List.filter_eq_nil_iff.mpr fun e he => ?_
        rw [decide_eq_true_eq, hkeys e he]
        exact heq
      rw [hnone, List.map_nil, List.append_nil]

theorem Attaches.decisionClaims_eq (h : Attaches rt db events db') :
    db'.decisionClaims = db.decisionClaims := by
  obtain rfl | ⟨intentId, row, -, rfl⟩ := h <;> rfl

theorem Extends.decisionClaims_eq (h : Extends rt db db' events new batch) :
    db'.decisionClaims = db.decisionClaims := by
  rw [h.tables]

theorem Extends.adapterMetadata_eq (h : Extends rt db db' events new batch) :
    db'.adapterMetadata = db.adapterMetadata := by
  rw [h.tables]

variable {Admits : List LedgerEvent → OrderIntentCreated → List LedgerEvent → Prop}

/-- The intent of a committed batch is new. -/
theorem intentsOf_of_commit {mid : Db} {key : String} {row : ClaimRow} {event : OrderIntentCreated}
    (hclaims : Claims rt db events) (hwrite : ClaimWrite rt db key row)
    (hkey : decisionKeyOf event = key) (hextends : Extends rt (db.setClaim key row) mid events new batch)
    (hintents : intentsOf batch = [event]) : intentsOf new = [event] := by
  have hsublist := hextends.intentsOf_sublist
  rw [hintents, List.sublist_singleton] at hsublist
  rcases hsublist with hnil | hnew
  · -- otherwise the intent was stored before, but its decision had none
    have hstored : event ∈ intentsOf (events ++ new) := by
      refine mem_intentsOf.mpr (hextends.stored _ ?_ (readable_intent event))
      rw [← mem_intentsOf, hintents]
      exact List.mem_singleton_self event
    rw [intentsOf_append, hnil, List.append_nil] at hstored
    have hfor := hclaims.intents key
    rw [hwrite.boundIntent_eq_none hclaims, Option.toList_none, List.map_eq_nil_iff] at hfor
    have hmem : event ∈ intentsFor events key := mem_intentsFor.mpr ⟨hstored, hkey⟩
    rw [hfor] at hmem
    exact absurd hmem List.not_mem_nil
  · exact hnew

/-- **Every transition keeps the claims those of the stored intents.** -/
theorem Claims.of_change (hchange : Change rt Admits db events db' new) (h : Claims rt db events) :
    Claims rt db' (events ++ new) := by
  cases hchange with
  | append hextends hintents =>
    exact h.quiet hextends.decisionClaims_eq (hextends.intentsOf_eq_nil hintents)
  | decide hwrite hunbound hextends hintents =>
    have hnil := hextends.intentsOf_eq_nil hintents
    refine h.write hwrite hextends.decisionClaims_eq ?_ ?_
    · rw [hnil, hunbound]
      rfl
    · rw [hnil]
      exact fun _ he => absurd he List.not_mem_nil
  | commit hwrite hkey hbound hextends hintents hadmits hattach =>
    have hnew := intentsOf_of_commit h hwrite hkey hextends hintents
    refine h.write hwrite (hattach.decisionClaims_eq.trans hextends.decisionClaims_eq) ?_ ?_
    · rw [hnew, hbound]
      rfl
    · rw [hnew]
      exact List.forall_mem_singleton.mpr hkey
  | attach hattach => exact h.quiet hattach.decisionClaims_eq rfl
  | checkpoint hcheckpoint => exact h.quiet rfl rfl

/-! ## Adapter rows -/

theorem Adapters.empty : Adapters rt Db.empty [] where
  backend := fun _ _ h => by cases h
  reads := fun _ _ h => by cases h
  intent := fun _ _ h => by cases h

/-- More events, and the same rows. -/
theorem Adapters.append (h : Adapters rt db events)
    (hadapters : db'.adapterMetadata = db.adapterMetadata) (new : List LedgerEvent) :
    Adapters rt db' (events ++ new) where
  backend := by
    rw [hadapters]
    exact h.backend
  reads := by
    rw [hadapters]
    exact h.reads
  intent := by
    rw [hadapters]
    intro intentId row hrow
    obtain ⟨e, he, heq⟩ := h.intent intentId row hrow
    refine ⟨e, ?_, heq⟩
    rw [intentsOf_append]
    exact List.mem_append_left _ he

theorem Adapters.attach (h : Adapters rt db events) (hattach : Attaches rt db events db') :
    Adapters rt db' events := by
  obtain rfl | ⟨intentId, row, hwrite, rfl⟩ := hattach
  · exact h
  · have hget : ∀ id, (db.setAdapter intentId row).adapterMetadata.get? id =
        if intentId = id then some row else db.adapterMetadata.get? id :=
      fun id => Dict.get?_insert _ _ _ _
    constructor
    · intro id row' hrow'
      rw [hget] at hrow'
      split_ifs at hrow' with heq
      · cases hrow'
        exact hwrite.backend
      · exact h.backend id row' hrow'
    · intro id row' hrow'
      rw [hget] at hrow'
      split_ifs at hrow' with heq
      · cases hrow'
        exact hwrite.reads
      · exact h.reads id row' hrow'
    · intro id row' hrow'
      rw [hget] at hrow'
      split_ifs at hrow' with heq
      · rw [← heq]
        exact hwrite.intent
      · exact h.intent id row' hrow'

/-- **Every transition keeps the adapter rows those of stored intents.** -/
theorem Adapters.of_change (hchange : Change rt Admits db events db' new)
    (h : Adapters rt db events) : Adapters rt db' (events ++ new) := by
  cases hchange with
  | append hextends => exact h.append hextends.adapterMetadata_eq new
  | decide hwrite hunbound hextends => exact h.append hextends.adapterMetadata_eq new
  | commit hwrite hkey hbound hextends hintents hadmits hattach =>
    exact (h.append hextends.adapterMetadata_eq new).attach hattach
  | attach hattach =>
    rw [List.append_nil]
    exact h.attach hattach
  | @checkpoint c hcheckpoint =>
    exact h.append (show (db.setCheckpoint c).adapterMetadata = db.adapterMetadata from rfl) []

/-! ## What stays -/

theorem ClaimWrite.kept {key : String} {row : ClaimRow} (hwrite : ClaimWrite rt db key row)
    (hclaims : db'.decisionClaims = (db.setClaim key row).decisionClaims) (key' : String) :
    ClaimKept (db.decisionClaims.get? key') (db'.decisionClaims.get? key') := by
  rw [hclaims, Db.setClaim, Dict.get?_insert]
  by_cases heq : key = key'
  · subst heq
    rw [if_pos rfl]
    intro old hold
    obtain ⟨hstatus, howner, hat⟩ := hwrite.previous old hold
    exact ⟨row, rfl, howner, hat, fun hne => absurd hstatus hne⟩
  · rw [if_neg heq]
    exact .refl _

theorem Attaches.kept (hattach : Attaches rt db events db') (intentId : String) :
    AdapterKept (db.adapterMetadata.get? intentId) (db'.adapterMetadata.get? intentId) := by
  obtain rfl | ⟨id, row, hwrite, rfl⟩ := hattach
  · exact .refl _
  · rw [Db.setAdapter, Dict.get?_insert]
    by_cases heq : id = intentId
    · subst heq
      rw [if_pos rfl]
      intro old hold
      obtain ⟨hbackend, hat⟩ := hwrite.previous old hold
      exact ⟨row, rfl, hbackend, hat⟩
    · rw [if_neg heq]
      exact .refl _

/-- **No transition changes a decision that is committed or completed.** -/
theorem Change.kept (hchange : Change rt Admits db events db' new) : Kept db db' := by
  cases hchange with
  | append hextends =>
    rw [hextends.tables]
    exact ⟨fun _ => .refl _, fun _ => .refl _⟩
  | decide hwrite hunbound hextends =>
    refine ⟨hwrite.kept hextends.decisionClaims_eq, fun intentId => ?_⟩
    rw [hextends.adapterMetadata_eq]
    exact .refl _
  | commit hwrite hkey hbound hextends hintents hadmits hattach =>
    refine ⟨hwrite.kept (hattach.decisionClaims_eq.trans hextends.decisionClaims_eq),
      fun intentId => ?_⟩
    have hkept := hattach.kept intentId
    rwa [hextends.adapterMetadata_eq] at hkept
  | attach hattach =>
    refine ⟨fun key => ?_, hattach.kept⟩
    rw [hattach.decisionClaims_eq]
    exact .refl _
  | checkpoint => exact ⟨fun _ => .refl _, fun _ => .refl _⟩

/-! ## Runs -/

/-- A call that a client can make: its arguments went through their constructors. -/
structure Call (rt : Runtime) where
  env : Surroundings
  op : Operation
  constructed : op.Constructed rt

/-- What the call does to the tables. -/
def Call.run (rt : Runtime) (zoneInfo : String → Option Zone) (call : Call rt) :
    Action Error Db Unit := call.op.run rt zoneInfo call.env

/-- Some calls lead from one state of the tables to the other, whether they return or raise. -/
def Reaches (rt : Runtime) (zoneInfo : String → Option Zone) (db db' : Db) : Prop :=
  Relation.ReflTransGen (Action.CallStep (Call.run rt zoneInfo)) db db'

/-- The tables after some calls. -/
def afterCalls (rt : Runtime) (zoneInfo : String → Option Zone) (calls : List (Call rt)) (db : Db) : Db :=
  calls.foldl (fun db call => (call.run rt zoneInfo db).2) db

theorem reaches_afterCalls {rt : Runtime} {zoneInfo : String → Option Zone} (calls : List (Call rt))
    (db : Db) : Reaches rt zoneInfo db (afterCalls rt zoneInfo calls db) := by
  induction calls generalizing db with
  | nil => exact .refl
  | cons call calls ih => exact (Relation.ReflTransGen.single ⟨call, rfl⟩).trans (ih _)

/-- The tables agree with each other. -/
structure Consistent (rt : Runtime) (db : Db) (events : List LedgerEvent) : Prop where
  represents : Represents rt db events
  claims : Claims rt db events
  adapters : Adapters rt db events

/-- The tables are those of some events. -/
def IsConsistent (rt : Runtime) (db : Db) : Prop := ∃ events, Consistent rt db events

theorem Consistent.empty : Consistent rt Db.empty [] := ⟨represents_empty, .empty, .empty⟩

theorem Consistent.of_change (h : Consistent rt db events) (hchange : Change rt Admits db events db' new) :
    Consistent rt db' (events ++ new) :=
  ⟨hchange.represents h.represents, h.claims.of_change hchange, h.adapters.of_change hchange⟩

variable {zoneInfo : String → Option Zone}

/-- **Every run of calls keeps the tables consistent**, and keeps what is decided. -/
theorem consistent_of_reaches (hrun : Reaches rt zoneInfo db db') (h : IsConsistent rt db) :
    IsConsistent rt db' ∧ Kept db db' := by
  refine Action.run_of_atomic (fun call => call.op.atomic_run rt zoneInfo call.env) Kept.refl
    (fun _ _ _ => Kept.trans) ?_ h hrun
  intro call s u t hs hreturns
  obtain ⟨events, hs⟩ := hs
  obtain ⟨new, hchange⟩ := change_of_returns hs.represents call.constructed hreturns
  exact ⟨⟨events ++ new, hs.of_change hchange⟩, hchange.kept⟩

/-- What the decisions of a store are. -/
structure DecisionsSafe (rt : Runtime) (db : Db) (events : List LedgerEvent) : Prop where
  /-- The rows of the ledger are those of the events. -/
  rows : db.ledgerEvents = rowsFrom rt 0 genesisChainHash events
  /-- The intents of a decision in the ledger are the one that its row names, if it names one. -/
  intents : ∀ key,
    (intentsFor events key).map (fun e => e.intent.intentId) = (db.boundIntent key).toList
  committed : ∀ key row, db.decisionClaims.get? key = some row →
    (row.status = .committed ↔ row.intentId ≠ none)
  /-- No intent belongs to two decisions. -/
  one : ∀ key key' intentId, db.boundIntent key = some intentId →
    db.boundIntent key' = some intentId → key' = key

theorem Consistent.exists_of_bound (h : Consistent rt db events) {key intentId : String}
    (hbound : db.boundIntent key = some intentId) :
    ∃ e ∈ intentsFor events key, e.intent.intentId = intentId := by
  have hintents := h.claims.intents key
  rw [hbound, Option.toList_some] at hintents
  exact List.mem_map.mp (hintents ▸ List.mem_singleton_self intentId)

/-- The stored intents are told apart by their identifiers. -/
theorem Represents.intent_inj (h : Represents rt db events) {e e' : OrderIntentCreated}
    (he : e ∈ intentsOf events) (he' : e' ∈ intentsOf events)
    (heq : e'.intent.intentId = e.intent.intentId) : e' = e :=
  List.inj_on_of_nodup_map h.intents he' he heq

theorem Consistent.decisionsSafe (h : Consistent rt db events) : DecisionsSafe rt db events where
  rows := h.represents.rows
  intents := h.claims.intents
  committed := h.claims.committed
  one := by
    intro key key' intentId hbound hbound'
    obtain ⟨e, he, rfl⟩ := h.exists_of_bound hbound
    obtain ⟨e', he', heq⟩ := h.exists_of_bound hbound'
    rw [mem_intentsFor] at he he'
    rw [← he'.2, h.represents.intent_inj he.1 he'.1 heq, he.2]

/-- **Decisions are safe.** After any calls, by anyone, in any order, with any failures: the intents of
a decision in the ledger are exactly the one that its row names; a row names an intent iff it is
committed; no two decisions share one; and whatever follows, a decision that is committed or completed
stays as it is, and a claim keeps its owner. -/
theorem decisions_safe (rt : Runtime) (zoneInfo : String → Option Zone) (db db' : Db)
    (hdb : Reaches rt zoneInfo Db.empty db) (hrun : Reaches rt zoneInfo db db') :
    (∃ events, DecisionsSafe rt db' events) ∧
      ∀ key, ClaimKept (db.decisionClaims.get? key) (db'.decisionClaims.get? key) := by
  have hconsistent := (consistent_of_reaches hdb ⟨[], .empty⟩).1
  obtain ⟨⟨events, hevents⟩, hkept⟩ := consistent_of_reaches hrun hconsistent
  exact ⟨⟨events, hevents.decisionsSafe⟩, hkept.claims⟩

namespace Sample

open Ledger.Sample

/-- A BUY of one share for half a dollar. -/
def buy : OrderIntentCreated :=
  { event "2" (.refl false) with
    intent := { intent "2" .buy ⟨1000000, fits_million⟩ ⟨500000, fits_half⟩ ⟨rfl, million_at_half⟩
      with feeReserve := Money.zero "USDC" } }

theorem constructible_opened : opened.Constructible digits := ⟨by decide, by decide⟩

theorem constructible_buy : (LedgerEvent.orderIntentCreated buy).Constructible digits :=
  ⟨by decide, by decide⟩

def noZones : String → Option Zone := fun _ => none

def openCall : Call digits :=
  ⟨.quiet "now", .appendMany [opened], List.forall_mem_singleton.mpr constructible_opened⟩

/-- A worker claims a decision. -/
def claimCall : Call digits := ⟨.quiet "now", .claimDecision "2" "worker" none, trivial⟩

/-- The worker commits it. -/
def commitCall : Call digits := ⟨.quiet "later", .commitOrderIntent buy "worker" none, constructible_buy⟩

def claimedDb : Db := afterCalls digits noZones [openCall, claimCall] Db.empty

def committedDb : Db := afterCalls digits noZones [commitCall] claimedDb

end Sample

theorem decisions_safe_worker :
    (∃ events, DecisionsSafe Sample.digits Sample.committedDb events) ∧
      ∀ key, ClaimKept (Sample.claimedDb.decisionClaims.get? key)
        (Sample.committedDb.decisionClaims.get? key) :=
  decisions_safe Sample.digits Sample.noZones Sample.claimedDb Sample.committedDb
    (reaches_afterCalls _ _) (reaches_afterCalls _ _)

end WeatherBot.Persistence
